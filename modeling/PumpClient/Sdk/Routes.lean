import PumpClient.Machine.Chain
import PumpClient.Math.Amm.Trades
import PumpClient.Math.BondingCurve.Totality
import PumpClient.Sdk.MultiHop

open machine

namespace pump_rust_client.sdk

open state math math.amm

/-- A hop takes `mint` and gives `out`, buying or selling its base. A hop fed
    its quote mint always buys. -/
def MultiHopHop.Trades (is_buy : Bool) (hop : MultiHopHop) (mint out : Pubkey) : Prop :=
  if is_buy then mint = hop.quote_mint ∧ out = hop.base_mint
  else mint ≠ hop.quote_mint ∧ mint = hop.base_mint ∧ out = hop.quote_mint

/-- A hop between two different mints gives back what it takes. -/
theorem MultiHopHop.trades_reverse {hop : MultiHopHop} (hne : hop.base_mint ≠ hop.quote_mint)
    {mint out : Pubkey} : hop.Trades true mint out ↔ hop.Trades false out mint := by
  simp only [Trades, if_true, Bool.false_eq_true, if_false]
  constructor
  · rintro ⟨rfl, rfl⟩
    exact ⟨hne, rfl, rfl⟩
  · rintro ⟨-, rfl, rfl⟩
    exact ⟨rfl, rfl⟩

namespace PumpSdk

/-- A step follows the direction it is given, and sets it when there is none. -/
theorem multi_hop_step_ok_iff {direction : Option Bool} {mint : Pubkey} {hop : MultiHopHop}
    {after : Option Bool × Pubkey} :
    multi_hop_step (direction, mint) hop = .ok after ↔
      ∃ is_buy, direction.getD is_buy = is_buy ∧ after.1 = some is_buy ∧
        hop.Trades is_buy mint after.2 := by
  obtain ⟨direction', out⟩ := after
  unfold multi_hop_step MultiHopHop.Trades
  dsimp only
  by_cases hbuy : mint = hop.quote_mint
  · cases direction with
    | none => simp [hbuy, eq_comm]
    | some route_is_buy => cases route_is_buy <;> simp [hbuy, Outcome.err, eq_comm]
  · by_cases hsell : mint = hop.base_mint
    · subst hsell
      cases direction with
      | none => simp [hbuy, eq_comm]
      | some route_is_buy => cases route_is_buy <;> simp [hbuy, Outcome.err, eq_comm]
    · simp [hbuy, hsell]

/-- Once a route has a direction, every later hop trades in it. -/
theorem chain_multi_hop_step_iff {is_buy : Bool} {mint : Pubkey} {hops : List MultiHopHop}
    {after : Option Bool × Pubkey} :
    Chain (fun hop state state' => multi_hop_step state hop = .ok state') (some is_buy, mint) hops
        after ↔
      after.1 = some is_buy ∧ Chain (MultiHopHop.Trades is_buy) mint hops after.2 := by
  induction hops generalizing mint with
  | nil =>
    rw [Chain.nil_iff, Chain.nil_iff, Prod.ext_iff]
    exact and_congr_left' eq_comm
  | cons hop hops ih =>
    rw [Chain.cons_iff, Chain.cons_iff]
    constructor
    · rintro ⟨⟨direction, next⟩, hstep, htail⟩
      obtain ⟨taken, hsame, hdirection, htrades⟩ := multi_hop_step_ok_iff.mp hstep
      obtain rfl : is_buy = taken := hsame
      obtain rfl : direction = some is_buy := hdirection
      obtain ⟨hafter, htail⟩ := ih.mp htail
      exact ⟨hafter, next, htrades, htail⟩
    · rintro ⟨hafter, next, htrades, htail⟩
      exact ⟨(some is_buy, next), multi_hop_step_ok_iff.mpr ⟨is_buy, rfl, rfl, htrades⟩,
        ih.mpr ⟨hafter, htail⟩⟩

/-- A route is a non-empty chain of hops that all trade its way. -/
theorem multi_hop_route_ok_iff {in_mint out_mint : Pubkey} {hops : List MultiHopHop} {is_buy : Bool} :
    multi_hop_route in_mint hops = .ok (is_buy, out_mint) ↔
      hops ≠ [] ∧ Chain (MultiHopHop.Trades is_buy) in_mint hops out_mint := by
  simp only [multi_hop_route, Outcome.bind_eq_ok_iff, Outcome.ok_or_eq_ok_iff,
    Chain.foldlM_eq_ok_iff]
  cases hops with
  | nil =>
    simp only [Chain.nil_iff, ne_eq, not_true_eq_false, false_and, iff_false]
    rintro ⟨_, rfl, _, hnone, -⟩
    simp at hnone
  | cons hop hops =>
    simp only [ne_eq, reduceCtorEq, not_false_eq_true, true_and, Chain.cons_iff]
    constructor
    · rintro ⟨after, ⟨⟨direction, next⟩, hstep, htail⟩, _, hdirection, h⟩
      obtain ⟨taken, -, hfirst, htrades⟩ := multi_hop_step_ok_iff.mp hstep
      obtain rfl : direction = some taken := hfirst
      obtain ⟨hafter, htail⟩ := chain_multi_hop_step_iff.mp htail
      cases h
      cases hafter.symm.trans hdirection
      exact ⟨next, htrades, htail⟩
    · rintro ⟨next, htrades, htail⟩
      exact ⟨(some is_buy, out_mint), ⟨(some is_buy, next),
        multi_hop_step_ok_iff.mpr ⟨is_buy, rfl, rfl, htrades⟩,
        chain_multi_hop_step_iff.mpr ⟨rfl, htail⟩⟩, is_buy, rfl, rfl⟩

/-- Reversing the hops turns a buy route into the sell route back. -/
theorem multi_hop_route_reverse_iff {in_mint out_mint : Pubkey} {hops : List MultiHopHop}
    (hne : ∀ hop ∈ hops, hop.base_mint ≠ hop.quote_mint) :
    multi_hop_route in_mint hops = .ok (true, out_mint) ↔
      multi_hop_route out_mint hops.reverse = .ok (false, in_mint) := by
  rw [multi_hop_route_ok_iff, multi_hop_route_ok_iff, ne_eq, ne_eq, List.reverse_eq_nil_iff,
    Chain.reverse_iff]
  apply and_congr_right'
  have hne_reverse : ∀ hop ∈ hops.reverse, hop.base_mint ≠ hop.quote_mint := by
    intro hop hmem
    exact hne hop (List.mem_reverse.mp hmem)
  constructor
  · intro h
    exact h.imp fun hop hmem _ _ => (MultiHopHop.trades_reverse (hne_reverse hop hmem)).mp
  · intro h
    exact h.imp fun hop hmem _ _ => (MultiHopHop.trades_reverse (hne_reverse hop hmem)).mpr

/-- A route reads nothing of its hops but their mints. -/
theorem multi_hop_route_congr {mint : Pubkey} {hops hops' : List MultiHopHop}
    (h : List.Forall₂ (fun hop hop' => hop.base_mint = hop'.base_mint ∧
      hop.quote_mint = hop'.quote_mint) hops hops') :
    multi_hop_route mint hops = multi_hop_route mint hops' := by
  have hloop : ∀ state, hops.foldlM multi_hop_step state = hops'.foldlM multi_hop_step state := by
    induction h with
    | nil =>
      intro state
      rfl
    | @cons hop hop' _ _ hmints _ ih =>
      intro state
      have hstep : multi_hop_step state hop = multi_hop_step state hop' := by
        rw [multi_hop_step, hmints.1, hmints.2, multi_hop_step]
      rw [List.foldlM_cons, List.foldlM_cons, hstep]
      exact congrArg _ (funext ih)
  rw [multi_hop_route, multi_hop_route, hloop]

end PumpSdk

/-- Hop `leg` and no other of a route of `hops` charges a fee. -/
structure OnlyLeg (charges : HopFees → Bool) (is_buy : Bool) (hops leg : Nat) : Prop where
  lt : leg < hops
  charged_iff : ∀ index < hops, charges (HopFees.for_hop is_buy index hops) = true ↔ index = leg

/-- The leg that trades the user's currency. -/
def user_leg (is_buy : Bool) (hops : Nat) : Nat := if is_buy then 0 else hops - 1

theorem user_leg_lt (is_buy : Bool) {hops : Nat} (h : 0 < hops) : user_leg is_buy hops < hops := by
  unfold user_leg
  split <;> omega

/-- The user's leg charges the protocol fee, the leg at the other end the creator
    and LP fees. -/
theorem for_hop_iff (is_buy : Bool) {index hops : Nat} (h : index < hops) :
    ((HopFees.for_hop is_buy index hops).protocol = true ↔ index = user_leg is_buy hops) ∧
      ((HopFees.for_hop is_buy index hops).creator = true ↔ index = user_leg (!is_buy) hops) ∧
      ((HopFees.for_hop is_buy index hops).lp = true ↔ index = user_leg (!is_buy) hops) := by
  have hlast : index + 1 = hops ↔ index = hops - 1 := by omega
  cases is_buy with
  | true => simp [HopFees.for_hop, user_leg, hlast]
  | false => simp [HopFees.for_hop, user_leg, hlast]

theorem onlyLeg_protocol (is_buy : Bool) {hops : Nat} (h : 0 < hops) :
    OnlyLeg HopFees.protocol is_buy hops (user_leg is_buy hops) where
  lt := user_leg_lt is_buy h
  charged_iff := fun _ hindex => (for_hop_iff is_buy hindex).1

theorem onlyLeg_creator (is_buy : Bool) {hops : Nat} (h : 0 < hops) :
    OnlyLeg HopFees.creator is_buy hops (user_leg (!is_buy) hops) where
  lt := user_leg_lt (!is_buy) h
  charged_iff := fun _ hindex => (for_hop_iff is_buy hindex).2.1

theorem onlyLeg_lp (is_buy : Bool) {hops : Nat} (h : 0 < hops) :
    OnlyLeg HopFees.lp is_buy hops (user_leg (!is_buy) hops) where
  lt := user_leg_lt (!is_buy) h
  charged_iff := fun _ hindex => (for_hop_iff is_buy hindex).2.2

/-- A reversed route charges each hop what it charged. -/
theorem for_hop_reverse {index hops : Nat} (h : index < hops) :
    HopFees.for_hop true index hops = HopFees.for_hop false (hops - 1 - index) hops := by
  have hfirst : (hops - 1 - index + 1 == hops) = (index == 0) := by
    rw [Bool.eq_iff_iff, beq_iff_eq, beq_iff_eq]
    omega
  have hlast : (hops - 1 - index == 0) = (index + 1 == hops) := by
    rw [Bool.eq_iff_iff, beq_iff_eq, beq_iff_eq]
    omega
  simp only [HopFees.for_hop, hfirst, hlast, if_true, Bool.false_eq_true, if_false]

namespace PumpSdk

/-- The two ends of a route: the user's leg is quoted in the user's currency,
    and the leg at the other end trades the far coin. -/
theorem multi_hop_route_ends {in_mint out_mint : Pubkey} {hops : List MultiHopHop} {is_buy : Bool}
    (h : multi_hop_route in_mint hops = .ok (is_buy, out_mint)) :
    (∃ hop, hops[user_leg is_buy hops.length]? = some hop ∧
        hop.quote_mint = if is_buy then in_mint else out_mint) ∧
      ∃ hop, hops[user_leg (!is_buy) hops.length]? = some hop ∧
        hop.base_mint = if is_buy then out_mint else in_mint := by
  obtain ⟨hne, hchain⟩ := multi_hop_route_ok_iff.mp h
  obtain ⟨first, after, hfirst, hfirst_trades⟩ := hchain.exists_head hne
  obtain ⟨last, before, hlast, hlast_trades⟩ := hchain.exists_last hne
  cases is_buy with
  | true => exact ⟨⟨first, hfirst, hfirst_trades.1.symm⟩, last, hlast, hlast_trades.2.symm⟩
  | false => exact ⟨⟨last, hlast, hlast_trades.2.2.symm⟩, first, hfirst, hfirst_trades.2.1.symm⟩

/-- The swap pays the buyback slice in the quote mint of the user's leg. -/
theorem multi_hop_swap_instruction_buyback [Solana]
    {user in_mint in_token_program out_token_program buyback_fee_recipient : Pubkey}
    {hops : List MultiHopHop} {amount_in min_amount_out : UInt64} {ix : Instruction}
    (h : multi_hop_swap_instruction user in_mint in_token_program out_token_program hops
      buyback_fee_recipient amount_in min_amount_out = .ok ix) :
    ∃ is_buy out_mint hop, multi_hop_route in_mint hops = .ok (is_buy, out_mint) ∧
      hops[user_leg is_buy hops.length]? = some hop ∧
      ix.accounts[6]? = some (AccountMeta.new (pda.associated_token buyback_fee_recipient
        (if is_buy then in_token_program else out_token_program) hop.quote_mint).1 false) := by
  unfold multi_hop_swap_instruction at h
  split at h
  · simp at h
  obtain ⟨⟨is_buy, out_mint⟩, hroute, h⟩ := Outcome.bind_eq_ok_iff.mp h
  obtain ⟨⟨hop, hhop, hquote⟩, -⟩ := multi_hop_route_ends hroute
  cases h
  refine ⟨is_buy, out_mint, hop, hroute, hhop, ?_⟩
  rw [hquote]
  cases is_buy <;> rfl

section

variable [Build] [Solana] {global : Global} {pump_fee_config : FeeConfig}
  {global_config : state.pump_amm.GlobalConfig} {amm_fee_config : FeeConfig} {user : Pubkey}

theorem quote_hop_pos {is_buy : Bool} {hops : Nat} {amount out : UInt64} {hop : RouteHop × Nat}
    (h : quote_hop global pump_fee_config global_config amm_fee_config user is_buy hops amount hop =
      .ok out) : 0 < out.toNat := by
  obtain ⟨hop, index⟩ := hop
  cases hop with
  | Pool => exact multi_hop_pool_hop_pos h
  | Curve => exact bonding_curve.multi_hop_curve_hop_pos h

/-- Every amount along a priced route is something. -/
theorem quote_hops_pos {is_buy : Bool} {hops : Nat} {route : List (RouteHop × Nat)}
    {amount out : UInt64} (hpos : 0 < amount.toNat)
    (h : Chain (fun hop amount out => quote_hop global pump_fee_config global_config amm_fee_config
      user is_buy hops amount hop = .ok out) amount route out) : 0 < out.toNat := by
  induction h with
  | nil => exact hpos
  | cons head _ ih => exact ih (quote_hop_pos head)

end

end PumpSdk

end pump_rust_client.sdk
