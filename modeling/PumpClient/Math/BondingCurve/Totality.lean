import PumpClient.Machine.Faults
import PumpClient.Math.BondingCurve.Hop
import PumpClient.Math.Fees.Tiers

open machine exchange

namespace pump_rust_client.math

open Outcome

namespace utils

theorem mul_div_u128_neverPanics (a b c : Nat) : NeverPanics (mul_div_u128 a b c) :=
  (neverPanics_ok_or _ _).bind fun _ _ => neverPanics_ok_or _ _

theorem swap_exact_input_neverPanics (amount in_reserve out_reserve : Nat) :
    NeverPanics (swap_exact_input amount in_reserve out_reserve) :=
  (neverPanics_ok_or _ _).bind fun _ _ => mul_div_u128_neverPanics _ _ _

end utils

namespace fees

open state

theorem fees_for_quote_mint_neverPanics (cfg : FeeConfig) (is_pump_pool : Bool) (market_cap : Nat)
    (quote_mint : Pubkey) :
    NeverPanics (fees_for_quote_mint cfg is_pump_pool market_cap quote_mint) := by
  unfold fees_for_quote_mint
  dsimp only
  apply NeverPanics.ite
  · intro _
    exact neverPanics_ok _
  · intro _
    apply NeverPanics.ite
    · intro _
      exact neverPanics_ok_or _ _
    · intro _
      apply NeverPanics.ite
      · intro _
        exact neverPanics_ok_or _ _
      · intro _
        apply NeverPanics.ite
        · intro _
          exact neverPanics_ok _
        · intro _
          exact neverPanics_ok _

variable [Build]

/-- A fee computes exactly when its product fits `u128`. -/
theorem fee_amount_neverPanics_iff (hchecks : Build.overflow_checks = true) {amount : Nat}
    {basis_points : UInt64} :
    NeverPanics (fee_amount amount basis_points) ↔ amount * basis_points.toNat < 2 ^ 128 := by
  constructor
  · intro h
    exact (U128.mul_neverPanics_iff hchecks).mp (neverPanics_bind_iff.mp h).1
  · intro h
    rw [fee_amount_eq h]
    exact neverPanics_ok _

end fees

namespace bonding_curve

open state utils fees

theorem check_curve_open_neverPanics (bonding_curve : BondingCurve) (allow_cashback : Bool) :
    NeverPanics (check_curve_open bonding_curve allow_cashback) := by
  apply NeverPanics.ite
  · intro _
    exact neverPanics_err _
  · intro _
    exact neverPanics_ok _

theorem pool_to_be_neverPanics (global : Global) (bonding_curve : BondingCurve)
    (base_ata_amount : UInt64) (is_legacy : Bool) (curve_tokens curve_net_quote : UInt64) :
    NeverPanics (pool_to_be global bonding_curve base_ata_amount is_legacy curve_tokens
      curve_net_quote) := by
  apply (neverPanics_ok_or _ _).bind
  intro base _
  apply (neverPanics_ok_or _ _).bind
  intro raised _
  refine NeverPanics.bind ?_ fun quote _ => ?_
  · cases is_legacy with
    | true => exact neverPanics_ok_or _ _
    | false => exact neverPanics_ok _
  · apply NeverPanics.ite
    · intro _
      exact neverPanics_err _
    · intro _
      exact neverPanics_ok _

section

variable [Build]

theorem buy_quote_neverPanics (bonding_curve : BondingCurve) (amount : UInt64) :
    NeverPanics (buy_quote bonding_curve amount) := by
  by_cases hzero : amount = 0
  · rw [buy_quote, if_pos hzero]
    exact neverPanics_err _
  · by_cases hlt : amount.toNat < bonding_curve.virtual_token_reserves.toNat
    · rw [buy_quote_eq (U64.ne_zero_iff.mp hzero) hlt]
      exact neverPanics_ok_or _ _
    · rw [buy_quote, if_neg hzero, U128.checked_sub_filter_pos, if_neg hlt]
      exact neverPanics_err _

variable {global : Global} {fee_config : FeeConfig} {bonding_curve : BondingCurve}
  {mint_supply base_ata_amount : UInt64}

/-- A curve without token reserves panics in the market cap, before any rate is
    read. -/
theorem curve_fee_bps_panics (h : bonding_curve.virtual_token_reserves = 0) :
    curve_fee_bps global fee_config bonding_curve mint_supply = panic := by
  rw [curve_fee_bps, compute_bonding_curve_fee_bps, bonding_curve_market_cap_eq, if_pos h]
  rfl

/-- Rates that are read are of a curve with token reserves. -/
theorem virtual_token_ne_zero_of_rates {rates : UInt64 × UInt64}
    (h : curve_fee_bps global fee_config bonding_curve mint_supply = .ok rates) :
    bonding_curve.virtual_token_reserves ≠ 0 := by
  intro hvt
  rw [curve_fee_bps_panics hvt] at h
  exact panic_ne_ok _ h

theorem curve_fee_bps_neverPanics (h : bonding_curve.virtual_token_reserves ≠ 0) :
    NeverPanics (curve_fee_bps global fee_config bonding_curve mint_supply) := by
  rw [curve_fee_bps, compute_bonding_curve_fee_bps, bonding_curve_market_cap_eq, if_neg h,
    Outcome.ok_bind]
  apply NeverPanics.bind
  · apply (fees_for_quote_mint_neverPanics _ _ _ _).bind
    intro fees _
    exact neverPanics_ok _
  · intro bps _
    exact neverPanics_ok _

/-- The exact-in buy checks both reserves before it divides by either. -/
theorem buy_tokens_exact_in_neverPanics (sol_amount : UInt64) :
    NeverPanics (buy_tokens_exact_in global fee_config bonding_curve mint_supply sol_amount) := by
  by_cases hsmall : sol_amount = 0 ∨ bonding_curve.virtual_token_reserves = 0
  · rw [buy_tokens_exact_in, if_pos hsmall]
    exact neverPanics_ok _
  by_cases hempty : bonding_curve.virtual_quote_reserves = 0
  · rw [buy_tokens_exact_in, if_neg hsmall, if_pos hempty]
    exact neverPanics_err _
  have hvt : bonding_curve.virtual_token_reserves ≠ 0 := (not_or.mp hsmall).2
  cases hbps : curve_fee_bps global fee_config bonding_curve mint_supply with
  | ok bps =>
    have priced : Priced global fee_config bonding_curve mint_supply bps :=
      ⟨hbps, UInt64.pos_iff_ne_zero.mpr hvt, UInt64.pos_iff_ne_zero.mpr hempty⟩
    rw [buy_tokens_exact_in_eq priced]
    exact neverPanics_ok _
  | error e =>
    rw [buy_tokens_exact_in, if_neg hsmall, if_neg hempty, hbps, Outcome.error_bind]
    exact (curve_fee_bps_neverPanics hvt).of_error hbps

theorem buy_token_amount_neverPanics (sol_amount : UInt64) :
    NeverPanics (buy_token_amount_from_sol_amount global fee_config bonding_curve mint_supply
      sol_amount) :=
  (buy_tokens_exact_in_neverPanics sol_amount).bind fun _ _ => neverPanics_ok _

/-- A sell pays out at most the quote reserve, so its fees and their
    subtraction fit. -/
theorem sell_sol_amount_neverPanics (token_amount : UInt64) :
    NeverPanics (sell_sol_amount_from_token_amount global fee_config bonding_curve mint_supply
      token_amount) := by
  by_cases hsmall : token_amount = 0 ∨ bonding_curve.virtual_token_reserves = 0
  · rw [sell_sol_amount_from_token_amount, if_pos hsmall]
    exact neverPanics_ok _
  obtain ⟨hin, hvt⟩ := not_or.mp hsmall
  rw [sell_sol_amount_eq (U64.ne_zero_iff.mp hvt) (U64.ne_zero_iff.mp hin) rfl]
  apply (curve_fee_bps_neverPanics hvt).bind
  intro rates _
  apply NeverPanics.ite
  · intro _
    exact neverPanics_err _
  · intro _
    exact neverPanics_ok _

/-- A v3 buy reads the rates only once it has tokens to price, on reserves that
    are then not empty. -/
theorem buy_v3_token_amount_neverPanics (sol_amount : UInt64) :
    NeverPanics (buy_v3_token_amount_from_sol_amount global fee_config bonding_curve mint_supply
      base_ata_amount sol_amount) := by
  cases hopen : check_curve_open bonding_curve false with
  | error e =>
    rw [buy_v3_token_amount_from_sol_amount, hopen, Outcome.error_bind]
    exact (check_curve_open_neverPanics _ _).of_error hopen
  | ok _ =>
  cases htokens : buy_tokens_exact_in global fee_config bonding_curve mint_supply sol_amount with
  | error e =>
    rw [buy_v3_token_amount_from_sol_amount, hopen, Outcome.ok_bind, htokens, Outcome.error_bind]
    exact (buy_tokens_exact_in_neverPanics _).of_error htokens
  | ok tokens =>
  rcases Nat.eq_zero_or_pos tokens with rfl | hpos
  · rw [buy_v3_token_amount_zero htokens hopen]
    exact neverPanics_ok _
  obtain ⟨bps, priced⟩ := buy_tokens_exact_in_pos htokens hpos
  have hout : tokens = (quoter bonding_curve bps).out sol_amount.toNat := by
    rw [buy_tokens_exact_in_eq priced] at htokens
    exact (Except.ok.inj htokens).symm
  rcases Nat.lt_or_ge bonding_curve.real_token_reserves.toNat tokens with hcross | hinside
  · cases hnet : buy_quote bonding_curve bonding_curve.real_token_reserves with
    | error e =>
      rw [buy_v3_token_amount_from_sol_amount, hopen, Outcome.ok_bind, htokens, Outcome.ok_bind,
        if_neg hpos.ne', priced.rates, Outcome.ok_bind, if_neg (by omega), hnet, Outcome.error_bind]
      exact (buy_quote_neverPanics _ _).of_error hnet
    | ok net =>
      rw [buy_v3_token_amount_crossing hopen priced (hout ▸ hcross) hnet]
      apply NeverPanics.ite
      · intro _
        exact neverPanics_ok _
      · intro _
        apply (pool_to_be_neverPanics _ _ _ _ _ _).bind
        intro pool _
        exact neverPanics_ok _
  · rw [buy_v3_token_amount_inside hopen priced (hout ▸ hpos) (hout ▸ hinside)]
    exact neverPanics_ok _

/-- Past its rates a hop never panics: every later operator is guarded or fits. -/
theorem multi_hop_curve_hop_neverPanics_of_rates {user : Pubkey} {is_buy : Bool}
    {amount_in : UInt64} {flags : UInt8} {rates : UInt64 × UInt64}
    (venue : CurveVenue global fee_config bonding_curve mint_supply flags rates)
    (hvt : bonding_curve.virtual_token_reserves ≠ 0) :
    NeverPanics (multi_hop_curve_hop global fee_config bonding_curve mint_supply base_ata_amount user
      is_buy amount_in flags) := by
  cases is_buy with
  | false =>
    rw [venue.sell_eq (U64.ne_zero_iff.mp hvt) rfl]
    apply NeverPanics.ite
    · intro _
      exact neverPanics_ok _
    · intro _
      exact neverPanics_err _
  | true =>
    rw [venue.buy_eq rfl]
    apply NeverPanics.ite
    · intro _
      exact neverPanics_err _
    intro _
    apply (swap_exact_input_neverPanics _ _ _).bind
    intro tokens _
    apply NeverPanics.ite
    · intro _
      exact neverPanics_err _
    intro _
    apply NeverPanics.ite
    · intro _
      exact neverPanics_ok _
    intro _
    apply NeverPanics.ite
    · intro _
      exact neverPanics_err _
    intro _
    apply (buy_quote_neverPanics _ _).bind
    intro curve_net _
    rw [with_fees_eq, Outcome.ok_bind]
    split
    · exact neverPanics_ok _
    · next left _ =>
      apply (pool_to_be_neverPanics _ _ _ _ _ _).bind
      intro pool hpool
      rw [hop_leg_eq hpool]
      exact neverPanics_ok _

/-- A hop panics exactly on an open curve without token reserves. -/
theorem multi_hop_curve_hop_neverPanics_iff {user : Pubkey} {is_buy : Bool} {amount_in : UInt64}
    {flags : UInt8} :
    NeverPanics (multi_hop_curve_hop global fee_config bonding_curve mint_supply base_ata_amount user
        is_buy amount_in flags) ↔
      (check_curve_open bonding_curve (!(flags &&& HOP_FEE_CREATOR != 0)) = .ok () →
        bonding_curve.is_mayhem_mode = false → bonding_curve.virtual_token_reserves ≠ 0) := by
  constructor
  · intro h hopen hmayhem hvt
    apply h
    unfold multi_hop_curve_hop
    dsimp only
    rw [hopen, Outcome.ok_bind, if_neg (by simp [hmayhem]), curve_fee_bps_panics hvt]
    rfl
  · intro h
    cases hopen : check_curve_open bonding_curve (!(flags &&& HOP_FEE_CREATOR != 0)) with
    | error e =>
      unfold multi_hop_curve_hop
      dsimp only
      rw [hopen, Outcome.error_bind]
      exact (check_curve_open_neverPanics _ _).of_error hopen
    | ok _ =>
      by_cases hmayhem : bonding_curve.is_mayhem_mode = true
      · unfold multi_hop_curve_hop
        dsimp only
        rw [hopen, Outcome.ok_bind, if_pos hmayhem]
        exact neverPanics_err _
      · have hvt := h hopen (by simpa using hmayhem)
        cases hrates : curve_fee_bps global fee_config bonding_curve mint_supply with
        | error e =>
          unfold multi_hop_curve_hop
          dsimp only
          rw [hopen, Outcome.ok_bind, if_neg hmayhem, hrates, Outcome.error_bind]
          exact (curve_fee_bps_neverPanics hvt).of_error hrates
        | ok rates =>
          exact multi_hop_curve_hop_neverPanics_of_rates ⟨hopen, by simpa using hmayhem, hrates⟩ hvt

/-- A curve hop that returns gives something, on every branch of the buy: inside
    the curve, at its end, and past it. -/
theorem multi_hop_curve_hop_pos {amount_in out : UInt64} {user : Pubkey}
    {flags : UInt8} {is_buy : Bool}
    (h : multi_hop_curve_hop global fee_config bonding_curve mint_supply base_ata_amount user is_buy
      amount_in flags = .ok out) : 0 < out.toNat := by
  obtain ⟨rates, venue⟩ := multi_hop_curve_hop_venue h
  have hreal := U64.toNat_lt bonding_curve.real_token_reserves
  cases is_buy with
  | false =>
    have hvt := U64.ne_zero_iff.mp (virtual_token_ne_zero_of_rates venue.charged)
    exact ((venue.sell_ok_iff hvt rfl).mp h).2
  | true =>
    have hnet := venue.buy_net_pos h
    have hbuy := h
    rw [venue.buy_eq rfl, if_neg hnet.ne'] at hbuy
    obtain ⟨tokens, htokens, hbuy⟩ := Outcome.bind_eq_ok_iff.mp hbuy
    rcases Nat.lt_or_ge bonding_curve.real_token_reserves.toNat tokens with hcross | hinside
    · obtain ⟨curve_net, hcurve, hout⟩ := venue.buy_crossing_ok hnet htokens hcross h
      -- a curve with nothing left to sell has no price to pass
      obtain ⟨hremaining, -, -⟩ := buy_quote_eq_ok_iff.mp hcurve
      rcases hout with ⟨-, rfl⟩ | ⟨-, pool, -, hout⟩
      · exact hremaining
      · omega
    · rw [venue.buy_inside hnet htokens hinside] at h
      split at h
      · simp at h
      · next hne =>
        cases h
        rw [U64.toNat_cast_of_lt (by omega)]
        omega

/-- The price of a capped amount and its fees computes: no product of a fee
    rate, and no sum, passes `u128`. -/
structure PriceComputes (bps : UInt64 × UInt64) (price : Nat) : Prop where
  protocol : price * bps.1.toNat < 2 ^ 128
  creator : price * bps.2.toNat < 2 ^ 128
  gross : (curveSchedule bps).gross price < 2 ^ 128

/-- The fees of a price and its sum with them compute exactly when they fit. -/
theorem price_with_fee_neverPanics_iff (hchecks : Build.overflow_checks = true)
    {bps : UInt64 × UInt64} {price : Nat}
    (hbps : curve_fee_bps global fee_config bonding_curve mint_supply = .ok bps) :
    NeverPanics (do
        let fee ← fee_for_quote global fee_config bonding_curve mint_supply price
        .ok (U64.cast (← U128.add price fee))) ↔ PriceComputes bps price := by
  have hfees := curveSchedule_fees bps price
  rw [fee_for_quote, hbps, Outcome.ok_bind]
  by_cases hprotocol : price * bps.1.toNat < 2 ^ 128
  · by_cases hcreator : price * bps.2.toNat < 2 ^ 128
    · have hprotocol_le : (price * bps.1.toNat) ⌈/⌉ 10_000 ≤ 2 ^ 115 := by
        rw [ceilDiv_le_iff_le_mul (by decide)]
        omega
      have hcreator_le : (price * bps.2.toNat) ⌈/⌉ 10_000 ≤ 2 ^ 115 := by
        rw [ceilDiv_le_iff_le_mul (by decide)]
        omega
      rw [fee_amount_eq hprotocol, Outcome.ok_bind, fee_amount_eq hcreator, Outcome.ok_bind,
        U128.add_eq_ok (by omega), Outcome.ok_bind, ← hfees, neverPanics_bind_iff,
        U128.add_neverPanics_iff hchecks]
      constructor
      · rintro ⟨hgross, -⟩
        exact ⟨hprotocol, hcreator, hgross⟩
      · intro h
        exact ⟨h.gross, fun total _ => neverPanics_ok _⟩
    · constructor
      · intro h
        rw [fee_amount_eq hprotocol, Outcome.ok_bind] at h
        have hfee := (neverPanics_bind_iff.mp (neverPanics_bind_iff.mp h).1).1
        exact absurd ((fee_amount_neverPanics_iff hchecks).mp hfee) hcreator
      · intro h
        exact absurd h.creator hcreator
  · constructor
    · intro h
      have hfee := (neverPanics_bind_iff.mp (neverPanics_bind_iff.mp h).1).1
      exact absurd ((fee_amount_neverPanics_iff hchecks).mp hfee) hprotocol
    · intro h
      exact absurd h.protocol hprotocol

/-- A v2 price panics exactly where the price of a trade the curve can fill
    does not compute. -/
theorem buy_sol_amount_neverPanics_iff (hchecks : Build.overflow_checks = true)
    {token_amount : UInt64} :
    NeverPanics (buy_sol_amount_from_token_amount global fee_config bonding_curve mint_supply
        token_amount) ↔
      (token_amount ≠ 0 → min token_amount.toNat bonding_curve.real_token_reserves.toNat <
          bonding_curve.virtual_token_reserves.toNat → ∀ bps,
        curve_fee_bps global fee_config bonding_curve mint_supply = .ok bps →
          PriceComputes bps (capped_price bonding_curve token_amount)) := by
  constructor
  · intro h hne htokens bps hbps
    rw [buy_sol_amount_run hne htokens] at h
    exact (price_with_fee_neverPanics_iff hchecks hbps).mp h
  · intro h
    by_cases hsmall : token_amount = 0 ∨ bonding_curve.virtual_token_reserves = 0
    · rw [buy_sol_amount_from_token_amount, if_pos hsmall]
      exact neverPanics_ok _
    obtain ⟨hne, hvt⟩ := not_or.mp hsmall
    by_cases htokens : min token_amount.toNat bonding_curve.real_token_reserves.toNat <
      bonding_curve.virtual_token_reserves.toNat
    · cases hbps : curve_fee_bps global fee_config bonding_curve mint_supply with
      | ok bps =>
        rw [buy_sol_amount_run hne htokens]
        exact (price_with_fee_neverPanics_iff hchecks hbps).mpr (h hne htokens bps hbps)
      | error e =>
        rw [buy_sol_amount_run hne htokens, fee_for_quote, hbps]
        exact (curve_fee_bps_neverPanics hvt).of_error hbps
    · rw [buy_sol_amount_from_token_amount, if_neg hsmall]
      dsimp only
      rw [if_pos (not_lt.mp htokens)]
      exact neverPanics_err _

/-- The pool leg of a v3 price past the remaining supply computes once the
    rates are read. -/
theorem buy_v3_sol_amount_past_neverPanics {token_amount : UInt64} {bps : UInt64 × UInt64}
    (hpast : ¬ (token_amount ≤ bonding_curve.real_token_reserves ∨
      bonding_curve.is_mayhem_mode = true))
    (hbps : curve_fee_bps global fee_config bonding_curve mint_supply = .ok bps) :
    NeverPanics (buy_v3_sol_amount_from_token_amount global fee_config bonding_curve mint_supply
      base_ata_amount token_amount) := by
  have hlt : bonding_curve.real_token_reserves.toNat ≤ token_amount.toNat := by
    have := (not_or.mp hpast).1
    rw [UInt64.le_iff_toNat_le] at this
    omega
  apply (check_curve_open_neverPanics _ _).bind
  intro _ _
  dsimp only
  rw [if_neg hpast, hbps, Outcome.ok_bind]
  apply (buy_quote_neverPanics _ _).bind
  intro sol_cost _
  apply (pool_to_be_neverPanics _ _ _ _ _ _).bind
  intro pool _
  rw [U64.sub_eq_ok hlt, Outcome.ok_bind]
  generalize token_amount - bonding_curve.real_token_reserves = past
  apply NeverPanics.ite
  · intro _
    exact neverPanics_err _
  intro hcovered
  rw [UInt64.le_iff_toNat_le, not_le] at hcovered
  rw [U128.mul_eq_ok (U128.mul_lt (U64.toNat_lt _) (U64.toNat_lt _)), Outcome.ok_bind,
    U64.sub_eq_ok hcovered.le, Outcome.ok_bind,
    ceil_div_eq (by rw [U64.toNat_sub_of_le hcovered.le]; omega), Outcome.ok_bind]
  apply (neverPanics_ok_or _ _).bind
  intro quote_in _
  have hcurve := curveSchedule_gross_lt bps (U64.toNat_lt sol_cost)
  have hleg := curveSchedule_gross_lt bps (U64.toNat_lt quote_in)
  rw [with_fees_eq, Outcome.ok_bind, with_fees_eq, Outcome.ok_bind, U128.add_eq_ok (by omega),
    Outcome.ok_bind]
  exact neverPanics_ok_or _ _

/-- A v3 price panics exactly on an open curve, inside it where the v2 price
    does, and past it where the curve has no token reserves. -/
theorem buy_v3_sol_amount_neverPanics_iff {token_amount : UInt64} :
    NeverPanics (buy_v3_sol_amount_from_token_amount global fee_config bonding_curve mint_supply
        base_ata_amount token_amount) ↔
      (check_curve_open bonding_curve false = .ok () →
        if token_amount ≤ bonding_curve.real_token_reserves ∨ bonding_curve.is_mayhem_mode = true then
          NeverPanics (buy_sol_amount_from_token_amount global fee_config bonding_curve mint_supply
            token_amount)
        else bonding_curve.virtual_token_reserves ≠ 0) := by
  cases hopen : check_curve_open bonding_curve false with
  | error e =>
    simp only [reduceCtorEq, false_implies, iff_true]
    rw [buy_v3_sol_amount_from_token_amount, hopen, Outcome.error_bind]
    exact (check_curve_open_neverPanics _ _).of_error hopen
  | ok _ =>
    simp only [forall_const]
    by_cases hinside : token_amount ≤ bonding_curve.real_token_reserves ∨
      bonding_curve.is_mayhem_mode = true
    · rw [if_pos hinside, buy_v3_sol_amount_capped hopen hinside]
    · rw [if_neg hinside]
      by_cases hvt : bonding_curve.virtual_token_reserves = 0
      · rw [buy_v3_sol_amount_from_token_amount, hopen, Outcome.ok_bind]
        dsimp only
        rw [if_neg hinside, curve_fee_bps_panics hvt]
        simp only [ne_eq, hvt, not_true_eq_false, iff_false]
        exact fun h => h rfl
      · simp only [ne_eq, hvt, not_false_eq_true, iff_true]
        cases hbps : curve_fee_bps global fee_config bonding_curve mint_supply with
        | ok bps => exact buy_v3_sol_amount_past_neverPanics hinside hbps
        | error e =>
          rw [buy_v3_sol_amount_from_token_amount, hopen, Outcome.ok_bind]
          dsimp only
          rw [if_neg hinside, hbps, Outcome.error_bind]
          exact (curve_fee_bps_neverPanics hvt).of_error hbps

end

/-- A curve closed to a cashback coin's creator fee is open without it. -/
theorem check_curve_open_of_false {bonding_curve : BondingCurve}
    (h : check_curve_open bonding_curve false = .ok ()) (allow_cashback : Bool) :
    check_curve_open bonding_curve allow_cashback = .ok () := by
  unfold check_curve_open at h ⊢
  split at h
  · simp at h
  · next hopen =>
    rw [if_neg]
    revert hopen
    cases bonding_curve.complete <;> cases bonding_curve.is_cashback_coin <;> simp

section

variable [Build] (global : Global) (fee_config : FeeConfig) (bonding_curve : BondingCurve)
  (mint_supply base_ata_amount amount : UInt64) (user : Pubkey) (is_buy : Bool) (flags : UInt8)

/-- Every quoter of the curve ends with a value or a `QuoteError`. -/
structure QuotersReturn : Prop where
  buy_token : NeverPanics
    (buy_token_amount_from_sol_amount global fee_config bonding_curve mint_supply amount)
  buy_sol : NeverPanics
    (buy_sol_amount_from_token_amount global fee_config bonding_curve mint_supply amount)
  sell_sol : NeverPanics
    (sell_sol_amount_from_token_amount global fee_config bonding_curve mint_supply amount)
  buy_v3_sol : NeverPanics (buy_v3_sol_amount_from_token_amount global fee_config bonding_curve
    mint_supply base_ata_amount amount)
  buy_v3_token : NeverPanics (buy_v3_token_amount_from_sol_amount global fee_config bonding_curve
    mint_supply base_ata_amount amount)
  hop : NeverPanics (multi_hop_curve_hop global fee_config bonding_curve mint_supply base_ata_amount
    user is_buy amount flags)

/-- What the quoters leave unchecked: token reserves on a curve that is open to
    the hop, and a price of the amount that computes with its fees. -/
structure Quotable : Prop where
  reserves : check_curve_open bonding_curve (!(flags &&& HOP_FEE_CREATOR != 0)) = .ok () →
    bonding_curve.is_mayhem_mode = false → bonding_curve.virtual_token_reserves ≠ 0
  price : amount ≠ 0 → min amount.toNat bonding_curve.real_token_reserves.toNat <
      bonding_curve.virtual_token_reserves.toNat → ∀ bps,
    curve_fee_bps global fee_config bonding_curve mint_supply = .ok bps →
      PriceComputes bps (capped_price bonding_curve amount)

end

/-- Where the quoters are total. Built with overflow checks, so that every
    fault of an operator shows, all six return on exactly the inputs that pass
    what they leave unchecked. -/
theorem curve_quoters_return_iff (global : Global) (fee_config : FeeConfig)
    (bonding_curve : BondingCurve) (mint_supply base_ata_amount amount : UInt64) (user : Pubkey)
    (is_buy : Bool) (flags : UInt8) :
    letI : Build := ⟨true⟩
    QuotersReturn global fee_config bonding_curve mint_supply base_ata_amount amount user is_buy
        flags ↔
      Quotable global fee_config bonding_curve mint_supply amount flags := by
  let _ : Build := ⟨true⟩
  constructor
  · intro h
    exact ⟨multi_hop_curve_hop_neverPanics_iff.mp h.hop,
      (buy_sol_amount_neverPanics_iff rfl).mp h.buy_sol⟩
  · intro h
    have hbuy_sol : NeverPanics (buy_sol_amount_from_token_amount global fee_config bonding_curve
        mint_supply amount) := (buy_sol_amount_neverPanics_iff rfl).mpr h.price
    refine ⟨buy_token_amount_neverPanics _, hbuy_sol, sell_sol_amount_neverPanics _, ?_,
      buy_v3_token_amount_neverPanics _, multi_hop_curve_hop_neverPanics_iff.mpr h.reserves⟩
    apply buy_v3_sol_amount_neverPanics_iff.mpr
    intro hopen
    split
    · exact hbuy_sol
    · next hpast =>
      exact h.reserves (check_curve_open_of_false hopen _) (by simpa using (not_or.mp hpast).2)

/-- A curve all but its last token of which is for sale, against as much quote
    as it can hold. -/
def depletingCurve : BondingCurve :=
  { BondingCurve.default with
    virtual_token_reserves := 0x8000_0000_0000_0000
    virtual_quote_reserves := 0xffff_ffff_ffff_ffff
    real_token_reserves := 0x7fff_ffff_ffff_ffff }

/-- A zero curve, as a zero-padded account decodes, panics a hop and a v3 price,
    and the whole supply of a depleting one overflows its fee. -/
theorem curve_quoters_panic :
    letI : Build := ⟨true⟩
    multi_hop_curve_hop Global.default launchFees BondingCurve.default 0 0 ⟨1⟩ true 1 3 =
      Outcome.panic ∧
    buy_v3_sol_amount_from_token_amount Global.default launchFees BondingCurve.default 0 0 1 =
      Outcome.panic ∧
    buy_sol_amount_from_token_amount Global.default launchFees depletingCurve 0
      0x7fff_ffff_ffff_ffff = Outcome.panic ∧
    ¬ QuotersReturn Global.default launchFees BondingCurve.default 0 0 1 ⟨1⟩ true 3 := by
  let _ : Build := ⟨true⟩
  have hhop : multi_hop_curve_hop Global.default launchFees BondingCurve.default 0 0 ⟨1⟩ true 1 3 =
      Outcome.panic := by decide +kernel
  exact ⟨hhop, by decide +kernel, by decide +kernel, fun h => h.hop hhop⟩

end bonding_curve

end pump_rust_client.math
