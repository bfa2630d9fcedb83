import PumpClient.Exchange.Discount
import PumpClient.Math.BondingCurve.Monotone
import PumpClient.Sdk.RoundTrip
import PumpClient.Sdk.SingleHop

open machine exchange

namespace pump_rust_client.sdk

open state state.pump_amm math math.utils math.fees math.bonding_curve math.amm

theorem schedule_discounts {rates rates' : UInt64 × UInt64 × UInt64} (h₀ : rates.1 ≤ rates'.1)
    (h₁ : rates.2.1 ≤ rates'.2.1) (h₂ : rates.2.2 ≤ rates'.2.2) :
    (schedule rates).Discounts (schedule rates') where
  scale_eq := rfl
  rates_le := .cons (UInt64.le_iff_toNat_le.mp h₀) (.cons (UInt64.le_iff_toNat_le.mp h₁)
    (.cons (UInt64.le_iff_toNat_le.mp h₂) .nil))

/-- A component that a flag may leave out. -/
theorem charged_if_le (flag : Bool) (bps : UInt64) : (if flag then bps else 0) ≤ bps := by
  cases flag with
  | true => exact UInt64.le_refl bps
  | false => exact UInt64.zero_le

section Curve

variable {curve : BondingCurve} {rates rates' : UInt64 × UInt64}

/-- A curve hop charges a part of what the direct trade charges. -/
theorem curve_hop_discounts (flags : UInt8) (rates : UInt64 × UInt64) :
    (curveSchedule (bonding_curve.hop_fee_bps flags rates)).Discounts (curveSchedule rates) :=
  schedule_discounts (charged_if_le _ _) (charged_if_le _ _) (UInt64.le_refl 0)

theorem curve_hop_charged_le_one {flags : UInt8} (rates : UInt64 × UInt64)
    (hcreator : flags &&& HOP_FEE_CREATOR = 0) :
    (curveSchedule (bonding_curve.hop_fee_bps flags rates)).charged ≤ 1 := by
  simp only [FeeSchedule.charged, schedule_rates, bonding_curve.hop_fee_bps, hcreator,
    List.countP_cons, List.countP_nil]
  simp
  split_ifs <;> omega

/-- Lower fees buy no less, inside the curve and past it: the remaining supply
    costs no more, so no less is left for the pool it opens. -/
theorem completingQuoter_out_le (global : Global) (base_ata_amount : UInt64)
    (h : (curveSchedule rates).Discounts (curveSchedule rates')) (amount : Nat) :
    (completingQuoter global curve base_ata_amount rates').out amount ≤
      (completingQuoter global curve base_ata_amount rates).out amount := by
  have hcharged := schedule_charged_le rates
  apply Quoter.glue_out_le
  · exact h.comp_out_le hcharged floorSwap_pos (floorSwap_out_mono _ _)
  · exact h.gross_le _
  · rcases openedPool global curve base_ata_amount with _ | pool
    · exact fun _ => le_rfl
    · exact h.comp_out_le hcharged ceilSwap_pos (ceilSwap_out_mono _ _)
  · rcases openedPool global curve base_ata_amount with _ | pool
    · exact monotone_const
    · exact legQuoter_out_mono pool rates

variable [Build] {global : Global} {fee_config : FeeConfig} {mint_supply base_ata_amount : UInt64}
  {user : Pubkey} {flags : UInt8} {amount amount' out : UInt64}

/-- A buy hop gives at least what the quoter at its own rates says: it swaps
    the rounding remainder of its fee split as well. -/
theorem completingQuoter_out_le_hop (hvq : 0 < curve.virtual_quote_reserves.toNat)
    (venue : CurveVenue global fee_config curve mint_supply flags rates)
    (h : multi_hop_curve_hop global fee_config curve mint_supply base_ata_amount user true amount
      flags = .ok out) :
    (completingQuoter global curve base_ata_amount (bonding_curve.hop_fee_bps flags rates)).out
      amount.toNat ≤ out.toNat := by
  have hremaining := U64.toNat_lt curve.real_token_reserves
  have hnet := venue.buy_net_pos h
  generalize hbps : bonding_curve.hop_fee_bps flags rates = bps at hnet ⊢
  have htokens := swap_whole_net_eq (curveSchedule bps) amount curve.virtual_token_reserves hvq
  have hmono : (quoter curve bps).out amount.toNat ≤
      swapOut ((curveSchedule bps).wholeNet amount.toNat - 1) curve.virtual_quote_reserves.toNat
        curve.virtual_token_reserves.toNat :=
    swapOut_mono (Nat.sub_le_sub_right (FeeSchedule.net_le_wholeNet _) 1) _ _
  subst hbps
  rcases le_or_gt (swapOut ((curveSchedule (bonding_curve.hop_fee_bps flags rates)).wholeNet
    amount.toNat - 1) curve.virtual_quote_reserves.toNat curve.virtual_token_reserves.toNat)
    curve.real_token_reserves.toNat with hinside | hcross
  · rw [venue.buy_inside hnet htokens hinside] at h
    split at h
    · simp at h
    cases h
    rw [completingQuoter, Quoter.glue_out_of_le (hmono.trans hinside), U64.toNat_cast_of_lt (by omega)]
    exact hmono
  · obtain ⟨curve_net, hcurve, hout⟩ := venue.buy_crossing_ok hnet htokens hcross h
    exact (curve_buy_hop_crossing hvq venue.mayhem hcurve hout).1

/-- A buy hop gives no less than the direct buy of a smaller budget. -/
theorem direct_curve_buy_le_hop {tokens charged : UInt64} (hle : amount ≤ amount')
    (hdirect : buy_v3_token_amount_from_sol_amount global fee_config curve mint_supply base_ata_amount
      amount = .ok (tokens, charged))
    (hhop : multi_hop_curve_hop global fee_config curve mint_supply base_ata_amount user true amount'
      flags = .ok out) : tokens ≤ out := by
  by_cases hpos : 0 < tokens
  · obtain ⟨rates, venue⟩ := multi_hop_curve_hop_venue hhop
    obtain ⟨rates', -, priced, htokens, -⟩ := buy_v3_token_amount_ok hdirect hpos
    obtain rfl : rates' = rates := Except.ok.inj (priced.rates.symm.trans venue.charged)
    have hvq := U64.pos_iff.mp priced.quote_pos
    rw [UInt64.le_iff_toNat_le, htokens]
    calc (completingQuoter global curve base_ata_amount rates').out amount.toNat
        ≤ (completingQuoter global curve base_ata_amount rates').out amount'.toNat :=
          completingQuoter_out_mono global curve base_ata_amount rates'
            (UInt64.le_iff_toNat_le.mp hle)
      _ ≤ (completingQuoter global curve base_ata_amount
            (bonding_curve.hop_fee_bps flags rates')).out amount'.toNat :=
          completingQuoter_out_le global base_ata_amount (curve_hop_discounts flags rates') _
      _ ≤ out.toNat := completingQuoter_out_le_hop hvq venue hhop
  · rw [UInt64.not_lt] at hpos
    exact UInt64.le_trans hpos UInt64.zero_le

/-- A sell hop gives no less than the direct sell of as much, or, without the
    creator's fee, of less. -/
theorem direct_curve_sell_le_hop {sol_out : UInt64}
    (hle : amount = amount' ∨ amount ≤ amount' ∧ flags &&& HOP_FEE_CREATOR = 0)
    (hdirect : sell_sol_amount_from_token_amount global fee_config curve mint_supply amount =
      .ok sol_out)
    (hhop : multi_hop_curve_hop global fee_config curve mint_supply base_ata_amount user false amount'
      flags = .ok out) : sol_out ≤ out := by
  rw [UInt64.le_iff_toNat_le]
  rcases Nat.eq_zero_or_pos sol_out.toNat with hzero | hpos
  · exact hzero ▸ Nat.zero_le _
  obtain ⟨rates, venue⟩ := multi_hop_curve_hop_venue hhop
  obtain ⟨hamount, -⟩ := sell_sol_amount_pos hdirect hpos
  have hvt : 0 < curve.virtual_token_reserves.toNat := by
    by_contra hnot
    have hzero : curve.virtual_token_reserves = 0 := by
      rw [← UInt64.toNat_inj]
      exact Nat.eq_zero_of_not_pos hnot
    rw [sell_sol_amount_from_token_amount, if_pos (Or.inr hzero)] at hdirect
    cases hdirect
    exact absurd hpos (by decide)
  have hsold := (sell_sol_amount_ok_iff venue.charged hvt hamount rfl).mp hdirect
  obtain ⟨hpaid, hout⟩ := (venue.sell_ok_iff hvt rfl).mp hhop
  generalize hgross : swapOut amount.toNat curve.virtual_token_reserves.toNat
    curve.virtual_quote_reserves.toNat = gross at hsold
  generalize hgross' : swapOut amount'.toNat curve.virtual_token_reserves.toNat
    curve.virtual_quote_reserves.toNat = gross' at hpaid
  have hmore : gross = gross' ∨ gross ≤ gross' ∧
      (curveSchedule (bonding_curve.hop_fee_bps flags rates)).charged ≤ 1 := by
    rcases hle with rfl | ⟨hle, hcreator⟩
    · exact Or.inl (hgross.symm.trans hgross')
    · rw [← hgross, ← hgross']
      exact Or.inr ⟨swapOut_mono (UInt64.le_iff_toNat_le.mp hle) _ _,
        curve_hop_charged_le_one rates hcreator⟩
  have hkept := (curve_hop_discounts flags rates).kept_le hmore (by omega)
  omega

end Curve

section Pool

variable {pool : Pool} {legs : HopFees}

/-- A pool hop charges a part of what a hop with every leg charges. -/
theorem pool_hop_discounts (pool : Pool) (legs : HopFees) (bps : AmmFeeBps) :
    (schedule (amm.hop_fee_bps pool legs bps)).Discounts
      (schedule (amm.hop_fee_bps pool ⟨true, true, true⟩ bps)) := by
  apply schedule_discounts
  · exact charged_if_le _ _
  · exact charged_if_le _ _
  · cases hcreator : legs.creator with
    | true => simp [amm.hop_fee_bps, hcreator]
    | false => simp [amm.hop_fee_bps, hcreator]

/-- A hop that leaves a leg out nets at most a unit less than its unshaved net. -/
theorem pool_hop_charged_le_two (pool : Pool) (bps : AmmFeeBps) (h : legs ≠ ⟨true, true, true⟩) :
    (schedule (amm.hop_fee_bps pool legs bps)).charged ≤ 2 := by
  obtain ⟨protocol, creator, lp⟩ := legs
  simp only [FeeSchedule.charged, schedule_rates, amm.hop_fee_bps, List.countP_cons, List.countP_nil]
  cases protocol with
  | false => simp; split_ifs <;> omega
  | true =>
    cases creator with
    | false => simp; split_ifs <;> omega
    | true =>
      cases lp with
      | false => simp; split_ifs <;> omega
      | true => exact absurd rfl h

theorem pool_hop_charged_le_one (pool : Pool) (bps : AmmFeeBps) (hcreator : legs.creator = false)
    (hlp : legs.lp = false) : (schedule (amm.hop_fee_bps pool legs bps)).charged ≤ 1 := by
  simp only [FeeSchedule.charged, schedule_rates, amm.hop_fee_bps, hcreator, hlp, List.countP_cons,
    List.countP_nil]
  simp
  split_ifs <;> omega

/-- A hop nets no less than the direct trade of as much, or, with a leg left
    out, of less. -/
theorem pool_hop_net_le {amount amount' : Nat} (pool : Pool) (bps : AmmFeeBps)
    (hle : amount = amount' ∨ amount ≤ amount' ∧ legs ≠ ⟨true, true, true⟩) :
    (schedule (amm.hop_fee_bps pool ⟨true, true, true⟩ bps)).net amount ≤
      (schedule (amm.hop_fee_bps pool legs bps)).net amount' := by
  by_cases hall : legs = ⟨true, true, true⟩
  · rcases hle with rfl | ⟨-, hne⟩
    · rw [hall]
    · exact absurd hall hne
  · have hcharged := pool_hop_charged_le_two pool bps hall
    have hamount : amount ≤ amount' := hle.elim (·.le) (·.1)
    exact ((pool_hop_discounts pool legs bps).net_le hcharged amount).trans
      (FeeSchedule.net_mono hcharged hamount)

variable [Build] [Solana] {global_config : GlobalConfig} {fee_config : FeeConfig}
  {base_reserve quote_vault_balance base_mint_supply : UInt64} {amount amount' out : UInt64}

/-- The rates of a hop beside those of the direct trade on what the hop reads. -/
theorem hop_context_bps {real_quote quote_reserve : UInt64} {rates : UInt64 × UInt64 × UInt64}
    {bps : AmmFeeBps}
    (venue : HopVenue global_config fee_config pool base_reserve quote_vault_balance base_mint_supply
      legs real_quote quote_reserve rates)
    (hbps : (poolContext global_config fee_config pool base_reserve base_mint_supply quote_reserve
      real_quote).fee_bps = .ok bps) :
    rates = amm.hop_fee_bps pool legs bps ∧
      (poolContext global_config fee_config pool base_reserve base_mint_supply quote_reserve
        real_quote).charged_bps bps = amm.hop_fee_bps pool ⟨true, true, true⟩ bps := by
  obtain ⟨bps', hbps', rfl⟩ := venue.charged
  have hmayhem : pool.is_mayhem_mode = false := by
    have heligible := venue.eligible
    simp only [Bool.or_eq_false_iff] at heligible
    exact heligible.2
  rw [AmmContext.fee_bps] at hbps
  dsimp only [poolContext] at hbps
  rw [fee_tier_supply, hmayhem, if_neg Bool.false_ne_true] at hbps
  obtain rfl : bps' = bps := Except.ok.inj (hbps'.symm.trans hbps)
  exact ⟨rfl, (hop_fee_bps_all pool bps').symm⟩

/-- A buy hop gives no less than the direct buy of as much, or, with a leg left
    out, of less. -/
theorem direct_pool_buy_le_hop {slippage_bps : UInt16} {quote : Quote}
    (hle : amount = amount' ∨ amount ≤ amount' ∧ legs ≠ ⟨true, true, true⟩)
    (hdirect : PumpSdk.buy_quote_amm_sol_in global_config fee_config
      (.Pool pool base_reserve quote_vault_balance base_mint_supply) amount slippage_bps = .ok quote)
    (hhop : multi_hop_pool_hop global_config fee_config pool base_reserve quote_vault_balance
      base_mint_supply true amount' legs = .ok out) : quote.amount ≤ out := by
  obtain ⟨hopen, real_quote, quote_reserve, rates, venue⟩ := multi_hop_pool_hop_venue hhop
  obtain ⟨quote_reserve', real_quote', heffective, hreal, hdirect⟩ :=
    map_amm_quote_source_pool_ok_iff.mp hdirect
  obtain rfl : quote_reserve = quote_reserve' :=
    Except.ok.inj (venue.effective.symm.trans heffective)
  obtain rfl : real_quote = real_quote' := Except.ok.inj (venue.real.symm.trans hreal)
  obtain ⟨res, hres, hdirect⟩ := Outcome.bind_eq_ok_iff.mp hdirect
  obtain ⟨bps, -, hreserves, hbps⟩ := buy_quote_input_ok hres
  obtain ⟨rfl, hcharged⟩ := hop_context_bps venue hbps
  have hnet := pool_hop_net_le pool bps (hle.imp (congrArg UInt64.toNat) fun h =>
    ⟨UInt64.le_iff_toNat_le.mp h.1, h.2⟩)
  have hwhole := hnet.trans (FeeSchedule.net_le_wholeNet _)
  have hmono := swapOut_mono (Nat.sub_le_sub_right hwhole 1) quote_reserve.toNat base_reserve.toNat
  have hle_base := fun n => swapOut_le n quote_reserve.toNat base_reserve.toNat
  have hbase_lt := U64.toNat_lt base_reserve
  rw [buy_quote_input_eq hopen hreserves hbps hcharged.symm] at hres
  rw [venue.buy_eq hopen] at hhop
  split at hres
  · simp at hres
  split at hhop
  · simp at hhop
  cases hres
  cases hhop
  cases hdirect
  rw [UInt64.le_iff_toNat_le]
  dsimp only [poolContext]
  rw [U64.toNat_cast_of_lt ((hle_base _).trans_lt hbase_lt),
    U64.toNat_cast_of_lt ((hle_base _).trans_lt hbase_lt)]
  exact hmono

/-- A sell hop gives no less than the direct sell of as much, or, without the
    creator and LP fees, of less. -/
theorem direct_pool_sell_le_hop {slippage_bps : UInt16} {quote : Quote}
    (hle : amount = amount' ∨ amount ≤ amount' ∧ legs.creator = false ∧ legs.lp = false)
    (hdirect : PumpSdk.sell_quote_amm global_config fee_config
      (.Pool pool base_reserve quote_vault_balance base_mint_supply) amount slippage_bps = .ok quote)
    (hhop : multi_hop_pool_hop global_config fee_config pool base_reserve quote_vault_balance
      base_mint_supply false amount' legs = .ok out) : quote.amount ≤ out := by
  obtain ⟨hopen, real_quote, quote_reserve, rates, venue⟩ := multi_hop_pool_hop_venue hhop
  obtain ⟨quote_reserve', real_quote', heffective, hreal, hdirect⟩ :=
    map_amm_quote_source_pool_ok_iff.mp hdirect
  obtain rfl : quote_reserve = quote_reserve' :=
    Except.ok.inj (venue.effective.symm.trans heffective)
  obtain rfl : real_quote = real_quote' := Except.ok.inj (venue.real.symm.trans hreal)
  obtain ⟨res, hres, hdirect⟩ := Outcome.bind_eq_ok_iff.mp hdirect
  obtain ⟨-, -, bps, hbps, -, -, rfl⟩ := (sell_base_input_ok_iff rfl).mp hres
  obtain ⟨rfl, hcharged⟩ := hop_context_bps venue hbps
  obtain ⟨hfees, -, rfl⟩ := (venue.sell_ok_iff hopen rfl).mp hhop
  have hkept := (pool_hop_discounts pool legs bps).kept_le (hle.imp ?_ ?_) hfees (n :=
    swapOut amount.toNat base_reserve.toNat quote_reserve.toNat)
  · have hle_quote := fun n => swapOut_le n base_reserve.toNat quote_reserve.toNat
    have hquote_lt := U64.toNat_lt quote_reserve
    cases hdirect
    rw [UInt64.le_iff_toNat_le, hcharged]
    dsimp only [poolContext]
    rw [U64.toNat_cast_of_lt ((Nat.sub_le _ _).trans_lt ((hle_quote _).trans_lt hquote_lt)),
      U64.toNat_cast_of_lt ((Nat.sub_le _ _).trans_lt ((hle_quote _).trans_lt hquote_lt))]
    exact hkept
  · rintro rfl
    rfl
  · rintro ⟨hle, hcreator, hlp⟩
    exact ⟨swapOut_mono (UInt64.le_iff_toNat_le.mp hle) _ _,
      pool_hop_charged_le_one pool bps hcreator hlp⟩

end Pool

/-- The flag byte of a hop that leaves the creator's leg out. -/
theorem curve_flags_creator {legs : HopFees} (h : legs.creator = false) :
    legs.curve_flags &&& HOP_FEE_CREATOR = 0 := by
  rw [HopFees.curve_flags, h]
  cases legs.protocol with
  | true => rfl
  | false => rfl

namespace PumpSdk

section

variable [Build] [Solana] (global : Global) (pump_fee_config : FeeConfig)
  (global_config : GlobalConfig) (amm_fee_config : FeeConfig)

/-- The trade of one hop of a route on its own, every fee charged: the quoted
    buy or sell of its pool or of its curve. -/
def quote_direct (is_buy : Bool) (amount : UInt64) (slippage_bps : UInt16) (hop : RouteHop) :
    QuoteResult Quote :=
  match hop with
  | .Pool pool base_reserve quote_vault_balance base_mint_supply =>
    let source := .Pool pool base_reserve quote_vault_balance base_mint_supply
    if is_buy then buy_quote_amm_sol_in global_config amm_fee_config source amount slippage_bps
    else sell_quote_amm global_config amm_fee_config source amount slippage_bps
  | .Curve _ bonding_curve _ _ mint_supply base_ata_amount =>
    if is_buy then
      buy_quote_bonding_curve_v3_sol_in global pump_fee_config bonding_curve mint_supply
        base_ata_amount amount slippage_bps
    else sell_quote_bonding_curve global pump_fee_config bonding_curve mint_supply amount slippage_bps

/-- The hops of a route traded one by one, each with what the one before it
    paid out. -/
def quote_directs (is_buy : Bool) (slippage_bps : UInt16) (hops : List RouteHop) (amount_in : UInt64) :
    QuoteResult UInt64 :=
  hops.foldlM (fun amount hop => do
    let quote ← quote_direct global pump_fee_config global_config amm_fee_config is_buy amount
      slippage_bps hop
    .ok quote.amount) amount_in

end

section

variable [Build] [Solana] {global : Global} {pump_fee_config : FeeConfig}
  {global_config : GlobalConfig} {amm_fee_config : FeeConfig} {user : Pubkey}

/-- A hop of a route gives no less than the trade on its own: the first from
    the same amount, a later one, which charges the creator and LP fees on a buy
    or the protocol fee on a sell if anything, from no less. -/
theorem quote_direct_le_hop {is_buy : Bool} {slippage_bps : UInt16} {hops index : Nat}
    {hop : RouteHop} {amount amount' out : UInt64} {quote : Quote}
    (hle : amount = amount' ∨ amount ≤ amount' ∧ 0 < index)
    (hquote : quote_direct global pump_fee_config global_config amm_fee_config is_buy amount
      slippage_bps hop = .ok quote)
    (hhop : quote_hop global pump_fee_config global_config amm_fee_config user is_buy hops amount'
      (hop, index) = .ok out) : quote.amount ≤ out := by
  cases hop with
  | Pool pool base_reserve quote_vault_balance base_mint_supply =>
    cases is_buy with
    | true =>
      refine direct_pool_buy_le_hop (hle.imp_right fun ⟨hle, hindex⟩ => ⟨hle, ?_⟩) hquote hhop
      intro hall
      have hprotocol := congrArg HopFees.protocol hall
      simp [HopFees.for_hop] at hprotocol
      omega
    | false =>
      refine direct_pool_sell_le_hop (hle.imp_right fun ⟨hle, hindex⟩ => ⟨hle, ?_⟩) hquote hhop
      simp [HopFees.for_hop]
      omega
  | Curve mint bonding_curve base_token_program quote_token_program mint_supply base_ata_amount =>
    cases is_buy with
    | true =>
      obtain ⟨⟨tokens, charged⟩, htokens, hquote⟩ := Outcome.bind_eq_ok_iff.mp hquote
      cases hquote
      exact direct_curve_buy_le_hop (hle.elim (UInt64.le_of_eq ·) (·.1)) htokens hhop
    | false =>
      obtain ⟨sol_out, hsold, hquote⟩ := Outcome.bind_eq_ok_iff.mp hquote
      cases hquote
      refine direct_curve_sell_le_hop (hle.imp_right fun ⟨hle, hindex⟩ => ⟨hle, ?_⟩) hsold hhop
      apply curve_flags_creator
      simp [HopFees.for_hop]
      omega

/-- A route never gives less than its hops traded one by one. -/
theorem route_never_worse_than_direct (global : Global) (pump_fee_config : FeeConfig)
    (global_config : GlobalConfig) (amm_fee_config : FeeConfig) (user : Pubkey)
    {in_mint out_mint : Pubkey} {hops : List RouteHop} {is_buy : Bool} {amount direct : UInt64}
    {slippage_bps slippage_bps' : UInt16} {quote : Quote}
    (hroute : multi_hop_route in_mint (hops.map RouteHop.accounts) = .ok (is_buy, out_mint))
    (hquote : quote_multi_hop_swap global pump_fee_config global_config amm_fee_config user in_mint
      hops amount slippage_bps = .ok quote)
    (hdirects : quote_directs global pump_fee_config global_config amm_fee_config is_buy slippage_bps'
      hops amount = .ok direct) : direct ≤ quote.amount := by
  have hchain := quote_multi_hop_swap_chain hroute hquote
  have hlow := Chain.foldlM_eq_ok_iff.mp hdirects
  rw [← List.zipIdx_map_fst 0 hops, Chain.map_iff] at hlow
  cases hops with
  | nil => simp [multi_hop_route] at hroute
  | cons hop hops =>
    rw [List.zipIdx_cons, Chain.cons_iff] at hchain hlow
    obtain ⟨first, hfirst, hchain⟩ := hchain
    obtain ⟨first', hfirst', hlow⟩ := hlow
    obtain ⟨quote', hquote', hfirst'⟩ := Outcome.bind_eq_ok_iff.mp hfirst'
    cases hfirst'
    have hle := quote_direct_le_hop (Or.inl rfl) hquote' hfirst
    refine UInt64.le_iff_toNat_le.mpr (Chain.size_le_of_steps UInt64.toNat ?_
      (UInt64.le_iff_toNat_le.mp hle) hlow hchain)
    rintro ⟨later, index⟩ hmem before before' after after' hle hstep hstep'
    obtain ⟨quote', hquote', hstep⟩ := Outcome.bind_eq_ok_iff.mp hstep
    cases hstep
    exact UInt64.le_iff_toNat_le.mp (quote_direct_le_hop (Or.inr ⟨UInt64.le_iff_toNat_le.mpr hle,
      List.le_snd_of_mem_zipIdx hmem⟩) hquote' hstep')

end

/-- One SOL through the launch route, hop by hop and at once. -/
theorem route_never_worse_than_direct_launch :
    (58_632_660_215_442 : UInt64) ≤ 59_251_508_376_768 := by
  let _ : Build := ⟨true⟩
  let _ : Solana := graduatedPoolAuthority
  have hroute : multi_hop_route constants.NATIVE_MINT (launchRoute.map RouteHop.accounts) =
    .ok (true, ⟨11⟩) := by decide +kernel
  have hquote : quote_multi_hop_swap Global.default launchFees GlobalConfig.default launchFees ⟨1⟩
    constants.NATIVE_MINT launchRoute 1_000_000_000 100 =
    .ok ⟨59_251_508_376_768, 58_658_993_293_000, 1_000_000_000, 1_000_000_000⟩ := by decide +kernel
  have hdirects : quote_directs Global.default launchFees GlobalConfig.default launchFees true 100
    launchRoute 1_000_000_000 = .ok 58_632_660_215_442 := by decide +kernel
  exact route_never_worse_than_direct Global.default launchFees GlobalConfig.default launchFees ⟨1⟩
    hroute hquote hdirects

end PumpSdk

end pump_rust_client.sdk
