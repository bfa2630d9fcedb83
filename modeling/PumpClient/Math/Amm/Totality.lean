import PumpClient.Math.Amm.TokenOut
import PumpClient.Math.BondingCurve.Totality

open machine exchange

namespace pump_rust_client.math.amm

open state state.pump_amm utils fees Outcome

theorem effective_quote_reserve_neverPanics (pool : Pool) (quote_vault_balance : UInt64) :
    NeverPanics (effective_quote_reserve pool quote_vault_balance) := neverPanics_ok_or _ _

theorem real_quote_reserve_neverPanics (pool : Pool) (quote_vault_balance : UInt64) :
    NeverPanics (real_quote_reserve pool quote_vault_balance) :=
  (neverPanics_ok_or _ _).bind fun _ _ => neverPanics_ok_or _ _

theorem check_trading_enabled_neverPanics (global_config : GlobalConfig) (is_buy : Bool) :
    NeverPanics (check_trading_enabled global_config is_buy) := by
  rcases check_trading_enabled_cases global_config is_buy with hopen | hclosed
  · rw [hopen]
    exact neverPanics_ok _
  · rw [hclosed]
    exact neverPanics_err _

variable [Build] [Solana]

/-- The rates of a pool with base reserves are read without a panic. -/
theorem compute_amm_fee_bps_neverPanics (global_config : GlobalConfig) (fee_config : FeeConfig)
    (base_mint pool_creator quote_mint : Pubkey)
    (coin_creator_fee_bps base_mint_supply quote_reserve : UInt64) {base_reserve : UInt64}
    (hbase : 0 < base_reserve.toNat) :
    NeverPanics (compute_amm_fee_bps global_config fee_config base_mint pool_creator quote_mint
      coin_creator_fee_bps base_mint_supply base_reserve quote_reserve) := by
  have hproduct := U128.mul_lt (U64.toNat_lt quote_reserve) (U64.toNat_lt base_mint_supply)
  rw [compute_amm_fee_bps, pool_market_cap, U128.mul_eq_ok hproduct, ok_bind, U128.div_eq_ok hbase,
    ok_bind]
  apply (fees_for_quote_mint_neverPanics _ _ _ _).bind
  intro fees _
  exact neverPanics_ok _

/-- The cost of a trade computes: no product of a fee rate with the raw quote,
    and no sum, passes `u128`. -/
structure CostComputes (ctx : AmmContext) (bps : AmmFeeBps) (base_out : UInt64) : Prop where
  lp : ctx.raw_quote base_out * (ctx.charged_bps bps).1.toNat < 2 ^ 128
  protocol : ctx.raw_quote base_out * (ctx.charged_bps bps).2.1.toNat < 2 ^ 128
  creator : ctx.raw_quote base_out * (ctx.charged_bps bps).2.2.toNat < 2 ^ 128
  total : ctx.total_quote bps base_out < 2 ^ 128

variable {ctx : AmmContext}

theorem AmmContext.fee_bps_neverPanics (hreserves : ctx.check_reserves = .ok ()) :
    NeverPanics ctx.fee_bps :=
  compute_amm_fee_bps_neverPanics _ _ _ _ _ _ _ _ (AmmContext.check_reserves_eq_ok_iff.mp hreserves).1

omit [Build] [Solana] in
/-- What a trade does once trading is on and both reserves are there decides
    whether it panics. -/
theorem neverPanics_past_checks {α : Type} {is_buy : Bool} (trade : QuoteResult α)
    {rest : QuoteResult α}
    (htrade : trade = do
      check_trading_enabled ctx.global_config is_buy
      ctx.check_reserves
      rest)
    (h : check_trading_enabled ctx.global_config is_buy = .ok () → ctx.check_reserves = .ok () →
      NeverPanics trade) : NeverPanics trade := by
  rcases check_trading_enabled_cases ctx.global_config is_buy with hopen | hclosed
  swap
  · rw [htrade, hclosed, err_bind]
    exact neverPanics_err _
  rcases ctx.check_reserves_cases with hreserves | hempty
  swap
  · rw [htrade, hopen, ok_bind, hempty, err_bind]
    exact neverPanics_err _
  exact h hopen hreserves

theorem sell_base_input_neverPanics (ctx : AmmContext) (base_in : UInt64) :
    NeverPanics (sell_base_input ctx base_in) := by
  apply neverPanics_past_checks (sell_base_input ctx base_in) rfl
  intro hopen hreserves
  rw [sell_base_input_eq hopen hreserves rfl]
  apply (AmmContext.fee_bps_neverPanics hreserves).bind
  intro bps _
  apply NeverPanics.ite
  · intro _
    exact neverPanics_err _
  intro _
  apply NeverPanics.ite
  · intro _
    exact neverPanics_err _
  · intro _
    exact neverPanics_ok _

omit [Solana] in
/-- A creator fee is a fee at the rate that is charged, zero without a creator. -/
theorem AmmContext.creator_fee_amount_eq (ctx : AmmContext) (bps : AmmFeeBps) (amount : Nat) :
    creator_fee_amount ctx.coin_creator amount bps.creator_fee_bps =
      fee_amount amount (ctx.charged_bps bps).2.2 := by
  unfold creator_fee_amount AmmContext.charged_bps
  split
  · rw [fee_amount_eq (by simp)]
    simp
  · rfl

/-- The fees of a raw quote and its sum with them compute exactly when they
    fit. -/
theorem buy_base_input_neverPanics_of_bps (hchecks : Build.overflow_checks = true)
    {base_out : UInt64} {bps : AmmFeeBps}
    (hopen : check_trading_enabled ctx.global_config true = .ok ())
    (hreserves : ctx.check_reserves = .ok ()) (hlt : base_out < ctx.base_reserve)
    (hbps : ctx.fee_bps = .ok bps) :
    NeverPanics (buy_base_input ctx base_out) ↔ CostComputes ctx bps base_out := by
  have hfees := schedule_fees (ctx.charged_bps bps) (ctx.raw_quote base_out)
  have htotal : ctx.total_quote bps base_out = ctx.raw_quote base_out +
      (schedule (ctx.charged_bps bps)).fees (ctx.raw_quote base_out) := rfl
  rw [buy_base_input_eq hopen hreserves hlt hbps, ctx.creator_fee_amount_eq]
  constructor
  · intro h
    obtain ⟨hlp, h⟩ := neverPanics_bind_iff.mp h
    have hlp := (fee_amount_neverPanics_iff hchecks).mp hlp
    obtain ⟨hprotocol, h⟩ := neverPanics_bind_iff.mp (h _ (fee_amount_eq hlp))
    have hprotocol := (fee_amount_neverPanics_iff hchecks).mp hprotocol
    obtain ⟨hcreator, h⟩ := neverPanics_bind_iff.mp (h _ (fee_amount_eq hprotocol))
    have hcreator := (fee_amount_neverPanics_iff hchecks).mp hcreator
    obtain ⟨hwith_lp, h⟩ := neverPanics_bind_iff.mp (h _ (fee_amount_eq hcreator))
    have hwith_lp := (U128.add_neverPanics_iff hchecks).mp hwith_lp
    obtain ⟨hwith_protocol, h⟩ := neverPanics_bind_iff.mp (h _ (U128.add_eq_ok hwith_lp))
    have hwith_protocol := (U128.add_neverPanics_iff hchecks).mp hwith_protocol
    obtain ⟨hall, -⟩ := neverPanics_bind_iff.mp (h _ (U128.add_eq_ok hwith_protocol))
    have hall := (U128.add_neverPanics_iff hchecks).mp hall
    refine ⟨hlp, hprotocol, hcreator, ?_⟩
    rw [htotal, hfees, ← Nat.add_assoc, ← Nat.add_assoc]
    exact hall
  · intro h
    have hfits := h.total
    rw [htotal, hfees] at hfits
    simp only [schedule_fee] at hfits
    have hlp : fee_amount (ctx.raw_quote base_out) bps.lp_fee_bps =
        .ok ((ctx.raw_quote base_out * (ctx.charged_bps bps).1.toNat) ⌈/⌉ 10_000) :=
      fee_amount_eq h.lp
    have hprotocol : fee_amount (ctx.raw_quote base_out) bps.protocol_fee_bps =
        .ok ((ctx.raw_quote base_out * (ctx.charged_bps bps).2.1.toNat) ⌈/⌉ 10_000) :=
      fee_amount_eq h.protocol
    rw [hlp, ok_bind, hprotocol, ok_bind, fee_amount_eq h.creator,
      ok_bind, U128.add_eq_ok (lt_of_le_of_lt (by omega) hfits), ok_bind,
      U128.add_eq_ok (lt_of_le_of_lt (by omega) hfits), ok_bind,
      U128.add_eq_ok (lt_of_le_of_lt (by omega) hfits), ok_bind]
    exact neverPanics_ok _

/-- A token-out quote panics exactly where the cost of a trade that passes
    every check does not compute. -/
theorem buy_base_input_neverPanics_iff (hchecks : Build.overflow_checks = true)
    {base_out : UInt64} :
    NeverPanics (buy_base_input ctx base_out) ↔
      (check_trading_enabled ctx.global_config true = .ok () → ctx.check_reserves = .ok () →
        base_out < ctx.base_reserve → ∀ bps, ctx.fee_bps = .ok bps →
          CostComputes ctx bps base_out) := by
  constructor
  · intro h hopen hreserves hlt bps hbps
    exact (buy_base_input_neverPanics_of_bps hchecks hopen hreserves hlt hbps).mp h
  intro h
  apply neverPanics_past_checks (buy_base_input ctx base_out) rfl
  intro hopen hreserves
  by_cases hlt : base_out < ctx.base_reserve
  · cases hbps : ctx.fee_bps with
    | error e =>
      have hlt_nat := UInt64.lt_iff_toNat_lt.mp hlt
      have hbase_lt := U64.toNat_lt ctx.base_reserve
      have hproduct := U128.mul_lt (U64.toNat_lt ctx.quote_reserve) (U64.toNat_lt base_out)
      rw [buy_base_input, hopen, ok_bind, hreserves, ok_bind, if_neg (UInt64.not_le.mpr hlt),
        U128.mul_eq_ok hproduct, ok_bind, U128.sub_eq_ok hlt_nat.le (by omega), ok_bind,
        ceil_div_eq (by omega), ok_bind, hbps]
      exact (AmmContext.fee_bps_neverPanics hreserves).of_error hbps
    | ok bps =>
      exact (buy_base_input_neverPanics_of_bps hchecks hopen hreserves hlt hbps).mpr
        (h hopen hreserves hlt bps hbps)
  · rw [buy_base_input, hopen, ok_bind, hreserves, ok_bind, if_pos (UInt64.not_lt.mp hlt)]
    exact neverPanics_err _

/-- Past what it reads, a hop is the arithmetic of its venue, which fits. -/
theorem HopVenue.neverPanics {global_config : GlobalConfig} {fee_config : FeeConfig} {pool : Pool}
    {base_reserve quote_vault_balance base_mint_supply real_quote quote_reserve amount_in : UInt64}
    {is_buy : Bool} {legs : HopFees} {rates : UInt64 × UInt64 × UInt64}
    (venue : HopVenue global_config fee_config pool base_reserve quote_vault_balance base_mint_supply
      legs real_quote quote_reserve rates)
    (hopen : check_trading_enabled global_config is_buy = .ok ()) :
    NeverPanics (multi_hop_pool_hop global_config fee_config pool base_reserve quote_vault_balance
      base_mint_supply is_buy amount_in legs) := by
  cases is_buy with
  | true =>
    rw [venue.buy_eq hopen]
    exact NeverPanics.ite (fun _ => neverPanics_err _) fun _ => neverPanics_ok _
  | false =>
    rw [venue.sell_eq hopen rfl]
    apply NeverPanics.ite
    · intro _
      exact neverPanics_err _
    intro _
    apply NeverPanics.ite
    · intro _
      exact neverPanics_err _
    intro _
    apply NeverPanics.ite
    · intro _
      exact neverPanics_err _
    intro _
    apply NeverPanics.ite
    · intro _
      exact neverPanics_err _
    · intro _
      exact neverPanics_ok _

/-- A hop panics on no pool, whatever is stored in it. -/
theorem multi_hop_pool_hop_neverPanics (global_config : GlobalConfig) (fee_config : FeeConfig)
    (pool : Pool) (base_reserve quote_vault_balance base_mint_supply : UInt64) (is_buy : Bool)
    (amount_in : UInt64) (legs : HopFees) :
    NeverPanics (multi_hop_pool_hop global_config fee_config pool base_reserve quote_vault_balance
      base_mint_supply is_buy amount_in legs) := by
  apply (check_trading_enabled_neverPanics _ _).bind
  intro _ hopen
  apply NeverPanics.ite
  · intro _
    exact neverPanics_err _
  intro heligible
  apply (real_quote_reserve_neverPanics _ _).bind
  intro real_quote hreal
  apply (effective_quote_reserve_neverPanics _ _).bind
  intro quote_reserve heffective
  apply NeverPanics.ite
  · intro _
    exact neverPanics_err _
  intro hne
  have hbase := U64.ne_zero_iff.mp (not_or.mp hne).1
  apply (compute_amm_fee_bps_neverPanics _ _ _ _ _ _ _ _ hbase).bind
  intro bps hbps
  have venue := HopVenue.of_reads heligible hreal heffective hne hbps
  have hhop : NeverPanics (multi_hop_pool_hop global_config fee_config pool base_reserve
      quote_vault_balance base_mint_supply is_buy amount_in legs) := venue.neverPanics hopen
  rwa [multi_hop_pool_hop, hopen, ok_bind, if_neg heligible, hreal, ok_bind, heffective, ok_bind,
    if_neg hne, hbps, ok_bind] at hhop

end pump_rust_client.math.amm
