import PumpClient.Math.Amm.Totality
import PumpClient.Sdk.Routes
import PumpClient.Sdk.TokenOut

open machine exchange

namespace pump_rust_client.sdk

open state state.pump_amm math math.fees math.amm math.bonding_curve Outcome

theorem estimated_reserves_neverPanics (global : Global) (bonding_curve : BondingCurve) :
    NeverPanics (estimated_reserves global bonding_curve) := by
  apply (neverPanics_ok_or _ _).bind
  intro base_reserve _
  apply (neverPanics_ok_or _ _).bind
  intro quote_reserve _
  apply NeverPanics.ite
  · intro _
    exact neverPanics_err _
  · intro _
    exact neverPanics_ok _

/-- Neither a pool's reserves nor the estimate of a graduating curve's panics. -/
theorem AmmQuoteSource.context_neverPanics [Solana] (source : AmmQuoteSource)
    (global_config : GlobalConfig) (fee_config : FeeConfig) :
    NeverPanics (source.context global_config fee_config) := by
  cases source with
  | Pool pool base_reserve quote_reserve base_mint_supply =>
    apply (effective_quote_reserve_neverPanics _ _).bind
    intro effective _
    apply (real_quote_reserve_neverPanics _ _).bind
    intro real _
    exact neverPanics_ok _
  | BondingCurveComplete global bonding_curve base_mint base_mint_supply =>
    apply (estimated_reserves_neverPanics _ _).bind
    intro reserves _
    exact neverPanics_ok _

/-- What a token-out quote leaves unchecked: past its checks, that the cost of
    the trade computes. -/
def AmmQuoteSource.CostComputes [Build] [Solana] (source : AmmQuoteSource)
    (global_config : GlobalConfig) (fee_config : FeeConfig) (token_amount : UInt64) : Prop :=
  ∀ ctx, source.context global_config fee_config = .ok ctx →
    check_trading_enabled ctx.global_config true = .ok () → ctx.check_reserves = .ok () →
      token_amount < ctx.base_reserve → ∀ bps, ctx.fee_bps = .ok bps →
        math.amm.CostComputes ctx bps token_amount

section

variable [Build] [Solana] {global_config : GlobalConfig} {fee_config : FeeConfig}
  {source : AmmQuoteSource} {amount : UInt64} {slippage_bps : UInt16}

theorem sell_quote_amm_neverPanics :
    NeverPanics (PumpSdk.sell_quote_amm global_config fee_config source amount slippage_bps) := by
  rw [PumpSdk.sell_quote_amm, map_amm_quote_source_eq_bind]
  apply (source.context_neverPanics _ _).bind
  intro ctx _
  apply (sell_base_input_neverPanics ctx amount).bind
  intro res _
  exact neverPanics_ok _

theorem buy_quote_amm_token_out_neverPanics_iff (hchecks : Build.overflow_checks = true) :
    NeverPanics (PumpSdk.buy_quote_amm_token_out global_config fee_config source amount
        slippage_bps) ↔
      source.CostComputes global_config fee_config amount := by
  rw [PumpSdk.buy_quote_amm_token_out, map_amm_quote_source_eq_bind, neverPanics_bind_iff]
  constructor
  · rintro ⟨-, h⟩ ctx hctx
    exact (buy_base_input_neverPanics_iff hchecks).mp (neverPanics_bind_iff.mp (h ctx hctx)).1
  · intro h
    refine ⟨source.context_neverPanics _ _, fun ctx hctx => ?_⟩
    apply ((buy_base_input_neverPanics_iff hchecks).mpr (h ctx hctx)).bind
    intro res _
    exact neverPanics_ok _

end

section

variable [Build] {global : Global} {fee_config : FeeConfig} {bonding_curve : BondingCurve}
  {mint_supply token_amount : UInt64} {slippage_bps : UInt16}

theorem sell_quote_bonding_curve_neverPanics :
    NeverPanics (PumpSdk.sell_quote_bonding_curve global fee_config bonding_curve mint_supply
      token_amount slippage_bps) := by
  apply (sell_sol_amount_neverPanics token_amount).bind
  intro sol_out _
  exact neverPanics_ok _

theorem buy_quote_bonding_curve_token_out_neverPanics_iff :
    NeverPanics (PumpSdk.buy_quote_bonding_curve_token_out global fee_config bonding_curve mint_supply
        token_amount slippage_bps) ↔
      NeverPanics (buy_sol_amount_from_token_amount global fee_config bonding_curve mint_supply
        token_amount) := by
  rw [PumpSdk.buy_quote_bonding_curve_token_out, neverPanics_bind_iff]
  exact and_iff_left fun sol_cost _ => neverPanics_ok _

end

/-- The cost of a quoted trade computes, on the venue the quote is routed to.
    Nothing is asked of a sell. -/
def TradeQuoteParams.CostComputes [Build] [Solana] (params : TradeQuoteParams) : Prop :=
  params.is_buy = true →
    if params.bonding_curve.complete then
      ∀ p, params.pump_pool = some p →
        (AmmQuoteSource.Pool p.pool_state p.base_reserve p.quote_reserve
          params.base_mint_supply).CostComputes p.amm_global p.amm_fee_config params.base_amount
    else
      params.base_amount ≠ 0 →
        min params.base_amount.toNat params.bonding_curve.real_token_reserves.toNat <
          params.bonding_curve.virtual_token_reserves.toNat → ∀ bps,
        curve_fee_bps params.pump_global params.pump_fee_config params.bonding_curve
            params.base_mint_supply = .ok bps →
          PriceComputes bps (capped_price params.bonding_curve params.base_amount)

/-- Where the auto-routed quote is total. Built with overflow checks, so that
    every fault of an operator shows, it returns on exactly the purchases whose
    cost computes and on every sell, before and after the curve's completion. -/
theorem trade_quotes_return_iff [Solana] (params : TradeQuoteParams) :
    letI : Build := ⟨true⟩
    (∀ quote, PumpSdk.quote_trade params = some quote → NeverPanics quote) ↔ params.CostComputes := by
  let _ : Build := ⟨true⟩
  obtain ⟨is_buy, base_amount, slippage_bps, base_mint_supply, pump_global, pump_fee_config,
    bonding_curve, pump_pool⟩ := params
  unfold PumpSdk.quote_trade TradeQuoteParams.CostComputes
  dsimp only
  cases bonding_curve.complete with
  | true =>
    simp only [if_true]
    cases pump_pool with
    | none => simp
    | some p =>
      cases is_buy with
      | true => simp [buy_quote_amm_token_out_neverPanics_iff]
      | false => simp [sell_quote_amm_neverPanics]
  | false =>
    simp only [Bool.false_eq_true, if_false, Option.some.injEq, forall_eq']
    cases is_buy with
    | true =>
      simp only [if_true, forall_const]
      rw [buy_quote_bonding_curve_token_out_neverPanics_iff]
      exact buy_sol_amount_neverPanics_iff rfl
    | false => simp [sell_quote_bonding_curve_neverPanics]

/-- A pool, or a curve that has token reserves. -/
def RouteHop.HasReserves : RouteHop → Prop
  | .Pool .. => True
  | .Curve _ bonding_curve _ _ _ _ => bonding_curve.virtual_token_reserves ≠ 0

instance : DecidablePred RouteHop.HasReserves
  | .Pool .. => isTrue trivial
  | .Curve .. => inferInstanceAs (Decidable (_ ≠ _))

theorem multi_hop_step_neverPanics (state : Option Bool × Pubkey) (hop : MultiHopHop) :
    NeverPanics (PumpSdk.multi_hop_step state hop) := by
  refine NeverPanics.bind ?_ fun is_buy _ => ?_
  · apply NeverPanics.ite
    · intro _
      exact neverPanics_ok _
    · intro _
      exact NeverPanics.ite (fun _ => neverPanics_ok _) fun _ => neverPanics_err _
  · exact NeverPanics.ite (fun _ => neverPanics_err _) fun _ => neverPanics_ok _

theorem multi_hop_route_neverPanics (in_mint : Pubkey) (hops : List MultiHopHop) :
    NeverPanics (PumpSdk.multi_hop_route in_mint hops) := by
  apply (NeverPanics.foldlM (fun state hop _ => multi_hop_step_neverPanics state hop) _).bind
  intro last _
  apply (neverPanics_ok_or _ _).bind
  intro is_buy _
  exact neverPanics_ok _

/-- A hop of a route panics only on a curve without token reserves. -/
theorem quote_hop_neverPanics [Build] [Solana] {global : Global} {pump_fee_config : FeeConfig}
    {global_config : GlobalConfig} {amm_fee_config : FeeConfig} {user : Pubkey} {is_buy : Bool}
    {hops : Nat} {amount : UInt64} {hop : RouteHop × Nat} (h : hop.1.HasReserves) :
    NeverPanics (PumpSdk.quote_hop global pump_fee_config global_config amm_fee_config user is_buy hops
      amount hop) := by
  obtain ⟨venue, index⟩ := hop
  cases venue with
  | Pool pool base_reserve quote_vault_balance base_mint_supply =>
    exact multi_hop_pool_hop_neverPanics _ _ _ _ _ _ _ _ _
  | Curve mint bonding_curve base_token_program quote_token_program mint_supply base_ata_amount =>
    exact multi_hop_curve_hop_neverPanics_iff.mpr fun _ _ => h

/-- A route is quoted without a panic whatever its pools and its curves with
    token reserves hold, at every amount and under every fee schedule. -/
theorem quote_multi_hop_swap_neverPanics [Build] [Solana] (global : Global)
    (pump_fee_config : FeeConfig) (global_config : GlobalConfig) (amm_fee_config : FeeConfig)
    (user in_mint : Pubkey) {hops : List RouteHop} (h : ∀ hop ∈ hops, hop.HasReserves)
    (amount_in : UInt64) (slippage_bps : UInt16) :
    NeverPanics (PumpSdk.quote_multi_hop_swap global pump_fee_config global_config amm_fee_config user
      in_mint hops amount_in slippage_bps) := by
  apply NeverPanics.ite
  · intro _
    exact neverPanics_err _
  intro _
  apply (multi_hop_route_neverPanics _ _).bind
  rintro ⟨is_buy, out_mint⟩ _
  refine NeverPanics.bind ?_ fun amount _ => neverPanics_ok _
  apply NeverPanics.foldlM
  intro amount hop hmem
  exact quote_hop_neverPanics (h hop.1 (List.fst_mem_of_mem_zipIdx hmem))

/-- The swap of a route is built or refused: its first hop is there to look at
    once the route is one. -/
theorem multi_hop_swap_instructions_neverPanics [Solana]
    (user in_mint in_token_program out_token_program : Pubkey) (hops : List MultiHopHop)
    (buyback_fee_recipient : Pubkey) (amount_in min_amount_out : UInt64) :
    NeverPanics (PumpSdk.multi_hop_swap_instructions user in_mint in_token_program out_token_program
      hops buyback_fee_recipient amount_in min_amount_out) := by
  refine NeverPanics.bind ?_ fun swap _ => ?_
  · apply NeverPanics.ite
    · intro _
      exact neverPanics_err _
    · intro _
      exact (multi_hop_route_neverPanics _ _).bind fun _ _ => neverPanics_ok _
  apply (multi_hop_route_neverPanics _ _).bind
  rintro ⟨is_buy, out_mint⟩ hroute
  refine NeverPanics.bind ?_ fun _ _ => neverPanics_ok _
  apply NeverPanics.ite
  · intro _
    cases hops with
    | nil => exact absurd rfl (PumpSdk.multi_hop_route_ok_iff.mp hroute).1
    | cons hop hops => exact neverPanics_ok _
  · intro _
    exact neverPanics_ok _

end pump_rust_client.sdk
