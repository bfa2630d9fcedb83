import PumpClient.Math.Amm.TokenOut
import PumpClient.Math.BondingCurve.Quoters
import PumpClient.Sdk.Quotes

open machine exchange

namespace pump_rust_client.sdk

open state state.pump_amm math math.fees math.amm math.bonding_curve

/-- The trade context of a quote source, when there is one. -/
def AmmQuoteSource.context [Solana] (source : AmmQuoteSource) (global_config : GlobalConfig)
    (fee_config : FeeConfig) : QuoteResult AmmContext :=
  PumpSdk.map_amm_quote_source global_config fee_config source .ok

/-- A quote is taken on the context of its source. -/
theorem map_amm_quote_source_eq_bind [Solana] {R : Type} (global_config : GlobalConfig)
    (fee_config : FeeConfig) (source : AmmQuoteSource) (k : AmmContext → QuoteResult R) :
    PumpSdk.map_amm_quote_source global_config fee_config source k =
      source.context global_config fee_config >>= k := by
  cases source with
  | Pool pool base_reserve quote_reserve base_mint_supply =>
    simp only [AmmQuoteSource.context, PumpSdk.map_amm_quote_source, bind_assoc, Outcome.ok_bind]
  | BondingCurveComplete global bonding_curve base_mint base_mint_supply =>
    simp only [AmmQuoteSource.context, PumpSdk.map_amm_quote_source, bind_assoc, Outcome.ok_bind]

section

variable [Build] [Solana] {global_config : GlobalConfig} {fee_config : FeeConfig}
  {source : AmmQuoteSource} {token_amount : UInt64} {slippage_bps : UInt16}

theorem buy_quote_amm_token_out_ok_iff {quote : Quote} :
    PumpSdk.buy_quote_amm_token_out global_config fee_config source token_amount slippage_bps =
        .ok quote ↔
      ∃ ctx, source.context global_config fee_config = .ok ctx ∧
        ∃ res, buy_base_input ctx token_amount = .ok res ∧ quote = {
          amount := res.total_quote_in
          min_out := token_amount
          input_amount_used := token_amount
          max_input := utils.add_slippage res.total_quote_in slippage_bps } := by
  rw [PumpSdk.buy_quote_amm_token_out, map_amm_quote_source_eq_bind, Outcome.bind_eq_ok_iff]
  simp only [Outcome.bind_eq_ok_iff, Except.ok.injEq, eq_comm (a := quote)]

/-- A pool purchase that is quoted at its exact cost or not at all: never below
    the cost, and never less for more. -/
structure QuotesTokenOut (global_config : GlobalConfig) (fee_config : FeeConfig)
    (source : AmmQuoteSource) (token_amount : UInt64) (slippage_bps : UInt16) : Prop where
  exact : ∀ ctx, source.context global_config fee_config = .ok ctx → ExactOrRefused ctx token_amount
  not_below : ∀ ctx bps quote, source.context global_config fee_config = .ok ctx →
    ctx.fee_bps = .ok bps →
    PumpSdk.buy_quote_amm_token_out global_config fee_config source token_amount slippage_bps =
      .ok quote → ctx.total_quote bps token_amount ≤ quote.amount.toNat
  mono : ∀ smaller less quote, smaller ≤ token_amount →
    PumpSdk.buy_quote_amm_token_out global_config fee_config source smaller slippage_bps =
      .ok less →
    PumpSdk.buy_quote_amm_token_out global_config fee_config source token_amount slippage_bps =
      .ok quote → less.amount ≤ quote.amount

theorem quotesTokenOut_of_fits
    (hfits : ∀ ctx, source.context global_config fee_config = .ok ctx → TotalFits ctx token_amount) :
    QuotesTokenOut global_config fee_config source token_amount slippage_bps := by
  constructor
  · intro ctx hctx
    exact exactOrRefused_iff.mpr (hfits ctx hctx)
  · intro ctx bps quote hctx hbps hquote
    obtain ⟨_, hctx', res, hres, rfl⟩ := buy_quote_amm_token_out_ok_iff.mp hquote
    obtain rfl := Except.ok.inj (hctx.symm.trans hctx')
    obtain ⟨_, hbps', -, htotal⟩ := (exactOrRefused_iff.mpr (hfits ctx hctx)).exact res hres
    obtain rfl := Except.ok.inj (hbps.symm.trans hbps')
    exact htotal.ge
  · intro smaller less quote hle hless hquote
    obtain ⟨ctx, hctx, res, hres, rfl⟩ := buy_quote_amm_token_out_ok_iff.mp hquote
    obtain ⟨_, hctx', res', hres', rfl⟩ := buy_quote_amm_token_out_ok_iff.mp hless
    obtain rfl := Except.ok.inj (hctx.symm.trans hctx')
    obtain ⟨-, -, hlt, -⟩ := buy_base_input_ok hres
    have hfits' := (hfits ctx hctx).of_le hle hlt
    obtain ⟨bps, hbps, -, htotal⟩ := (exactOrRefused_iff.mpr (hfits ctx hctx)).exact res hres
    obtain ⟨_, hbps', -, htotal'⟩ := (exactOrRefused_iff.mpr hfits').exact res' hres'
    obtain rfl := Except.ok.inj (hbps.symm.trans hbps')
    have hmono := ctx.total_quote_mono (UInt64.le_iff_toNat_le.mp hle)
      (UInt64.lt_iff_toNat_lt.mp hlt) bps
    rw [UInt64.le_iff_toNat_le]
    dsimp only
    omega

/-- The exact range of the pool's token-out quotes: for every context, and for
    every quote source, they are exact or refused precisely where the cost of a
    trade that passes every check fits `u64`. -/
theorem pool_token_out_quotes_exact_iff :
    (∀ (ctx : AmmContext) (base_out : UInt64),
      ExactOrRefused ctx base_out ↔ TotalFits ctx base_out) ∧
    (∀ (global_config : GlobalConfig) (fee_config : FeeConfig) (source : AmmQuoteSource)
        (token_amount : UInt64) (slippage_bps : UInt16),
      QuotesTokenOut global_config fee_config source token_amount slippage_bps ↔
        ∀ ctx, source.context global_config fee_config = .ok ctx → TotalFits ctx token_amount) := by
  constructor
  · intro ctx base_out
    exact exactOrRefused_iff
  · intro global_config fee_config source token_amount slippage_bps
    constructor
    · intro h ctx hctx
      exact exactOrRefused_iff.mp (h.exact ctx hctx)
    · exact quotesTokenOut_of_fits

end

/-- All but one unit of an ordinary pool's base costs far more than a `u64`
    holds, and is quoted at what is left of the cost modulo `2 ^ 64`. -/
theorem pool_token_out_quote_truncated :
    letI : Build := ⟨true⟩
    letI : Solana := graduatedPoolAuthority
    (∃ quote, PumpSdk.buy_quote_amm_token_out GlobalConfig.default launchFees
        (.Pool graduatedPool 206_900_000_000_000 85_000_000_000 0) 206_899_999_999_999 0 = .ok quote ∧
      quote.amount = 9_399_152_186_750_956_819) ∧
    ∃ ctx, AmmQuoteSource.context (.Pool graduatedPool 206_900_000_000_000 85_000_000_000 0)
        GlobalConfig.default launchFees = .ok ctx ∧
      ctx.raw_quote 206_899_999_999_999 = 17_586_498_965_499_915_000_005_000 ∧
      ¬ ExactOrRefused ctx 206_899_999_999_999 := by
  let _ : Build := ⟨true⟩
  let _ : Solana := graduatedPoolAuthority
  refine ⟨⟨_, rfl, by decide +kernel⟩, _, rfl, by decide +kernel, ?_⟩
  rw [exactOrRefused_iff]
  intro hfits
  have hlt := hfits rfl rfl (by decide) _ rfl
  revert hlt
  decide +kernel

end pump_rust_client.sdk
