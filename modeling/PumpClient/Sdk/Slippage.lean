import PumpClient.Math.BondingCurve.TokenOut
import PumpClient.Sdk.Routes
import PumpClient.Sdk.TokenOut

open machine exchange

namespace pump_rust_client.math.utils

/-- `value` with a tolerance on top, before it is put back into `u64`. -/
def withSlippage (value : UInt64) (bps : UInt16) : Nat := value.toNat * (10_000 + bps.toNat) / 10_000

theorem toNat_add_slippage (value : UInt64) (bps : UInt16) :
    (add_slippage value bps).toNat = withSlippage value bps % 2 ^ 64 := U64.toNat_cast _

theorem le_withSlippage (value : UInt64) (bps : UInt16) : value.toNat ≤ withSlippage value bps := by
  rw [withSlippage, Nat.le_div_iff_mul_le (by decide)]
  exact Nat.mul_le_mul_left _ (Nat.le_add_right _ _)

theorem withSlippage_mono (value : UInt64) {bps bps' : UInt16} (h : bps ≤ bps') :
    withSlippage value bps ≤ withSlippage value bps' := by
  have hle := UInt16.le_iff_toNat_le.mp h
  exact Nat.div_le_div_right (Nat.mul_le_mul_left _ (Nat.add_le_add_left hle _))

/-- Putting a bound back into `u64` loses nothing, or lands on the largest
    `u64` as saturating would. -/
def SlippageFits (value : UInt64) (bps : UInt16) : Prop :=
  withSlippage value bps < 2 ^ 64 ∨ withSlippage value bps % 2 ^ 64 = 2 ^ 64 - 1

theorem slippageFits_iff {value : UInt64} {bps : UInt16} :
    SlippageFits value bps ↔
      (add_slippage value bps).toNat = min (2 ^ 64 - 1) (withSlippage value bps) := by
  rw [toNat_add_slippage, SlippageFits]
  omega

end pump_rust_client.math.utils

namespace pump_rust_client.sdk

open state state.pump_amm math math.utils math.amm math.bonding_curve

/-- Where a quote's `min_out` comes from. -/
inductive Floor where
  | exact (tokens : UInt64)
  | slipped
  | slipped_to_one
  deriving DecidableEq

/-- Where a quote's `max_input` comes from: a budget as it stands, or a cost or
    budget with the tolerance on top. -/
inductive Ceiling where
  | exact (budget : UInt64)
  | slipped (v : UInt64)
  deriving DecidableEq

/-- What a quoter prices before it applies a tolerance. -/
structure Terms where
  amount : UInt64
  input_amount_used : UInt64
  floor : Floor
  ceiling : Ceiling
  deriving DecidableEq

namespace Terms

def min_out (t : Terms) (slippage_bps : UInt16) : UInt64 :=
  match t.floor with
  | .exact tokens => tokens
  | .slipped => sub_slippage t.amount slippage_bps
  | .slipped_to_one => max (sub_slippage t.amount slippage_bps) 1

theorem min_out_anti (t : Terms) {bps bps' : UInt16} (h : bps ≤ bps') :
    t.min_out bps' ≤ t.min_out bps := by
  have hanti := UInt64.le_iff_toNat_le.mp (sub_slippage_anti t.amount h)
  unfold min_out
  split
  · exact UInt64.le_refl _
  · exact sub_slippage_anti _ h
  · rw [UInt64.le_iff_toNat_le, U64.toNat_max, U64.toNat_max]
    omega

def max_input (t : Terms) (slippage_bps : UInt16) : UInt64 :=
  match t.ceiling with
  | .exact budget => budget
  | .slipped v => add_slippage v slippage_bps

def quote (slippage_bps : UInt16) (t : Terms) : Quote where
  amount := t.amount
  min_out := t.min_out slippage_bps
  input_amount_used := t.input_amount_used
  max_input := t.max_input slippage_bps

/-- An exact input: the tolerance is taken off the output. -/
def exactIn (amount used budget : UInt64) : Terms := ⟨amount, used, .slipped, .exact budget⟩

/-- A fixed output: the tolerance goes on top of the cost. -/
def exactOut (cost tokens : UInt64) : Terms := ⟨cost, tokens, .exact tokens, .slipped cost⟩

end Terms

/-- A call of one of the quoters, all but its tolerance. -/
inductive QuoteCall where
  | buy_quote_bonding_curve_sol_in (global : Global) (fee_config : FeeConfig)
      (bonding_curve : BondingCurve) (mint_supply sol_amount : UInt64)
  | buy_quote_bonding_curve_token_out (global : Global) (fee_config : FeeConfig)
      (bonding_curve : BondingCurve) (mint_supply token_amount : UInt64)
  | buy_quote_bonding_curve_v3_sol_in (global : Global) (fee_config : FeeConfig)
      (bonding_curve : BondingCurve) (mint_supply base_ata_amount sol_amount : UInt64)
  | buy_quote_bonding_curve_v3_token_out (global : Global) (fee_config : FeeConfig)
      (bonding_curve : BondingCurve) (mint_supply base_ata_amount token_amount : UInt64)
  | quote_multi_hop_swap (global : Global) (pump_fee_config : FeeConfig) (global_config : GlobalConfig)
      (amm_fee_config : FeeConfig) (user in_mint : Pubkey) (hops : List RouteHop) (amount_in : UInt64)
  | sell_quote_bonding_curve (global : Global) (fee_config : FeeConfig) (bonding_curve : BondingCurve)
      (mint_supply token_amount : UInt64)
  | buy_quote_amm_sol_in (global_config : GlobalConfig) (fee_config : FeeConfig)
      (source : AmmQuoteSource) (sol_amount : UInt64)
  | buy_quote_amm_token_out (global_config : GlobalConfig) (fee_config : FeeConfig)
      (source : AmmQuoteSource) (token_amount : UInt64)
  | sell_quote_amm (global_config : GlobalConfig) (fee_config : FeeConfig)
      (source : AmmQuoteSource) (token_amount : UInt64)
  | quote_trade (params : TradeQuoteParams)

namespace QuoteCall

section

variable [Build] [Solana]

/-- The call at a tolerance; `quote_trade` may have no quote to give. -/
def run (slippage_bps : UInt16) : QuoteCall → Option (QuoteResult Quote)
  | buy_quote_bonding_curve_sol_in global fee_config bonding_curve mint_supply sol_amount =>
    some (PumpSdk.buy_quote_bonding_curve_sol_in global fee_config bonding_curve mint_supply
      sol_amount slippage_bps)
  | buy_quote_bonding_curve_token_out global fee_config bonding_curve mint_supply token_amount =>
    some (PumpSdk.buy_quote_bonding_curve_token_out global fee_config bonding_curve mint_supply
      token_amount slippage_bps)
  | buy_quote_bonding_curve_v3_sol_in global fee_config bonding_curve mint_supply base_ata_amount
      sol_amount =>
    some (PumpSdk.buy_quote_bonding_curve_v3_sol_in global fee_config bonding_curve mint_supply
      base_ata_amount sol_amount slippage_bps)
  | buy_quote_bonding_curve_v3_token_out global fee_config bonding_curve mint_supply base_ata_amount
      token_amount =>
    some (PumpSdk.buy_quote_bonding_curve_v3_token_out global fee_config bonding_curve mint_supply
      base_ata_amount token_amount slippage_bps)
  | quote_multi_hop_swap global pump_fee_config global_config amm_fee_config user in_mint hops
      amount_in =>
    some (PumpSdk.quote_multi_hop_swap global pump_fee_config global_config amm_fee_config user
      in_mint hops amount_in slippage_bps)
  | sell_quote_bonding_curve global fee_config bonding_curve mint_supply token_amount =>
    some (PumpSdk.sell_quote_bonding_curve global fee_config bonding_curve mint_supply token_amount
      slippage_bps)
  | buy_quote_amm_sol_in global_config fee_config source sol_amount =>
    some (PumpSdk.buy_quote_amm_sol_in global_config fee_config source sol_amount slippage_bps)
  | buy_quote_amm_token_out global_config fee_config source token_amount =>
    some (PumpSdk.buy_quote_amm_token_out global_config fee_config source token_amount slippage_bps)
  | sell_quote_amm global_config fee_config source token_amount =>
    some (PumpSdk.sell_quote_amm global_config fee_config source token_amount slippage_bps)
  | quote_trade params => PumpSdk.quote_trade { params with slippage_bps }

/-- The four calls that `quote_trade` routes between, priced by the math
    layer. -/
def curveTokenOut (global : Global) (fee_config : FeeConfig) (bonding_curve : BondingCurve)
    (mint_supply token_amount : UInt64) : QuoteResult Terms := do
  let sol_cost ← math.bonding_curve.buy_sol_amount_from_token_amount global fee_config bonding_curve
    mint_supply token_amount
  .ok (.exactOut sol_cost (min token_amount bonding_curve.real_token_reserves))

def curveSell (global : Global) (fee_config : FeeConfig) (bonding_curve : BondingCurve)
    (mint_supply token_amount : UInt64) : QuoteResult Terms := do
  let sol_out ← math.bonding_curve.sell_sol_amount_from_token_amount global fee_config bonding_curve
    mint_supply token_amount
  .ok (.exactIn sol_out token_amount token_amount)

def ammTokenOut (global_config : GlobalConfig) (fee_config : FeeConfig) (source : AmmQuoteSource)
    (token_amount : UInt64) : QuoteResult Terms := do
  let res ← buy_base_input (← source.context global_config fee_config) token_amount
  .ok (.exactOut res.total_quote_in token_amount)

def ammSell (global_config : GlobalConfig) (fee_config : FeeConfig) (source : AmmQuoteSource)
    (token_amount : UInt64) : QuoteResult Terms := do
  let res ← sell_base_input (← source.context global_config fee_config) token_amount
  .ok (.exactIn res.final_quote_out token_amount token_amount)

/-- What the math layer prices for a call, whatever the tolerance. -/
def terms : QuoteCall → Option (QuoteResult Terms)
  | buy_quote_bonding_curve_sol_in global fee_config bonding_curve mint_supply sol_amount =>
    some do
      let tokens ← math.bonding_curve.buy_token_amount_from_sol_amount global fee_config
        bonding_curve mint_supply sol_amount
      let used ← (if tokens > 0 ∧ tokens ≥ bonding_curve.real_token_reserves then
          math.bonding_curve.buy_sol_amount_from_token_amount global fee_config bonding_curve
            mint_supply tokens
        else .ok sol_amount)
      .ok (.exactIn tokens used sol_amount)
  | buy_quote_bonding_curve_token_out global fee_config bonding_curve mint_supply token_amount =>
    some (curveTokenOut global fee_config bonding_curve mint_supply token_amount)
  | buy_quote_bonding_curve_v3_sol_in global fee_config bonding_curve mint_supply base_ata_amount
      sol_amount =>
    some do
      let (tokens, used) ← math.bonding_curve.buy_v3_token_amount_from_sol_amount global fee_config
        bonding_curve mint_supply base_ata_amount sol_amount
      .ok (.exactIn tokens used sol_amount)
  | buy_quote_bonding_curve_v3_token_out global fee_config bonding_curve mint_supply base_ata_amount
      token_amount =>
    some do
      let sol_cost ← math.bonding_curve.buy_v3_sol_amount_from_token_amount global fee_config
        bonding_curve mint_supply base_ata_amount token_amount
      .ok (.exactOut sol_cost (if bonding_curve.is_mayhem_mode then
          min token_amount bonding_curve.real_token_reserves
        else token_amount))
  | quote_multi_hop_swap global pump_fee_config global_config amm_fee_config user in_mint hops
      amount_in =>
    some (if amount_in = 0 then Outcome.err .ZeroAmount
      else do
        let (is_buy, _) ← PumpSdk.multi_hop_route in_mint (hops.map RouteHop.accounts)
        let amount ← hops.zipIdx.foldlM (PumpSdk.quote_hop global pump_fee_config global_config
          amm_fee_config user is_buy hops.length) amount_in
        .ok ⟨amount, amount_in, .slipped_to_one, .exact amount_in⟩)
  | sell_quote_bonding_curve global fee_config bonding_curve mint_supply token_amount =>
    some (curveSell global fee_config bonding_curve mint_supply token_amount)
  | buy_quote_amm_sol_in global_config fee_config source sol_amount =>
    some do
      let res ← buy_quote_input (← source.context global_config fee_config) sol_amount
      .ok ⟨res.base_amount_out, sol_amount, .slipped, .slipped sol_amount⟩
  | buy_quote_amm_token_out global_config fee_config source token_amount =>
    some (ammTokenOut global_config fee_config source token_amount)
  | sell_quote_amm global_config fee_config source token_amount =>
    some (ammSell global_config fee_config source token_amount)
  | quote_trade params =>
    if params.bonding_curve.complete then
      params.pump_pool.map fun p =>
        let source : AmmQuoteSource :=
          .Pool p.pool_state p.base_reserve p.quote_reserve params.base_mint_supply
        if params.is_buy then ammTokenOut p.amm_global p.amm_fee_config source params.base_amount
        else ammSell p.amm_global p.amm_fee_config source params.base_amount
    else
      some (if params.is_buy then
          curveTokenOut params.pump_global params.pump_fee_config params.bonding_curve
            params.base_mint_supply params.base_amount
        else
          curveSell params.pump_global params.pump_fee_config params.bonding_curve
            params.base_mint_supply params.base_amount)

omit [Solana] in
theorem quote_curveTokenOut (global : Global) (fee_config : FeeConfig) (bonding_curve : BondingCurve)
    (mint_supply token_amount : UInt64) (slippage_bps : UInt16) :
    PumpSdk.buy_quote_bonding_curve_token_out global fee_config bonding_curve mint_supply token_amount
        slippage_bps =
      Terms.quote slippage_bps <$>
        curveTokenOut global fee_config bonding_curve mint_supply token_amount := by
  simp only [PumpSdk.buy_quote_bonding_curve_token_out, curveTokenOut, map_bind]
  rfl

omit [Solana] in
theorem quote_curveSell (global : Global) (fee_config : FeeConfig) (bonding_curve : BondingCurve)
    (mint_supply token_amount : UInt64) (slippage_bps : UInt16) :
    PumpSdk.sell_quote_bonding_curve global fee_config bonding_curve mint_supply token_amount
        slippage_bps =
      Terms.quote slippage_bps <$>
        curveSell global fee_config bonding_curve mint_supply token_amount := by
  simp only [PumpSdk.sell_quote_bonding_curve, curveSell, map_bind]
  rfl

theorem quote_ammTokenOut (global_config : GlobalConfig) (fee_config : FeeConfig)
    (source : AmmQuoteSource) (token_amount : UInt64) (slippage_bps : UInt16) :
    PumpSdk.buy_quote_amm_token_out global_config fee_config source token_amount slippage_bps =
      Terms.quote slippage_bps <$> ammTokenOut global_config fee_config source token_amount := by
  simp only [PumpSdk.buy_quote_amm_token_out, map_amm_quote_source_eq_bind, ammTokenOut, map_bind]
  rfl

theorem quote_ammSell (global_config : GlobalConfig) (fee_config : FeeConfig)
    (source : AmmQuoteSource) (token_amount : UInt64) (slippage_bps : UInt16) :
    PumpSdk.sell_quote_amm global_config fee_config source token_amount slippage_bps =
      Terms.quote slippage_bps <$> ammSell global_config fee_config source token_amount := by
  simp only [PumpSdk.sell_quote_amm, map_amm_quote_source_eq_bind, ammSell, map_bind]
  rfl

/-- A call's quote is its terms at the tolerance. -/
theorem run_eq (call : QuoteCall) (slippage_bps : UInt16) :
    call.run slippage_bps = call.terms.map (Terms.quote slippage_bps <$> ·) := by
  cases call with
  | buy_quote_bonding_curve_sol_in =>
    simp only [run, terms, PumpSdk.buy_quote_bonding_curve_sol_in, Option.map_some, map_bind]
    rfl
  | buy_quote_bonding_curve_token_out =>
    simp only [run, terms, quote_curveTokenOut, Option.map_some]
  | buy_quote_bonding_curve_v3_sol_in =>
    simp only [run, terms, PumpSdk.buy_quote_bonding_curve_v3_sol_in, Option.map_some, map_bind]
    rfl
  | buy_quote_bonding_curve_v3_token_out =>
    simp only [run, terms, PumpSdk.buy_quote_bonding_curve_v3_token_out, Option.map_some, map_bind]
    rfl
  | quote_multi_hop_swap =>
    simp only [run, terms, PumpSdk.quote_multi_hop_swap, Option.map_some]
    split
    · rfl
    · simp only [map_bind]
      rfl
  | sell_quote_bonding_curve => simp only [run, terms, quote_curveSell, Option.map_some]
  | buy_quote_amm_sol_in =>
    simp only [run, terms, PumpSdk.buy_quote_amm_sol_in, map_amm_quote_source_eq_bind,
      Option.map_some, map_bind]
    rfl
  | buy_quote_amm_token_out => simp only [run, terms, quote_ammTokenOut, Option.map_some]
  | sell_quote_amm => simp only [run, terms, quote_ammSell, Option.map_some]
  | quote_trade params =>
    simp only [run, terms, PumpSdk.quote_trade, quote_curveTokenOut, quote_curveSell,
      quote_ammTokenOut, quote_ammSell]
    split
    · cases params.pump_pool with
      | none => rfl
      | some p => split <;> rfl
    · split <;> rfl

variable {call : QuoteCall} {slippage_bps : UInt16} {quote : Quote}

theorem run_eq_ok_iff : call.run slippage_bps = some (.ok quote) ↔
    ∃ t, call.terms = some (.ok t) ∧ quote = t.quote slippage_bps := by
  rw [run_eq, Option.map_eq_some_iff]
  constructor
  · rintro ⟨priced, hterms, h⟩
    cases priced with
    | error => cases h
    | ok t =>
      cases h
      exact ⟨t, hterms, rfl⟩
  · rintro ⟨t, hterms, rfl⟩
    exact ⟨.ok t, hterms, rfl⟩

/-- A priced route leaves something to promise at least one of. -/
theorem amount_pos_of_slipped_to_one {t : Terms} (h : call.terms = some (.ok t))
    (hfloor : t.floor = .slipped_to_one) : 0 < t.amount.toNat := by
  cases call with
  | quote_multi_hop_swap =>
    simp only [terms, Option.some.injEq] at h
    split at h
    · simp at h
    next hne =>
    obtain ⟨⟨is_buy, out_mint⟩, -, h⟩ := Outcome.bind_eq_ok_iff.mp h
    obtain ⟨amount, hquoted, h⟩ := Outcome.bind_eq_ok_iff.mp h
    cases h
    exact PumpSdk.quote_hops_pos (U64.ne_zero_iff.mp hne) (Chain.foldlM_eq_ok_iff.mp hquoted)
  | _ =>
    simp only [terms, curveTokenOut, curveSell, ammTokenOut, ammSell] at h
    grind [Outcome.bind_eq_ok_iff, Option.map_eq_some_iff, Terms.exactIn, Terms.exactOut]

/-- The bounds of a quote stand on the protective side of what was priced. A
    derived floor promises at most the amount, and less at a wider tolerance; a
    derived ceiling is the cost or budget with the tolerance on top, capped at
    the largest `u64`, and so at least that cost and more at a wider one. -/
structure Protective (call : QuoteCall) (slippage_bps : UInt16) (t : Terms) (quote : Quote) :
    Prop where
  min_out_le : (∀ tokens, t.floor ≠ .exact tokens) → quote.min_out ≤ quote.amount
  min_out_anti : (∀ tokens, t.floor ≠ .exact tokens) → ∀ wider quote', slippage_bps ≤ wider →
    call.run wider = some (.ok quote') → quote'.min_out ≤ quote.min_out
  max_input_eq : ∀ v, t.ceiling = .slipped v →
    quote.max_input.toNat = min (2 ^ 64 - 1) (withSlippage v slippage_bps)
  le_max_input : ∀ v, t.ceiling = .slipped v → v ≤ quote.max_input
  max_input_mono : ∀ v, t.ceiling = .slipped v → ∀ narrower quote', narrower ≤ slippage_bps →
    call.run narrower = some (.ok quote') → quote'.max_input ≤ quote.max_input

theorem min_out_le_amount {t : Terms} (hterms : call.terms = some (.ok t))
    (hderived : ∀ tokens, t.floor ≠ .exact tokens) (slippage_bps : UInt16) :
    t.min_out slippage_bps ≤ t.amount := by
  unfold Terms.min_out
  split
  · next tokens hfloor => exact absurd hfloor (hderived tokens)
  · exact UInt64.le_iff_toNat_le.mpr (sub_slippage_le _ _)
  · next hfloor =>
    have hpos := amount_pos_of_slipped_to_one hterms hfloor
    exact UInt64.le_iff_toNat_le.mpr (max_sub_slippage_bounds slippage_bps hpos).2

/-- The exact range of the slippage bounds: whatever a quoter returns, its
    bounds are protective precisely where the cost or budget it adds the
    tolerance to still fits `u64` with it. -/
theorem slippage_protective_iff (call : QuoteCall) (slippage_bps : UInt16) (quote : Quote)
    (h : call.run slippage_bps = some (.ok quote)) :
    ∃ t, call.terms = some (.ok t) ∧ quote = t.quote slippage_bps ∧
      (call.Protective slippage_bps t quote ↔
        ∀ v, t.ceiling = .slipped v → SlippageFits v slippage_bps) := by
  obtain ⟨t, hterms, rfl⟩ := run_eq_ok_iff.mp h
  have hrun : ∀ {bps quote'}, call.run bps = some (.ok quote') → quote' = t.quote bps := by
    intro bps quote' h'
    obtain ⟨t', hterms', rfl⟩ := run_eq_ok_iff.mp h'
    rw [hterms] at hterms'
    cases hterms'
    rfl
  have hmax : ∀ {v}, t.ceiling = .slipped v → ∀ bps,
      (t.quote bps).max_input = add_slippage v bps := by
    intro v hceiling bps
    simp only [Terms.quote, Terms.max_input, hceiling]
  refine ⟨t, hterms, rfl, ?_⟩
  constructor
  · intro hprotective v hceiling
    rw [slippageFits_iff, ← hmax hceiling]
    exact hprotective.max_input_eq v hceiling
  · intro hfits
    have hmax_eq : ∀ v, t.ceiling = .slipped v → (t.quote slippage_bps).max_input.toNat =
        min (2 ^ 64 - 1) (withSlippage v slippage_bps) := by
      intro v hceiling
      rw [hmax hceiling]
      exact slippageFits_iff.mp (hfits v hceiling)
    constructor
    · intro hderived
      exact min_out_le_amount hterms hderived slippage_bps
    · intro hderived wider quote' hwider h'
      rw [hrun h']
      exact t.min_out_anti hwider
    · exact hmax_eq
    · intro v hceiling
      have hlt := U64.toNat_lt v
      have hle := le_withSlippage v slippage_bps
      rw [UInt64.le_iff_toNat_le, hmax_eq v hceiling]
      omega
    · intro v hceiling narrower quote' hnarrower h'
      have hle := withSlippage_mono v hnarrower
      have hmod := Nat.mod_le (withSlippage v narrower) (2 ^ 64)
      have hmod_lt := Nat.mod_lt (withSlippage v narrower) (Nat.two_pow_pos 64)
      rw [hrun h', UInt64.le_iff_toNat_le, hmax_eq v hceiling, hmax hceiling, toNat_add_slippage]
      omega

end

/-- A token-out quote on the launch curve, with one percent on top of its
    cost. -/
theorem slippage_protective_launch :
    letI : Build := ⟨true⟩
    letI : Solana := graduatedPoolAuthority
    (buy_quote_bonding_curve_token_out Global.default launchFees launchCurve 0
      100_000_000_000_000).Protective 100 (.exactOut 3_129_496_404 100_000_000_000_000)
      ⟨3_129_496_404, 100_000_000_000_000, 100_000_000_000_000, 3_160_791_368⟩ := by
  let _ : Build := ⟨true⟩
  let _ : Solana := graduatedPoolAuthority
  have hpriced : (buy_quote_bonding_curve_token_out Global.default launchFees launchCurve 0
      100_000_000_000_000).terms = some (.ok (.exactOut 3_129_496_404 100_000_000_000_000)) := by
    decide +kernel
  obtain ⟨t, hterms, -, hprotective⟩ := slippage_protective_iff
    (buy_quote_bonding_curve_token_out Global.default launchFees launchCurve 0 100_000_000_000_000)
    100 ⟨3_129_496_404, 100_000_000_000_000, 100_000_000_000_000, 3_160_791_368⟩ (by decide +kernel)
  cases hpriced.symm.trans hterms
  refine hprotective.mpr fun v hceiling => ?_
  cases hceiling
  exact Or.inl (by decide)

/-- A cost past 0.8 of a `u64`, with a fifth on top: the bound wraps to less
    than two percent of the cost. -/
theorem slippage_bound_wraps :
    letI : Build := ⟨true⟩
    letI : Solana := graduatedPoolAuthority
    (buy_quote_bonding_curve_token_out Global.default launchFees exoticCurve 0
        650_000_000_000_000).run 2_000 =
      some (.ok ⟨15_596_926_713_947_990_545, 650_000_000_000_000, 650_000_000_000_000,
        269_567_983_028_037_038⟩) ∧
    ∀ t, (buy_quote_bonding_curve_token_out Global.default launchFees exoticCurve 0
        650_000_000_000_000).terms = some (.ok t) →
      ¬ (buy_quote_bonding_curve_token_out Global.default launchFees exoticCurve 0
        650_000_000_000_000).Protective 2_000 t
        ⟨15_596_926_713_947_990_545, 650_000_000_000_000, 650_000_000_000_000,
          269_567_983_028_037_038⟩ := by
  let _ : Build := ⟨true⟩
  let _ : Solana := graduatedPoolAuthority
  have hpriced : (buy_quote_bonding_curve_token_out Global.default launchFees exoticCurve 0
      650_000_000_000_000).terms =
      some (.ok (.exactOut 15_596_926_713_947_990_545 650_000_000_000_000)) := by decide +kernel
  refine ⟨by decide +kernel, fun t hterms hprotective => ?_⟩
  cases hpriced.symm.trans hterms
  exact absurd (hprotective.le_max_input _ rfl) (by decide)

end QuoteCall

end pump_rust_client.sdk
