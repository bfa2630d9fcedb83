import PumpClient.Math.Amm
import PumpClient.Math.BondingCurve

open machine

namespace pump_rust_client.sdk

open state state.pump_amm math math.utils math.fees math.amm

/-- Quote output: `amount` is tokens-out or lamports-out. -/
structure Quote where
  amount : UInt64
  min_out : UInt64
  input_amount_used : UInt64
  max_input : UInt64
  deriving DecidableEq

/-- AMM quote inputs: live pool reserves, or a completed curve whose reserves
    are estimated. -/
inductive AmmQuoteSource where
  | Pool (pool : Pool) (base_reserve quote_reserve base_mint_supply : UInt64)
  | BondingCurveComplete (global : Global) (bonding_curve : BondingCurve) (base_mint : Pubkey)
      (base_mint_supply : UInt64)

namespace PumpSdk

def resolve_quote_mint (quote_mint : Pubkey) : Pubkey :=
  if quote_mint = Pubkey.default then constants.NATIVE_MINT else quote_mint

/-- A resolved quote resolves to itself. -/
theorem resolve_quote_mint_idem (quote_mint : Pubkey) :
    resolve_quote_mint (resolve_quote_mint quote_mint) = resolve_quote_mint quote_mint := by
  by_cases h : quote_mint = Pubkey.default
  · subst h
    decide
  · simp [resolve_quote_mint, h]

/-- The `BondingCurve` `create_v2` would initialize. -/
def initial_bonding_curve (global : Global) (creator quote_mint : Pubkey)
    (virtual_quote_reserves : UInt64) (mayhem_mode cashback : Bool) (creator_fee_bps : UInt64) :
    BondingCurve :=
  { BondingCurve.default with
    virtual_token_reserves := global.initial_virtual_token_reserves
    virtual_quote_reserves
    real_token_reserves := global.initial_real_token_reserves
    real_quote_reserves := 0
    token_total_supply := global.token_total_supply
    complete := false
    creator
    is_mayhem_mode := mayhem_mode
    is_cashback_coin := cashback
    quote_mint := resolve_quote_mint quote_mint
    creator_fee_bps
    can_edit_creator_fee := false
    initial_virtual_quote_reserves := virtual_quote_reserves }

end PumpSdk

/-- Supply used for the fee-tier market cap: mayhem coins price off the fixed
    total supply. -/
def fee_tier_supply (is_mayhem_mode : Bool) (base_mint_supply : UInt64) : UInt64 :=
  if is_mayhem_mode then U64.cast bonding_curve.TOKEN_SUPPLY else base_mint_supply

/-- Reserves `migrate_v2` deposits for a completed curve. -/
def estimated_reserves (global : Global) (bonding_curve : BondingCurve) :
    QuoteResult (UInt64 × UInt64) := do
  let base_reserve ← Outcome.ok_or
    ((U64.checked_sub bonding_curve.token_total_supply global.initial_real_token_reserves).bind
      fun base => U64.checked_sub base bonding_curve.post_complete_base_out) .EmptyReserves
  let migration_fee :=
    if is_sol_like_quote_mint bonding_curve.quote_mint then global.pool_migration_fee else 0
  let quote_reserve ← Outcome.ok_or
    ((U64.checked_add bonding_curve.real_quote_reserves bonding_curve.post_complete_quote_in).bind
      fun raised => U64.checked_sub raised migration_fee) .EmptyReserves
  if base_reserve = 0 ∨ quote_reserve = 0 then Outcome.err .EmptyReserves
  else .ok (base_reserve, quote_reserve)

namespace PumpSdk

/-- The trade context of a quote source, handed to `k`. -/
def map_amm_quote_source [Solana] {R : Type} (global_config : GlobalConfig) (fee_config : FeeConfig)
    (source : AmmQuoteSource) (k : AmmContext → QuoteResult R) : QuoteResult R :=
  match source with
  | .Pool pool base_reserve quote_reserve base_mint_supply => do
    let ctx : AmmContext := {
      global_config
      fee_config
      base_mint := pool.base_mint
      pool_creator := pool.creator
      coin_creator := pool.coin_creator
      quote_mint := pool.quote_mint
      creator_fee_bps := pool.creator_fee_bps
      base_reserve
      quote_reserve := ← effective_quote_reserve pool quote_reserve
      base_mint_supply := fee_tier_supply pool.is_mayhem_mode base_mint_supply
      real_quote_reserve := ← real_quote_reserve pool quote_reserve }
    k ctx
  | .BondingCurveComplete global bonding_curve base_mint base_mint_supply => do
    let (base_reserve, quote_reserve) ← estimated_reserves global bonding_curve
    let ctx : AmmContext := {
      global_config
      fee_config
      base_mint
      pool_creator := (pda.pump.pool_authority base_mint).1
      coin_creator := bonding_curve.creator
      quote_mint := bonding_curve.quote_mint
      creator_fee_bps := bonding_curve.creator_fee_bps
      base_reserve
      quote_reserve
      base_mint_supply := fee_tier_supply bonding_curve.is_mayhem_mode base_mint_supply
      real_quote_reserve := quote_reserve }
    k ctx

section Curve

variable [Build]

/-- Bonding curve buy: SOL in → tokens out. -/
def buy_quote_bonding_curve_sol_in (global : Global) (fee_config : FeeConfig)
    (bonding_curve : BondingCurve) (mint_supply sol_amount : UInt64) (slippage_bps : UInt16) :
    QuoteResult Quote := do
  let tokens_out ← math.bonding_curve.buy_token_amount_from_sol_amount global fee_config
    bonding_curve mint_supply sol_amount
  let input_amount_used ←
    (if tokens_out > 0 ∧ tokens_out ≥ bonding_curve.real_token_reserves then
      math.bonding_curve.buy_sol_amount_from_token_amount global fee_config bonding_curve mint_supply
        tokens_out
    else .ok sol_amount)
  .ok {
    amount := tokens_out
    min_out := sub_slippage tokens_out slippage_bps
    input_amount_used
    max_input := sol_amount }

/-- Bonding curve buy: fixed token out → SOL cost. -/
def buy_quote_bonding_curve_token_out (global : Global) (fee_config : FeeConfig)
    (bonding_curve : BondingCurve) (mint_supply token_amount : UInt64) (slippage_bps : UInt16) :
    QuoteResult Quote := do
  let sol_cost ← math.bonding_curve.buy_sol_amount_from_token_amount global fee_config bonding_curve
    mint_supply token_amount
  let tokens := min token_amount bonding_curve.real_token_reserves
  .ok {
    amount := sol_cost
    min_out := tokens
    input_amount_used := tokens
    max_input := add_slippage sol_cost slippage_bps }

/-- v3 bonding curve buy: quote in → tokens out, past completion too. -/
def buy_quote_bonding_curve_v3_sol_in (global : Global) (fee_config : FeeConfig)
    (bonding_curve : BondingCurve) (mint_supply base_ata_amount sol_amount : UInt64)
    (slippage_bps : UInt16) : QuoteResult Quote := do
  let (tokens_out, input_amount_used) ← math.bonding_curve.buy_v3_token_amount_from_sol_amount global
    fee_config bonding_curve mint_supply base_ata_amount sol_amount
  .ok {
    amount := tokens_out
    min_out := sub_slippage tokens_out slippage_bps
    input_amount_used
    max_input := sol_amount }

/-- v3 bonding curve buy: fixed token out → quote cost; a mayhem curve fills
    only the remainder. -/
def buy_quote_bonding_curve_v3_token_out (global : Global) (fee_config : FeeConfig)
    (bonding_curve : BondingCurve) (mint_supply base_ata_amount token_amount : UInt64)
    (slippage_bps : UInt16) : QuoteResult Quote := do
  let sol_cost ← math.bonding_curve.buy_v3_sol_amount_from_token_amount global fee_config
    bonding_curve mint_supply base_ata_amount token_amount
  let tokens := if bonding_curve.is_mayhem_mode then
      min token_amount bonding_curve.real_token_reserves
    else token_amount
  .ok {
    amount := sol_cost
    min_out := tokens
    input_amount_used := tokens
    max_input := add_slippage sol_cost slippage_bps }

/-- Bonding curve sell. -/
def sell_quote_bonding_curve (global : Global) (fee_config : FeeConfig) (bonding_curve : BondingCurve)
    (mint_supply token_amount : UInt64) (slippage_bps : UInt16) : QuoteResult Quote := do
  let sol_out ← math.bonding_curve.sell_sol_amount_from_token_amount global fee_config bonding_curve
    mint_supply token_amount
  .ok {
    amount := sol_out
    min_out := sub_slippage sol_out slippage_bps
    input_amount_used := token_amount
    max_input := token_amount }

end Curve

section Amm

variable [Build] [Solana]

/-- AMM buy: quote in. -/
def buy_quote_amm_sol_in (global_config : GlobalConfig) (fee_config : FeeConfig)
    (source : AmmQuoteSource) (sol_amount : UInt64) (slippage_bps : UInt16) : QuoteResult Quote :=
  map_amm_quote_source global_config fee_config source fun ctx => do
    let res ← buy_quote_input ctx sol_amount
    .ok {
      amount := res.base_amount_out
      min_out := sub_slippage res.base_amount_out slippage_bps
      input_amount_used := sol_amount
      max_input := add_slippage sol_amount slippage_bps }

/-- AMM buy: token amount out. -/
def buy_quote_amm_token_out (global_config : GlobalConfig) (fee_config : FeeConfig)
    (source : AmmQuoteSource) (token_amount : UInt64) (slippage_bps : UInt16) : QuoteResult Quote :=
  map_amm_quote_source global_config fee_config source fun ctx => do
    let res ← buy_base_input ctx token_amount
    .ok {
      amount := res.total_quote_in
      min_out := token_amount
      input_amount_used := token_amount
      max_input := add_slippage res.total_quote_in slippage_bps }

/-- AMM sell. -/
def sell_quote_amm (global_config : GlobalConfig) (fee_config : FeeConfig)
    (source : AmmQuoteSource) (token_amount : UInt64) (slippage_bps : UInt16) : QuoteResult Quote :=
  map_amm_quote_source global_config fee_config source fun ctx => do
    let res ← sell_base_input ctx token_amount
    .ok {
      amount := res.final_quote_out
      min_out := sub_slippage res.final_quote_out slippage_bps
      input_amount_used := token_amount
      max_input := token_amount }

end Amm

end PumpSdk

/-- `pump_amm` pool quote inputs. -/
structure PumpPoolQuoteCtx where
  amm_global : GlobalConfig
  amm_fee_config : FeeConfig
  pool_state : Pool
  base_reserve : UInt64
  quote_reserve : UInt64

/-- `quote_trade` parameters; `pump_pool` is required when the curve is
    complete. -/
structure TradeQuoteParams where
  is_buy : Bool
  base_amount : UInt64
  slippage_bps : UInt16
  base_mint_supply : UInt64
  pump_global : Global
  pump_fee_config : FeeConfig
  bonding_curve : BondingCurve
  pump_pool : Option PumpPoolQuoteCtx

/-- Auto-routed quote: bonding curve, or AMM once the curve is complete. `none`
    when it is and no pool was supplied. -/
def PumpSdk.quote_trade [Build] [Solana] (params : TradeQuoteParams) : Option (QuoteResult Quote) :=
  let ⟨is_buy, base_amount, slippage_bps, base_mint_supply, pump_global, pump_fee_config,
    bonding_curve, pump_pool⟩ := params
  if bonding_curve.complete then do
    let p ← pump_pool
    let source : AmmQuoteSource :=
      .Pool p.pool_state p.base_reserve p.quote_reserve base_mint_supply
    some (if is_buy then
        buy_quote_amm_token_out p.amm_global p.amm_fee_config source base_amount slippage_bps
      else sell_quote_amm p.amm_global p.amm_fee_config source base_amount slippage_bps)
  else
    some (if is_buy then
        buy_quote_bonding_curve_token_out pump_global pump_fee_config bonding_curve base_mint_supply
          base_amount slippage_bps
      else
        sell_quote_bonding_curve pump_global pump_fee_config bonding_curve base_mint_supply
          base_amount slippage_bps)

end pump_rust_client.sdk
