import PumpClient.Math.BondingCurve

open machine

namespace pump_rust_client.math.amm

open state state.pump_amm utils fees

/-- Quote reserves the pool prices against: vault balance plus the signed
    `virtual_quote_reserves`. -/
def effective_quote_reserve (pool : Pool) (quote_vault_balance : UInt64) : QuoteResult UInt64 :=
  Outcome.ok_or
    ((I128.checked_add (I128.from_u64 quote_vault_balance) pool.virtual_quote_reserves).bind
      fun v => U64.try_from_int v.val) .MathOverflow

/-- Bit 3 of `disable_flags` turns buys off, bit 4 sells. -/
def check_trading_enabled (global_config : GlobalConfig) (is_buy : Bool) : QuoteResult Unit :=
  let bit : UInt8 := if is_buy then 3 else 4
  if global_config.disable_flags &&& ((1 : UInt8) <<< bit) != 0 then Outcome.err .TradingDisabled
  else .ok ()

/-- Sum of the pool's un-swept fee buckets. -/
def fee_buckets_total (pool : Pool) : QuoteResult UInt64 :=
  Outcome.ok_or (U64.checked_add pool.protocol_fees pool.creator_fees) .MathOverflow

/-- Quote vault balance that is liquidity: balance minus the fee buckets. -/
def real_quote_reserve (pool : Pool) (quote_vault_balance : UInt64) : QuoteResult UInt64 := do
  Outcome.ok_or (U64.checked_sub quote_vault_balance (← fee_buckets_total pool)) .MathOverflow

structure BuyQuoteInputResult where
  base_amount_out : UInt64
  effective_quote : UInt64
  deriving DecidableEq

structure BuyBaseInputResult where
  total_quote_in : UInt64
  raw_quote_in : UInt64
  deriving DecidableEq

structure SellBaseInputResult where
  final_quote_out : UInt64
  raw_quote_out : UInt64
  deriving DecidableEq

/-- Common AMM trade context. -/
structure AmmContext where
  global_config : GlobalConfig
  fee_config : FeeConfig
  base_mint : Pubkey
  pool_creator : Pubkey
  coin_creator : Pubkey
  quote_mint : Pubkey
  creator_fee_bps : UInt64
  base_reserve : UInt64
  quote_reserve : UInt64
  base_mint_supply : UInt64
  real_quote_reserve : UInt64

def AmmContext.check_reserves (ctx : AmmContext) : QuoteResult Unit :=
  if ctx.base_reserve = 0 ∨ ctx.quote_reserve = 0 then Outcome.err .EmptyReserves else .ok ()

/-- Fee components one `multi_hop_swap` hop charges. -/
structure HopFees where
  protocol : Bool
  creator : Bool
  lp : Bool
  deriving DecidableEq

/-- The leg trading the user's currency pays the protocol fee, the leg trading
    the far coin the creator and LP fees. -/
def HopFees.for_hop (route_is_buy : Bool) (index hops : Nat) : HopFees :=
  let first := index == 0
  let last := index + 1 == hops
  let (protocol, target) := if route_is_buy then (first, last) else (last, first)
  { protocol, creator := target, lp := target }

/-- `multi_hop_curve_swap` flag byte: bit 0 protocol, bit 1 creator. -/
def HopFees.curve_flags (self : HopFees) : UInt8 :=
  let protocol : UInt8 := if self.protocol then 1 else 0
  let creator : UInt8 := if self.creator then 1 else 0
  protocol ||| (creator <<< (1 : UInt8))

section Trades

variable [Build] [Solana]

/-- The fee rates of a context's trades. -/
def AmmContext.fee_bps (ctx : AmmContext) : QuoteResult AmmFeeBps :=
  compute_amm_fee_bps ctx.global_config ctx.fee_config ctx.base_mint ctx.pool_creator ctx.quote_mint
    ctx.creator_fee_bps ctx.base_mint_supply ctx.base_reserve ctx.quote_reserve

/-- AMM buy: caller specifies quote input, gets tokens out. -/
def buy_quote_input (ctx : AmmContext) (quote_in : UInt64) : QuoteResult BuyQuoteInputResult := do
  check_trading_enabled ctx.global_config true
  ctx.check_reserves
  let bps ← ctx.fee_bps
  let coin_creator_bps := if ctx.coin_creator = Pubkey.default then 0 else bps.creator_fee_bps
  let net ← exact_in_fees quote_in (bps.lp_fee_bps, bps.protocol_fee_bps, coin_creator_bps)
  let paid ← U128.sub net.toNat 1
  let base_out ← swap_exact_input paid ctx.quote_reserve.toNat ctx.base_reserve.toNat
  if base_out = 0 then Outcome.err .ZeroAmount
  else .ok { base_amount_out := U64.cast base_out, effective_quote := net }

/-- AMM buy: caller specifies desired tokens out, gets total SOL cost. -/
def buy_base_input (ctx : AmmContext) (base_out : UInt64) : QuoteResult BuyBaseInputResult := do
  check_trading_enabled ctx.global_config true
  ctx.check_reserves
  if ctx.base_reserve ≤ base_out then Outcome.err .BaseOutExceedsReserve
  else
    let numerator ← U128.mul ctx.quote_reserve.toNat base_out.toNat
    let denominator ← U128.sub ctx.base_reserve.toNat base_out.toNat
    let raw_quote ← ceil_div numerator denominator
    let bps ← ctx.fee_bps
    let lp ← fee_amount raw_quote bps.lp_fee_bps
    let protocol ← fee_amount raw_quote bps.protocol_fee_bps
    let coin_creator ← creator_fee_amount ctx.coin_creator raw_quote bps.creator_fee_bps
    let total ← U128.add (← U128.add (← U128.add raw_quote lp) protocol) coin_creator
    .ok { total_quote_in := U64.cast total, raw_quote_in := U64.cast raw_quote }

/-- AMM sell: caller specifies tokens in, gets net SOL out. -/
def sell_base_input (ctx : AmmContext) (base_in : UInt64) : QuoteResult SellBaseInputResult := do
  check_trading_enabled ctx.global_config false
  ctx.check_reserves
  let product ← U128.mul ctx.quote_reserve.toNat base_in.toNat
  let raw_quote ← U128.div product (← U128.add ctx.base_reserve.toNat base_in.toNat)
  let bps ← ctx.fee_bps
  let lp ← fee_amount raw_quote bps.lp_fee_bps
  let protocol ← fee_amount raw_quote bps.protocol_fee_bps
  let coin_creator ← creator_fee_amount ctx.coin_creator raw_quote bps.creator_fee_bps
  let total_fee ← U128.add (← U128.add lp protocol) coin_creator
  if raw_quote < total_fee then Outcome.err .FeesExceedOutput
  else
    let final_quote ← U128.sub raw_quote total_fee
    -- The program pays from the real vault; the lp fee stays in the pool.
    if ctx.real_quote_reserve.toNat < (← U128.sub raw_quote lp) then
      Outcome.err .InsufficientRealQuoteReserves
    else .ok { final_quote_out := U64.cast final_quote, raw_quote_out := U64.cast raw_quote }

/-- Constant-product sell quote, fees not applied. -/
def sell_quote (pool_base_token_reserves pool_quote_token_reserves amount : UInt64) :
    QuoteResult Nat := do
  let denom ← Outcome.ok_or (U128.checked_add pool_base_token_reserves.toNat amount.toNat)
    .MathOverflow
  mul_div_u128 amount.toNat pool_quote_token_reserves.toNat denom

/-- Inverse of `sell_quote`: how many tokens must be sold for a desired SOL
    output, rounded down. -/
def sell_token_quote_with_sol (pool_base_token_reserves pool_quote_token_reserves sol_amount : UInt64) :
    QuoteResult Nat := do
  let denom ← Outcome.ok_or (U128.checked_sub pool_quote_token_reserves.toNat sol_amount.toNat)
    .MathOverflow
  mul_div_u128 sol_amount.toNat pool_base_token_reserves.toNat denom

/-- Pure constant-product buy quote on a pool, no fees applied. -/
def buy_token_quote_with_sol (pool_base_token_reserves pool_quote_token_reserves sol_amount : UInt64) :
    QuoteResult Nat := do
  let denom ← Outcome.ok_or (U128.checked_add pool_quote_token_reserves.toNat sol_amount.toNat)
    .MathOverflow
  mul_div_u128 sol_amount.toNat pool_base_token_reserves.toNat denom

/-- Validate that the pool's market cap is within `target_market_cap ±
    slippage_bps`, on the fixed `TOKEN_SUPPLY`. -/
def validate_market_cap (pool_base_token_reserves pool_quote_token_reserves : UInt64)
    (target_market_cap : Nat) (slippage_bps : UInt16) : QuoteResult Unit := do
  let current ← mul_div_u128 bonding_curve.TOKEN_SUPPLY pool_quote_token_reserves.toNat
    pool_base_token_reserves.toNat
  let (min, max) ← Outcome.ok_or (slippage_bounds target_market_cap slippage_bps) .MathOverflow
  if current < min ∨ current > max then Outcome.err .SlippageExceeded else .ok ()

/-- The fee rates `(lp, protocol, creator)` a pool hop charges. -/
def hop_fee_bps (pool : Pool) (legs : HopFees) (bps : AmmFeeBps) : UInt64 × UInt64 × UInt64 :=
  (if legs.lp then bps.lp_fee_bps else 0,
    if legs.protocol then bps.protocol_fee_bps else 0,
    if legs.creator && pool.coin_creator != Pubkey.default then bps.creator_fee_bps else 0)

/-- Output of one pool hop of `multi_hop_swap`, priced on the vaults before the
    hop and charging only the components in `legs`. -/
def multi_hop_pool_hop (global_config : GlobalConfig) (fee_config : FeeConfig) (pool : Pool)
    (base_reserve quote_vault_balance base_mint_supply : UInt64) (is_buy : Bool)
    (amount_in : UInt64) (legs : HopFees) : QuoteResult UInt64 := do
  check_trading_enabled global_config is_buy
  if !is_pump_pool pool.base_mint pool.creator || (legs.creator && pool.is_cashback_coin) ||
      pool.is_mayhem_mode then Outcome.err .VenueNotSupported
  else
    let real_quote ← real_quote_reserve pool quote_vault_balance
    let quote_reserve ← effective_quote_reserve pool quote_vault_balance
    if base_reserve = 0 ∨ quote_reserve = 0 then Outcome.err .EmptyReserves
    else
      let bps := hop_fee_bps pool legs
        (← compute_amm_fee_bps global_config fee_config pool.base_mint pool.creator pool.quote_mint
          pool.creator_fee_bps base_mint_supply base_reserve quote_reserve)
      if is_buy then
        let (_, fee₀, fee₁, fee₂) ← exact_in_fee_amounts amount_in bps
        let net ← Outcome.ok_or
          ((U64.checked_sub amount_in (← U64.sum [fee₀, fee₁, fee₂])).filter (0 < ·)) .ZeroAmount
        let paid ← U128.sub net.toNat 1
        let out ← swap_exact_input paid quote_reserve.toNat base_reserve.toNat
        if out = 0 then Outcome.err .ZeroAmount else .ok (U64.cast out)
      else
        let gross ← sell_quote base_reserve quote_reserve amount_in
        let lp ← fee_amount gross bps.1
        let protocol ← fee_amount gross bps.2.1
        let creator ← fee_amount gross bps.2.2
        let without_lp ← Outcome.ok_or (U128.checked_sub gross lp) .FeesExceedOutput
        if real_quote.toNat < without_lp then Outcome.err .InsufficientRealQuoteReserves
        else
          let out ← Outcome.ok_or (U128.checked_sub without_lp (← U128.add protocol creator))
            .FeesExceedOutput
          if out = 0 then Outcome.err .ZeroAmount else .ok (U64.cast out)

end Trades

end pump_rust_client.math.amm
