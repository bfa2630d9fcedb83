import PumpClient.Math.Fees

open machine

namespace pump_rust_client.math.bonding_curve

open state utils fees

/-- Fixed curve supply: 1B tokens × 10^6 decimals. -/
def TOKEN_SUPPLY : Nat := 1_000_000_000_000_000

/-- `multi_hop_curve_swap` `hop_fees` bits. -/
def HOP_FEE_PROTOCOL : UInt8 := (1 : UInt8) <<< 0

def HOP_FEE_CREATOR : UInt8 := (1 : UInt8) <<< 1

/-- A complete curve, or a cashback curve where a creator fee is charged, is
    refused. -/
def check_curve_open (bonding_curve : BondingCurve) (allow_cashback : Bool) : QuoteResult Unit :=
  if bonding_curve.complete || (bonding_curve.is_cashback_coin && !allow_cashback) then
    Outcome.err .VenueNotSupported
  else .ok ()

/-- Supply the curve's fee-tier market cap uses. -/
def curve_tier_supply (curve : BondingCurve) (mint_supply : UInt64) : UInt64 :=
  if curve.is_mayhem_mode then curve.token_total_supply else mint_supply

variable [Build]

/-- `[protocol, creator]` bps of a curve trade; creator 0 on a creator-less
    curve. -/
def curve_fee_bps (global : Global) (fee_config : FeeConfig) (bonding_curve : BondingCurve)
    (mint_supply : UInt64) : QuoteResult (UInt64 × UInt64) := do
  let bps ← compute_bonding_curve_fee_bps global fee_config bonding_curve.quote_mint
    bonding_curve.creator_fee_bps (curve_tier_supply bonding_curve mint_supply)
    bonding_curve.virtual_quote_reserves bonding_curve.virtual_token_reserves
  .ok (bps.protocol_fee_bps,
    if bonding_curve.creator ≠ Pubkey.default then bps.creator_fee_bps else 0)

/-- `amount` plus its ceil'd protocol and creator fees. -/
def with_fees (amount : UInt64) (bps : UInt64 × UInt64) : QuoteResult Nat := do
  let protocol ← fee_amount amount.toNat bps.1
  let cost ← U128.add amount.toNat protocol
  let creator ← fee_amount amount.toNat bps.2
  U128.add cost creator

/-- `amount * vq / (vt - amount) + 1`. -/
def buy_quote (bonding_curve : BondingCurve) (amount : UInt64) : QuoteResult UInt64 :=
  if amount = 0 then Outcome.err .ZeroAmount
  else do
    let denom ← Outcome.ok_or
      ((U128.checked_sub bonding_curve.virtual_token_reserves.toNat amount.toNat).filter (0 < ·))
      .DepletedBondingCurve
    let cost ← mul_div_u128 amount.toNat bonding_curve.virtual_quote_reserves.toNat denom
    let cost ← U128.add cost 1
    Outcome.ok_or (U64.try_from cost) .MathOverflow

/-- Fee in lamports for a quote amount. -/
def fee_for_quote (global : Global) (fee_config : FeeConfig) (bonding_curve : BondingCurve)
    (mint_supply : UInt64) (amount : Nat) : QuoteResult Nat := do
  let bps ← curve_fee_bps global fee_config bonding_curve mint_supply
  let protocol ← fee_amount amount bps.1
  let creator ← fee_amount amount bps.2
  U128.add protocol creator

/-- The `(base, quote)` reserves `migrate_v2` would deposit once the curve leg
    completes the curve. -/
def pool_to_be (global : Global) (bonding_curve : BondingCurve) (base_ata_amount : UInt64)
    (is_legacy : Bool) (curve_tokens curve_net_quote : UInt64) : QuoteResult (UInt64 × UInt64) := do
  let base ← Outcome.ok_or (U64.checked_sub base_ata_amount curve_tokens) .MathOverflow
  let raised ← Outcome.ok_or (U64.checked_add bonding_curve.real_quote_reserves curve_net_quote)
    .MathOverflow
  let quote ← (if is_legacy then
      Outcome.ok_or (U64.checked_sub raised global.pool_migration_fee) .MathOverflow
    else .ok raised)
  if base = 0 ∨ quote = 0 then Outcome.err .EmptyReserves else .ok (base, quote)

/-- `(base_out, quote charged)` that `budget` buys from the pool-to-be, or
    `none` when it buys nothing. With `whole_budget` the shaved rounding
    remainder goes into the pool too. -/
def post_complete_leg_exact_quote (pool : UInt64 × UInt64) (bps : UInt64 × UInt64)
    (budget : UInt64) (whole_budget : Bool) : QuoteResult (Option (UInt64 × UInt64)) := do
  let total_bps ← U128.add bps.1.toNat bps.2.toNat
  let floor ← U128.div (← U128.mul budget.toNat 10_000) (← U128.add 10_000 total_bps)
  if floor < 2 then .ok none
  else
    let (net, fee, creator_fee, _) ← exact_in_fee_amounts budget (bps.1, bps.2, 0)
    let quote_in ← (if whole_budget then do
        Outcome.ok_or (U64.checked_sub budget (← U64.add fee creator_fee)) .MathOverflow
      else .ok net)
    let paid ← U64.sub quote_in 1
    let base_out ← swap_exact_input paid.toNat pool.2.toNat pool.1.toNat
    if base_out = 0 then .ok none
    else
      let charged ← U64.add (← U64.add quote_in fee) creator_fee
      .ok (some (U64.cast base_out, charged))

/-- `buy_token_amount_from_sol_amount` before the `real_token_reserves` cap. -/
def buy_tokens_exact_in (global : Global) (fee_config : FeeConfig) (bonding_curve : BondingCurve)
    (mint_supply sol_amount : UInt64) : QuoteResult Nat :=
  if sol_amount = 0 ∨ bonding_curve.virtual_token_reserves = 0 then .ok 0
  else if bonding_curve.virtual_quote_reserves = 0 then Outcome.err .EmptyReserves
  else do
    let bps ← curve_fee_bps global fee_config bonding_curve mint_supply
    match exact_in_fees sol_amount (bps.1, bps.2, 0) with
    | .ok net => do
      let paid ← U128.sub net.toNat 1
      swap_exact_input paid bonding_curve.virtual_quote_reserves.toNat
        bonding_curve.virtual_token_reserves.toNat
    | .error (.error .ZeroAmount) => .ok 0
    | .error e => .error e

/-- Tokens received for a quote input on the bonding curve, after fees, capped
    at `real_token_reserves`. -/
def buy_token_amount_from_sol_amount (global : Global) (fee_config : FeeConfig)
    (bonding_curve : BondingCurve) (mint_supply sol_amount : UInt64) : QuoteResult UInt64 := do
  let tokens ← buy_tokens_exact_in global fee_config bonding_curve mint_supply sol_amount
  .ok (U64.cast (min tokens bonding_curve.real_token_reserves.toNat))

/-- SOL needed to buy a desired token amount on the bonding curve, including
    fees, truncated to `u64`. -/
def buy_sol_amount_from_token_amount (global : Global) (fee_config : FeeConfig)
    (bonding_curve : BondingCurve) (mint_supply token_amount : UInt64) : QuoteResult UInt64 :=
  if token_amount = 0 ∨ bonding_curve.virtual_token_reserves = 0 then .ok 0
  else
    let min_amount := min token_amount.toNat bonding_curve.real_token_reserves.toNat
    if bonding_curve.virtual_token_reserves.toNat ≤ min_amount then Outcome.err .DepletedBondingCurve
    else do
      let product ← U128.mul min_amount bonding_curve.virtual_quote_reserves.toNat
      let rest ← U128.sub bonding_curve.virtual_token_reserves.toNat min_amount
      let sol_cost ← U128.add (← U128.div product rest) 1
      let fee ← fee_for_quote global fee_config bonding_curve mint_supply sol_cost
      .ok (U64.cast (← U128.add sol_cost fee))

/-- SOL received for selling a token amount on the bonding curve, after
    subtracting fees. -/
def sell_sol_amount_from_token_amount (global : Global) (fee_config : FeeConfig)
    (bonding_curve : BondingCurve) (mint_supply token_amount : UInt64) : QuoteResult UInt64 :=
  if token_amount = 0 ∨ bonding_curve.virtual_token_reserves = 0 then .ok 0
  else do
    let product ← U128.mul token_amount.toNat bonding_curve.virtual_quote_reserves.toNat
    let denom ← U128.add bonding_curve.virtual_token_reserves.toNat token_amount.toNat
    let sol_out ← U128.div product denom
    let fee ← fee_for_quote global fee_config bonding_curve mint_supply sol_out
    let left ← I128.sub (I128.cast sol_out) (I128.cast fee)
    if left.val < 0 then Outcome.err .FeesExceedOutput
    else .ok (U64.cast (← U128.sub sol_out fee))

/-- Quote cost of a `buy_v3` of `token_amount`, fees included. -/
def buy_v3_sol_amount_from_token_amount (global : Global) (fee_config : FeeConfig)
    (bonding_curve : BondingCurve) (mint_supply base_ata_amount token_amount : UInt64) :
    QuoteResult UInt64 := do
  check_curve_open bonding_curve false
  let remaining := bonding_curve.real_token_reserves
  if token_amount ≤ remaining ∨ bonding_curve.is_mayhem_mode then
    buy_sol_amount_from_token_amount global fee_config bonding_curve mint_supply token_amount
  else
    let bps ← curve_fee_bps global fee_config bonding_curve mint_supply
    let sol_cost ← buy_quote bonding_curve remaining
    let is_legacy := is_sol_like_quote_mint bonding_curve.quote_mint
    let (pool_base, pool_quote) ←
      pool_to_be global bonding_curve base_ata_amount is_legacy remaining sol_cost
    let past ← U64.sub token_amount remaining
    if pool_base ≤ past then Outcome.err .BaseOutExceedsReserve
    else
      let product ← U128.mul pool_quote.toNat past.toNat
      let rest ← U64.sub pool_base past
      let quote_in ← Outcome.ok_or (U64.try_from (← ceil_div product rest.toNat)) .MathOverflow
      let curve_total ← with_fees sol_cost bps
      let leg_total ← with_fees quote_in bps
      Outcome.ok_or (U64.try_from (← U128.add curve_total leg_total)) .MathOverflow

/-- `(tokens, quote charged)` of a `buy_exact_quote_in_v3` spending
    `sol_amount`. -/
def buy_v3_token_amount_from_sol_amount (global : Global) (fee_config : FeeConfig)
    (bonding_curve : BondingCurve) (mint_supply base_ata_amount sol_amount : UInt64) :
    QuoteResult (UInt64 × UInt64) := do
  check_curve_open bonding_curve false
  let tokens ← buy_tokens_exact_in global fee_config bonding_curve mint_supply sol_amount
  if tokens = 0 then .ok (0, 0)
  else
    let bps ← curve_fee_bps global fee_config bonding_curve mint_supply
    let remaining := bonding_curve.real_token_reserves
    if tokens ≤ remaining.toNat then
      let (net, fee, creator_fee, _) ← exact_in_fee_amounts sol_amount (bps.1, bps.2, 0)
      let charged ← U64.add (← U64.add net fee) creator_fee
      .ok (U64.cast tokens, charged)
    else
      let net ← buy_quote bonding_curve remaining
      let curve_total ← Outcome.ok_or (U64.try_from (← with_fees net bps)) .MathOverflow
      let budget_left ← Outcome.ok_or (U64.checked_sub sol_amount curve_total) .MathOverflow
      if budget_left = 0 ∨ bonding_curve.is_mayhem_mode then .ok (remaining, curve_total)
      else
        let is_legacy := is_sol_like_quote_mint bonding_curve.quote_mint
        let pool ← pool_to_be global bonding_curve base_ata_amount is_legacy remaining net
        match ← post_complete_leg_exact_quote pool bps budget_left false with
        | some (base_out, leg_total) =>
          .ok (← U64.add remaining base_out, ← U64.add curve_total leg_total)
        | none => .ok (remaining, curve_total)

/-- Constant-product sell on the bonding curve, fees not applied. -/
def sell_quote (virtual_sol_reserves virtual_token_reserves amount : UInt64) : QuoteResult Nat := do
  let denom ← Outcome.ok_or (U128.checked_add virtual_token_reserves.toNat amount.toNat) .MathOverflow
  mul_div_u128 amount.toNat virtual_sol_reserves.toNat denom

/-- Inverse of `sell_quote`: how many tokens must be sold for a desired SOL
    output, rounded down. -/
def sell_token_quote_with_sol (virtual_sol_reserves virtual_token_reserves sol_amount : UInt64) :
    QuoteResult Nat := do
  let denom ← Outcome.ok_or (U128.checked_sub virtual_sol_reserves.toNat sol_amount.toNat) .MathOverflow
  mul_div_u128 sol_amount.toNat virtual_token_reserves.toNat denom

/-- Constant-product buy, fees not applied. -/
def buy_token_quote_with_sol (virtual_sol_reserves virtual_token_reserves sol_amount : UInt64) :
    QuoteResult Nat := do
  let denom ← Outcome.ok_or (U128.checked_add virtual_sol_reserves.toNat sol_amount.toNat) .MathOverflow
  mul_div_u128 sol_amount.toNat virtual_token_reserves.toNat denom

/-- Validate that the curve's market cap is within `target_market_cap ±
    slippage_bps`, on the fixed `TOKEN_SUPPLY`. -/
def validate_market_cap (virtual_sol_reserves virtual_token_reserves : UInt64)
    (target_market_cap : Nat) (slippage_bps : UInt16) : QuoteResult Unit := do
  let current ← mul_div_u128 TOKEN_SUPPLY virtual_sol_reserves.toNat virtual_token_reserves.toNat
  let (min, max) ← Outcome.ok_or (slippage_bounds target_market_cap slippage_bps) .MathOverflow
  if current < min ∨ current > max then Outcome.err .SlippageExceeded else .ok ()

/-- The fee rates a curve hop charges, by its flag byte. -/
def hop_fee_bps (flags : UInt8) (bps : UInt64 × UInt64) : UInt64 × UInt64 :=
  (if flags &&& HOP_FEE_PROTOCOL != 0 then bps.1 else 0,
    if flags &&& HOP_FEE_CREATOR != 0 then bps.2 else 0)

/-- Output of one curve hop of `multi_hop_swap`, charging only the fee
    components in `flags`. -/
def multi_hop_curve_hop (global : Global) (fee_config : FeeConfig) (bonding_curve : BondingCurve)
    (mint_supply base_ata_amount : UInt64) (user : Pubkey) (is_buy : Bool) (amount_in : UInt64)
    (flags : UInt8) : QuoteResult UInt64 := do
  let charges_creator := flags &&& HOP_FEE_CREATOR != 0
  check_curve_open bonding_curve (!charges_creator)
  if bonding_curve.is_mayhem_mode then Outcome.err .VenueNotSupported
  else
    let bps := hop_fee_bps flags (← curve_fee_bps global fee_config bonding_curve mint_supply)
    if !is_buy then
      let gross ← sell_quote bonding_curve.virtual_quote_reserves bonding_curve.virtual_token_reserves
        amount_in
      let fees ← U128.add (← fee_amount gross bps.1) (← fee_amount gross bps.2)
      let out ← Outcome.ok_or ((U128.checked_sub gross fees).filter (0 < ·)) .ZeroAmount
      Outcome.ok_or (U64.try_from out) .MathOverflow
    else
      let (_, fee, creator_fee, _) ← exact_in_fee_amounts amount_in (bps.1, bps.2, 0)
      let net ← Outcome.ok_or
        ((U64.checked_sub amount_in (← U64.add fee creator_fee)).filter (0 < ·)) .ZeroAmount
      let paid ← U128.sub net.toNat 1
      let tokens ← swap_exact_input paid bonding_curve.virtual_quote_reserves.toNat
        bonding_curve.virtual_token_reserves.toNat
      if tokens = 0 then Outcome.err .ZeroAmount
      else
        let remaining := bonding_curve.real_token_reserves
        if tokens ≤ remaining.toNat then .ok (U64.cast tokens)
        else if user = global.whitelist_pda then Outcome.err .PostCompleteLegNotAllowed
        else
          let curve_net ← buy_quote bonding_curve remaining
          match (U128.checked_sub amount_in.toNat (← with_fees curve_net bps)).filter (0 < ·) with
          | none => .ok remaining
          | some left =>
            let budget_left := U64.cast left
            let pool ← pool_to_be global bonding_curve base_ata_amount
              (is_sol_like_quote_mint bonding_curve.quote_mint) remaining curve_net
            let leg ← post_complete_leg_exact_quote pool bps budget_left true
            U64.add remaining (leg.elim 0 Prod.fst)

end pump_rust_client.math.bonding_curve
