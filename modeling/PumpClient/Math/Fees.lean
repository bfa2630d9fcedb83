import PumpClient.Math.Utils
import PumpClient.Pda

open machine

namespace pump_rust_client.math.fees

open state state.pump_amm constants

/-- SOL-like quotes: the zero key legacy curves store, legacy wSOL, Token-2022
    native. -/
def is_sol_like_quote_mint (quote_mint : Pubkey) : Bool :=
  quote_mint == Pubkey.default || quote_mint == NATIVE_MINT || quote_mint == TOKEN_2022_NATIVE_MINT

section Amounts

variable [Build]

/-- `ceil(a / b)` for non-zero `b`. -/
def ceil_div (a b : Nat) : QuoteResult Nat := U128.div_ceil a b

/-- `ceil(amount * basis_points / 10_000)`. -/
def fee_amount (amount : Nat) (basis_points : UInt64) : QuoteResult Nat := do
  ceil_div (← U128.mul amount basis_points.toNat) 10_000

/-- `fee_amount`, or `0` when `creator` is the zero key. -/
def creator_fee_amount (creator : Pubkey) (amount : Nat) (basis_points : UInt64) : QuoteResult Nat :=
  if creator = Pubkey.default then .ok 0 else fee_amount amount basis_points

/-- The split of an exact input: the net amount, and each fee charged on the
    unshaved net. -/
def exact_in_fee_amounts (amount_in : UInt64) (bps : UInt64 × UInt64 × UInt64) :
    QuoteResult (UInt64 × UInt64 × UInt64 × UInt64) := do
  let total_bps ← U128.sum [bps.1.toNat, bps.2.1.toNat, bps.2.2.toNat]
  let input := amount_in.toNat
  let net ← U128.div (← U128.mul input 10_000) (← U128.add 10_000 total_bps)
  if net = 0 then Outcome.err .ZeroAmount
  else
    let fee₀ ← fee_amount net bps.1
    let fee₁ ← fee_amount net bps.2.1
    let fee₂ ← fee_amount net bps.2.2
    let cost ← U128.add net (← U128.sum [fee₀, fee₁, fee₂])
    let net ← (if cost > input then do
        let excess ← U128.sub cost input
        Outcome.ok_or ((U128.checked_sub net excess).filter (0 < ·)) .ZeroAmount
      else .ok net)
    .ok (U64.cast net, U64.cast fee₀, U64.cast fee₁, U64.cast fee₂)

/-- Net quote of an exact-quote-in buy. -/
def exact_in_fees (amount_in : UInt64) (bps : UInt64 × UInt64 × UInt64) : QuoteResult UInt64 := do
  let (net, _) ← exact_in_fee_amounts amount_in bps
  .ok net

/-- `virtualQuoteReserves * mintSupply / virtualTokenReserves`; a zero token
    reserve panics. -/
def bonding_curve_market_cap (mint_supply virtual_quote_reserves virtual_token_reserves : UInt64) :
    QuoteResult Nat := do
  U128.div (← U128.mul virtual_quote_reserves.toNat mint_supply.toNat) virtual_token_reserves.toNat

/-- `quoteReserve * baseMintSupply / baseReserve`; a zero base reserve panics. -/
def pool_market_cap (base_mint_supply base_reserve quote_reserve : UInt64) : QuoteResult Nat := do
  U128.div (← U128.mul quote_reserve.toNat base_mint_supply.toNat) base_reserve.toNat

end Amounts

/-- Whether `pool_creator` is the pool authority pump derives for `base_mint`. -/
def is_pump_pool [Solana] (base_mint pool_creator : Pubkey) : Bool :=
  (pda.pump.pool_authority base_mint).1 == pool_creator

structure BondingCurveFeeBps where
  protocol_fee_bps : UInt64
  creator_fee_bps : UInt64
  deriving DecidableEq

structure AmmFeeBps where
  lp_fee_bps : UInt64
  protocol_fee_bps : UInt64
  creator_fee_bps : UInt64
  deriving DecidableEq

/-- Highest tier with threshold `<= market_cap`, else first tier; `none` on an
    empty table. -/
def calculate_fee_tier (tiers : List FeeTier) (market_cap : Nat) : Option Fees := do
  let first ← tiers.head?
  if market_cap < first.market_cap_lamports_threshold.toNat then some first.fees
  else
    some ((tiers.reverse.find? fun tier =>
        tier.market_cap_lamports_threshold.toNat ≤ market_cap).elim first.fees FeeTier.fees)

/-- A configured per-coin creator rate wins over the schedule while the global
    gate is on. -/
def configured_creator_fee_bps (gate_on : Bool) (stored_bps schedule_bps : UInt64) : UInt64 :=
  if gate_on && stored_bps != 0 then stored_bps else schedule_bps

/-- Fee schedule for a trade, by pool origin and quote mint. -/
def fees_for_quote_mint (cfg : FeeConfig) (is_pump_pool : Bool) (market_cap : Nat)
    (quote_mint : Pubkey) : QuoteResult Fees :=
  if !is_pump_pool then .ok cfg.flat_fees
  else if is_sol_like_quote_mint quote_mint then
    Outcome.ok_or (calculate_fee_tier cfg.fee_tiers market_cap) .EmptyFeeTiers
  else if quote_mint = USDC_MINT then
    Outcome.ok_or (calculate_fee_tier cfg.stable_fee_tiers market_cap) .EmptyFeeTiers
  else
    let exotic := cfg.exotic_flat_fees
    if exotic.lp_fee_bps = 0 ∧ exotic.protocol_fee_bps = 0 ∧ exotic.creator_fee_bps = 0 then
      .ok cfg.flat_fees
    else .ok exotic

/-- The bps of a bonding-curve trade. -/
def compute_bonding_curve_fee_bps [Build] (global : Global) (fee_config : FeeConfig)
    (quote_mint : Pubkey) (coin_creator_fee_bps mint_supply virtual_quote_reserves
    virtual_token_reserves : UInt64) : QuoteResult BondingCurveFeeBps := do
  let market_cap ←
    bonding_curve_market_cap mint_supply virtual_quote_reserves virtual_token_reserves
  let fees ← fees_for_quote_mint fee_config true market_cap quote_mint
  .ok {
    protocol_fee_bps := fees.protocol_fee_bps
    creator_fee_bps := configured_creator_fee_bps global.creator_fee_configurable
      coin_creator_fee_bps fees.creator_fee_bps }

/-- The bps of a pool trade. -/
def compute_amm_fee_bps [Build] [Solana] (global_config : GlobalConfig) (fee_config : FeeConfig)
    (base_mint pool_creator quote_mint : Pubkey)
    (coin_creator_fee_bps base_mint_supply base_reserve quote_reserve : UInt64) :
    QuoteResult AmmFeeBps := do
  let market_cap ← pool_market_cap base_mint_supply base_reserve quote_reserve
  let fees ← fees_for_quote_mint fee_config (is_pump_pool base_mint pool_creator) market_cap quote_mint
  .ok {
    lp_fee_bps := fees.lp_fee_bps
    protocol_fee_bps := fees.protocol_fee_bps
    creator_fee_bps := configured_creator_fee_bps global_config.creator_fee_configurable
      coin_creator_fee_bps fees.creator_fee_bps }

end pump_rust_client.math.fees
