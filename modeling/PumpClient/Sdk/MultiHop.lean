import PumpClient.Sdk.Quotes

open machine

namespace pump_rust_client.sdk

open state state.pump_amm math math.utils math.amm math.bonding_curve

/-- One account an instruction reads or writes. -/
structure AccountMeta where
  pubkey : Pubkey
  is_signer : Bool
  is_writable : Bool
  deriving DecidableEq

namespace AccountMeta

def new (pubkey : Pubkey) (is_signer : Bool) : AccountMeta where
  pubkey
  is_signer
  is_writable := true

def new_readonly (pubkey : Pubkey) (is_signer : Bool) : AccountMeta where
  pubkey
  is_signer
  is_writable := false

end AccountMeta

structure Instruction where
  program_id : Pubkey
  accounts : List AccountMeta
  data : List UInt8
  deriving DecidableEq

/-- One hop group of `multi_hop_swap`, in path order. -/
structure MultiHopHop where
  base_mint : Pubkey
  quote_mint : Pubkey
  venue : Pubkey
  base_vault : Pubkey
  quote_vault : Pubkey
  deriving DecidableEq

/-- One venue of a `multi_hop_swap` route with the pre-trade state it is priced
    on. -/
inductive RouteHop where
  | Pool (pool : Pool) (base_reserve quote_vault_balance base_mint_supply : UInt64)
  | Curve (mint : Pubkey) (bonding_curve : BondingCurve)
      (base_token_program quote_token_program : Pubkey) (mint_supply base_ata_amount : UInt64)

namespace PumpSdk

/-- `(route_is_buy, mint)` after one more hop: it buys when fed its quote and
    sells when fed its base, in the direction of the hops before it. -/
def multi_hop_step (state : Option Bool × Pubkey) (hop : MultiHopHop) :
    QuoteResult (Option Bool × Pubkey) := do
  let (direction, mint) := state
  let is_buy ← (if mint = hop.quote_mint then .ok true
    else if mint = hop.base_mint then .ok false
    else Outcome.err .MultiHopDiscontinuousPath)
  let route_is_buy := direction.getD is_buy
  if route_is_buy ≠ is_buy then Outcome.err .MultiHopMixedDirection
  else .ok (some route_is_buy, if is_buy then hop.base_mint else hop.quote_mint)

/-- `(route_is_buy, out_mint)` of a route starting at `in_mint`. -/
def multi_hop_route (in_mint : Pubkey) (hops : List MultiHopHop) : QuoteResult (Bool × Pubkey) := do
  let (direction, mint) ← hops.foldlM multi_hop_step (none, in_mint)
  let is_buy ← Outcome.ok_or direction .MultiHopDiscontinuousPath
  .ok (is_buy, mint)

end PumpSdk

section

variable [Solana]

/-- A pool's own address from its stored seeds. -/
def PumpSdk.pool_address (pool : Pool) : Pubkey :=
  (pda.pump_amm.pool pool.index pool.creator pool.base_mint pool.quote_mint).1

namespace MultiHopHop

/-- A canonical pump pool hop. -/
def pool (pool : Pool) : MultiHopHop where
  base_mint := pool.base_mint
  quote_mint := pool.quote_mint
  venue := PumpSdk.pool_address pool
  base_vault := pool.pool_base_token_account
  quote_vault := pool.pool_quote_token_account

/-- A bonding-curve hop; the zero key of a SOL curve resolves to wSOL. -/
def curve (mint quote_mint base_token_program quote_token_program : Pubkey) : MultiHopHop :=
  let venue := (pda.pump.bonding_curve mint).1
  let quote_mint := PumpSdk.resolve_quote_mint quote_mint
  { base_mint := mint
    quote_mint
    venue
    base_vault := (pda.associated_token venue base_token_program mint).1
    quote_vault := (pda.associated_token venue quote_token_program quote_mint).1 }

def metas (self : MultiHopHop) : List AccountMeta := [
  AccountMeta.new_readonly self.base_mint false,
  AccountMeta.new_readonly self.quote_mint false,
  AccountMeta.new self.venue false,
  AccountMeta.new self.base_vault false,
  AccountMeta.new self.quote_vault false]

end MultiHopHop

/-- The hop's account group. -/
def RouteHop.accounts : RouteHop → MultiHopHop
  | .Pool pool _ _ _ => MultiHopHop.pool pool
  | .Curve mint bonding_curve base_token_program quote_token_program _ _ =>
    MultiHopHop.curve mint bonding_curve.quote_mint base_token_program quote_token_program

namespace PumpSdk

section Quote

variable [Build] (global : Global) (pump_fee_config : FeeConfig) (global_config : GlobalConfig)
  (amm_fee_config : FeeConfig) (user : Pubkey)

/-- What hop `index` of `hops` gives for `amount`. -/
def quote_hop (is_buy : Bool) (hops : Nat) (amount : UInt64) (hop : RouteHop × Nat) :
    QuoteResult UInt64 :=
  let legs := HopFees.for_hop is_buy hop.2 hops
  match hop.1 with
  | .Pool pool base_reserve quote_vault_balance base_mint_supply =>
    multi_hop_pool_hop global_config amm_fee_config pool base_reserve quote_vault_balance
      base_mint_supply is_buy amount legs
  | .Curve _ bonding_curve _ _ mint_supply base_ata_amount =>
    multi_hop_curve_hop global pump_fee_config bonding_curve mint_supply base_ata_amount user is_buy
      amount legs.curve_flags

/-- Quote of `multi_hop_swap`: exact-in `amount_in` of `in_mint` through
    `hops`. -/
def quote_multi_hop_swap (in_mint : Pubkey) (hops : List RouteHop) (amount_in : UInt64)
    (slippage_bps : UInt16) : QuoteResult Quote :=
  if amount_in = 0 then Outcome.err .ZeroAmount
  else do
    let keys := hops.map RouteHop.accounts
    let (is_buy, _) ← multi_hop_route in_mint keys
    let amount ← hops.zipIdx.foldlM
      (quote_hop global pump_fee_config global_config amm_fee_config user is_buy hops.length) amount_in
    .ok {
      amount
      min_out := max (sub_slippage amount slippage_bps) 1
      input_amount_used := amount_in
      max_input := amount_in }

end Quote

/-- A little-endian `u64`. -/
def le_bytes (n : UInt64) : List UInt8 :=
  (List.range 8).map fun i => (n >>> UInt64.ofNat (8 * i)).toUInt8

/-- The mint and the token program of the user's currency. -/
def buyback_fee_mint (is_buy : Bool) (in_mint in_token_program out_mint out_token_program : Pubkey) :
    Pubkey × Pubkey :=
  if is_buy then (in_mint, in_token_program) else (out_mint, out_token_program)

/-- pump-amm `multi_hop_swap`: exact-in `amount_in` of `in_mint` through pump
    pools and bonding curves. The buyback slice is paid in the user's
    currency. -/
def multi_hop_swap_instruction (user in_mint in_token_program out_token_program : Pubkey)
    (hops : List MultiHopHop) (buyback_fee_recipient : Pubkey) (amount_in min_amount_out : UInt64) :
    QuoteResult Instruction :=
  if amount_in = 0 ∨ min_amount_out = 0 then Outcome.err .ZeroAmount
  else do
    let (is_buy, out_mint) ← multi_hop_route in_mint hops
    let (fee_mint, fee_token_program) :=
      buyback_fee_mint is_buy in_mint in_token_program out_mint out_token_program
    let ata := fun owner token_program mint => (pda.associated_token owner token_program mint).1
    let metas := [
      AccountMeta.new user true,
      AccountMeta.new (ata user in_token_program in_mint) false,
      AccountMeta.new (ata user out_token_program out_mint) false,
      AccountMeta.new_readonly pda.pump_amm.global_config.1 false,
      AccountMeta.new_readonly pda.pump_amm.fee_config.1 false,
      AccountMeta.new (pda.pump_amm.user_volume_accumulator user).1 false,
      AccountMeta.new (ata buyback_fee_recipient fee_token_program fee_mint) false,
      AccountMeta.new_readonly constants.SPL_TOKEN_PROGRAM_ID false,
      AccountMeta.new_readonly constants.SPL_TOKEN_2022_PROGRAM_ID false,
      AccountMeta.new_readonly constants.SYSTEM_PROGRAM_ID false,
      AccountMeta.new_readonly pda.pump_amm.event_authority.1 false,
      AccountMeta.new_readonly constants.pump_amm.PROGRAM_ID false,
      AccountMeta.new_readonly constants.pump.PROGRAM_ID false,
      AccountMeta.new_readonly pda.pump.global.1 false,
      AccountMeta.new_readonly pda.pump.fee_config.1 false,
      AccountMeta.new_readonly pda.pump.event_authority.1 false]
    .ok {
      program_id := constants.pump_amm.PROGRAM_ID
      accounts := metas ++ hops.flatMap MultiHopHop.metas
      data := [43, 100, 73, 19, 233, 246, 111, 148] ++ le_bytes amount_in ++ le_bytes min_amount_out }

/-- An idempotent create of the wallet's ATA, paid by `funding_address`. -/
def create_associated_token_account_idempotent
    (funding_address wallet_address token_mint_address token_program_id : Pubkey) : Instruction where
  program_id := constants.SPL_ATA_PROGRAM_ID
  accounts := [
    AccountMeta.new funding_address true,
    AccountMeta.new (pda.associated_token wallet_address token_program_id token_mint_address).1 false,
    AccountMeta.new_readonly wallet_address false,
    AccountMeta.new_readonly token_mint_address false,
    AccountMeta.new_readonly constants.SYSTEM_PROGRAM_ID false,
    AccountMeta.new_readonly token_program_id false]
  data := [1]

/-- The swap behind idempotent creates of the buyback recipient's ATA, the
    user's output ATA and, on a buy route starting on a SOL curve, the user's
    wSOL ATA. -/
def multi_hop_swap_instructions (user in_mint in_token_program out_token_program : Pubkey)
    (hops : List MultiHopHop) (buyback_fee_recipient : Pubkey) (amount_in min_amount_out : UInt64) :
    QuoteResult (List Instruction) := do
  let swap ← multi_hop_swap_instruction user in_mint in_token_program out_token_program hops
    buyback_fee_recipient amount_in min_amount_out
  let (is_buy, out_mint) ← multi_hop_route in_mint hops
  let (fee_mint, fee_token_program) :=
    buyback_fee_mint is_buy in_mint in_token_program out_mint out_token_program
  -- A SOL curve first leg takes lamports, but the wSOL ATA must still exist.
  let starts_on_sol_curve ← (if is_buy && in_mint == constants.NATIVE_MINT then
      match hops[0]? with
      | some hop => .ok (hop.venue == (pda.pump.bonding_curve hop.base_mint).1)
      | none => Outcome.panic
    else .ok false)
  let wsol := if starts_on_sol_curve then
      [create_associated_token_account_idempotent user user in_mint in_token_program]
    else []
  .ok ([create_associated_token_account_idempotent user buyback_fee_recipient fee_mint
      fee_token_program] ++ wsol ++
    [create_associated_token_account_idempotent user user out_mint out_token_program, swap])

end PumpSdk

end

end pump_rust_client.sdk
