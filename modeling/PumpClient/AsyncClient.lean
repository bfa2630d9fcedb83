import PumpClient.Sdk.MultiHop
import PumpClient.Sdk.Recipients

open machine

namespace pump_rust_client

open state state.pump_amm math sdk

namespace errors

/-- What the client's calls fail with. -/
inductive PumpClientError where
  | Decode
  | Rpc
  | AccountNotFound (name : String) (address : Pubkey)
  | Quote (e : QuoteError)
  deriving DecidableEq

abbrev Result (α : Type) := Outcome PumpClientError α

end errors

open errors

namespace accounts

/-- Anchor's deserializer of an account type: `none` when it rejects the
    buffer. -/
class AccountDeserialize (T : Type) where
  try_deserialize : List UInt8 → Option T

def decode (T : Type) [AccountDeserialize T] (data : List UInt8) : Result T :=
  Outcome.ok_or (AccountDeserialize.try_deserialize data) .Decode

def decode_global [AccountDeserialize Global] : List UInt8 → Result Global := decode Global

def decode_fee_config [AccountDeserialize FeeConfig] : List UInt8 → Result FeeConfig :=
  decode FeeConfig

def decode_bonding_curve [AccountDeserialize BondingCurve] : List UInt8 → Result BondingCurve :=
  decode BondingCurve

def decode_quote_control [AccountDeserialize QuoteControl] : List UInt8 → Result QuoteControl :=
  decode QuoteControl

def decode_global_config [AccountDeserialize GlobalConfig] : List UInt8 → Result GlobalConfig :=
  decode GlobalConfig

def decode_pool [AccountDeserialize Pool] : List UInt8 → Result Pool := decode Pool

end accounts

namespace async_client

open accounts

/-- An account as the cluster returns it. -/
structure Account where
  data : List UInt8
  owner : Pubkey

/-- An SPL Token / Token-2022 account. -/
structure TokenAccount where
  amount : UInt64

/-- An SPL Token / Token-2022 mint. -/
structure Mint where
  supply : UInt64

/-- The cluster behind the client. Requests are numbered, since the accounts may
    change between two of them. -/
class RpcClient where
  get_multiple_accounts (request : Nat) (keys : List Pubkey) : Result (List (Option Account))

/-- `accounts[i]` (fetched for `keys[i]`), or `AccountNotFound`. -/
def required (accounts : List (Option Account)) (keys : List Pubkey) (i : Nat) (name : String) :
    Result Account :=
  match accounts[i]? with
  | none => Outcome.panic
  | some (some account) => .ok account
  | some none =>
    match keys[i]? with
    | none => Outcome.panic
    | some address => Outcome.err (.AccountNotFound name address)

/-- Balance of an SPL Token / Token-2022 account. -/
def token_amount [AccountDeserialize TokenAccount] (account : Account) : Result UInt64 := do
  .ok (← decode TokenAccount account.data).amount

def mint_info [AccountDeserialize Mint] (account : Account) : Result (UInt64 × Pubkey) := do
  .ok ((← decode Mint account.data).supply, account.owner)

/-- One venue of a `multi_hop_swap` route: a pool by its address, or a curve by
    its base mint. -/
inductive RouteVenue where
  | Pool (pool : Pubkey)
  | Curve (mint : Pubkey)
  deriving DecidableEq

/-- A `multi_hop_swap` route in buy order. -/
structure MultiHopRoute where
  in_mint : Pubkey
  out_mint : Pubkey
  venues : List RouteVenue

/-- `(input mint, venues in path order)` for a buy or a sell (the reverse). -/
def MultiHopRoute.path (self : MultiHopRoute) (is_buy : Bool) : Pubkey × List RouteVenue :=
  if is_buy then (self.in_mint, self.venues) else (self.out_mint, self.venues.reverse)

/-- Round-1 state of a route venue: a pool, or a curve with its mint, mint
    supply and base token program. -/
inductive VenueState where
  | Pool (pool : Pool)
  | Curve (mint : Pubkey) (curve : BondingCurve) (supply : UInt64) (base_token_program : Pubkey)

def VenueState.mints : VenueState → Pubkey × Pubkey
  | .Pool p => (p.base_mint, p.quote_mint)
  | .Curve mint curve _ _ => (mint, PumpSdk.resolve_quote_mint curve.quote_mint)

/-- Owned state of one hop. -/
inductive HopState where
  | Pool (pool : Pool) (base_reserve quote_vault_balance base_mint_supply : UInt64)
  | Curve (mint : Pubkey) (bonding_curve : BondingCurve)
      (base_token_program quote_token_program : Pubkey) (mint_supply base_ata_amount : UInt64)

def HopState.as_route_hop : HopState → RouteHop
  | .Pool pool base_reserve quote_vault_balance base_mint_supply =>
    .Pool pool base_reserve quote_vault_balance base_mint_supply
  | .Curve mint bonding_curve base_token_program quote_token_program mint_supply base_ata_amount =>
    .Curve mint bonding_curve base_token_program quote_token_program mint_supply base_ata_amount

/-- A route's fetched state. -/
structure MultiHopQuoteState where
  in_mint : Pubkey
  in_token_program : Pubkey
  out_mint : Pubkey
  out_token_program : Pubkey
  buyback_fee_recipient : Pubkey
  global : Global
  pump_fee_config : FeeConfig
  global_config : GlobalConfig
  amm_fee_config : FeeConfig
  hops : List HopState

namespace MultiHopQuoteState

def route_hops (self : MultiHopQuoteState) : List RouteHop := self.hops.map HopState.as_route_hop

variable [Solana]

/-- `quote_multi_hop_swap` over this state. -/
def quote [Build] (self : MultiHopQuoteState) (user : Pubkey) (amount_in : UInt64)
    (slippage_bps : UInt16) : QuoteResult Quote :=
  PumpSdk.quote_multi_hop_swap self.global self.pump_fee_config self.global_config
    self.amm_fee_config user self.in_mint self.route_hops amount_in slippage_bps

/-- `multi_hop_swap_instructions` over this state. -/
def instructions (self : MultiHopQuoteState) (user : Pubkey) (amount_in min_amount_out : UInt64) :
    QuoteResult (List Instruction) :=
  PumpSdk.multi_hop_swap_instructions user self.in_mint self.in_token_program self.out_token_program
    (self.route_hops.map RouteHop.accounts) self.buyback_fee_recipient amount_in min_amount_out

end MultiHopQuoteState

/-- The token program of each mint seen; the latest entry counts. -/
abbrev TokenPrograms := List (Pubkey × Pubkey)

section

variable [Solana]

/-- Round-1 keys of a venue: the pool, or the curve and its base mint. -/
def RouteVenue.keys : RouteVenue → List Pubkey
  | .Pool pool => [pool]
  | .Curve mint => [(pda.pump.bonding_curve mint).1, mint]

/-- Round-2 keys of a venue: pool vaults and mints, or the curve's base ATA and
    quote mint. -/
def VenueState.keys : VenueState → List Pubkey
  | .Pool p => [p.pool_base_token_account, p.pool_quote_token_account, p.base_mint, p.quote_mint]
  | .Curve mint curve _ base_token_program =>
    [(pda.associated_token (pda.pump.bonding_curve mint).1 base_token_program mint).1,
      PumpSdk.resolve_quote_mint curve.quote_mint]

end

/-- The mints of a venue, as a hop with no accounts. -/
def VenueState.hop (self : VenueState) : MultiHopHop :=
  let (base_mint, quote_mint) := self.mints
  { base_mint
    quote_mint
    venue := Pubkey.default
    base_vault := Pubkey.default
    quote_vault := Pubkey.default }

section Fetch

variable [AccountDeserialize Pool] [AccountDeserialize BondingCurve] [AccountDeserialize Mint]
  [AccountDeserialize TokenAccount]

/-- The venues of the first round, from account `i` on. -/
def venue_states (need : Nat → String → Result Account) :
    Nat → List RouteVenue → TokenPrograms → Result (List VenueState × TokenPrograms)
  | _, [], token_programs => .ok ([], token_programs)
  | i, .Pool _ :: venues, token_programs => do
    let state := VenueState.Pool (← decode_pool (← need i "pool").data)
    let (states, token_programs) ← venue_states need (i + 1) venues token_programs
    .ok (state :: states, token_programs)
  | i, .Curve mint :: venues, token_programs => do
    let curve ← decode_bonding_curve (← need i "bonding_curve").data
    let (supply, base_token_program) ← mint_info (← need (i + 1) "mint")
    let state := VenueState.Curve mint curve supply base_token_program
    let (states, token_programs) ← venue_states need (i + 2) venues
      ((mint, base_token_program) :: token_programs)
    .ok (state :: states, token_programs)

/-- The hops of the second round, from account `i` on. -/
def hop_states (need : Nat → String → Result Account) :
    Nat → List VenueState → TokenPrograms → Result (List HopState × TokenPrograms)
  | _, [], token_programs => .ok ([], token_programs)
  | i, .Pool pool :: states, token_programs => do
    let (base_mint_supply, base_token_program) ← mint_info (← need (i + 2) "base_mint")
    let quote_token_program := (← need (i + 3) "quote_mint").owner
    let base_reserve ← token_amount (← need i "pool_base_token_account")
    let quote_vault_balance ← token_amount (← need (i + 1) "pool_quote_token_account")
    let hop := HopState.Pool pool base_reserve quote_vault_balance base_mint_supply
    let (hops, token_programs) ← hop_states need (i + 4) states
      ((pool.quote_mint, quote_token_program) :: (pool.base_mint, base_token_program) ::
        token_programs)
    .ok (hop :: hops, token_programs)
  | i, .Curve mint curve mint_supply base_token_program :: states, token_programs => do
    let quote_token_program := (← need (i + 1) "quote_mint").owner
    let base_ata_amount ← token_amount (← need i "associated_bonding_curve")
    let hop := HopState.Curve mint curve base_token_program quote_token_program mint_supply
      base_ata_amount
    let (hops, token_programs) ← hop_states need (i + 2) states
      ((PumpSdk.resolve_quote_mint curve.quote_mint, quote_token_program) :: token_programs)
    .ok (hop :: hops, token_programs)

variable [AccountDeserialize Global] [AccountDeserialize FeeConfig] [AccountDeserialize GlobalConfig]
  [Solana] [RpcClient] [PumpSdk.Fastrand]

/-- A listed wallet of the protocol leg's venue and the config that lists it:
    the first hop of a buy route, the last of a sell route. -/
def buyback_recipient (venues : List RouteVenue) (is_buy : Bool) (global : Global)
    (global_config : GlobalConfig) : Result (Option Pubkey × Pubkey) :=
  match venues[if is_buy then 0 else venues.length - 1]? with
  | some (.Pool _) =>
    .ok (PumpSdk.buyback_fee_recipient_from_amm_global global_config, pda.pump_amm.global_config.1)
  | some (.Curve _) =>
    .ok (PumpSdk.buyback_fee_recipient_from_pump_global global, pda.pump.global.1)
  | none => Outcome.panic

/-- Everything a `multi_hop_swap` of `in_mint` through `venues` (path order)
    needs to quote and build, in two batched fetches. -/
def fetch_multi_hop_quote_state (in_mint : Pubkey) (venues : List RouteVenue) :
    Result MultiHopQuoteState := do
  -- Round 1: configs, venues and curve base mints.
  let keys := [pda.pump.global.1, pda.pump.fee_config.1, pda.pump_amm.global_config.1,
    pda.pump_amm.fee_config.1] ++ venues.flatMap RouteVenue.keys
  let need := required (← RpcClient.get_multiple_accounts 0 keys) keys
  let global ← decode_global (← need 0 "global").data
  let pump_fee_config ← decode_fee_config (← need 1 "fee_config").data
  let global_config ← decode_global_config (← need 2 "amm_global_config").data
  let amm_fee_config ← decode_fee_config (← need 3 "amm_fee_config").data
  let (states, token_programs) ← venue_states need 4 venues []
  let (is_buy, out_mint) ← Outcome.map_err .Quote
    (PumpSdk.multi_hop_route in_mint (states.map VenueState.hop))
  -- Round 2: pool vaults and mints, curve base ATAs and quote mints.
  let keys := states.flatMap VenueState.keys
  let need := required (← RpcClient.get_multiple_accounts 1 keys) keys
  let (hops, token_programs) ← hop_states need 0 states token_programs
  let token_program := fun mint => Outcome.ok_or (token_programs.lookup mint)
    (.AccountNotFound "mint" mint)
  let (recipient, config) ← buyback_recipient venues is_buy global global_config
  let in_token_program ← token_program in_mint
  let out_token_program ← token_program out_mint
  let buyback_fee_recipient ← Outcome.ok_or recipient (.AccountNotFound "buyback_fee_recipient" config)
  .ok {
    in_token_program
    out_token_program
    buyback_fee_recipient
    in_mint
    out_mint
    global
    pump_fee_config
    global_config
    amm_fee_config
    hops }

end Fetch

end async_client

end pump_rust_client
