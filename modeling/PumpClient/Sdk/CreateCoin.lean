import PumpClient.Sdk.PumpV2

open machine borsh

namespace pump_rust_client.sdk

open state

/-- Parameters of `create_coin_instructions`. -/
structure CreateCoinParams where
  mint : Pubkey
  user : Pubkey
  creator : Pubkey
  name : String
  symbol : String
  uri : String
  mayhem_mode : Bool
  cashback : Bool
  quote_mint : Pubkey
  quote_token_program : Pubkey
  creator_fee_bps : UInt64
  global : Global
  token_amount : UInt64
  max_quote_tokens : UInt64
  tokenized_agent_buyback_bps : Option UInt16

namespace PumpSdk

variable [Solana]

/-- `agent_initialize` of pump-agent-payments. -/
def agent_initialize_instruction (mint user creator : Pubkey) (buyback_bps : UInt16) :
    Instruction where
  program_id := constants.pump_agent_payments.PROGRAM_ID
  accounts := [
    AccountMeta.new user true,
    AccountMeta.new_readonly (pda.pump.bonding_curve mint).1 false,
    AccountMeta.new pda.pump_agent_payments.global_config.1 false,
    AccountMeta.new_readonly mint false,
    AccountMeta.new (pda.pump_agent_payments.token_agent_payments mint).1 false,
    AccountMeta.new_readonly constants.SYSTEM_PROGRAM_ID false,
    AccountMeta.new_readonly pda.pump_agent_payments.event_authority.1 false,
    AccountMeta.new_readonly constants.pump_agent_payments.PROGRAM_ID false,
    AccountMeta.new_readonly (pda.pump.sharing_config mint).1 false]
  data := [180, 248, 163, 8, 49, 94, 126, 96] ++ pubkey.encode creator ++
    Codec.u16.encode buyback_bps

/-- The curve a coin's first buy is built on. -/
def bonding_curve_preview (creator : Pubkey) (cashback mayhem_mode : Bool) (quote_mint : Pubkey)
    (creator_fee_bps : UInt64) : BondingCurve :=
  { BondingCurve.default with
    creator
    is_cashback_coin := cashback
    is_mayhem_mode := mayhem_mode
    quote_mint := resolve_quote_mint quote_mint
    creator_fee_bps }

variable [Draws]

/-- `create_v2`, the first buy and, with a buyback rate, `agent_initialize`. -/
def create_v2_and_buy_instruction {ε : Type} (mint user : Pubkey) (name symbol uri : String)
    (creator quote_mint quote_token_program : Pubkey) (mayhem_mode cashback : Bool)
    (creator_fee_bps : UInt64) (tokenized_agent_buyback_bps : Option UInt16) (global : Global)
    (amount max_quote_tokens : UInt64) : Outcome ε (Option (List Instruction)) :=
  let preview := bonding_curve_preview creator cashback mayhem_mode quote_mint creator_fee_bps
  match buy_v2_instructions global preview mint quote_token_program user amount max_quote_tokens with
  | none => .ok none
  | some buy_v2_instructions => do
    let create ← create_v2_instruction mint user name symbol uri creator quote_mint
      quote_token_program mayhem_mode cashback creator_fee_bps
    let agent := match tokenized_agent_buyback_bps with
      | some buyback_bps => [agent_initialize_instruction mint user creator buyback_bps]
      | none => []
    .ok (some ([create] ++ buy_v2_instructions ++ agent))

def create_coin_instructions {ε : Type} (params : CreateCoinParams) :
    Outcome ε (Option (List Instruction)) := do
  let preview := bonding_curve_preview params.creator params.cashback params.mayhem_mode
    params.quote_mint params.creator_fee_bps
  let create ← create_v2_instruction params.mint params.user params.name params.symbol params.uri
    params.creator params.quote_mint params.quote_token_program params.mayhem_mode params.cashback
    params.creator_fee_bps
  match buy_v2_instructions params.global preview params.mint params.quote_token_program params.user
    params.token_amount params.max_quote_tokens with
  | none => .ok none
  | some buy_v2_instructions =>
    let agent := match params.tokenized_agent_buyback_bps with
      | some buyback_bps =>
        [agent_initialize_instruction params.mint params.user params.creator buyback_bps]
      | none => []
    .ok (some ([create] ++ buy_v2_instructions ++ agent))

end PumpSdk

end pump_rust_client.sdk
