import PumpClient.Sdk.TradeTx

open machine borsh

namespace pump_rust_client.sdk.PumpSdk

open state state.pump_amm

variable [Solana]

section

variable [Draws]

/-- `pump_amm` buy. The default `coin_creator` omits `pool_v2`. -/
def buy_amm_instruction (pool : Pubkey) (amm_global : GlobalConfig) (pool_state : Pool)
    (base_token_program quote_token_program user : Pubkey)
    (base_amount_out max_quote_amount_in : UInt64) : Option Instruction := do
  let (protocol_fee_recipient, buyback_fee_recipient) ← amm_fee_recipients_pair amm_global
  some (buy_amm_instruction_with_recipients pool pool_state.base_mint pool_state.quote_mint
    base_token_program quote_token_program user pool_state.coin_creator protocol_fee_recipient
    buyback_fee_recipient pool_state.is_cashback_coin base_amount_out max_quote_amount_in)

/-- The buy behind an idempotent create of the user's base ATA. -/
def buy_amm_instructions (pool : Pubkey) (amm_global : GlobalConfig) (pool_state : Pool)
    (base_token_program quote_token_program user : Pubkey)
    (base_amount_out max_quote_amount_in : UInt64) : Option (List Instruction) := do
  let buy ← buy_amm_instruction pool amm_global pool_state base_token_program quote_token_program user
    base_amount_out max_quote_amount_in
  some [create_associated_token_account_idempotent user user pool_state.base_mint base_token_program,
    buy]

def sell_amm_instruction (pool : Pubkey) (amm_global : GlobalConfig) (pool_state : Pool)
    (base_token_program quote_token_program user : Pubkey)
    (base_amount_in min_quote_amount_out : UInt64) : Option Instruction := do
  let (protocol_fee_recipient, buyback_fee_recipient) ← amm_fee_recipients_pair amm_global
  some (sell_amm_instruction_with_recipients pool pool_state.base_mint pool_state.quote_mint
    base_token_program quote_token_program user pool_state.coin_creator protocol_fee_recipient
    buyback_fee_recipient pool_state.is_cashback_coin base_amount_in min_quote_amount_out)

/-- The sell behind an idempotent create of the user's quote ATA. -/
def sell_amm_instructions (pool : Pubkey) (amm_global : GlobalConfig) (pool_state : Pool)
    (base_token_program quote_token_program user : Pubkey)
    (base_amount_in min_quote_amount_out : UInt64) : Option (List Instruction) := do
  let sell ← sell_amm_instruction pool amm_global pool_state base_token_program quote_token_program
    user base_amount_in min_quote_amount_out
  some [create_associated_token_account_idempotent user user pool_state.quote_mint
    quote_token_program, sell]

end

/-- The 17 accounts that the `pump_amm` v2 trades share: no fee recipients, no
    creator vault. The pool and its vaults are those the pool stores. -/
def amm_v2_instruction (pool_state : Pool) (base_token_program quote_token_program user
    buyback_fee_recipient : Pubkey) (data : List UInt8) : Instruction :=
  let ata := fun owner token_program mint => (pda.associated_token owner token_program mint).1
  { program_id := constants.pump_amm.PROGRAM_ID
    accounts := [
      AccountMeta.new (pool_address pool_state) false,
      AccountMeta.new user true,
      AccountMeta.new_readonly pda.pump_amm.global_config.1 false,
      AccountMeta.new_readonly pool_state.base_mint false,
      AccountMeta.new_readonly pool_state.quote_mint false,
      AccountMeta.new (ata user base_token_program pool_state.base_mint) false,
      AccountMeta.new (ata user quote_token_program pool_state.quote_mint) false,
      AccountMeta.new pool_state.pool_base_token_account false,
      AccountMeta.new pool_state.pool_quote_token_account false,
      AccountMeta.new_readonly base_token_program false,
      AccountMeta.new_readonly quote_token_program false,
      AccountMeta.new_readonly constants.SYSTEM_PROGRAM_ID false,
      AccountMeta.new (pda.pump_amm.user_volume_accumulator user).1 false,
      AccountMeta.new_readonly pda.pump_amm.fee_config.1 false,
      AccountMeta.new (ata buyback_fee_recipient quote_token_program pool_state.quote_mint) false,
      AccountMeta.new_readonly pda.pump_amm.event_authority.1 false,
      AccountMeta.new_readonly constants.pump_amm.PROGRAM_ID false]
    data }

/-- `buy_v2`: `base_amount_out` tokens for at most `max_quote_amount_in`. -/
def buy_amm_v2_instruction (pool_state : Pool) (base_token_program quote_token_program user
    buyback_fee_recipient : Pubkey) (base_amount_out max_quote_amount_in : UInt64) : Instruction :=
  amm_v2_instruction pool_state base_token_program quote_token_program user buyback_fee_recipient
    ([184, 23, 238, 97, 103, 197, 211, 61] ++ Codec.u64.encode base_amount_out ++
      Codec.u64.encode max_quote_amount_in)

/-- `buy_exact_quote_in_v2`: spend `spendable_quote_in` for at least
    `min_base_amount_out`. -/
def buy_exact_quote_in_amm_v2_instruction (pool_state : Pool) (base_token_program
    quote_token_program user buyback_fee_recipient : Pubkey)
    (spendable_quote_in min_base_amount_out : UInt64) : Instruction :=
  amm_v2_instruction pool_state base_token_program quote_token_program user buyback_fee_recipient
    ([194, 171, 28, 70, 104, 77, 91, 47] ++ Codec.u64.encode spendable_quote_in ++
      Codec.u64.encode min_base_amount_out)

/-- `sell_v2`: `base_amount_in` tokens for at least `min_quote_amount_out`. -/
def sell_amm_v2_instruction (pool_state : Pool) (base_token_program quote_token_program user
    buyback_fee_recipient : Pubkey) (base_amount_in min_quote_amount_out : UInt64) : Instruction :=
  amm_v2_instruction pool_state base_token_program quote_token_program user buyback_fee_recipient
    ([93, 246, 130, 60, 231, 233, 64, 178] ++ Codec.u64.encode base_amount_in ++
      Codec.u64.encode min_quote_amount_out)

def buy_amm_v2_instructions (pool_state : Pool) (base_token_program quote_token_program user
    buyback_fee_recipient : Pubkey) (base_amount_out max_quote_amount_in : UInt64) :
    List Instruction :=
  [create_associated_token_account_idempotent user user pool_state.base_mint base_token_program,
    buy_amm_v2_instruction pool_state base_token_program quote_token_program user
      buyback_fee_recipient base_amount_out max_quote_amount_in]

def sell_amm_v2_instructions (pool_state : Pool) (base_token_program quote_token_program user
    buyback_fee_recipient : Pubkey) (base_amount_in min_quote_amount_out : UInt64) :
    List Instruction :=
  [create_associated_token_account_idempotent user user pool_state.quote_mint quote_token_program,
    sell_amm_v2_instruction pool_state base_token_program quote_token_program user
      buyback_fee_recipient base_amount_in min_quote_amount_out]

/-- Legacy bonding-curve buy. It fills what the curve still holds. -/
def buy_instruction (mint user creator fee_recipient buyback_fee_recipient : Pubkey)
    (amount max_sol_cost : UInt64) (token_program : Pubkey) : Instruction :=
  let bonding_curve := (pda.pump.bonding_curve mint).1
  { program_id := constants.pump.PROGRAM_ID
    accounts := [
      AccountMeta.new_readonly pda.pump.global.1 false,
      AccountMeta.new fee_recipient false,
      AccountMeta.new_readonly mint false,
      AccountMeta.new bonding_curve false,
      AccountMeta.new (pda.associated_token bonding_curve token_program mint).1 false,
      AccountMeta.new (pda.associated_token user token_program mint).1 false,
      AccountMeta.new user true,
      AccountMeta.new_readonly constants.SYSTEM_PROGRAM_ID false,
      AccountMeta.new_readonly token_program false,
      AccountMeta.new (pda.pump.creator_vault creator).1 false,
      AccountMeta.new_readonly pda.pump.event_authority.1 false,
      AccountMeta.new_readonly constants.pump.PROGRAM_ID false,
      AccountMeta.new_readonly pda.pump.global_volume_accumulator.1 false,
      AccountMeta.new (pda.pump.user_volume_accumulator user).1 false,
      AccountMeta.new_readonly pda.pump.fee_config.1 false,
      AccountMeta.new_readonly constants.FEE_PROGRAM_ID false,
      AccountMeta.new_readonly (pda.pump.bonding_curve_v2 mint).1 false,
      AccountMeta.new buyback_fee_recipient false]
    data := [102, 6, 61, 18, 1, 218, 235, 234] ++ Codec.u64.encode amount ++
      Codec.u64.encode max_sol_cost ++ Codec.bool.encode true ++ Codec.bool.encode true }

/-- Legacy sell. A cashback coin adds the user's volume accumulator. -/
def sell_instruction (mint user creator fee_recipient buyback_fee_recipient : Pubkey)
    (amount min_sol_output : UInt64) (token_program : Pubkey) (is_cashback_coin : Bool) :
    Instruction :=
  let bonding_curve := (pda.pump.bonding_curve mint).1
  let cashback :=
    if is_cashback_coin then [AccountMeta.new (pda.pump.user_volume_accumulator user).1 false]
    else []
  { program_id := constants.pump.PROGRAM_ID
    accounts := [
      AccountMeta.new_readonly pda.pump.global.1 false,
      AccountMeta.new fee_recipient false,
      AccountMeta.new_readonly mint false,
      AccountMeta.new bonding_curve false,
      AccountMeta.new (pda.associated_token bonding_curve token_program mint).1 false,
      AccountMeta.new (pda.associated_token user token_program mint).1 false,
      AccountMeta.new user true,
      AccountMeta.new_readonly constants.SYSTEM_PROGRAM_ID false,
      AccountMeta.new (pda.pump.creator_vault creator).1 false,
      AccountMeta.new_readonly token_program false,
      AccountMeta.new_readonly pda.pump.event_authority.1 false,
      AccountMeta.new_readonly constants.pump.PROGRAM_ID false,
      AccountMeta.new_readonly pda.pump.fee_config.1 false,
      AccountMeta.new_readonly constants.FEE_PROGRAM_ID false] ++ cashback ++ [
      AccountMeta.new_readonly (pda.pump.bonding_curve_v2 mint).1 false,
      AccountMeta.new buyback_fee_recipient false]
    data := [51, 230, 133, 164, 1, 127, 131, 173] ++ Codec.u64.encode amount ++
      Codec.u64.encode min_sol_output }

end pump_rust_client.sdk.PumpSdk
