import PumpClient.Sdk.PumpV2
import PumpClient.Sdk.PumpV3

open machine borsh

namespace pump_rust_client.sdk.PumpSdk

open state

variable [Solana]

/-- The 27 named accounts of `migrate_v2`. -/
def migrate_v2_accounts (base_mint quote_mint user withdraw_authority base_token_program
    quote_token_program : Pubkey) : List AccountMeta :=
  let token_2022_program := constants.SPL_TOKEN_2022_PROGRAM_ID
  let bonding_curve := (pda.pump.bonding_curve base_mint).1
  let pool_authority := (pda.pump.pool_authority base_mint).1
  let pool := (pda.pump_amm.pool 0 pool_authority base_mint quote_mint).1
  let lp_mint := (pda.pump_amm.lp_mint pool).1
  let ata := fun owner token_program mint => (pda.associated_token owner token_program mint).1
  [AccountMeta.new_readonly pda.pump.global.1 false,
    AccountMeta.new withdraw_authority false,
    AccountMeta.new_readonly base_mint false,
    AccountMeta.new_readonly quote_mint false,
    AccountMeta.new bonding_curve false,
    AccountMeta.new (ata bonding_curve base_token_program base_mint) false,
    AccountMeta.new (ata bonding_curve quote_token_program quote_mint) false,
    AccountMeta.new user true,
    AccountMeta.new_readonly constants.SYSTEM_PROGRAM_ID false,
    AccountMeta.new_readonly constants.pump_amm.PROGRAM_ID false,
    AccountMeta.new pool false,
    AccountMeta.new pool_authority false,
    AccountMeta.new (ata pool_authority base_token_program base_mint) false,
    AccountMeta.new (ata pool_authority quote_token_program quote_mint) false,
    AccountMeta.new_readonly pda.pump_amm.global_config.1 false,
    AccountMeta.new lp_mint false,
    AccountMeta.new (ata pool_authority token_2022_program lp_mint) false,
    AccountMeta.new (ata pool base_token_program base_mint) false,
    AccountMeta.new (ata pool quote_token_program quote_mint) false,
    AccountMeta.new_readonly base_token_program false,
    AccountMeta.new_readonly quote_token_program false,
    AccountMeta.new_readonly token_2022_program false,
    AccountMeta.new_readonly constants.SPL_ATA_PROGRAM_ID false,
    AccountMeta.new_readonly pda.pump_amm.event_authority.1 false,
    AccountMeta.new_readonly constants.RENT_SYSVAR_ID false,
    AccountMeta.new_readonly pda.pump.event_authority.1 false,
    AccountMeta.new_readonly constants.pump.PROGRAM_ID false]

/-- `migrate_v2`: migrates a completed curve into a pump-amm pool. The quote
    mint is taken as it is. -/
def migrate_v2_instruction {ε : Type} (base_mint quote_mint user withdraw_authority
    base_token_program quote_token_program : Pubkey) : Outcome ε Instruction :=
  let pool_authority := (pda.pump.pool_authority base_mint).1
  let pool := (pda.pump_amm.pool 0 pool_authority base_mint quote_mint).1
  let metas := migrate_v2_accounts base_mint quote_mint user withdraw_authority base_token_program
    quote_token_program
  -- The layout assertion.
  if metas.length ≠ 27 then Outcome.panic
  else .ok {
    program_id := constants.pump.PROGRAM_ID
    accounts := metas ++ [
      AccountMeta.new_readonly (pda.pump_amm.boost_vault_authority pool).1 false,
      AccountMeta.new (pda.pump_amm.boost_vault pool quote_mint quote_token_program).1 false]
    data := [187, 203, 18, 31, 206, 237, 254, 41] }

def claim_cashback_v2_instruction (user quote_mint quote_token_program : Pubkey) : Instruction :=
  let resolved_quote_mint :=
    if quote_mint = Pubkey.default then constants.NATIVE_MINT else quote_mint
  let user_volume_accumulator := (pda.pump.user_volume_accumulator user).1
  { program_id := constants.pump.PROGRAM_ID
    accounts := [
      AccountMeta.new user false,
      AccountMeta.new user_volume_accumulator false,
      AccountMeta.new_readonly resolved_quote_mint false,
      AccountMeta.new_readonly quote_token_program false,
      AccountMeta.new_readonly constants.SPL_ATA_PROGRAM_ID false,
      AccountMeta.new
        (pda.associated_token user_volume_accumulator quote_token_program resolved_quote_mint).1
        false,
      AccountMeta.new (pda.associated_token user quote_token_program resolved_quote_mint).1 false,
      AccountMeta.new_readonly constants.SYSTEM_PROGRAM_ID false,
      AccountMeta.new_readonly pda.pump.event_authority.1 false,
      AccountMeta.new_readonly constants.pump.PROGRAM_ID false]
    data := [122, 243, 204, 65, 94, 116, 29, 55] }

def collect_creator_fee_v2_instruction (creator quote_mint quote_token_program : Pubkey) :
    Instruction :=
  let resolved_quote_mint :=
    if quote_mint = Pubkey.default then constants.NATIVE_MINT else quote_mint
  let creator_vault := (pda.pump.creator_vault creator).1
  { program_id := constants.pump.PROGRAM_ID
    accounts := [
      AccountMeta.new creator false,
      AccountMeta.new (pda.associated_token creator quote_token_program resolved_quote_mint).1
        false,
      AccountMeta.new creator_vault false,
      AccountMeta.new (pda.associated_token creator_vault quote_token_program resolved_quote_mint).1
        false,
      AccountMeta.new_readonly resolved_quote_mint false,
      AccountMeta.new_readonly quote_token_program false,
      AccountMeta.new_readonly constants.SPL_ATA_PROGRAM_ID false,
      AccountMeta.new_readonly constants.SYSTEM_PROGRAM_ID false,
      AccountMeta.new_readonly pda.pump.event_authority.1 false,
      AccountMeta.new_readonly constants.pump.PROGRAM_ID false]
    data := [207, 17, 138, 242, 4, 34, 19, 56] }

def collect_creator_fee_v2_instructions (payer creator quote_mint quote_token_program : Pubkey)
    (create_creator_ata : Bool) : List Instruction :=
  let resolved_quote_mint :=
    if quote_mint = Pubkey.default then constants.NATIVE_MINT else quote_mint
  let create :=
    if create_creator_ata then
      [create_associated_token_account_idempotent payer creator resolved_quote_mint
        quote_token_program]
    else []
  create ++ [collect_creator_fee_v2_instruction creator resolved_quote_mint quote_token_program]

def distribute_creator_fees_v2_instruction (payer mint creator quote_mint
    quote_token_program : Pubkey) (initialize_ata : Bool) (shareholders : List Pubkey) :
    Instruction :=
  let resolved_quote_mint :=
    if quote_mint = Pubkey.default then constants.NATIVE_MINT else quote_mint
  let bonding_curve := (pda.pump.bonding_curve mint).1
  let sharing_config := (pda.pump.sharing_config mint).1
  let creator_vault := (pda.pump.creator_vault creator).1
  let metas := [
    AccountMeta.new payer true,
    AccountMeta.new_readonly mint false,
    AccountMeta.new_readonly bonding_curve false,
    AccountMeta.new_readonly sharing_config false,
    AccountMeta.new creator_vault false,
    AccountMeta.new_readonly constants.SYSTEM_PROGRAM_ID false,
    AccountMeta.new_readonly pda.pump.event_authority.1 false,
    AccountMeta.new_readonly constants.pump.PROGRAM_ID false,
    AccountMeta.new (pda.associated_token creator_vault quote_token_program resolved_quote_mint).1
      false,
    AccountMeta.new_readonly resolved_quote_mint false,
    AccountMeta.new_readonly quote_token_program false,
    AccountMeta.new_readonly constants.SPL_ATA_PROGRAM_ID false]
  let wallets := shareholders.map fun sh => AccountMeta.new sh false
  let atas :=
    if resolved_quote_mint ≠ constants.NATIVE_MINT then
      shareholders.map fun sh =>
        AccountMeta.new (pda.associated_token sh quote_token_program resolved_quote_mint).1 false
    else []
  { program_id := constants.pump.PROGRAM_ID
    accounts := metas ++ wallets ++ atas
    data := [255, 203, 19, 79, 244, 68, 8, 159] ++ Codec.bool.encode initialize_ata }

/-- The distribution behind the sweep and the ATA creates. -/
def distribute_creator_fees_v2_instructions (payer mint creator quote_mint
    quote_token_program : Pubkey) (initialize_ata create_creator_vault_ata : Bool)
    (shareholders : List Pubkey) : List Instruction :=
  let resolved_quote_mint :=
    if quote_mint = Pubkey.default then constants.NATIVE_MINT else quote_mint
  let sweep := sweep_creator_fee_instruction payer mint creator resolved_quote_mint
    quote_token_program
  let vault :=
    if create_creator_vault_ata then
      let creator_vault := (pda.pump.creator_vault creator).1
      [create_associated_token_account_idempotent payer creator_vault resolved_quote_mint
        quote_token_program]
    else []
  let wallets := shareholders.map fun sh =>
    create_associated_token_account_idempotent payer sh resolved_quote_mint quote_token_program
  [sweep] ++ vault ++ wallets ++ [distribute_creator_fees_v2_instruction payer mint creator
    resolved_quote_mint quote_token_program initialize_ata shareholders]

end pump_rust_client.sdk.PumpSdk
