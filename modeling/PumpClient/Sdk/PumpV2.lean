import PumpClient.Sdk.MultiHop
import PumpClient.Sdk.Recipients
import PumpClient.State.Layout

open machine borsh

namespace pump_rust_client.sdk

open state

/-- A string as Borsh writes it. One past 32 bits of length cannot be written,
    and Anchor panics. -/
def string_data {ε : Type} (s : String) : Outcome ε (List UInt8) :=
  match Codec.u8.encodeVec s.toUTF8.toList with
  | some bytes => .ok bytes
  | none => Outcome.panic

/-- Keys derived once for the v2 trades. `quote_mint` is the resolved value. -/
structure V2TradeAccounts where
  quote_mint : Pubkey
  base_token_program : Pubkey
  bonding_curve : Pubkey
  creator_vault : Pubkey
  user_volume_accumulator : Pubkey
  associated_quote_fee_recipient : Pubkey
  associated_quote_buyback_fee_recipient : Pubkey
  associated_base_bonding_curve : Pubkey
  associated_quote_bonding_curve : Pubkey
  associated_base_user : Pubkey
  associated_quote_user : Pubkey
  associated_creator_vault : Pubkey
  associated_user_volume_accumulator : Pubkey

variable [Solana]

def V2TradeAccounts.derive (base_mint quote_mint quote_token_program user creator fee_recipient
    buyback_fee_recipient : Pubkey) : V2TradeAccounts :=
  let base_token_program := constants.SPL_TOKEN_2022_PROGRAM_ID
  let quote_mint := if quote_mint = Pubkey.default then constants.NATIVE_MINT else quote_mint
  let bonding_curve := (pda.pump.bonding_curve base_mint).1
  let creator_vault := (pda.pump.creator_vault creator).1
  let user_volume_accumulator := (pda.pump.user_volume_accumulator user).1
  let ata := fun owner token_program mint => (pda.associated_token owner token_program mint).1
  { quote_mint
    base_token_program
    bonding_curve
    creator_vault
    user_volume_accumulator
    associated_quote_fee_recipient := ata fee_recipient quote_token_program quote_mint
    associated_quote_buyback_fee_recipient :=
      ata buyback_fee_recipient quote_token_program quote_mint
    associated_base_bonding_curve := ata bonding_curve base_token_program base_mint
    associated_quote_bonding_curve := ata bonding_curve quote_token_program quote_mint
    associated_base_user := ata user base_token_program base_mint
    associated_quote_user := ata user quote_token_program quote_mint
    associated_creator_vault := ata creator_vault quote_token_program quote_mint
    associated_user_volume_accumulator :=
      ata user_volume_accumulator quote_token_program quote_mint }

namespace PumpSdk

/-- `create_v2`. On a quote other than wSOL four accounts are appended. -/
def create_v2_instruction {ε : Type} (mint user : Pubkey) (name symbol uri : String)
    (creator quote_mint quote_token_program : Pubkey) (mayhem_mode cashback : Bool)
    (creator_fee_bps : UInt64) : Outcome ε Instruction := do
  let token_program := constants.SPL_TOKEN_2022_PROGRAM_ID
  let bonding_curve := (pda.pump.bonding_curve mint).1
  let metas := [
    AccountMeta.new mint true,
    AccountMeta.new_readonly pda.pump.mint_authority.1 false,
    AccountMeta.new bonding_curve false,
    AccountMeta.new (pda.associated_token bonding_curve token_program mint).1 false,
    AccountMeta.new_readonly pda.pump.global.1 false,
    AccountMeta.new user true,
    AccountMeta.new_readonly constants.SYSTEM_PROGRAM_ID false,
    AccountMeta.new_readonly token_program false,
    AccountMeta.new_readonly constants.SPL_ATA_PROGRAM_ID false,
    AccountMeta.new constants.MAYHEM_PROGRAM_ID false,
    AccountMeta.new_readonly pda.mayhem.global_params.1 false,
    AccountMeta.new pda.mayhem.sol_vault.1 false,
    AccountMeta.new (pda.mayhem.mayhem_state mint).1 false,
    AccountMeta.new (pda.mayhem.mayhem_token_vault mint).1 false,
    AccountMeta.new_readonly pda.pump.event_authority.1 false,
    AccountMeta.new_readonly constants.pump.PROGRAM_ID false]
  let resolved_quote_mint :=
    if quote_mint = Pubkey.default then constants.NATIVE_MINT else quote_mint
  let quote_metas :=
    if resolved_quote_mint ≠ constants.NATIVE_MINT then [
      AccountMeta.new_readonly resolved_quote_mint false,
      AccountMeta.new
        (pda.associated_token bonding_curve quote_token_program resolved_quote_mint).1 false,
      AccountMeta.new_readonly quote_token_program false,
      AccountMeta.new_readonly pda.pump.quote_control.1 false]
    else []
  let name ← string_data name
  let symbol ← string_data symbol
  let uri ← string_data uri
  .ok {
    program_id := constants.pump.PROGRAM_ID
    accounts := metas ++ quote_metas
    data := [214, 144, 76, 236, 95, 139, 49, 180] ++ name ++ symbol ++ uri ++ pubkey.encode creator ++
      Codec.bool.encode mayhem_mode ++ Codec.bool.encode cashback ++
      Codec.u64.encode creator_fee_bps ++ Codec.bool.encode false }

/-- Remaining accounts of a pump-quoted `create_v2`: the quote coin's curve, then
    its canonical pool and that pool's vaults once it migrated. -/
def create_v2_pump_quote_accounts (quote_mint : Pubkey)
    (quote_pool : Option (Pubkey × pump_amm.Pool)) : List AccountMeta :=
  [AccountMeta.new_readonly (pda.pump.bonding_curve quote_mint).1 false] ++
    match quote_pool with
    | some (key, pool) =>
      [key, pool.pool_base_token_account, pool.pool_quote_token_account].map fun k =>
        AccountMeta.new_readonly k false
    | none => []

/-- The metas of a v2 trade, in the order of the three instructions. The buys
    list the global volume accumulator before the user's. -/
def v2_trade_metas (base_mint quote_token_program user fee_recipient buyback_fee_recipient : Pubkey)
    (global_volume_accumulator : List AccountMeta) (a : V2TradeAccounts) : List AccountMeta := [
  AccountMeta.new_readonly pda.pump.global.1 false,
  AccountMeta.new_readonly base_mint false,
  AccountMeta.new_readonly a.quote_mint false,
  AccountMeta.new_readonly a.base_token_program false,
  AccountMeta.new_readonly quote_token_program false,
  AccountMeta.new_readonly constants.SPL_ATA_PROGRAM_ID false,
  AccountMeta.new fee_recipient false,
  AccountMeta.new a.associated_quote_fee_recipient false,
  AccountMeta.new buyback_fee_recipient false,
  AccountMeta.new a.associated_quote_buyback_fee_recipient false,
  AccountMeta.new a.bonding_curve false,
  AccountMeta.new a.associated_base_bonding_curve false,
  AccountMeta.new a.associated_quote_bonding_curve false,
  AccountMeta.new user true,
  AccountMeta.new a.associated_base_user false,
  AccountMeta.new a.associated_quote_user false,
  AccountMeta.new a.creator_vault false,
  AccountMeta.new a.associated_creator_vault false,
  AccountMeta.new_readonly (pda.pump.sharing_config base_mint).1 false] ++
  global_volume_accumulator ++ [
  AccountMeta.new a.user_volume_accumulator false,
  AccountMeta.new a.associated_user_volume_accumulator false,
  AccountMeta.new_readonly pda.pump.fee_config.1 false,
  AccountMeta.new_readonly constants.FEE_PROGRAM_ID false,
  AccountMeta.new_readonly constants.SYSTEM_PROGRAM_ID false,
  AccountMeta.new_readonly pda.pump.event_authority.1 false,
  AccountMeta.new_readonly constants.pump.PROGRAM_ID false]

def buy_v2_instruction_with_recipients (base_mint quote_mint quote_token_program user creator
    fee_recipient buyback_fee_recipient : Pubkey) (amount max_sol_cost : UInt64) : Instruction where
  program_id := constants.pump.PROGRAM_ID
  accounts := v2_trade_metas base_mint quote_token_program user fee_recipient buyback_fee_recipient
    [AccountMeta.new_readonly pda.pump.global_volume_accumulator.1 false]
    (V2TradeAccounts.derive base_mint quote_mint quote_token_program user creator fee_recipient
      buyback_fee_recipient)
  -- `partial_fill` is on.
  data := [184, 23, 238, 97, 103, 197, 211, 61] ++ Codec.u64.encode amount ++
    Codec.u64.encode max_sol_cost ++ Codec.bool.encode true

def buy_exact_quote_in_v2_instruction_with_recipients (base_mint quote_mint quote_token_program user
    creator fee_recipient buyback_fee_recipient : Pubkey)
    (spendable_quote_in min_tokens_out : UInt64) : Instruction where
  program_id := constants.pump.PROGRAM_ID
  accounts := v2_trade_metas base_mint quote_token_program user fee_recipient buyback_fee_recipient
    [AccountMeta.new_readonly pda.pump.global_volume_accumulator.1 false]
    (V2TradeAccounts.derive base_mint quote_mint quote_token_program user creator fee_recipient
      buyback_fee_recipient)
  data := [194, 171, 28, 70, 104, 77, 91, 47] ++ Codec.u64.encode spendable_quote_in ++
    Codec.u64.encode min_tokens_out ++ Codec.bool.encode true

def sell_v2_instruction_with_recipients (base_mint quote_mint quote_token_program user creator
    fee_recipient buyback_fee_recipient : Pubkey) (amount min_sol_output : UInt64) :
    Instruction where
  program_id := constants.pump.PROGRAM_ID
  accounts := v2_trade_metas base_mint quote_token_program user fee_recipient buyback_fee_recipient []
    (V2TradeAccounts.derive base_mint quote_mint quote_token_program user creator fee_recipient
      buyback_fee_recipient)
  data := [93, 246, 130, 60, 231, 233, 64, 178] ++ Codec.u64.encode amount ++
    Codec.u64.encode min_sol_output

/-- Idempotent ATA creates before a v2 trade: the user's base ATA and, on a
    quote other than SOL, the quote ATAs. -/
def user_trade_atas (user base_mint : Pubkey) (bonding_curve : BondingCurve)
    (base_token_program quote_token_program : Pubkey) (include_base : Bool) : List Instruction :=
  let base :=
    if include_base then
      [create_associated_token_account_idempotent user user base_mint base_token_program]
    else []
  let bonding_curve_has_non_sol_quote :=
    bonding_curve.quote_mint ≠ Pubkey.default ∧ bonding_curve.quote_mint ≠ constants.NATIVE_MINT
  let quote :=
    if bonding_curve_has_non_sol_quote then
      let bonding_curve_pda := (pda.pump.bonding_curve base_mint).1
      let cashback :=
        if bonding_curve.is_cashback_coin then
          let user_volume_accumulator := (pda.pump.user_volume_accumulator user).1
          [create_associated_token_account_idempotent user user_volume_accumulator
            bonding_curve.quote_mint quote_token_program]
        else []
      [create_associated_token_account_idempotent user user bonding_curve.quote_mint
          quote_token_program,
        create_associated_token_account_idempotent user bonding_curve.creator
          bonding_curve.quote_mint quote_token_program,
        create_associated_token_account_idempotent user bonding_curve_pda bonding_curve.quote_mint
          quote_token_program] ++ cashback
    else []
  base ++ quote

section Recipients

variable [Draws]

/-- `buy_v2` with recipients from `Global` and the quote from the curve. -/
def buy_v2_instruction (global : Global) (bonding_curve : BondingCurve)
    (base_mint quote_token_program user : Pubkey) (amount max_quote_tokens : UInt64) :
    Option Instruction := do
  let (fee_recipient, buyback_fee_recipient) ←
    pump_fee_recipients_pair global bonding_curve.is_mayhem_mode
  some (buy_v2_instruction_with_recipients base_mint bonding_curve.quote_mint quote_token_program
    user bonding_curve.creator fee_recipient buyback_fee_recipient amount max_quote_tokens)

/-- `buy_v2` behind the ATA creates. -/
def buy_v2_instructions (global : Global) (bonding_curve : BondingCurve)
    (base_mint quote_token_program user : Pubkey) (amount max_quote_tokens : UInt64) :
    Option (List Instruction) := do
  let (fee_recipient, buyback_fee_recipient) ←
    pump_fee_recipients_pair global bonding_curve.is_mayhem_mode
  let instructions := user_trade_atas user base_mint bonding_curve
    constants.SPL_TOKEN_2022_PROGRAM_ID quote_token_program true
  some (instructions ++ [buy_v2_instruction_with_recipients base_mint bonding_curve.quote_mint
    quote_token_program user bonding_curve.creator fee_recipient buyback_fee_recipient amount
    max_quote_tokens])

/-- `buy_exact_quote_in_v2`: spend `spendable_quote_in` for `min_tokens_out` or
    more. -/
def buy_exact_quote_in_v2_instruction (global : Global) (bonding_curve : BondingCurve)
    (base_mint quote_token_program user : Pubkey) (spendable_quote_in min_tokens_out : UInt64) :
    Option Instruction := do
  let (fee_recipient, buyback_fee_recipient) ←
    pump_fee_recipients_pair global bonding_curve.is_mayhem_mode
  some (buy_exact_quote_in_v2_instruction_with_recipients base_mint bonding_curve.quote_mint
    quote_token_program user bonding_curve.creator fee_recipient buyback_fee_recipient
    spendable_quote_in min_tokens_out)

/-- `buy_exact_quote_in_v2` behind the ATA creates. -/
def buy_exact_quote_in_v2_instructions (global : Global) (bonding_curve : BondingCurve)
    (base_mint quote_token_program user : Pubkey) (spendable_quote_in min_tokens_out : UInt64) :
    Option (List Instruction) := do
  let (fee_recipient, buyback_fee_recipient) ←
    pump_fee_recipients_pair global bonding_curve.is_mayhem_mode
  let instructions := user_trade_atas user base_mint bonding_curve
    constants.SPL_TOKEN_2022_PROGRAM_ID quote_token_program true
  some (instructions ++ [buy_exact_quote_in_v2_instruction_with_recipients base_mint
    bonding_curve.quote_mint quote_token_program user bonding_curve.creator fee_recipient
    buyback_fee_recipient spendable_quote_in min_tokens_out])

/-- `sell_v2` with recipients from `Global` and the quote from the curve. -/
def sell_v2_instruction (global : Global) (bonding_curve : BondingCurve)
    (base_mint quote_token_program user : Pubkey) (amount min_sol_output : UInt64) :
    Option Instruction := do
  let (fee_recipient, buyback_fee_recipient) ←
    pump_fee_recipients_pair global bonding_curve.is_mayhem_mode
  some (sell_v2_instruction_with_recipients base_mint bonding_curve.quote_mint quote_token_program
    user bonding_curve.creator fee_recipient buyback_fee_recipient amount min_sol_output)

/-- `sell_v2` behind the ATA creates, which leave the base ATA out. -/
def sell_v2_instructions (global : Global) (bonding_curve : BondingCurve)
    (base_mint quote_token_program user : Pubkey) (amount min_sol_output : UInt64) :
    Option (List Instruction) := do
  let (fee_recipient, buyback_fee_recipient) ←
    pump_fee_recipients_pair global bonding_curve.is_mayhem_mode
  let instructions := user_trade_atas user base_mint bonding_curve
    constants.SPL_TOKEN_2022_PROGRAM_ID quote_token_program false
  some (instructions ++ [sell_v2_instruction_with_recipients base_mint bonding_curve.quote_mint
    quote_token_program user bonding_curve.creator fee_recipient buyback_fee_recipient amount
    min_sol_output])

end Recipients

end PumpSdk

end pump_rust_client.sdk
