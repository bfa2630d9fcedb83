import PumpClient.Sdk.MultiHop
import PumpClient.State.Layout

open machine borsh

namespace pump_rust_client.sdk

open state

/-- Keys of one v3 trade. `quote_mint` is the resolved value. -/
structure V3Trade where
  base_mint : Pubkey
  quote_mint : Pubkey
  base_token_program : Pubkey
  quote_token_program : Pubkey
  user : Pubkey
  buyback_fee_recipient : Pubkey

namespace V3Trade

def new (base_mint quote_mint base_token_program quote_token_program user
    buyback_fee_recipient : Pubkey) : V3Trade where
  base_mint
  quote_mint := PumpSdk.resolve_quote_mint quote_mint
  base_token_program
  quote_token_program
  user
  buyback_fee_recipient

def is_token_quoted (self : V3Trade) : Bool := self.quote_mint != constants.NATIVE_MINT

variable [Solana]

/-- The account set of the three instructions. -/
def accounts (self : V3Trade) : List AccountMeta :=
  let bonding_curve := (pda.pump.bonding_curve self.base_mint).1
  let ata := fun owner token_program mint => (pda.associated_token owner token_program mint).1
  [AccountMeta.new_readonly pda.pump.global.1 false,
    AccountMeta.new_readonly self.base_mint false,
    AccountMeta.new_readonly self.quote_mint false,
    AccountMeta.new_readonly self.base_token_program false,
    AccountMeta.new_readonly self.quote_token_program false,
    AccountMeta.new bonding_curve false,
    AccountMeta.new (ata bonding_curve self.base_token_program self.base_mint) false,
    AccountMeta.new (ata bonding_curve self.quote_token_program self.quote_mint) false,
    AccountMeta.new self.user true,
    AccountMeta.new (ata self.user self.base_token_program self.base_mint) false,
    AccountMeta.new (ata self.user self.quote_token_program self.quote_mint) false,
    AccountMeta.new (pda.pump.user_volume_accumulator self.user).1 false,
    AccountMeta.new_readonly pda.pump.fee_config.1 false,
    -- The wallet itself on a SOL curve, its quote ATA on a token quote.
    AccountMeta.new
      (if self.is_token_quoted then
        ata self.buyback_fee_recipient self.quote_token_program self.quote_mint
      else self.buyback_fee_recipient) false,
    AccountMeta.new_readonly constants.SYSTEM_PROGRAM_ID false,
    AccountMeta.new_readonly pda.pump.event_authority.1 false,
    AccountMeta.new_readonly constants.pump.PROGRAM_ID false]

def instruction (self : V3Trade) (data : List UInt8) : Instruction where
  program_id := constants.pump.PROGRAM_ID
  accounts := self.accounts
  data

/-- The trade behind idempotent creates of the user's base ATA on buys and, on
    a token quote, of the user's and the buyback recipient's quote ATAs. -/
def with_user_atas (self : V3Trade) (include_base : Bool) (trade : Instruction) :
    List Instruction :=
  let base :=
    if include_base then
      [PumpSdk.create_associated_token_account_idempotent self.user self.user self.base_mint
        self.base_token_program]
    else []
  let quote :=
    if self.is_token_quoted then
      [PumpSdk.create_associated_token_account_idempotent self.user self.user self.quote_mint
          self.quote_token_program,
        PumpSdk.create_associated_token_account_idempotent self.user self.buyback_fee_recipient
          self.quote_mint self.quote_token_program]
    else []
  base ++ quote ++ [trade]

end V3Trade

/-- Buys ask for a partial fill. -/
def buy_v3_data (amount max_quote_cost : UInt64) : List UInt8 :=
  [7, 5, 29, 196, 245, 23, 101, 80] ++ Codec.u64.encode amount ++ Codec.u64.encode max_quote_cost ++
    Codec.bool.encode true

def buy_exact_quote_in_v3_data (spendable_quote_in min_tokens_out : UInt64) : List UInt8 :=
  [225, 247, 80, 30, 213, 179, 132, 136] ++ Codec.u64.encode spendable_quote_in ++
    Codec.u64.encode min_tokens_out ++ Codec.bool.encode true

def sell_v3_data (amount min_quote_out : UInt64) : List UInt8 :=
  [28, 146, 222, 119, 38, 196, 105, 213] ++ Codec.u64.encode amount ++
    Codec.u64.encode min_quote_out

namespace PumpSdk

variable [Solana]

/-- `buy_v3`: `amount` tokens for at most `max_quote_cost`. -/
def buy_v3_instruction (base_mint quote_mint base_token_program quote_token_program user
    buyback_fee_recipient : Pubkey) (amount max_quote_cost : UInt64) : Instruction :=
  (V3Trade.new base_mint quote_mint base_token_program quote_token_program user
    buyback_fee_recipient).instruction (buy_v3_data amount max_quote_cost)

/-- `buy_exact_quote_in_v3`: spend `spendable_quote_in` for `min_tokens_out` or
    more. -/
def buy_exact_quote_in_v3_instruction (base_mint quote_mint base_token_program quote_token_program
    user buyback_fee_recipient : Pubkey) (spendable_quote_in min_tokens_out : UInt64) :
    Instruction :=
  (V3Trade.new base_mint quote_mint base_token_program quote_token_program user
    buyback_fee_recipient).instruction
    (buy_exact_quote_in_v3_data spendable_quote_in min_tokens_out)

/-- `sell_v3`: `amount` tokens for `min_quote_out` or more. -/
def sell_v3_instruction (base_mint quote_mint base_token_program quote_token_program user
    buyback_fee_recipient : Pubkey) (amount min_quote_out : UInt64) : Instruction :=
  (V3Trade.new base_mint quote_mint base_token_program quote_token_program user
    buyback_fee_recipient).instruction (sell_v3_data amount min_quote_out)

def buy_v3_instructions (base_mint quote_mint base_token_program quote_token_program user
    buyback_fee_recipient : Pubkey) (amount max_quote_cost : UInt64) : List Instruction :=
  let trade := V3Trade.new base_mint quote_mint base_token_program quote_token_program user
    buyback_fee_recipient
  trade.with_user_atas true (trade.instruction (buy_v3_data amount max_quote_cost))

def buy_exact_quote_in_v3_instructions (base_mint quote_mint base_token_program quote_token_program
    user buyback_fee_recipient : Pubkey) (spendable_quote_in min_tokens_out : UInt64) :
    List Instruction :=
  let trade := V3Trade.new base_mint quote_mint base_token_program quote_token_program user
    buyback_fee_recipient
  trade.with_user_atas true
    (trade.instruction (buy_exact_quote_in_v3_data spendable_quote_in min_tokens_out))

def sell_v3_instructions (base_mint quote_mint base_token_program quote_token_program user
    buyback_fee_recipient : Pubkey) (amount min_quote_out : UInt64) : List Instruction :=
  let trade := V3Trade.new base_mint quote_mint base_token_program quote_token_program user
    buyback_fee_recipient
  trade.with_user_atas false (trade.instruction (sell_v3_data amount min_quote_out))

/-- `sweep_creator_fee`: pays the curve's `creator_fee` bucket into the pump
    creator vault. -/
def sweep_creator_fee_instruction (payer base_mint creator quote_mint quote_token_program : Pubkey) :
    Instruction :=
  let quote_mint := resolve_quote_mint quote_mint
  let bonding_curve := (pda.pump.bonding_curve base_mint).1
  let recipient := (pda.pump.creator_vault creator).1
  { program_id := constants.pump.PROGRAM_ID
    accounts := [
      AccountMeta.new payer true,
      AccountMeta.new_readonly pda.pump.global.1 false,
      AccountMeta.new_readonly base_mint false,
      AccountMeta.new_readonly quote_mint false,
      AccountMeta.new_readonly quote_token_program false,
      AccountMeta.new_readonly constants.SPL_ATA_PROGRAM_ID false,
      AccountMeta.new_readonly constants.SYSTEM_PROGRAM_ID false,
      AccountMeta.new bonding_curve false,
      AccountMeta.new (pda.associated_token bonding_curve quote_token_program quote_mint).1 false,
      AccountMeta.new recipient false,
      AccountMeta.new (pda.associated_token recipient quote_token_program quote_mint).1 false,
      AccountMeta.new_readonly pda.pump.event_authority.1 false,
      AccountMeta.new_readonly constants.pump.PROGRAM_ID false]
    data := [32, 246, 191, 52, 8, 201, 73, 186] }

end PumpSdk

end pump_rust_client.sdk
