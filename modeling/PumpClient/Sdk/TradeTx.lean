import PumpClient.Sdk.PumpV2
import PumpClient.Token

open machine borsh

namespace pump_rust_client.sdk

open state state.pump_amm token

/-- Keys derived once for the AMM's buy and sell. -/
structure AmmTradeAccounts where
  coin_creator_vault_authority : Pubkey
  user_volume_accumulator : Pubkey
  user_base_token_account : Pubkey
  user_quote_token_account : Pubkey
  pool_base_token_account : Pubkey
  pool_quote_token_account : Pubkey
  protocol_fee_recipient_token_account : Pubkey
  coin_creator_vault_ata : Pubkey

/-- The venue a trade is built for. -/
inductive TradeVenue where
  | BondingCurve (global : Global) (bonding_curve : BondingCurve)
  | Amm (pool : Pubkey) (amm_global : GlobalConfig) (pool_state : Pool)

/-- Parameters of `trade_tx_instructions_with_venue`. -/
structure TradeTxWithVenueParams where
  mint : Pubkey
  base_token_program : Pubkey
  quote_token_program : Pubkey
  user : Pubkey
  is_buy : Bool
  venue : TradeVenue
  base_amount : UInt64
  sol_amount_threshold : UInt64

/-- A pool after its curve's migration. -/
structure PumpPoolCtx where
  pool : Pubkey
  amm_global : GlobalConfig
  pool_state : Pool

/-- Parameters of `trade_tx_instructions`. -/
structure TradeTxParams where
  mint : Pubkey
  base_token_program : Pubkey
  quote_token_program : Pubkey
  user : Pubkey
  is_buy : Bool
  base_amount : UInt64
  sol_amount_threshold : UInt64
  pump_global : Global
  bonding_curve : BondingCurve
  pump_pool : Option PumpPoolCtx

/-- Whether a program is built with debug assertions. -/
class Assertions where
  debug_assertions : Bool

variable [Solana]

def AmmTradeAccounts.derive (pool base_mint quote_mint base_token_program quote_token_program user
    coin_creator protocol_fee_recipient : Pubkey) : AmmTradeAccounts :=
  let coin_creator_vault_authority := (pda.pump_amm.coin_creator_vault_authority coin_creator).1
  let user_volume_accumulator := (pda.pump_amm.user_volume_accumulator user).1
  let ata := fun owner token_program mint => (pda.associated_token owner token_program mint).1
  { coin_creator_vault_authority
    user_volume_accumulator
    user_base_token_account := ata user base_token_program base_mint
    user_quote_token_account := ata user quote_token_program quote_mint
    pool_base_token_account := ata pool base_token_program base_mint
    pool_quote_token_account := ata pool quote_token_program quote_mint
    protocol_fee_recipient_token_account :=
      ata protocol_fee_recipient quote_token_program quote_mint
    coin_creator_vault_ata := ata coin_creator_vault_authority quote_token_program quote_mint }

namespace PumpSdk

/-- The named metas of an AMM trade. The buy lists its volume accumulators
    before the fee accounts. -/
def amm_trade_metas (pool base_mint quote_mint base_token_program quote_token_program user
    protocol_fee_recipient : Pubkey) (volume_accumulators : List AccountMeta)
    (a : AmmTradeAccounts) : List AccountMeta := [
  AccountMeta.new pool false,
  AccountMeta.new user true,
  AccountMeta.new_readonly pda.pump_amm.global_config.1 false,
  AccountMeta.new_readonly base_mint false,
  AccountMeta.new_readonly quote_mint false,
  AccountMeta.new a.user_base_token_account false,
  AccountMeta.new a.user_quote_token_account false,
  AccountMeta.new a.pool_base_token_account false,
  AccountMeta.new a.pool_quote_token_account false,
  AccountMeta.new_readonly protocol_fee_recipient false,
  AccountMeta.new a.protocol_fee_recipient_token_account false,
  AccountMeta.new_readonly base_token_program false,
  AccountMeta.new_readonly quote_token_program false,
  AccountMeta.new_readonly constants.SYSTEM_PROGRAM_ID false,
  AccountMeta.new_readonly constants.SPL_ATA_PROGRAM_ID false,
  AccountMeta.new_readonly pda.pump_amm.event_authority.1 false,
  AccountMeta.new_readonly constants.pump_amm.PROGRAM_ID false,
  AccountMeta.new a.coin_creator_vault_ata false,
  AccountMeta.new_readonly a.coin_creator_vault_authority false] ++
  volume_accumulators ++ [
  AccountMeta.new_readonly pda.pump_amm.fee_config.1 false,
  AccountMeta.new_readonly constants.FEE_PROGRAM_ID false]

def buy_amm_instruction_with_recipients (pool base_mint quote_mint base_token_program
    quote_token_program user coin_creator protocol_fee_recipient buyback_fee_recipient : Pubkey)
    (is_cashback_coin : Bool) (base_amount_out max_quote_amount_in : UInt64) : Instruction :=
  let a := AmmTradeAccounts.derive pool base_mint quote_mint base_token_program quote_token_program
    user coin_creator protocol_fee_recipient
  let metas := amm_trade_metas pool base_mint quote_mint base_token_program quote_token_program user
    protocol_fee_recipient [
      AccountMeta.new_readonly pda.pump_amm.global_volume_accumulator.1 false,
      AccountMeta.new a.user_volume_accumulator false] a
  let cashback :=
    if is_cashback_coin then
      [AccountMeta.new
        (pda.associated_token a.user_volume_accumulator quote_token_program quote_mint).1 false]
    else []
  let creator :=
    if coin_creator ≠ Pubkey.default then
      [AccountMeta.new_readonly (pda.pump_amm.pool_v2 base_mint).1 false]
    else []
  { program_id := constants.pump_amm.PROGRAM_ID
    accounts := metas ++ cashback ++ creator ++ [
      AccountMeta.new buyback_fee_recipient false,
      AccountMeta.new
        (pda.associated_token buyback_fee_recipient quote_token_program quote_mint).1 false]
    -- `track_volume` is on.
    data := [102, 6, 61, 18, 1, 218, 235, 234] ++ Codec.u64.encode base_amount_out ++
      Codec.u64.encode max_quote_amount_in ++ Codec.bool.encode true }

/-- The sell lists the buyback recipient read-only and, on a cashback coin, the
    user's volume accumulator with its ATA. -/
def sell_amm_instruction_with_recipients (pool base_mint quote_mint base_token_program
    quote_token_program user coin_creator protocol_fee_recipient buyback_fee_recipient : Pubkey)
    (is_cashback_coin : Bool) (base_amount_in min_quote_amount_out : UInt64) : Instruction :=
  let a := AmmTradeAccounts.derive pool base_mint quote_mint base_token_program quote_token_program
    user coin_creator protocol_fee_recipient
  let metas := amm_trade_metas pool base_mint quote_mint base_token_program quote_token_program user
    protocol_fee_recipient [] a
  let cashback :=
    if is_cashback_coin then
      [AccountMeta.new
          (pda.associated_token a.user_volume_accumulator quote_token_program quote_mint).1 false,
        AccountMeta.new a.user_volume_accumulator false]
    else []
  let creator :=
    if coin_creator ≠ Pubkey.default then
      [AccountMeta.new_readonly (pda.pump_amm.pool_v2 base_mint).1 false]
    else []
  { program_id := constants.pump_amm.PROGRAM_ID
    accounts := metas ++ cashback ++ creator ++ [
      AccountMeta.new_readonly buyback_fee_recipient false,
      AccountMeta.new
        (pda.associated_token buyback_fee_recipient quote_token_program quote_mint).1 false]
    data := [51, 230, 133, 164, 1, 127, 131, 173] ++ Codec.u64.encode base_amount_in ++
      Codec.u64.encode min_quote_amount_out }

variable [Draws] [Assertions]

/-- Full buy or sell on a venue: the v2 trade of a curve, or the AMM trade
    between the wrap and the unwrap of a native quote. -/
def trade_tx_instructions_with_venue {ε : Type} (params : TradeTxWithVenueParams) :
    Outcome ε (Option (List Instruction)) :=
  match params.venue with
  | .BondingCurve global bonding_curve =>
    .ok (if params.is_buy then
      buy_v2_instructions global bonding_curve params.mint params.quote_token_program params.user
        params.base_amount params.sol_amount_threshold
    else
      sell_v2_instructions global bonding_curve params.mint params.quote_token_program params.user
        params.base_amount params.sol_amount_threshold)
  | .Amm pool amm_global pool_state =>
    if Assertions.debug_assertions ∧ params.mint ≠ pool_state.base_mint then Outcome.panic
    else .ok (do
      let base_mint := pool_state.base_mint
      let quote_mint := pool_state.quote_mint
      let (protocol_fee_recipient, buyback_fee_recipient) ← amm_fee_recipients_pair amm_global
      let uses_native_quote := quote_mint = constants.NATIVE_MINT
      let user_base := create_associated_token_account_idempotent params.user params.user base_mint
        params.base_token_program
      let user_quote := create_associated_token_account_idempotent params.user params.user quote_mint
        params.quote_token_program
      let trade :=
        if params.is_buy then
          [user_base, user_quote] ++
            (if uses_native_quote then
              wrap_sol_instructions params.user params.sol_amount_threshold
            else []) ++
            [buy_amm_instruction_with_recipients pool base_mint quote_mint params.base_token_program
              params.quote_token_program params.user pool_state.coin_creator protocol_fee_recipient
              buyback_fee_recipient pool_state.is_cashback_coin params.base_amount
              params.sol_amount_threshold]
        else
          [user_quote, sell_amm_instruction_with_recipients pool base_mint quote_mint
            params.base_token_program params.quote_token_program params.user pool_state.coin_creator
            protocol_fee_recipient buyback_fee_recipient pool_state.is_cashback_coin
            params.base_amount params.sol_amount_threshold]
      some (trade ++ if uses_native_quote then [unwrap_sol_instruction params.user] else []))

/-- The venue that `complete` selects, if its pool was supplied. -/
def trade_tx_venue (params : TradeTxParams) : Option TradeVenue :=
  if params.bonding_curve.complete then do
    let p ← params.pump_pool
    some (.Amm p.pool p.amm_global p.pool_state)
  else some (.BondingCurve params.pump_global params.bonding_curve)

/-- The trade on the venue that `complete` selects. -/
def trade_tx_instructions {ε : Type} (params : TradeTxParams) :
    Outcome ε (Option (List Instruction)) :=
  match trade_tx_venue params with
  | none => .ok none
  | some venue => trade_tx_instructions_with_venue
    { mint := params.mint
      base_token_program := params.base_token_program
      quote_token_program := params.quote_token_program
      user := params.user
      is_buy := params.is_buy
      venue
      base_amount := params.base_amount
      sol_amount_threshold := params.sol_amount_threshold }

end PumpSdk

end pump_rust_client.sdk
