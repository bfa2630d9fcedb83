import PumpClient.AsyncClient.Discovery
import PumpClient.AsyncClient.Buildable
import PumpClient.Sdk.PumpV3
import PumpClient.Sdk.SingleHop

open machine

namespace pump_rust_client.async_client

open state math math.amm math.bonding_curve sdk sdk.PumpSdk errors accounts

/-- Snapshot for quoting and building one bonding-curve trade. -/
structure CurveQuoteState where
  global : Global
  fee_config : FeeConfig
  bonding_curve : BondingCurve
  mint : Pubkey
  mint_supply : UInt64
  base_token_program : Pubkey
  quote_mint : Pubkey
  quote_token_program : Pubkey
  base_ata_amount : UInt64
  buyback_fee_recipient : Pubkey

section Fetch

variable [AccountDeserialize BondingCurve] [AccountDeserialize Mint]
  [AccountDeserialize TokenAccount] [AccountDeserialize Global] [AccountDeserialize FeeConfig]
  [Solana] [Fastrand]

/-- The balance in `accounts[i]`, zero where there is no account. -/
def optional_amount (accounts : List (Option Account)) (i : Nat) : Result UInt64 :=
  match accounts[i]? with
  | none => Outcome.panic
  | some none => .ok 0
  | some (some account) => token_amount account

section

variable [RpcClient]

/-- Everything the bonding-curve quoters and the trade builders need for
    `mint`, in two fetches: the quote mint and the curve's base ATA are only
    known once the curve and the mint are decoded. -/
def fetch_curve_quote_state (mint : Pubkey) : Result CurveQuoteState := do
  let keys := [pda.pump.global.1, pda.pump.fee_config.1, (pda.pump.bonding_curve mint).1, mint]
  let need := required (← RpcClient.get_multiple_accounts 0 keys) keys
  let bonding_curve ← decode_bonding_curve (← need 2 "bonding_curve").data
  let (mint_supply, base_token_program) ← mint_info (← need 3 "mint")
  let quote_mint := resolve_quote_mint bonding_curve.quote_mint
  let base_ata :=
    (pda.associated_token (pda.pump.bonding_curve mint).1 base_token_program mint).1
  let second := [quote_mint, base_ata]
  let more ← RpcClient.get_multiple_accounts 1 second
  let quote_token_program := (← required more second 0 "quote_mint").owner
  let base_ata_amount ← optional_amount more 1
  let global ← decode_global (← need 0 "global").data
  let buyback_fee_recipient ← Outcome.ok_or (buyback_fee_recipient_from_pump_global global)
    (.AccountNotFound "buyback_fee_recipient" pda.pump.global.1)
  .ok {
    global
    fee_config := ← decode_fee_config (← need 1 "fee_config").data
    bonding_curve
    mint
    mint_supply
    base_token_program
    quote_mint
    quote_token_program
    base_ata_amount
    buyback_fee_recipient }

variable [Build]

/-- `buy_v3` of `amount` tokens of `mint`, at the quoted `max_input`. -/
def build_buy_v3 (user mint : Pubkey) (amount : UInt64) (slippage_bps : UInt16) :
    Result (Quote × List Instruction) := do
  let s ← fetch_curve_quote_state mint
  let quote ← Outcome.map_err .Quote (buy_quote_bonding_curve_v3_token_out s.global s.fee_config
    s.bonding_curve s.mint_supply s.base_ata_amount amount slippage_bps)
  .ok (quote, buy_v3_instructions s.mint s.quote_mint s.base_token_program s.quote_token_program user
    s.buyback_fee_recipient amount quote.max_input)

/-- `buy_exact_quote_in_v3` spending `spendable_quote_in` of `mint`'s quote, at
    the quoted `min_out`. -/
def build_buy_exact_quote_in_v3 (user mint : Pubkey) (spendable_quote_in : UInt64)
    (slippage_bps : UInt16) : Result (Quote × List Instruction) := do
  let s ← fetch_curve_quote_state mint
  let quote ← Outcome.map_err .Quote (buy_quote_bonding_curve_v3_sol_in s.global s.fee_config
    s.bonding_curve s.mint_supply s.base_ata_amount spendable_quote_in slippage_bps)
  .ok (quote, buy_exact_quote_in_v3_instructions s.mint s.quote_mint s.base_token_program
    s.quote_token_program user s.buyback_fee_recipient spendable_quote_in quote.min_out)

/-- `sell_v3` of `amount` tokens of `mint`, at the quoted `min_out`. -/
def build_sell_v3 (user mint : Pubkey) (amount : UInt64) (slippage_bps : UInt16) :
    Result (Quote × List Instruction) := do
  let s ← fetch_curve_quote_state mint
  let quote ← Outcome.map_err .Quote (sell_quote_bonding_curve s.global s.fee_config s.bonding_curve
    s.mint_supply amount slippage_bps)
  .ok (quote, sell_v3_instructions s.mint s.quote_mint s.base_token_program s.quote_token_program user
    s.buyback_fee_recipient amount quote.min_out)

end

/-- The base ATA of a state's curve. -/
def CurveQuoteState.base_ata (st : CurveQuoteState) : Pubkey :=
  (pda.associated_token (pda.pump.bonding_curve st.mint).1 st.base_token_program st.mint).1

/-- A coin's state as the accounts have it, each read at its own key. -/
structure CurveQuoteState.ReadFrom (snapshot : Snapshot) (mint : Pubkey) (st : CurveQuoteState) :
    Prop where
  mint_eq : st.mint = mint
  quote_mint_eq : st.quote_mint = resolve_quote_mint st.bonding_curve.quote_mint
  global : ∃ account, snapshot pda.pump.global.1 = some account ∧
    decode_global account.data = .ok st.global
  fee_config : ∃ account, snapshot pda.pump.fee_config.1 = some account ∧
    decode_fee_config account.data = .ok st.fee_config
  bonding_curve : ∃ account, snapshot (pda.pump.bonding_curve mint).1 = some account ∧
    decode_bonding_curve account.data = .ok st.bonding_curve
  mint : ∃ account, snapshot mint = some account ∧
    mint_info account = .ok (st.mint_supply, st.base_token_program)
  quote_token_program : ∃ account, snapshot st.quote_mint = some account ∧
    account.owner = st.quote_token_program
  base_ata_amount : optional_amount [snapshot st.base_ata] 0 = .ok st.base_ata_amount
  recipient : buyback_fee_recipient_from_pump_global st.global = some st.buyback_fee_recipient

variable {snapshot : Snapshot} {mint : Pubkey} {st : CurveQuoteState} [RpcClient]

/-- A fetch returns the state the accounts have, and nothing else. -/
theorem fetch_curve_quote_state_ok_iff
    (hsnapshot : ∀ request keys, RpcClient.get_multiple_accounts request keys =
      .ok (keys.map snapshot)) :
    fetch_curve_quote_state mint = .ok st ↔ st.ReadFrom snapshot mint := by
  have hglobal_key : ∀ name, required ([pda.pump.global.1, pda.pump.fee_config.1,
      (pda.pump.bonding_curve mint).1, mint].map snapshot) _ 0 name =
        snapshot.account name pda.pump.global.1 := required_snapshot snapshot rfl
  have hfee_config_key : ∀ name, required ([pda.pump.global.1, pda.pump.fee_config.1,
      (pda.pump.bonding_curve mint).1, mint].map snapshot) _ 1 name =
        snapshot.account name pda.pump.fee_config.1 := required_snapshot snapshot rfl
  have hcurve_key : ∀ name, required ([pda.pump.global.1, pda.pump.fee_config.1,
      (pda.pump.bonding_curve mint).1, mint].map snapshot) _ 2 name =
        snapshot.account name (pda.pump.bonding_curve mint).1 := required_snapshot snapshot rfl
  have hmint_key : ∀ name, required ([pda.pump.global.1, pda.pump.fee_config.1,
      (pda.pump.bonding_curve mint).1, mint].map snapshot) _ 3 name =
        snapshot.account name mint := required_snapshot snapshot rfl
  have hquote_key : ∀ quote_mint base_ata name, required ([quote_mint, base_ata].map snapshot)
      [quote_mint, base_ata] 0 name = snapshot.account name quote_mint := by
    intro quote_mint base_ata
    exact required_snapshot snapshot rfl
  have hata : ∀ quote_mint base_ata, optional_amount ([quote_mint, base_ata].map snapshot) 1 =
      optional_amount [snapshot base_ata] 0 := fun _ _ => rfl
  simp only [fetch_curve_quote_state, hsnapshot, Outcome.ok_bind, hglobal_key, hfee_config_key,
    hcurve_key, hmint_key, hquote_key, hata, Outcome.bind_eq_ok_iff, Snapshot.account_eq_ok_iff,
    Outcome.ok_or_eq_ok_iff, Except.ok.injEq]
  constructor
  · rintro ⟨curve_account, hcurve, curve, hcurve_decode, mint_account, hmint, ⟨supply, program⟩, hinfo,
      quote_account, hquote, amount, hamount, global_account, hglobal, global, hglobal_decode, recipient,
      hrecipient, fee_account, hfee, fee_config, hfee_decode, rfl⟩
    exact ⟨rfl, rfl, ⟨_, hglobal, hglobal_decode⟩, ⟨_, hfee, hfee_decode⟩, ⟨_, hcurve, hcurve_decode⟩,
      ⟨_, hmint, hinfo⟩, ⟨_, hquote, rfl⟩, hamount, hrecipient⟩
  · rintro ⟨rfl, hquote_mint, ⟨global_account, hglobal, hglobal_decode⟩, ⟨fee_account, hfee, hfee_decode⟩,
      ⟨curve_account, hcurve, hcurve_decode⟩, ⟨mint_account, hmint, hinfo⟩,
      ⟨quote_account, hquote, howner⟩, hamount, hrecipient⟩
    rw [hquote_mint] at hquote
    refine ⟨curve_account, hcurve, _, hcurve_decode, mint_account, hmint, _, hinfo, quote_account,
      hquote, _, hamount, global_account, hglobal, _, hglobal_decode, _, hrecipient, fee_account, hfee,
      _, hfee_decode, ?_⟩
    rw [howner, ← hquote_mint]

end Fetch

end pump_rust_client.async_client
