import PumpClient.AsyncClient.CurveQuote
import PumpClient.Math.BondingCurve.Bracket

open machine

namespace pump_rust_client.sdk

/-- Two trades of one coin create the same accounts and list the same ones,
    whatever the trades' data. -/
theorem V3Trade.with_user_atas_accounts [Solana] (self : V3Trade) (include_base : Bool)
    (data data' : List UInt8) :
    (self.with_user_atas include_base (self.instruction data)).map Instruction.accounts =
      (self.with_user_atas include_base (self.instruction data')).map Instruction.accounts := by
  simp [V3Trade.with_user_atas, V3Trade.instruction]

end pump_rust_client.sdk

namespace pump_rust_client.async_client

open state math math.utils math.amm math.bonding_curve sdk sdk.PumpSdk errors accounts

namespace CurveQuoteState

variable [AccountDeserialize BondingCurve] [AccountDeserialize Mint] [AccountDeserialize TokenAccount]
  [AccountDeserialize Global] [AccountDeserialize FeeConfig] [Solana] [Fastrand] [Build] [RpcClient]
  {snapshot : Snapshot} {mint : Pubkey} {st : CurveQuoteState} {user : Pubkey} {amount : UInt64}
  {slippage_bps : UInt16} {quote : Quote} {ixs : List Instruction}

/-- The tokens an exact-out buy fills: a mayhem curve only what is left of it. -/
def filled (st : CurveQuoteState) (amount : UInt64) : UInt64 :=
  if st.bonding_curve.is_mayhem_mode then min amount st.bonding_curve.real_token_reserves else amount

theorem build_buy_v3_ok_iff
    (hsnapshot : ∀ request keys, RpcClient.get_multiple_accounts request keys =
      .ok (keys.map snapshot))
    (hst : st.ReadFrom snapshot mint) :
    build_buy_v3 user mint amount slippage_bps = .ok (quote, ixs) ↔
      (∃ cost, buy_v3_sol_amount_from_token_amount st.global st.fee_config st.bonding_curve
          st.mint_supply st.base_ata_amount amount = .ok cost ∧
        quote = ⟨cost, st.filled amount, st.filled amount, add_slippage cost slippage_bps⟩) ∧
      ixs = buy_v3_instructions st.mint st.quote_mint st.base_token_program st.quote_token_program
        user st.buyback_fee_recipient amount quote.max_input := by
  rw [build_buy_v3, (fetch_curve_quote_state_ok_iff hsnapshot).mpr hst, Outcome.ok_bind]
  simp only [buy_quote_bonding_curve_v3_token_out, Outcome.bind_eq_ok_iff, Outcome.map_err_eq_ok_iff,
    Except.ok.injEq, Prod.mk.injEq]
  constructor
  · rintro ⟨_, ⟨cost, hcost, rfl⟩, rfl, rfl⟩
    exact ⟨⟨cost, hcost, rfl⟩, rfl⟩
  · rintro ⟨⟨cost, hcost, rfl⟩, rfl⟩
    exact ⟨_, ⟨cost, hcost, rfl⟩, rfl, rfl⟩

theorem build_sell_v3_ok_iff
    (hsnapshot : ∀ request keys, RpcClient.get_multiple_accounts request keys =
      .ok (keys.map snapshot))
    (hst : st.ReadFrom snapshot mint) :
    build_sell_v3 user mint amount slippage_bps = .ok (quote, ixs) ↔
      (∃ out, sell_sol_amount_from_token_amount st.global st.fee_config st.bonding_curve
          st.mint_supply amount = .ok out ∧
        quote = ⟨out, sub_slippage out slippage_bps, amount, amount⟩) ∧
      ixs = sell_v3_instructions st.mint st.quote_mint st.base_token_program st.quote_token_program
        user st.buyback_fee_recipient amount quote.min_out := by
  rw [build_sell_v3, (fetch_curve_quote_state_ok_iff hsnapshot).mpr hst, Outcome.ok_bind]
  simp only [sell_quote_bonding_curve, Outcome.bind_eq_ok_iff, Outcome.map_err_eq_ok_iff,
    Except.ok.injEq, Prod.mk.injEq]
  constructor
  · rintro ⟨_, ⟨out, hout, rfl⟩, rfl, rfl⟩
    exact ⟨⟨out, hout, rfl⟩, rfl⟩
  · rintro ⟨⟨out, hout, rfl⟩, rfl⟩
    exact ⟨_, ⟨out, hout, rfl⟩, rfl, rfl⟩

theorem build_buy_exact_quote_in_v3_ok_iff
    (hsnapshot : ∀ request keys, RpcClient.get_multiple_accounts request keys =
      .ok (keys.map snapshot))
    (hst : st.ReadFrom snapshot mint) :
    build_buy_exact_quote_in_v3 user mint amount slippage_bps = .ok (quote, ixs) ↔
      (∃ tokens charged, buy_v3_token_amount_from_sol_amount st.global st.fee_config st.bonding_curve
          st.mint_supply st.base_ata_amount amount = .ok (tokens, charged) ∧
        quote = ⟨tokens, sub_slippage tokens slippage_bps, charged, amount⟩) ∧
      ixs = buy_exact_quote_in_v3_instructions st.mint st.quote_mint st.base_token_program
        st.quote_token_program user st.buyback_fee_recipient amount quote.min_out := by
  rw [build_buy_exact_quote_in_v3, (fetch_curve_quote_state_ok_iff hsnapshot).mpr hst,
    Outcome.ok_bind]
  simp only [buy_quote_bonding_curve_v3_sol_in, Outcome.bind_eq_ok_iff, Outcome.map_err_eq_ok_iff,
    Except.ok.injEq, Prod.mk.injEq, Prod.exists]
  constructor
  · rintro ⟨_, ⟨tokens, charged, hout, rfl⟩, rfl, rfl⟩
    exact ⟨⟨tokens, charged, hout, rfl⟩, rfl⟩
  · rintro ⟨⟨tokens, charged, hout, rfl⟩, rfl⟩
    exact ⟨_, ⟨tokens, charged, hout, rfl⟩, rfl, rfl⟩

omit [Build] in
/-- Where a build read its state from. -/
theorem readFrom_of_fetch
    (hsnapshot : ∀ request keys, RpcClient.get_multiple_accounts request keys =
      .ok (keys.map snapshot)) {β : Type} {build : CurveQuoteState → Result β} {b : β}
    (h : (fetch_curve_quote_state mint >>= build) = .ok b) :
    ∃ st : CurveQuoteState, st.ReadFrom snapshot mint := by
  obtain ⟨st, hst, -⟩ := Outcome.bind_eq_ok_iff.mp h
  exact ⟨st, (fetch_curve_quote_state_ok_iff hsnapshot).mp hst⟩

end CurveQuoteState

/-- The state of the launched coin, read off the launch snapshot. -/
def launchQuoteState : CurveQuoteState where
  global := { launchGlobal with buyback_fee_recipients := Vector.replicate 8 ⟨31⟩ }
  fee_config := launchFees
  bonding_curve := launchCurve
  mint := ⟨11⟩
  mint_supply := 1_000_000_000_000_000
  base_token_program := constants.SPL_TOKEN_2022_PROGRAM_ID
  quote_mint := constants.NATIVE_MINT
  quote_token_program := constants.SPL_TOKEN_PROGRAM_ID
  base_ata_amount := 1_000_000_000_000_000
  buyback_fee_recipient := ⟨31⟩

end pump_rust_client.async_client
