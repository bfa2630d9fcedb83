import PumpClient.Math.Amm.TokenOut

open machine exchange

namespace pump_rust_client.math.amm

open state state.pump_amm utils fees

variable {ctx : AmmContext} {bps : AmmFeeBps} {quote_in base_out cost : UInt64}

/-- What an exact input buys costs less than the input: the swap keeps one unit
    of the net back. -/
theorem total_quote_lt_of_buys (hquote : 0 < ctx.quote_reserve.toNat)
    (hpos : 0 < base_out.toNat)
    (hout : base_out.toNat = swapOut ((schedule (ctx.charged_bps bps)).net quote_in.toNat - 1)
      ctx.quote_reserve.toNat ctx.base_reserve.toNat) :
    base_out.toNat < ctx.base_reserve.toNat ∧ ctx.total_quote bps base_out < quote_in.toNat := by
  have hnet := pos_of_swapOut_pos (hout ▸ hpos)
  have hlt : base_out.toNat < ctx.base_reserve.toNat :=
    lt_of_swapOut_pos hquote (hout ▸ hpos) hout.le
  have hraw : ctx.raw_quote base_out ≤ (schedule (ctx.charged_bps bps)).net quote_in.toNat - 1 :=
    (swapInCeil_le_iff_le_swapOut hquote hlt).mpr hout.le
  have hgross : ctx.total_quote bps base_out < (schedule (ctx.charged_bps bps)).charge quote_in.toNat :=
    FeeSchedule.gross_lt_charge (by omega)
  have hcharge := FeeSchedule.charge_le (s := schedule (ctx.charged_bps bps)) (b := quote_in.toNat)
    (by omega)
  exact ⟨hlt, by omega⟩

/-- The exact cost of an amount buys at most that amount. -/
theorem swapOut_net_le_of_total_quote (hcost : cost.toNat = ctx.total_quote bps base_out) :
    swapOut ((schedule (ctx.charged_bps bps)).net cost.toNat - 1)
      ctx.quote_reserve.toNat ctx.base_reserve.toNat ≤ base_out.toNat := by
  have hnet : (schedule (ctx.charged_bps bps)).net cost.toNat ≤ ctx.raw_quote base_out :=
    FeeSchedule.net_le_of_le_gross hcost.le
  exact swapOut_pred_le hnet

section

variable [Build] [Solana]

/-- `cost` is the whole price of `base_out`, with nothing truncated off it. -/
def ExactCost (ctx : AmmContext) (base_out cost : UInt64) : Prop :=
  ∃ bps, ctx.fee_bps = .ok bps ∧ cost.toNat = ctx.total_quote bps base_out

/-- What an exact input buys: the swap of all but one unit of its net. -/
theorem buy_quote_input_base_out {res : BuyQuoteInputResult}
    (h : buy_quote_input ctx quote_in = .ok res) :
    check_trading_enabled ctx.global_config true = .ok () ∧ ctx.check_reserves = .ok () ∧
      ∃ bps, ctx.fee_bps = .ok bps ∧ 0 < res.base_amount_out.toNat ∧
        res.effective_quote.toNat = (schedule (ctx.charged_bps bps)).net quote_in.toNat ∧
        res.base_amount_out.toNat = swapOut
          ((schedule (ctx.charged_bps bps)).net quote_in.toNat - 1)
          ctx.quote_reserve.toNat ctx.base_reserve.toNat := by
  obtain ⟨bps, hopen, hreserves, hbps⟩ := buy_quote_input_ok h
  rw [buy_quote_input_eq hopen hreserves hbps rfl] at h
  split at h
  · simp at h
  next hne =>
  cases h
  have hout := swapOut_le ((schedule (ctx.charged_bps bps)).net quote_in.toNat - 1)
    ctx.quote_reserve.toNat ctx.base_reserve.toNat
  have hbase := U64.toNat_lt ctx.base_reserve
  rw [toNat_cast_net, U64.toNat_cast_of_lt (by omega)]
  exact ⟨hopen, hreserves, bps, hbps, Nat.pos_of_ne_zero (not_or.mp hne).2, rfl, rfl⟩

/-- The two direct buys bracket each other: what an exact input buys is priced
    exactly and below that input, and the exact cost of an amount buys at most
    the amount. -/
theorem amm_buys_bracket (ctx : AmmContext) :
    (∀ quote_in res, buy_quote_input ctx quote_in = .ok res →
      ∃ cost, buy_base_input ctx res.base_amount_out = .ok cost ∧
        ExactCost ctx res.base_amount_out cost.total_quote_in ∧ cost.total_quote_in < quote_in) ∧
    ∀ base_out cost, ExactCost ctx base_out cost → ∀ res, buy_quote_input ctx cost = .ok res →
      res.base_amount_out ≤ base_out := by
  constructor
  · intro quote_in res h
    obtain ⟨hopen, hreserves, bps, hbps, hpos, -, hout⟩ := buy_quote_input_base_out h
    obtain ⟨-, hquote⟩ := AmmContext.check_reserves_eq_ok_iff.mp hreserves
    obtain ⟨hlt, hcost⟩ := total_quote_lt_of_buys hquote hpos hout
    have hfits := hcost.trans (U64.toNat_lt quote_in)
    have hexact := U64.toNat_cast_of_lt hfits
    refine ⟨_, buy_base_input_of_fits hopen hreserves (UInt64.lt_iff_toNat_lt.mpr hlt) hbps hfits,
      ⟨bps, hbps, hexact⟩, ?_⟩
    rw [UInt64.lt_iff_toNat_lt, hexact]
    exact hcost
  · rintro base_out cost ⟨bps, hbps, hcost⟩ res h
    obtain ⟨-, -, bps', hbps', -, -, hout⟩ := buy_quote_input_base_out h
    obtain rfl : bps = bps' := Except.ok.inj (hbps.symm.trans hbps')
    rw [UInt64.le_iff_toNat_le, hout]
    exact swapOut_net_le_of_total_quote hcost

end

/-- One tier of 0.2% for the liquidity, 0.05% for the protocol and 0.3% for the
    creator. -/
def graduatedFees : FeeConfig where
  bump := 0
  admin := Pubkey.default
  flat_fees := ⟨20, 5, 30⟩
  fee_tiers := [⟨0, ⟨20, 5, 30⟩⟩]
  stable_fee_tiers := []
  exotic_flat_fees := ⟨0, 0, 0⟩

/-- The graduated pool with its migration reserves. -/
def graduatedContext : AmmContext where
  global_config := GlobalConfig.default
  fee_config := graduatedFees
  base_mint := graduatedPool.base_mint
  pool_creator := graduatedPool.creator
  coin_creator := graduatedPool.coin_creator
  quote_mint := graduatedPool.quote_mint
  creator_fee_bps := graduatedPool.creator_fee_bps
  base_reserve := 206_900_000_000_000
  quote_reserve := 84_990_359_679
  base_mint_supply := 1_000_000_000_000_000
  real_quote_reserve := 84_990_359_679

/-- One budget and one amount on the graduated pool. -/
theorem amm_buys_bracket_graduated :
    letI : Build := ⟨true⟩
    letI : Solana := graduatedPoolAuthority
    (∃ cost, buy_base_input graduatedContext 2_393_074_810_390 = .ok cost ∧
      ExactCost graduatedContext 2_393_074_810_390 cost.total_quote_in ∧
      cost.total_quote_in < 1_000_000_000) ∧
    ∀ res, buy_quote_input graduatedContext 999_910_171 = .ok res →
      res.base_amount_out ≤ 2_392_862_331_402 := by
  let _ : Build := ⟨true⟩
  let _ : Solana := graduatedPoolAuthority
  obtain ⟨hforward, hback⟩ := amm_buys_bracket graduatedContext
  refine ⟨hforward 1_000_000_000 ⟨2_393_074_810_390, 994_530_082⟩ (by decide +kernel), ?_⟩
  exact hback 2_392_862_331_402 999_910_171 ⟨⟨20, 5, 30⟩, by decide +kernel, by decide +kernel⟩

end pump_rust_client.math.amm
