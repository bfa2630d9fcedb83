import PumpClient.Exchange.Monotone
import PumpClient.Math.Amm.Bracket
import PumpClient.Math.BondingCurve.Hop
import PumpClient.Math.Fees.Accounting

open machine exchange

namespace pump_rust_client.math

open state state.pump_amm utils fees

section

variable [Build]

namespace bonding_curve

variable {global : Global} {fee_config : FeeConfig} {bonding_curve : BondingCurve}
  {mint_supply token_amount token_amount' : UInt64} {rates : UInt64 × UInt64}

/-- A larger direct sell pays less by at most the rounding of its fees. -/
theorem sell_sol_amount_le_add {out out' : UInt64}
    (hrates : curve_fee_bps global fee_config bonding_curve mint_supply = .ok rates)
    (htotal : (curveSchedule rates).total ≤ 10_000) (hle : token_amount ≤ token_amount')
    (h : sell_sol_amount_from_token_amount global fee_config bonding_curve mint_supply token_amount =
      .ok out)
    (h' : sell_sol_amount_from_token_amount global fee_config bonding_curve mint_supply
      token_amount' = .ok out') :
    out.toNat ≤ out'.toNat + ((curveSchedule rates).charged - 1) := by
  rcases Nat.eq_zero_or_pos out.toNat with hzero | hpos
  · omega
  have hin := (sell_sol_amount_pos h hpos).1
  have hle_nat := UInt64.le_iff_toNat_le.mp hle
  have hvt : 0 < bonding_curve.virtual_token_reserves.toNat := by
    by_contra hnot
    have hvt_zero : bonding_curve.virtual_token_reserves = 0 := not_not.mp (mt U64.ne_zero_iff.mp hnot)
    rw [sell_sol_amount_from_token_amount, if_pos (Or.inr hvt_zero)] at h
    cases h
    exact absurd hpos (by decide)
  have hpays := (sell_sol_amount_ok_iff hrates hvt hin rfl).mp h
  have hpays' := (sell_sol_amount_ok_iff hrates hvt (hin.trans_le hle_nat) rfl).mp h'
  have hgross := swapOut_mono hle_nat bonding_curve.virtual_token_reserves.toNat
    bonding_curve.virtual_quote_reserves.toNat
  have hkept := FeeSchedule.kept_le_kept_add htotal hgross
  omega

end bonding_curve

namespace amm

variable [Solana] {ctx : AmmContext} {bps : AmmFeeBps}

/-- A larger budget nets less by at most one unit, and with at most two charged
    components no less. -/
theorem effective_quote_le_add {quote_in quote_in' : UInt64} {res res' : BuyQuoteInputResult}
    (hbps : ctx.fee_bps = .ok bps) (hle : quote_in ≤ quote_in')
    (h : buy_quote_input ctx quote_in = .ok res) (h' : buy_quote_input ctx quote_in' = .ok res') :
    res.effective_quote.toNat ≤ res'.effective_quote.toNat + 1 ∧
      ((schedule (ctx.charged_bps bps)).charged ≤ 2 →
        res.effective_quote ≤ res'.effective_quote) := by
  obtain ⟨-, -, bps₁, hbps₁, -, hnet, -⟩ := buy_quote_input_base_out h
  obtain ⟨-, -, bps₂, hbps₂, -, hnet', -⟩ := buy_quote_input_base_out h'
  obtain rfl : bps = bps₁ := Except.ok.inj (hbps.symm.trans hbps₁)
  obtain rfl : bps = bps₂ := Except.ok.inj (hbps.symm.trans hbps₂)
  have hle_net := FeeSchedule.net_le_net_add (s := schedule (ctx.charged_bps bps))
    (UInt64.le_iff_toNat_le.mp hle)
  have hthree := schedule_charged_le_three (ctx.charged_bps bps)
  rw [UInt64.le_iff_toNat_le, hnet, hnet']
  exact ⟨by omega, fun htwo => by omega⟩

/-- A larger direct sell pays less by at most the rounding of its fees. -/
theorem final_quote_out_le_add {base_in base_in' : UInt64} {res res' : SellBaseInputResult}
    (hbps : ctx.fee_bps = .ok bps) (htotal : (schedule (ctx.charged_bps bps)).total ≤ 10_000)
    (hle : base_in ≤ base_in')
    (h : sell_base_input ctx base_in = .ok res) (h' : sell_base_input ctx base_in' = .ok res') :
    res.final_quote_out.toNat ≤
      res'.final_quote_out.toNat + ((schedule (ctx.charged_bps bps)).charged - 1) := by
  obtain ⟨-, -, bps₁, hbps₁, -, -, rfl⟩ := (sell_base_input_ok_iff rfl).mp h
  obtain ⟨-, -, bps₂, hbps₂, -, -, rfl⟩ := (sell_base_input_ok_iff rfl).mp h'
  obtain rfl : bps = bps₁ := Except.ok.inj (hbps.symm.trans hbps₁)
  obtain rfl : bps = bps₂ := Except.ok.inj (hbps.symm.trans hbps₂)
  have hquote := U64.toNat_lt ctx.quote_reserve
  have hgross := swapOut_le base_in.toNat ctx.base_reserve.toNat ctx.quote_reserve.toNat
  have hgross' := swapOut_le base_in'.toNat ctx.base_reserve.toNat ctx.quote_reserve.toNat
  have hkept := FeeSchedule.kept_le_kept_add htotal (swapOut_mono (UInt64.le_iff_toNat_le.mp hle)
    ctx.base_reserve.toNat ctx.quote_reserve.toNat)
  dsimp only
  rw [U64.toNat_cast_of_lt (by omega), U64.toNat_cast_of_lt (by omega)]
  exact hkept

end amm

open bonding_curve amm

/-- Three-fee buys and all sells are monotone up to the rounding of their fees:
    a larger budget nets at most one unit less, and none less with two charged
    components, and a larger sell pays less by fewer units than it charges
    components. -/
theorem trades_monotone_up_to_rounding [Solana] :
    (∀ (ctx : AmmContext) bps, ctx.fee_bps = .ok bps → ∀ quote_in quote_in' res res',
      quote_in ≤ quote_in' → buy_quote_input ctx quote_in = .ok res →
      buy_quote_input ctx quote_in' = .ok res' →
        res.effective_quote.toNat ≤ res'.effective_quote.toNat + 1 ∧
        ((schedule (ctx.charged_bps bps)).charged ≤ 2 →
          res.effective_quote ≤ res'.effective_quote)) ∧
    (∀ (global : Global) (fee_config : FeeConfig) (bonding_curve : BondingCurve) mint_supply rates,
      curve_fee_bps global fee_config bonding_curve mint_supply = .ok rates →
      (curveSchedule rates).total ≤ 10_000 → ∀ token_amount token_amount' out out',
      token_amount ≤ token_amount' →
      sell_sol_amount_from_token_amount global fee_config bonding_curve mint_supply token_amount =
        .ok out →
      sell_sol_amount_from_token_amount global fee_config bonding_curve mint_supply token_amount' =
        .ok out' →
        out.toNat ≤ out'.toNat + ((curveSchedule rates).charged - 1)) ∧
    ∀ (ctx : AmmContext) bps, ctx.fee_bps = .ok bps →
      (schedule (ctx.charged_bps bps)).total ≤ 10_000 → ∀ base_in base_in' res res',
      base_in ≤ base_in' → sell_base_input ctx base_in = .ok res →
      sell_base_input ctx base_in' = .ok res' →
        res.final_quote_out.toNat ≤
          res'.final_quote_out.toNat + ((schedule (ctx.charged_bps bps)).charged - 1) := by
  refine ⟨?_, ?_, ?_⟩
  · intro ctx bps hbps quote_in quote_in' res res' hle h h'
    exact effective_quote_le_add hbps hle h h'
  · intro global fee_config bonding_curve mint_supply rates hrates htotal _ _ out out' hle h h'
    exact sell_sol_amount_le_add hrates htotal hle h h'
  · intro ctx bps hbps htotal base_in base_in' res res' hle h h'
    exact final_quote_out_le_add hbps htotal hle h h'

end

open bonding_curve amm

/-- Each bound is met: one more unit of budget nets one unit less, and one more
    unit of gross pays one unit less on the curve and two on the pool. -/
theorem trades_monotone_up_to_rounding_tight :
    letI : Build := ⟨true⟩
    letI : Solana := graduatedPoolAuthority
    (buy_quote_input graduatedContext 10_056 = .ok ⟨24_341_500, 10_000⟩ ∧
      buy_quote_input graduatedContext 10_057 = .ok ⟨24_339_065, 9_999⟩ ∧
      (10_000 : UInt64).toNat ≤ (9_999 : UInt64).toNat + 1) ∧
    (sell_sol_amount_from_token_amount Global.default launchFees launchCurve 0 357_666_786 =
        .ok 9_850 ∧
      sell_sol_amount_from_token_amount Global.default launchFees launchCurve 0 357_702_553 =
        .ok 9_849 ∧
      (9_850 : UInt64).toNat ≤ (9_849 : UInt64).toNat + ((curveSchedule (100, 50)).charged - 1)) ∧
    (sell_base_input graduatedContext 24_343_941 = .ok ⟨9_945, 10_000⟩ ∧
      sell_base_input graduatedContext 24_346_375 = .ok ⟨9_943, 10_001⟩ ∧
      (9_945 : UInt64).toNat ≤ (9_943 : UInt64).toNat + ((schedule (20, 5, 30)).charged - 1)) := by
  let _ : Build := ⟨true⟩
  let _ : Solana := graduatedPoolAuthority
  obtain ⟨hbuys, hcurve, hpool⟩ := trades_monotone_up_to_rounding
  have hbps : graduatedContext.fee_bps = .ok ⟨20, 5, 30⟩ := by decide +kernel
  have hbuy : buy_quote_input graduatedContext 10_056 = .ok ⟨24_341_500, 10_000⟩ := by
    decide +kernel
  have hbuy' : buy_quote_input graduatedContext 10_057 = .ok ⟨24_339_065, 9_999⟩ := by
    decide +kernel
  have hrates : curve_fee_bps Global.default launchFees launchCurve 0 = .ok (100, 50) := by
    decide +kernel
  have hsell : sell_sol_amount_from_token_amount Global.default launchFees launchCurve 0 357_666_786 =
      .ok 9_850 := by decide +kernel
  have hsell' : sell_sol_amount_from_token_amount Global.default launchFees launchCurve 0
      357_702_553 = .ok 9_849 := by decide +kernel
  have hswap : sell_base_input graduatedContext 24_343_941 = .ok ⟨9_945, 10_000⟩ := by
    decide +kernel
  have hswap' : sell_base_input graduatedContext 24_346_375 = .ok ⟨9_943, 10_001⟩ := by
    decide +kernel
  exact ⟨⟨hbuy, hbuy', (hbuys _ _ hbps _ _ _ _ (by decide) hbuy hbuy').1⟩,
    ⟨hsell, hsell', hcurve _ _ _ _ _ hrates (by decide) _ _ _ _ (by decide) hsell hsell'⟩,
    hswap, hswap', hpool _ _ hbps (by decide) _ _ _ _ (by decide) hswap hswap'⟩

end pump_rust_client.math
