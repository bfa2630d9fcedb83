import PumpClient.Sdk.Completion

open machine exchange

namespace pump_rust_client.sdk

open state math math.utils math.fees math.bonding_curve

section

variable [Build] {global : Global} {fee_config : FeeConfig} {bonding_curve : BondingCurve}
  {mint_supply base_ata_amount : UInt64}

/-- The tokens of both versions, from the quoters behind them: v3 differs from
    v2 only in what it buys on the pool. -/
theorem buy_tokens_v3_of_v2 {sol_amount tokens_v3 charged tokens_v2 : UInt64} {uncapped : Nat}
    (huncapped : buy_tokens_exact_in global fee_config bonding_curve mint_supply sol_amount =
      .ok uncapped)
    (hv3 : buy_v3_token_amount_from_sol_amount global fee_config bonding_curve mint_supply
      base_ata_amount sol_amount = .ok (tokens_v3, charged))
    (hv2 : buy_token_amount_from_sol_amount global fee_config bonding_curve mint_supply sol_amount =
      .ok tokens_v2) :
    (uncapped ≤ bonding_curve.real_token_reserves.toNat ∨ bonding_curve.is_mayhem_mode = true →
      tokens_v3 = tokens_v2) ∧ tokens_v2 ≤ tokens_v3 := by
  rcases Nat.eq_zero_or_pos uncapped with rfl | hpos
  · obtain ⟨⟨⟩, hopen, -⟩ := Outcome.bind_eq_ok_iff.mp hv3
    rw [buy_v3_token_amount_zero huncapped hopen] at hv3
    rw [buy_token_amount_from_sol_amount, huncapped, Outcome.ok_bind, Nat.zero_min] at hv2
    cases hv3
    cases hv2
    exact ⟨fun _ => rfl, UInt64.le_refl _⟩
  obtain ⟨bps, priced⟩ := buy_tokens_exact_in_pos huncapped hpos
  rw [buy_tokens_exact_in_eq priced, ← quoter_out] at huncapped
  cases huncapped
  obtain ⟨htokens, -⟩ := buy_v3_token_amount_refines priced hpos hv3
  rw [buy_token_amount_eq priced] at hv2
  have hlt : (cappedQuoter bonding_curve bps).out sol_amount.toNat < 2 ^ 64 := by
    rw [cappedQuoter, Quoter.glue_closed_out]
    exact (min_le_right _ _).trans_lt (U64.toNat_lt _)
  cases hv2
  refine ⟨fun h => UInt64.toNat_inj.mp ?_, UInt64.le_iff_toNat_le.mpr ?_⟩
  · rw [U64.toNat_cast_of_lt hlt, htokens]
    rcases h with hinside | hmayhem
    · rw [completingQuoter, cappedQuoter, Quoter.glue_out_of_le hinside, Quoter.glue_out_of_le hinside]
    · rw [completingQuoter_of_mayhem hmayhem]
  · rw [U64.toNat_cast_of_lt hlt, htokens]
    exact Quoter.glue_closed_out_le _

/-- A partial fill on a mayhem curve is charged what v2 re-prices it to. -/
theorem buy_charge_v3_of_v2 {sol_amount tokens charged : UInt64} {uncapped : Nat}
    {slippage_bps : UInt16} {quote : Quote}
    (huncapped : buy_tokens_exact_in global fee_config bonding_curve mint_supply sol_amount =
      .ok uncapped)
    (hmayhem : bonding_curve.is_mayhem_mode = true)
    (hcross : bonding_curve.real_token_reserves.toNat < uncapped)
    (hv3 : buy_v3_token_amount_from_sol_amount global fee_config bonding_curve mint_supply
      base_ata_amount sol_amount = .ok (tokens, charged))
    (hv2 : PumpSdk.buy_quote_bonding_curve_sol_in global fee_config bonding_curve mint_supply
      sol_amount slippage_bps = .ok quote) :
    charged = quote.input_amount_used := by
  obtain ⟨bps, priced⟩ := buy_tokens_exact_in_pos huncapped (Nat.zero_lt_of_lt hcross)
  rw [buy_tokens_exact_in_eq priced, ← quoter_out] at huncapped
  cases huncapped
  obtain ⟨-, hcharged⟩ := buy_v3_token_amount_refines priced (Nat.zero_lt_of_lt hcross) hv3
  obtain ⟨net, hnet⟩ := buy_quote_of_crossing_ok priced hcross hv3
  obtain ⟨quote', hquote, -, hused, -⟩ :=
    completing_buy_repriced slippage_bps (buy_quote_eq_ok_iff.mp hnet).1 priced hcross
  obtain rfl : quote' = quote := Except.ok.inj (hquote.symm.trans hv2)
  rw [completingQuoter_of_mayhem hmayhem, cappedQuoter,
    Quoter.glue_closed_charge_of_lt hcross] at hcharged
  exact UInt64.toNat_inj.mp (hcharged.trans hused.symm)

/-- The prices of both versions. -/
theorem buy_price_v3_of_v2 {token_amount cost_v3 cost_v2 : UInt64}
    (hv3 : buy_v3_sol_amount_from_token_amount global fee_config bonding_curve mint_supply
      base_ata_amount token_amount = .ok cost_v3)
    (hv2 : buy_sol_amount_from_token_amount global fee_config bonding_curve mint_supply
      token_amount = .ok cost_v2) :
    (bonding_curve.is_mayhem_mode = true ∨ token_amount ≤ bonding_curve.real_token_reserves →
      cost_v2 = cost_v3) ∧
    (bonding_curve.is_mayhem_mode = false → bonding_curve.real_token_reserves < token_amount →
      cost_v2 < cost_v3) := by
  obtain ⟨⟨⟩, hopen, -⟩ := Outcome.bind_eq_ok_iff.mp hv3
  refine ⟨fun h => ?_, fun hmayhem hpast => ?_⟩
  · rw [buy_v3_sol_amount_capped hopen h.symm, hv2] at hv3
    exact Except.ok.inj hv3
  have hpast_nat := UInt64.lt_iff_toNat_lt.mp hpast
  obtain ⟨bps, net, pool, hbps, hnet, hpool, hbase, hcost⟩ :=
    (buy_v3_sol_amount_past_ok_iff hopen hpast hmayhem).mp hv3
  obtain ⟨hr, htokens, hprice⟩ := buy_quote_eq_ok_iff.mp hnet
  have hquote_pos := (pool_to_be_eq_ok_iff.mp hpool).2.2.2.2
  have hne : token_amount ≠ 0 := U64.ne_zero_iff.mpr (by omega)
  have hmin : min token_amount.toNat bonding_curve.real_token_reserves.toNat =
      bonding_curve.real_token_reserves.toNat := min_eq_right hpast_nat.le
  rw [buy_sol_amount_eq hbps hne (by rwa [hmin]) (by rw [hmin, ← hprice]; exact U64.toNat_lt net)] at hv2
  cases hv2
  have hleg_pos : 0 < (legQuoter pool bps).cost
      (token_amount.toNat - bonding_curve.real_token_reserves.toNat) :=
    Nat.add_pos_left (swapInCeil_pos hquote_pos (by omega) hbase) _
  rw [UInt64.lt_iff_toNat_lt, hcost, U64.toNat_cast]
  exact (Nat.mod_le _ _).trans_lt (Quoter.glue_closed_cost_lt hpast_nat hleg_pos)

/-- v3 curve quotes refine v2 quotes. Where both return: inside the curve, and
    on a mayhem curve for every budget, they buy the same tokens, elsewhere v3
    no fewer; a partial fill on a mayhem curve is charged v2's re-pricing; and a
    v3 price is v2's inside the curve and on a mayhem curve, above it
    otherwise. -/
theorem v3_quotes_refine_v2 (global : Global) (fee_config : FeeConfig) (bonding_curve : BondingCurve)
    (mint_supply base_ata_amount : UInt64) :
    (∀ sol_amount tokens_v3 charged tokens_v2 uncapped,
      buy_v3_token_amount_from_sol_amount global fee_config bonding_curve mint_supply base_ata_amount
        sol_amount = .ok (tokens_v3, charged) →
      buy_token_amount_from_sol_amount global fee_config bonding_curve mint_supply sol_amount =
        .ok tokens_v2 →
      buy_tokens_exact_in global fee_config bonding_curve mint_supply sol_amount = .ok uncapped →
      (uncapped ≤ bonding_curve.real_token_reserves.toNat → tokens_v3 = tokens_v2) ∧
      (bonding_curve.is_mayhem_mode = true → tokens_v3 = tokens_v2 ∧
        ∀ slippage_bps quote, bonding_curve.real_token_reserves.toNat < uncapped →
          PumpSdk.buy_quote_bonding_curve_sol_in global fee_config bonding_curve mint_supply
            sol_amount slippage_bps = .ok quote → charged = quote.input_amount_used) ∧
      (bonding_curve.is_mayhem_mode = false → tokens_v2 ≤ tokens_v3)) ∧
    ∀ token_amount cost_v3 cost_v2,
      buy_v3_sol_amount_from_token_amount global fee_config bonding_curve mint_supply
        base_ata_amount token_amount = .ok cost_v3 →
      buy_sol_amount_from_token_amount global fee_config bonding_curve mint_supply token_amount =
        .ok cost_v2 →
      cost_v2 ≤ cost_v3 ∧
      (bonding_curve.is_mayhem_mode = true ∨ token_amount ≤ bonding_curve.real_token_reserves →
        cost_v3 = cost_v2) ∧
      (¬(bonding_curve.is_mayhem_mode = true ∨ token_amount ≤ bonding_curve.real_token_reserves) →
        cost_v2 < cost_v3) := by
  constructor
  · intro sol_amount tokens_v3 charged tokens_v2 uncapped hv3 hv2 huncapped
    obtain ⟨heq, hle⟩ := buy_tokens_v3_of_v2 huncapped hv3 hv2
    exact ⟨fun hinside => heq (Or.inl hinside), fun hmayhem => ⟨heq (Or.inr hmayhem),
      fun _ _ hcross hquote => buy_charge_v3_of_v2 huncapped hmayhem hcross hv3 hquote⟩, fun _ => hle⟩
  · intro token_amount cost_v3 cost_v2 hv3 hv2
    obtain ⟨heq, hlt⟩ := buy_price_v3_of_v2 hv3 hv2
    by_cases hcapped : bonding_curve.is_mayhem_mode = true ∨
        token_amount ≤ bonding_curve.real_token_reserves
    · obtain rfl := heq hcapped
      exact ⟨UInt64.le_refl _, fun _ => rfl, fun hnot => absurd hcapped hnot⟩
    · rw [not_or, UInt64.not_le, Bool.not_eq_true] at hcapped
      have hcost := hlt hcapped.1 hcapped.2
      exact ⟨UInt64.le_of_lt hcost, fun h => absurd h (by simp [hcapped]), fun _ => hcost⟩

end

/-- A budget that crosses the end of the launch curve, and an amount past it. -/
theorem v3_quotes_refine_v2_launch :
    letI : Build := ⟨true⟩
    (793_100_000_000_000 : UInt64) ≤ 821_485_770_786_056 ∧
      (86_280_439_444 : UInt64) < 89_257_114_606 := by
  let _ : Build := ⟨true⟩
  obtain ⟨htokens, hprice⟩ :=
    v3_quotes_refine_v2 Global.default launchFees launchCurve 0 1_000_000_000_000_000
  exact ⟨(htokens 100_000_000_000 821_485_770_786_056 100_000_000_000 793_100_000_000_000
      822_537_370_636_808 (by decide +kernel) (by decide +kernel) (by decide +kernel)).2.2 rfl,
    (hprice 800_000_000_000_000 89_257_114_606 86_280_439_444 (by decide +kernel)
      (by decide +kernel)).2.2 (by decide)⟩

end pump_rust_client.sdk
