import PumpClient.Exchange.Monotone
import PumpClient.Math.BondingCurve.Quoters

open machine exchange

namespace pump_rust_client.math.bonding_curve

open state utils fees

/-- Two components shave at most one unit, so a larger budget never nets
    less. -/
theorem quoter_out_mono (bonding_curve : BondingCurve) (bps : UInt64 × UInt64) :
    Monotone (quoter bonding_curve bps).out :=
  Quoter.comp_out_mono floorSwap_pos (FeeSchedule.quoter_out_mono (schedule_charged_le bps))
    (floorSwap_out_mono _ _)

theorem legQuoter_out_mono (pool bps : UInt64 × UInt64) : Monotone (legQuoter pool bps).out :=
  Quoter.comp_out_mono ceilSwap_pos (FeeSchedule.quoter_out_mono (schedule_charged_le bps))
    (ceilSwap_out_mono _ _)

theorem cappedQuoter_out_mono (bonding_curve : BondingCurve) (bps : UInt64 × UInt64) :
    Monotone (cappedQuoter bonding_curve bps).out :=
  Quoter.glue_out_mono (quoter_out_mono bonding_curve bps) monotone_const _

/-- Past completion the larger budget has no less left for the pool it opens,
    and both open the same pool. -/
theorem completingQuoter_out_mono (global : Global) (bonding_curve : BondingCurve)
    (base_ata_amount : UInt64) (bps : UInt64 × UInt64) :
    Monotone (completingQuoter global bonding_curve base_ata_amount bps).out := by
  apply Quoter.glue_out_mono (quoter_out_mono bonding_curve bps)
  rcases openedPool global bonding_curve base_ata_amount with _ | pool
  · exact monotone_const
  · exact legQuoter_out_mono pool bps

section

variable [Build] {global : Global} {fee_config : FeeConfig} {bonding_curve : BondingCurve}
  {mint_supply base_ata_amount sol_amount sol_amount' : UInt64}

theorem buy_token_amount_mono (hle : sol_amount ≤ sol_amount') {tokens tokens' : UInt64}
    (h : buy_token_amount_from_sol_amount global fee_config bonding_curve mint_supply sol_amount =
      .ok tokens)
    (h' : buy_token_amount_from_sol_amount global fee_config bonding_curve mint_supply sol_amount' =
      .ok tokens') : tokens ≤ tokens' := by
  rcases Nat.eq_zero_or_pos tokens.toNat with hzero | hpos
  · exact UInt64.le_iff_toNat_le.mpr (by omega)
  obtain ⟨uncapped, huncapped, hcap⟩ := Outcome.bind_eq_ok_iff.mp h
  have huncapped_pos : 0 < uncapped := by
    rcases Nat.eq_zero_or_pos uncapped with rfl | hpos'
    · rw [Nat.zero_min] at hcap
      cases hcap
      exact absurd hpos (by decide)
    · exact hpos'
  obtain ⟨bps, priced⟩ := buy_tokens_exact_in_pos huncapped huncapped_pos
  rw [buy_token_amount_eq priced] at h h'
  cases h
  cases h'
  have hmono := cappedQuoter_out_mono bonding_curve bps (UInt64.le_iff_toNat_le.mp hle)
  have hremaining := U64.toNat_lt bonding_curve.real_token_reserves
  have hcapped : (cappedQuoter bonding_curve bps).out sol_amount'.toNat ≤
      bonding_curve.real_token_reserves.toNat := by
    rw [cappedQuoter, Quoter.glue_closed_out]
    exact min_le_right _ _
  rw [UInt64.le_iff_toNat_le, U64.toNat_cast_of_lt (by omega), U64.toNat_cast_of_lt (by omega)]
  exact hmono

theorem buy_v3_token_amount_mono (hle : sol_amount ≤ sol_amount')
    {tokens charged tokens' charged' : UInt64}
    (h : buy_v3_token_amount_from_sol_amount global fee_config bonding_curve mint_supply
      base_ata_amount sol_amount = .ok (tokens, charged))
    (h' : buy_v3_token_amount_from_sol_amount global fee_config bonding_curve mint_supply
      base_ata_amount sol_amount' = .ok (tokens', charged')) : tokens ≤ tokens' := by
  rcases Nat.eq_zero_or_pos tokens.toNat with hzero | hpos
  · exact UInt64.le_iff_toNat_le.mpr (by omega)
  obtain ⟨bps, -, priced, htokens, -⟩ := buy_v3_token_amount_ok h (U64.pos_iff.mpr hpos)
  have htokens' := buy_v3_token_amount_out priced h'
  rw [UInt64.le_iff_toNat_le, htokens, htokens']
  exact completingQuoter_out_mono global bonding_curve base_ata_amount bps
    (UInt64.le_iff_toNat_le.mp hle)

/-- Curve buys are monotone in the budget on both versions: a v2 buy up to the
    remaining supply, a v3 buy also through completion and past it. -/
theorem curve_buys_monotone (global : Global) (fee_config : FeeConfig) (bonding_curve : BondingCurve)
    (mint_supply base_ata_amount sol_amount sol_amount' : UInt64) (hle : sol_amount ≤ sol_amount') :
    (∀ tokens tokens',
      buy_token_amount_from_sol_amount global fee_config bonding_curve mint_supply sol_amount =
        .ok tokens →
      buy_token_amount_from_sol_amount global fee_config bonding_curve mint_supply sol_amount' =
        .ok tokens' → tokens ≤ tokens') ∧
    ∀ tokens charged tokens' charged',
      buy_v3_token_amount_from_sol_amount global fee_config bonding_curve mint_supply
        base_ata_amount sol_amount = .ok (tokens, charged) →
      buy_v3_token_amount_from_sol_amount global fee_config bonding_curve mint_supply
        base_ata_amount sol_amount' = .ok (tokens', charged') → tokens ≤ tokens' :=
  ⟨fun _ _ => buy_token_amount_mono hle, fun _ _ _ _ => buy_v3_token_amount_mono hle⟩

end

/-- A budget inside the launch curve against one that completes it, where v2
    stops at the remaining supply and v3 goes on. -/
theorem curve_buys_monotone_launch :
    letI : Build := ⟨true⟩
    (34_117_646_995_895 : UInt64) ≤ 793_100_000_000_000 ∧
      (34_117_646_995_895 : UInt64) ≤ 821_485_770_786_056 := by
  let _ : Build := ⟨true⟩
  obtain ⟨hcapped, hcompleting⟩ := curve_buys_monotone Global.default launchFees launchCurve 0
    1_000_000_000_000_000 1_000_000_000 100_000_000_000 (by decide)
  exact ⟨hcapped _ _ (by decide +kernel) (by decide +kernel),
    hcompleting _ 1_000_000_000 _ 100_000_000_000 (by decide +kernel) (by decide +kernel)⟩

end pump_rust_client.math.bonding_curve
