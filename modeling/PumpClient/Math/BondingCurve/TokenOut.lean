import PumpClient.Math.Amm.TokenOut
import PumpClient.Math.BondingCurve.Quoters

open machine exchange

namespace pump_rust_client.math.bonding_curve

open state utils fees

section

variable [Build] {global : Global} {fee_config : FeeConfig} {bonding_curve : BondingCurve}
  {mint_supply token_amount : UInt64} {bps : UInt64 × UInt64}

theorem fee_for_quote_neverErrs (amount : Nat)
    (hbps : curve_fee_bps global fee_config bonding_curve mint_supply = .ok bps) :
    (fee_for_quote global fee_config bonding_curve mint_supply amount).NeverErrs := by
  rw [fee_for_quote, hbps, Outcome.ok_bind]
  apply (fee_amount_neverErrs _ _).bind
  intro protocol
  apply (fee_amount_neverErrs _ _).bind
  intro creator
  exact U128.add_neverErrs _ _

/-- Past its checks a v2 price never refuses, whatever it is. -/
theorem buy_sol_amount_neverErrs (hne : token_amount ≠ 0)
    (htokens : min token_amount.toNat bonding_curve.real_token_reserves.toNat <
      bonding_curve.virtual_token_reserves.toNat)
    (hbps : curve_fee_bps global fee_config bonding_curve mint_supply = .ok bps) :
    (buy_sol_amount_from_token_amount global fee_config bonding_curve mint_supply
      token_amount).NeverErrs := by
  rw [buy_sol_amount_run hne htokens]
  apply (fee_for_quote_neverErrs _ hbps).bind
  intro fee
  apply (U128.add_neverErrs _ _).bind
  intro cost
  exact Outcome.neverErrs_ok _

/-- A price that fits with its fees is quoted exactly. -/
theorem buy_sol_amount_of_fits (hne : token_amount ≠ 0)
    (htokens : min token_amount.toNat bonding_curve.real_token_reserves.toNat <
      bonding_curve.virtual_token_reserves.toNat)
    (hbps : curve_fee_bps global fee_config bonding_curve mint_supply = .ok bps)
    (hfits : (curveSchedule bps).gross (capped_price bonding_curve token_amount) < 2 ^ 64) :
    buy_sol_amount_from_token_amount global fee_config bonding_curve mint_supply token_amount =
      .ok (U64.cast ((curveSchedule bps).gross (capped_price bonding_curve token_amount))) := by
  have hprice : capped_price bonding_curve token_amount < 2 ^ 64 :=
    lt_of_le_of_lt (Nat.le_add_right _ _) hfits
  rw [buy_sol_amount_run hne htokens, fee_for_quote_eq hbps hprice, Outcome.ok_bind]
  change (U128.add _ _ >>= _) = _
  rw [U128.add_eq_ok (lt_trans hfits (by decide)), Outcome.ok_bind]
  rfl

end

section

variable [Build] (global : Global) (fee_config : FeeConfig) (bonding_curve : BondingCurve)
  (mint_supply token_amount : UInt64)

/-- A v2 token-out price that is exact or refused on a nonzero trade: the
    capped price with its two fees, and `MathOverflow` past `u64`. -/
structure PricedOrRefused : Prop where
  exact : token_amount ≠ 0 → bonding_curve.virtual_token_reserves ≠ 0 → ∀ cost,
    buy_sol_amount_from_token_amount global fee_config bonding_curve mint_supply token_amount =
        .ok cost →
      ∃ bps, curve_fee_bps global fee_config bonding_curve mint_supply = .ok bps ∧
        cost.toNat = (curveSchedule bps).gross (capped_price bonding_curve token_amount)
  refused : token_amount ≠ 0 →
    min token_amount.toNat bonding_curve.real_token_reserves.toNat <
      bonding_curve.virtual_token_reserves.toNat → ∀ bps,
    curve_fee_bps global fee_config bonding_curve mint_supply = .ok bps →
    2 ^ 64 ≤ (curveSchedule bps).gross (capped_price bonding_curve token_amount) →
      buy_sol_amount_from_token_amount global fee_config bonding_curve mint_supply token_amount =
        Outcome.err .MathOverflow

/-- The exact price of a nonzero trade the curve can fill fits `u64`. -/
def PriceFits : Prop :=
  token_amount ≠ 0 →
    min token_amount.toNat bonding_curve.real_token_reserves.toNat <
      bonding_curve.virtual_token_reserves.toNat → ∀ bps,
    curve_fee_bps global fee_config bonding_curve mint_supply = .ok bps →
      (curveSchedule bps).gross (capped_price bonding_curve token_amount) < 2 ^ 64

/-- The exact range of the v2 token-out price: for every curve, configuration
    and amount it is exact or refused precisely where the price of a trade the
    curve can fill fits `u64` with its fees. -/
theorem curve_token_out_price_exact_iff :
    PricedOrRefused global fee_config bonding_curve mint_supply token_amount ↔
      PriceFits global fee_config bonding_curve mint_supply token_amount := by
  constructor
  · intro h hne htokens bps hbps
    by_contra hover
    exact buy_sol_amount_neverErrs hne htokens hbps .MathOverflow
      (h.refused hne htokens bps hbps (not_lt.mp hover))
  · intro hfits
    constructor
    · intro hne hvt cost hcost
      obtain ⟨bps, hbps, htokens⟩ := buy_sol_amount_ok hcost hne (UInt64.pos_iff_ne_zero.mpr hvt)
      have hlt := hfits hne htokens bps hbps
      rw [buy_sol_amount_of_fits hne htokens hbps hlt] at hcost
      cases hcost
      exact ⟨bps, hbps, U64.toNat_cast_of_lt hlt⟩
    · intro hne htokens bps hbps hover
      have := hfits hne htokens bps hbps
      omega

end

/-- A launch curve quoted in a currency of many decimals. -/
def exoticCurve : BondingCurve :=
  { launchCurve with virtual_quote_reserves := 10_000_000_000_000_000_000 }

/-- Its whole supply costs more than a `u64` holds: `buy_quote` refuses it, and
    the v2 price is what is left of the cost modulo `2 ^ 64`. -/
theorem curve_token_out_price_truncated :
    letI : Build := ⟨true⟩
    buy_sol_amount_from_token_amount Global.default launchFees exoticCurve 0 793_100_000_000_000 =
      .ok 10_313_402_407_176_479_111 ∧
    capped_price exoticCurve 793_100_000_000_000 = 28_335_119_685_602_000_715 ∧
    buy_quote exoticCurve 793_100_000_000_000 = Outcome.err .MathOverflow ∧
    ¬ PricedOrRefused Global.default launchFees exoticCurve 0 793_100_000_000_000 := by
  let _ : Build := ⟨true⟩
  have hcost : buy_sol_amount_from_token_amount Global.default launchFees exoticCurve 0
      793_100_000_000_000 = .ok 10_313_402_407_176_479_111 := by decide +kernel
  refine ⟨hcost, by decide +kernel, by decide +kernel, fun h => ?_⟩
  have hrefused := h.refused (by decide) (by decide +kernel) (100, 50) rfl (by decide +kernel)
  rw [hcost] at hrefused
  exact Outcome.err_ne_ok _ _ hrefused.symm

end pump_rust_client.math.bonding_curve
