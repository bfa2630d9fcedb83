import PumpClient.Math.Fees.Tiers
import PumpClient.Sdk.CurveRuns

open machine exchange Relation

namespace pump_rust_client.sdk

open state math math.fees math.bonding_curve

/-- What a curve's fees depend on besides its reserves stays as it was. -/
structure SameTerms (bonding_curve bonding_curve' : BondingCurve) : Prop where
  quote_mint : bonding_curve'.quote_mint = bonding_curve.quote_mint
  creator_fee_bps : bonding_curve'.creator_fee_bps = bonding_curve.creator_fee_bps
  tier_supply : curve_tier_supply bonding_curve' = curve_tier_supply bonding_curve

theorem SameTerms.trans {first second third : BondingCurve} (h : SameTerms first second)
    (h' : SameTerms second third) : SameTerms first third where
  quote_mint := h'.quote_mint.trans h.quote_mint
  creator_fee_bps := h'.creator_fee_bps.trans h.creator_fee_bps
  tier_supply := h'.tier_supply.trans h.tier_supply

theorem SameTerms.symm {first second : BondingCurve} (h : SameTerms first second) :
    SameTerms second first where
  quote_mint := h.quote_mint.symm
  creator_fee_bps := h.creator_fee_bps.symm
  tier_supply := h.tier_supply.symm

section

variable [Build]

/-- A curve pays by tier `k` of its quote's table. -/
def PaysTier (global : Global) (fee_config : FeeConfig) (mint_supply : UInt64)
    (bonding_curve : BondingCurve) (k : Nat) : Prop :=
  ChargesTier global fee_config bonding_curve.quote_mint bonding_curve.creator_fee_bps
    (curve_tier_supply bonding_curve mint_supply) bonding_curve.virtual_quote_reserves
    bonding_curve.virtual_token_reserves k

variable {global : Global} {fee_config : FeeConfig} {mint_supply : UInt64}
  {bonding_curve bonding_curve' : BondingCurve} {k k' : Nat} {s s' : TradedCurve}

/-- On the same terms a curve with no less quote and no more tokens pays by no
    earlier tier. -/
theorem PaysTier.mono (hterms : SameTerms bonding_curve bonding_curve')
    (hquote : bonding_curve.virtual_quote_reserves ≤ bonding_curve'.virtual_quote_reserves)
    (htoken : bonding_curve'.virtual_token_reserves ≤ bonding_curve.virtual_token_reserves)
    (h : PaysTier global fee_config mint_supply bonding_curve k)
    (h' : PaysTier global fee_config mint_supply bonding_curve' k') : k ≤ k' := by
  unfold PaysTier at h h'
  rw [hterms.quote_mint, hterms.creator_fee_bps, hterms.tier_supply] at h'
  exact h.mono hquote htoken h'

theorem exists_paysTier (htiered : Tiered bonding_curve.quote_mint)
    (hne : tier_table fee_config bonding_curve.quote_mint ≠ [])
    (hrising : Rising (tier_table fee_config bonding_curve.quote_mint))
    (hvt : 0 < bonding_curve.virtual_token_reserves) :
    ∃ k, PaysTier global fee_config mint_supply bonding_curve k :=
  exists_chargesTier htiered hne hrising hvt

theorem Trade.sameTerms (htrade : Trade s s') : SameTerms s.curve s'.curve := by
  cases htrade with
  | buy_exact_in => exact ⟨rfl, rfl, rfl⟩
  | buy_exact_out => exact ⟨rfl, rfl, rfl⟩
  | sell => exact ⟨rfl, rfl, rfl⟩

theorem trades_sameTerms (hrun : ReflTransGen Trade s s') : SameTerms s.curve s'.curve := by
  induction hrun with
  | refl => exact ⟨rfl, rfl, rfl⟩
  | tail _ htrade ih => exact ih.trans htrade.sameTerms

end

end pump_rust_client.sdk
