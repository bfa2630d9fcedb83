import PumpClient.Exchange.Ladder
import PumpClient.Math.Fees

open machine exchange

namespace pump_rust_client

/-- The market cap a tier applies from. -/
def state.FeeTier.threshold (tier : state.FeeTier) : Nat := tier.market_cap_lamports_threshold.toNat

namespace math.fees

open state constants

/-- A tier table in non-decreasing order of thresholds. -/
def Rising (tiers : List FeeTier) : Prop :=
  tiers.Pairwise fun tier later => tier.threshold ≤ later.threshold

instance (tiers : List FeeTier) : Decidable (Rising tiers) :=
  inferInstanceAs (Decidable (List.Pairwise _ tiers))

/-- The search returns the fees of tier `k`, the one the market cap selects. -/
def ReturnsTier (tiers : List FeeTier) (market_cap k : Nat) : Prop :=
  ∃ tier, Selects FeeTier.threshold tiers market_cap k tier ∧
    calculate_fee_tier tiers market_cap = some tier.fees

theorem calculate_fee_tier_eq {tiers : List FeeTier} {first : FeeTier}
    (hfirst : tiers.head? = some first) (market_cap : Nat) :
    calculate_fee_tier tiers market_cap =
      if market_cap < first.threshold then some first.fees
      else some ((tiers.reverse.find? fun tier => tier.threshold ≤ market_cap).elim first.fees
        FeeTier.fees) := by
  rw [calculate_fee_tier, hfirst]
  rfl

/-- In a rising table the guarded search returns the fees of the last tier
    reached, or those of the first when none is. -/
theorem exists_returnsTier {tiers : List FeeTier} (hne : tiers ≠ []) (hrising : Rising tiers)
    (market_cap : Nat) : ∃ k, ReturnsTier tiers market_cap k := by
  have hfirst := List.head?_eq_some_head hne
  have hlookup := calculate_fee_tier_eq hfirst market_cap
  by_cases hshort : market_cap < (tiers.head hne).threshold
  · rw [if_pos hshort] at hlookup
    exact ⟨0, tiers.head hne, selects_first_of_lt hrising hfirst hshort, hlookup⟩
  · rw [if_neg hshort] at hlookup
    cases hfound : tiers.reverse.find? fun tier => tier.threshold ≤ market_cap with
    | none =>
      rw [hfound] at hlookup
      exact ⟨0, tiers.head hne, selects_first_of_find?_reverse hfirst hfound, hlookup⟩
    | some tier =>
      rw [hfound] at hlookup
      obtain ⟨k, hselects⟩ := selects_of_find?_reverse hfound
      exact ⟨k, tier, hselects, hlookup⟩

/-- A quote that pays by tier: SOL-like or USDC. -/
def Tiered (quote_mint : Pubkey) : Prop :=
  is_sol_like_quote_mint quote_mint = true ∨ quote_mint = USDC_MINT

/-- The tier table of such a quote. -/
def tier_table (cfg : FeeConfig) (quote_mint : Pubkey) : List FeeTier :=
  if is_sol_like_quote_mint quote_mint then cfg.fee_tiers else cfg.stable_fee_tiers

theorem fees_for_tiered_quote {quote_mint : Pubkey} (htiered : Tiered quote_mint) (cfg : FeeConfig)
    (market_cap : Nat) :
    fees_for_quote_mint cfg true market_cap quote_mint =
      Outcome.ok_or (calculate_fee_tier (tier_table cfg quote_mint) market_cap) .EmptyFeeTiers := by
  rw [fees_for_quote_mint, tier_table, if_neg (by decide)]
  by_cases hsol : is_sol_like_quote_mint quote_mint = true
  · rw [if_pos hsol, if_pos hsol]
  · rw [if_neg hsol, if_neg hsol, if_pos (htiered.resolve_left hsol)]

theorem configured_creator_fee_bps_eq (gate_on : Bool) (stored_bps schedule_bps : UInt64) :
    configured_creator_fee_bps gate_on stored_bps schedule_bps =
      if gate_on = true ∧ stored_bps ≠ 0 then stored_bps else schedule_bps := by
  simp only [configured_creator_fee_bps, Bool.and_eq_true, bne_iff_ne]

section

variable [Build]

/-- The market cap is a `u128` product of two `u64` values: only its divisor
    can fault. -/
theorem bonding_curve_market_cap_eq (mint_supply virtual_quote_reserves virtual_token_reserves :
    UInt64) :
    bonding_curve_market_cap mint_supply virtual_quote_reserves virtual_token_reserves =
      if virtual_token_reserves = 0 then Outcome.panic
      else .ok (virtual_quote_reserves.toNat * mint_supply.toNat / virtual_token_reserves.toNat) := by
  have hproduct := U128.mul_lt (U64.toNat_lt virtual_quote_reserves) (U64.toNat_lt mint_supply)
  rw [bonding_curve_market_cap, U128.mul_eq_ok hproduct, Outcome.ok_bind]
  by_cases hzero : virtual_token_reserves = 0
  · rw [if_pos hzero, hzero]
    rfl
  · rw [if_neg hzero, U128.div_eq_ok (U64.ne_zero_iff.mp hzero)]

/-- More quote against fewer tokens is no smaller a market cap. -/
theorem bonding_curve_market_cap_mono {mint_supply vq vt vq' vt' : UInt64} {market_cap market_cap' : Nat}
    (hquote : vq ≤ vq') (htoken : vt' ≤ vt)
    (h : bonding_curve_market_cap mint_supply vq vt = .ok market_cap)
    (h' : bonding_curve_market_cap mint_supply vq' vt' = .ok market_cap') :
    market_cap ≤ market_cap' := by
  rw [bonding_curve_market_cap_eq] at h h'
  split at h
  · exact absurd h (Outcome.panic_ne_ok _)
  split at h'
  · exact absurd h' (Outcome.panic_ne_ok _)
  next hzero' =>
    cases h
    cases h'
    exact Nat.div_le_div (Nat.mul_le_mul_right _ (UInt64.le_iff_toNat_le.mp hquote))
      (UInt64.le_iff_toNat_le.mp htoken) (U64.ne_zero_iff.mp hzero').ne'

/-- A curve trade pays by tier `k` of its quote's table, the one its market cap
    selects; of that tier's rates a configured creator rate replaces the
    creator's alone. -/
def ChargesTier (global : Global) (cfg : FeeConfig) (quote_mint : Pubkey)
    (coin_creator_fee_bps mint_supply virtual_quote_reserves virtual_token_reserves : UInt64)
    (k : Nat) : Prop :=
  ∃ market_cap tier,
    bonding_curve_market_cap mint_supply virtual_quote_reserves virtual_token_reserves =
      .ok market_cap ∧
    Selects FeeTier.threshold (tier_table cfg quote_mint) market_cap k tier ∧
    compute_bonding_curve_fee_bps global cfg quote_mint coin_creator_fee_bps mint_supply
        virtual_quote_reserves virtual_token_reserves =
      .ok {
        protocol_fee_bps := tier.fees.protocol_fee_bps
        creator_fee_bps :=
          if global.creator_fee_configurable = true ∧ coin_creator_fee_bps ≠ 0 then
            coin_creator_fee_bps
          else tier.fees.creator_fee_bps }

variable {global : Global} {cfg : FeeConfig} {quote_mint : Pubkey}
  {coin_creator_fee_bps mint_supply vq vt vq' vt' : UInt64} {k k' : Nat}

/-- A curve on a tiered quote with tokens left always pays by some tier. -/
theorem exists_chargesTier (htiered : Tiered quote_mint) (hne : tier_table cfg quote_mint ≠ [])
    (hrising : Rising (tier_table cfg quote_mint)) (hvt : 0 < vt) :
    ∃ k, ChargesTier global cfg quote_mint coin_creator_fee_bps mint_supply vq vt k := by
  have hcap := bonding_curve_market_cap_eq mint_supply vq vt
  rw [if_neg (U64.ne_zero_iff.mpr (U64.pos_iff.mp hvt))] at hcap
  obtain ⟨k, tier, hselects, hlookup⟩ := exists_returnsTier hne hrising
    (vq.toNat * mint_supply.toNat / vt.toNat)
  refine ⟨k, _, tier, hcap, hselects, ?_⟩
  rw [compute_bonding_curve_fee_bps, hcap, Outcome.ok_bind, fees_for_tiered_quote htiered, hlookup,
    Outcome.ok_or_some, Outcome.ok_bind, configured_creator_fee_bps_eq]

/-- A curve whose price did not fall pays by no earlier tier. -/
theorem ChargesTier.mono (hquote : vq ≤ vq') (htoken : vt' ≤ vt)
    (h : ChargesTier global cfg quote_mint coin_creator_fee_bps mint_supply vq vt k)
    (h' : ChargesTier global cfg quote_mint coin_creator_fee_bps mint_supply vq' vt' k') :
    k ≤ k' := by
  obtain ⟨market_cap, tier, hcap, hselects, -⟩ := h
  obtain ⟨market_cap', tier', hcap', hselects', -⟩ := h'
  exact hselects.mono (bonding_curve_market_cap_mono hquote htoken hcap hcap') hselects'

/-- A configured rate leaves all else as an unconfigured one does: the protocol
    rate, the errors and the panics. -/
theorem compute_bonding_curve_fee_bps_configured (hgate : global.creator_fee_configurable = true)
    (hrate : coin_creator_fee_bps ≠ 0) :
    compute_bonding_curve_fee_bps global cfg quote_mint coin_creator_fee_bps mint_supply vq vt =
      compute_bonding_curve_fee_bps global cfg quote_mint 0 mint_supply vq vt >>= fun bps =>
        .ok { bps with creator_fee_bps := coin_creator_fee_bps } := by
  rw [compute_bonding_curve_fee_bps, compute_bonding_curve_fee_bps, bind_assoc]
  congr 1
  funext market_cap
  rw [bind_assoc]
  congr 1
  funext fees
  rw [Outcome.ok_bind, configured_creator_fee_bps_eq, if_pos ⟨hgate, hrate⟩]

/-- Fees follow the highest tier reached. The search of a rising table returns
    the last tier at or below the market cap, the first when there is none, and
    a later one only for a larger cap; so a curve pays by no earlier tier after
    a buy and by no later one after a sell, whatever its creator's own rate
    replaces. -/
theorem fee_tier_moves_with_price :
    (∀ tiers, tiers ≠ [] → Rising tiers →
      (∀ market_cap, ∃ k, ReturnsTier tiers market_cap k) ∧
      ∀ market_cap market_cap' k k', market_cap ≤ market_cap' →
        ReturnsTier tiers market_cap k → ReturnsTier tiers market_cap' k' → k ≤ k') ∧
    (∀ (global : Global) (cfg : FeeConfig) quote_mint coin_creator_fee_bps mint_supply,
      Tiered quote_mint → tier_table cfg quote_mint ≠ [] → Rising (tier_table cfg quote_mint) →
      (∀ vq vt, 0 < vt →
        ∃ k, ChargesTier global cfg quote_mint coin_creator_fee_bps mint_supply vq vt k) ∧
      (∀ vq vt vq' vt' k k', vq ≤ vq' → vt' ≤ vt →
        ChargesTier global cfg quote_mint coin_creator_fee_bps mint_supply vq vt k →
        ChargesTier global cfg quote_mint coin_creator_fee_bps mint_supply vq' vt' k' → k ≤ k') ∧
      ∀ vq vt vq' vt' k k', vq' ≤ vq → vt ≤ vt' →
        ChargesTier global cfg quote_mint coin_creator_fee_bps mint_supply vq vt k →
        ChargesTier global cfg quote_mint coin_creator_fee_bps mint_supply vq' vt' k' → k' ≤ k) ∧
    ∀ (global : Global) (cfg : FeeConfig) quote_mint coin_creator_fee_bps mint_supply vq vt,
      global.creator_fee_configurable = true → coin_creator_fee_bps ≠ 0 →
      compute_bonding_curve_fee_bps global cfg quote_mint coin_creator_fee_bps mint_supply vq vt =
        compute_bonding_curve_fee_bps global cfg quote_mint 0 mint_supply vq vt >>= fun bps =>
          .ok { bps with creator_fee_bps := coin_creator_fee_bps } := by
  refine ⟨?_, ?_, ?_⟩
  · intro tiers hne hrising
    refine ⟨exists_returnsTier hne hrising, ?_⟩
    rintro market_cap market_cap' k k' hle ⟨tier, hselects, -⟩ ⟨tier', hselects', -⟩
    exact hselects.mono hle hselects'
  · intro global cfg quote_mint coin_creator_fee_bps mint_supply htiered hne hrising
    refine ⟨?_, ?_, ?_⟩
    · intro vq vt hvt
      exact exists_chargesTier htiered hne hrising hvt
    · intro vq vt vq' vt' k k' hquote htoken h h'
      exact h.mono hquote htoken h'
    · intro vq vt vq' vt' k k' hquote htoken h h'
      exact h'.mono hquote htoken h
  · intro global cfg quote_mint coin_creator_fee_bps mint_supply vq vt hgate hrate
    exact compute_bonding_curve_fee_bps_configured hgate hrate

end

/-- Three tiers, the last two from the same market cap on. -/
def risingFees : FeeConfig where
  bump := 0
  admin := Pubkey.default
  flat_fees := ⟨25, 5, 0⟩
  fee_tiers := [⟨0, ⟨1, 90, 30⟩⟩, ⟨100_000_000_000, ⟨2, 80, 20⟩⟩, ⟨100_000_000_000, ⟨3, 70, 10⟩⟩]
  stable_fee_tiers := []
  exotic_flat_fees := ⟨0, 0, 0⟩

/-- A launch curve pays by the first tier, and by the last once it sold out. -/
theorem fee_tier_moves_with_price_launch :
    letI : Build := ⟨true⟩
    letI global := { Global.default with creator_fee_configurable := true }
    (ReturnsTier risingFees.fee_tiers 99_999_999_999 0 ∧
      ReturnsTier risingFees.fee_tiers 100_000_000_000 2 ∧ 0 ≤ 2) ∧
    (∃ launch soldOut,
      ChargesTier global risingFees NATIVE_MINT 250 1_000_000_000_000_000 30_000_000_000
        1_073_000_000_000_000 launch ∧
      ChargesTier global risingFees NATIVE_MINT 250 1_000_000_000_000_000 115_005_359_057
        279_900_000_000_000 soldOut ∧
      launch ≤ soldOut) ∧
    compute_bonding_curve_fee_bps global risingFees NATIVE_MINT 250 1_000_000_000_000_000
      115_005_359_057 279_900_000_000_000 = .ok ⟨70, 250⟩ := by
  let _ : Build := ⟨true⟩
  obtain ⟨htable, hcurve, hconfigured⟩ := fee_tier_moves_with_price
  have hbelow : ReturnsTier risingFees.fee_tiers 99_999_999_999 0 :=
    ⟨_, selects_of_drop rfl (by decide) (by decide), by decide⟩
  have hat : ReturnsTier risingFees.fee_tiers 100_000_000_000 2 :=
    ⟨_, selects_of_drop rfl (by decide) (by decide), by decide⟩
  obtain ⟨hcharges, hbuy, -⟩ := hcurve { Global.default with creator_fee_configurable := true }
    risingFees NATIVE_MINT 250 1_000_000_000_000_000 (Or.inl (by decide)) (by decide) (by decide)
  obtain ⟨launch, hlaunch⟩ := hcharges 30_000_000_000 1_073_000_000_000_000 (by decide)
  obtain ⟨soldOut, hsoldOut⟩ := hcharges 115_005_359_057 279_900_000_000_000 (by decide)
  refine ⟨⟨hbelow, hat, ?_⟩, ⟨launch, soldOut, hlaunch, hsoldOut, ?_⟩, ?_⟩
  · exact (htable _ (by decide) (by decide)).2 _ _ _ _ (by decide) hbelow hat
  · exact hbuy _ _ _ _ _ _ (by decide) (by decide) hlaunch hsoldOut
  · rw [hconfigured _ _ _ _ _ _ _ rfl (by decide)]
    decide +kernel

end math.fees

end pump_rust_client
