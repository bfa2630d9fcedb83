import PumpClient.Exchange.Splitting
import PumpClient.Math.BondingCurve.Hop

open machine exchange

namespace pump_rust_client.math.bonding_curve

open state utils fees

/-- The exact-in formula of `buy_tokens_exact_in` on given rates and reserves:
    the net it pays in and the tokens it yields. -/
def exact_in_part [Build] (bps : UInt64 × UInt64) (sol_amount : UInt64) (vq vt : Nat) :
    QuoteResult (Nat × Nat) :=
  match exact_in_fees sol_amount (bps.1, bps.2, 0) with
  | .ok net => do
    let paid ← U128.sub net.toNat 1
    let tokens ← swap_exact_input paid vq vt
    .ok (net.toNat, tokens)
  | .error (.error .ZeroAmount) => .ok (0, 0)
  | .error e => .error e

/-- A quote whose amount is too small to trade counts as zero. -/
def zero_if_small (quote : QuoteResult UInt64) : QuoteResult UInt64 :=
  match quote with
  | .error (.error .ZeroAmount) => .ok 0
  | quote => quote

section

variable [Build] {bps : UInt64 × UInt64} {sol_amount : UInt64} {vq vt : Nat}

/-- The formula never overflows, also on reserves a payment has grown past
    `u64`. -/
theorem exact_in_part_eq (hvq : 0 < vq) (hvq_lt : vq < 2 ^ 65) (hvt : vt < 2 ^ 64) :
    exact_in_part bps sol_amount vq vt = .ok ((curveSchedule bps).net sol_amount.toNat,
      swapOut ((curveSchedule bps).net sol_amount.toNat - 1) vq vt) := by
  have hin := U64.toNat_lt sol_amount
  have hnet := FeeSchedule.net_le (s := curveSchedule bps) sol_amount.toNat
  have hcast : (U64.cast ((curveSchedule bps).net sol_amount.toNat)).toNat =
      (curveSchedule bps).net sol_amount.toNat := toNat_cast_net sol_amount _
  unfold exact_in_part
  rw [exact_in_fees_eq]
  by_cases hzero : (curveSchedule bps).net sol_amount.toNat = 0
  · rw [if_pos hzero, hzero, swapOut_zero]
    rfl
  · rw [if_neg hzero]
    dsimp only
    rw [hcast, U128.sub_eq_ok (by omega) (by omega), Outcome.ok_bind,
      swap_exact_input_eq_of_lt (by omega) (by omega) hvt (by omega), Outcome.ok_bind]

/-- A buy on the curve is the formula at the curve's own rates and reserves. -/
theorem buy_tokens_exact_in_eq_part {global : Global} {fee_config : FeeConfig}
    {bonding_curve : BondingCurve} {mint_supply : UInt64}
    (priced : Priced global fee_config bonding_curve mint_supply bps) :
    buy_tokens_exact_in global fee_config bonding_curve mint_supply sol_amount =
      Prod.snd <$> exact_in_part bps sol_amount bonding_curve.virtual_quote_reserves.toNat
        bonding_curve.virtual_token_reserves.toNat := by
  have hvq_lt := U64.toNat_lt bonding_curve.virtual_quote_reserves
  rw [buy_tokens_exact_in_eq priced,
    exact_in_part_eq (U64.pos_iff.mp priced.quote_pos) (by omega) (U64.toNat_lt _)]
  rfl

/-- The price of any amount inside the curve, nothing for nothing, when it
    fits `u64`. -/
theorem zero_if_small_buy_quote_eq {bonding_curve : BondingCurve} {amount : UInt64}
    (hlt : amount.toNat < bonding_curve.virtual_token_reserves.toNat) :
    zero_if_small (buy_quote bonding_curve amount) =
      Outcome.ok_or (U64.try_from (floorCost amount.toNat
        bonding_curve.virtual_quote_reserves.toNat bonding_curve.virtual_token_reserves.toNat))
        .MathOverflow := by
  by_cases hzero : amount = 0
  · subst hzero
    rw [buy_quote, if_pos rfl]
    rfl
  · have hpos := U64.ne_zero_iff.mp hzero
    rw [buy_quote_eq hpos hlt, floorCost_of_pos hpos]
    cases U64.try_from (swapInFloor amount.toNat bonding_curve.virtual_quote_reserves.toNat
      bonding_curve.virtual_token_reserves.toNat + 1) with
    | none => rfl
    | some cost => rfl

theorem zero_if_small_buy_quote_eq_ok_iff {bonding_curve : BondingCurve} {amount cost : UInt64}
    (hlt : amount.toNat < bonding_curve.virtual_token_reserves.toNat) :
    zero_if_small (buy_quote bonding_curve amount) = .ok cost ↔
      cost.toNat = floorCost amount.toNat bonding_curve.virtual_quote_reserves.toNat
        bonding_curve.virtual_token_reserves.toNat := by
  rw [zero_if_small_buy_quote_eq hlt, Outcome.ok_or_eq_ok_iff, U64.try_from_eq_some_iff]

/-- Budgets spent one after the other on one curve buy at most what their sum
    buys. -/
theorem exact_in_part_add_le (bps : UInt64 × UInt64) {vq vt s₁ s₂ : UInt64} (hvq : 0 < vq.toNat)
    (hsum : s₁.toNat + s₂.toNat < 2 ^ 64) :
    ∃ net₁ t₁ net₂ t₂ net t,
      exact_in_part bps s₁ vq.toNat vt.toNat = .ok (net₁, t₁) ∧
      exact_in_part bps s₂ (vq.toNat + net₁) (vt.toNat - t₁) = .ok (net₂, t₂) ∧
      exact_in_part bps (s₁ + s₂) vq.toNat vt.toNat = .ok (net, t) ∧ t₁ + t₂ ≤ t := by
  have hvq_lt := U64.toNat_lt vq
  have hvt_lt := U64.toNat_lt vt
  have hnet := FeeSchedule.net_le (s := curveSchedule bps) s₁.toNat
  have hle := FeeSchedule.swapOut_net_add_le (schedule_charged_le bps) hvq vt.toNat s₁.toNat s₂.toNat
  rw [← U64.toNat_add_of_lt hsum] at hle
  exact ⟨_, _, _, _, _, _, exact_in_part_eq hvq (by omega) hvt_lt,
    exact_in_part_eq (by omega) (by omega) (by omega), exact_in_part_eq hvq (by omega) hvt_lt, hle⟩

/-- Amounts bought one after the other on one curve cost at least what their
    sum costs, which has a price as soon as theirs fit together. -/
theorem buy_quote_add_le {bonding_curve after : BondingCurve} {t₁ t₂ cost₁ cost₂ : UInt64}
    (hlt : t₁.toNat + t₂.toNat < bonding_curve.virtual_token_reserves.toNat)
    (hcost₁ : zero_if_small (buy_quote bonding_curve t₁) = .ok cost₁)
    (hvq : after.virtual_quote_reserves.toNat =
      bonding_curve.virtual_quote_reserves.toNat + cost₁.toNat)
    (hvt : after.virtual_token_reserves.toNat = bonding_curve.virtual_token_reserves.toNat - t₁.toNat)
    (hcost₂ : zero_if_small (buy_quote after t₂) = .ok cost₂) :
    (∀ cost, zero_if_small (buy_quote bonding_curve (t₁ + t₂)) = .ok cost →
      cost.toNat ≤ cost₁.toNat + cost₂.toNat) ∧
    (cost₁.toNat + cost₂.toNat < 2 ^ 64 →
      ∃ cost, zero_if_small (buy_quote bonding_curve (t₁ + t₂)) = .ok cost) := by
  have hvt_lt := U64.toNat_lt bonding_curve.virtual_token_reserves
  have hsum : (t₁ + t₂).toNat = t₁.toNat + t₂.toNat := U64.toNat_add_of_lt (by omega)
  rw [zero_if_small_buy_quote_eq_ok_iff (by omega)] at hcost₁
  rw [zero_if_small_buy_quote_eq_ok_iff (by omega), hvq, hvt] at hcost₂
  have hle := floorCost_add_le (X := bonding_curve.virtual_quote_reserves.toNat) hlt
  rw [← hcost₁, ← hcost₂] at hle
  constructor
  · intro cost hcost
    rw [zero_if_small_buy_quote_eq_ok_iff (by omega), hsum] at hcost
    omega
  · intro hfits
    refine ⟨U64.cast (floorCost (t₁.toNat + t₂.toNat) bonding_curve.virtual_quote_reserves.toNat
      bonding_curve.virtual_token_reserves.toNat), ?_⟩
    rw [zero_if_small_buy_quote_eq_ok_iff (by omega), hsum, U64.toNat_cast_of_lt (by omega)]

end

/-- Amounts sold one after the other on one reserve pair gross at most what
    their sum grosses. -/
theorem sell_quote_add_le {vq vt t₁ t₂ : UInt64} (hvt : 0 < vt.toNat)
    (hsum : t₁.toNat + t₂.toNat < 2 ^ 64) (hreserve : vt.toNat + t₁.toNat < 2 ^ 64) :
    ∃ g₁ g₂ g, sell_quote vq vt t₁ = .ok g₁ ∧
      sell_quote (vq - U64.cast g₁) (vt + t₁) t₂ = .ok g₂ ∧
      sell_quote vq vt (t₁ + t₂) = .ok g ∧ g₁ ≤ vq.toNat ∧ g₁ + g₂ ≤ g := by
  have hvq_lt := U64.toNat_lt vq
  have hpaid := swapOut_le t₁.toNat vt.toNat vq.toNat
  have hcast : (U64.cast (swapOut t₁.toNat vt.toNat vq.toNat)).toNat =
      swapOut t₁.toNat vt.toNat vq.toNat := U64.toNat_cast_of_lt (by omega)
  have hvt' : (vt + t₁).toNat = vt.toNat + t₁.toNat := U64.toNat_add_of_lt hreserve
  refine ⟨_, _, _, sell_quote_eq vq t₁ hvt, sell_quote_eq _ t₂ (by omega),
    sell_quote_eq vq (t₁ + t₂) hvt, hpaid, ?_⟩
  rw [U64.toNat_sub_of_le (by omega), hcast, hvt', U64.toNat_add_of_lt hsum]
  exact swapOut_add_swapOut_le hvt _ _ _

/-- Splitting a trade never beats doing it at once, on any reserves and rates
    that stay the same for every part: budgets buy no more tokens, tokens cost
    no less, and sold tokens gross no more. -/
theorem splitting_never_beats_one_trade [Build] :
    (∀ (bps : UInt64 × UInt64) (vq vt s₁ s₂ : UInt64), 0 < vq → 0 < vt →
      s₁.toNat + s₂.toNat < 2 ^ 64 →
      ∃ net₁ t₁ net₂ t₂ net t,
        exact_in_part bps s₁ vq.toNat vt.toNat = .ok (net₁, t₁) ∧
        exact_in_part bps s₂ (vq.toNat + net₁) (vt.toNat - t₁) = .ok (net₂, t₂) ∧
        exact_in_part bps (s₁ + s₂) vq.toNat vt.toNat = .ok (net, t) ∧ t₁ + t₂ ≤ t) ∧
    (∀ (bonding_curve after : BondingCurve) (t₁ t₂ cost₁ cost₂ : UInt64),
      t₁.toNat + t₂.toNat < bonding_curve.virtual_token_reserves.toNat →
      zero_if_small (buy_quote bonding_curve t₁) = .ok cost₁ →
      after.virtual_quote_reserves.toNat =
        bonding_curve.virtual_quote_reserves.toNat + cost₁.toNat →
      after.virtual_token_reserves.toNat = bonding_curve.virtual_token_reserves.toNat - t₁.toNat →
      zero_if_small (buy_quote after t₂) = .ok cost₂ →
      (∀ cost, zero_if_small (buy_quote bonding_curve (t₁ + t₂)) = .ok cost →
        cost.toNat ≤ cost₁.toNat + cost₂.toNat) ∧
      (cost₁.toNat + cost₂.toNat < 2 ^ 64 →
        ∃ cost, zero_if_small (buy_quote bonding_curve (t₁ + t₂)) = .ok cost)) ∧
    (∀ vq vt t₁ t₂ : UInt64, 0 < vq → 0 < vt → t₁.toNat + t₂.toNat < 2 ^ 64 →
      vt.toNat + t₁.toNat < 2 ^ 64 →
      ∃ g₁ g₂ g, sell_quote vq vt t₁ = .ok g₁ ∧
        sell_quote (vq - U64.cast g₁) (vt + t₁) t₂ = .ok g₂ ∧
        sell_quote vq vt (t₁ + t₂) = .ok g ∧ g₁ ≤ vq.toNat ∧ g₁ + g₂ ≤ g) := by
  refine ⟨?_, ?_, ?_⟩
  · intro bps vq vt s₁ s₂ hvq _ hsum
    exact exact_in_part_add_le bps (U64.pos_iff.mp hvq) hsum
  · intro bonding_curve after t₁ t₂ cost₁ cost₂ hlt hcost₁ hvq hvt hcost₂
    exact buy_quote_add_le hlt hcost₁ hvq hvt hcost₂
  · intro vq vt t₁ t₂ _ hvt hsum hreserve
    exact sell_quote_add_le (U64.pos_iff.mp hvt) hsum hreserve

/-- The launch curve after one purchase. -/
def boughtCurve (cost amount : UInt64) : BondingCurve :=
  { launchCurve with
    virtual_quote_reserves := launchCurve.virtual_quote_reserves + cost
    virtual_token_reserves := launchCurve.virtual_token_reserves - amount }

/-- The three trades, each in two halves on the launch curve. -/
theorem splitting_never_beats_one_trade_launch :
    letI : Build := ⟨true⟩
    (∃ net₁ t₁ net₂ t₂ net t,
      exact_in_part (100, 50) 500_000_000 launchCurve.virtual_quote_reserves.toNat
        launchCurve.virtual_token_reserves.toNat = .ok (net₁, t₁) ∧
      exact_in_part (100, 50) 500_000_000 (launchCurve.virtual_quote_reserves.toNat + net₁)
        (launchCurve.virtual_token_reserves.toNat - t₁) = .ok (net₂, t₂) ∧
      exact_in_part (100, 50) (500_000_000 + 500_000_000) launchCurve.virtual_quote_reserves.toNat
        launchCurve.virtual_token_reserves.toNat = .ok (net, t) ∧ t₁ + t₂ ≤ t) ∧
    (∀ cost, zero_if_small (buy_quote launchCurve (1_000_000_000_000 + 1_000_000_000_000)) = .ok cost →
      cost.toNat ≤ (27_985_075 : UInt64).toNat + (28_037_335 : UInt64).toNat) ∧
    (∃ g₁ g₂ g, sell_quote launchCurve.virtual_quote_reserves launchCurve.virtual_token_reserves
        1_000_000_000_000 = .ok g₁ ∧
      sell_quote (launchCurve.virtual_quote_reserves - U64.cast g₁)
        (launchCurve.virtual_token_reserves + 1_000_000_000_000) 1_000_000_000_000 = .ok g₂ ∧
      sell_quote launchCurve.virtual_quote_reserves launchCurve.virtual_token_reserves
        (1_000_000_000_000 + 1_000_000_000_000) = .ok g ∧
      g₁ ≤ launchCurve.virtual_quote_reserves.toNat ∧ g₁ + g₂ ≤ g) := by
  let _ : Build := ⟨true⟩
  obtain ⟨hbudgets, hamounts, hsales⟩ := splitting_never_beats_one_trade
  refine ⟨hbudgets (100, 50) _ _ _ _ (by decide) (by decide) (by decide), ?_,
    hsales _ _ _ _ (by decide) (by decide) (by decide) (by decide)⟩
  exact (hamounts launchCurve (boughtCurve 27_985_075 1_000_000_000_000) 1_000_000_000_000
    1_000_000_000_000 27_985_075 28_037_335 (by decide) rfl (by decide) (by decide) rfl).1

end pump_rust_client.math.bonding_curve
