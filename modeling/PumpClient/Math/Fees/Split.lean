import PumpClient.Exchange.FeeSplit
import PumpClient.Math.Fees

open machine exchange

namespace pump_rust_client.math.fees

/-- The fee schedule of three components in basis points. -/
def schedule (bps : UInt64 × UInt64 × UInt64) : FeeSchedule where
  scale := 10_000
  rates := [bps.1.toNat, bps.2.1.toNat, bps.2.2.toNat]
  scale_pos := by decide

@[simp] theorem schedule_scale (bps : UInt64 × UInt64 × UInt64) : (schedule bps).scale = 10_000 := rfl

theorem schedule_rates (bps : UInt64 × UInt64 × UInt64) :
    (schedule bps).rates = [bps.1.toNat, bps.2.1.toNat, bps.2.2.toNat] := rfl

theorem schedule_total (bps : UInt64 × UInt64 × UInt64) :
    (schedule bps).total = bps.1.toNat + bps.2.1.toNat + bps.2.2.toNat := by
  simp [FeeSchedule.total, schedule_rates, Nat.add_assoc]

theorem schedule_fees (bps : UInt64 × UInt64 × UInt64) (n : Nat) :
    (schedule bps).fees n = (schedule bps).fee n bps.1.toNat + (schedule bps).fee n bps.2.1.toNat +
      (schedule bps).fee n bps.2.2.toNat := by
  rw [FeeSchedule.fees, schedule_rates, List.map_cons, List.map_cons, List.map_cons, List.map_nil,
    List.sum_cons, List.sum_cons, List.sum_cons, List.sum_nil, Nat.add_zero, Nat.add_assoc]

theorem schedule_charged_le (bps : UInt64 × UInt64) :
    (schedule (bps.1, bps.2, 0)).charged ≤ 2 := by
  have hzero : (0 : UInt64).toNat = 0 := rfl
  simp only [FeeSchedule.charged, schedule_rates, List.countP_cons, List.countP_nil, hzero]
  split_ifs <;> simp_all

@[simp] theorem schedule_fee_zero (bps : UInt64 × UInt64 × UInt64) (n : Nat) :
    (schedule bps).fee n 0 = 0 := by
  simp [FeeSchedule.fee]

/-- A fee does not depend on the other components of its schedule. -/
theorem schedule_fee (bps : UInt64 × UInt64 × UInt64) (n rate : Nat) :
    (schedule bps).fee n rate = (n * rate) ⌈/⌉ 10_000 := rfl

theorem ceil_div_eq {a b : Nat} (h : 0 < b) : ceil_div a b = .ok (a ⌈/⌉ b) := U128.div_ceil_eq_ok h

section FeeAmount

variable [Build]

theorem fee_amount_eq {amount : Nat} {basis_points : UInt64}
    (h : amount * basis_points.toNat < 2 ^ 128) :
    fee_amount amount basis_points = .ok ((amount * basis_points.toNat) ⌈/⌉ 10_000) := by
  rw [fee_amount, U128.mul_eq_ok h, Outcome.ok_bind, ceil_div_eq (by decide)]

/-- A fee on an amount that fits `u64` never overflows. -/
theorem fee_amount_of_lt {amount : Nat} (h : amount < 2 ^ 64) (basis_points : UInt64) :
    fee_amount amount basis_points = .ok ((amount * basis_points.toNat) ⌈/⌉ 10_000) :=
  fee_amount_eq (U128.mul_lt h (U64.toNat_lt basis_points))

end FeeAmount

theorem fee_lt {amount : Nat} (h : amount < 2 ^ 64) (basis_points : UInt64) :
    (amount * basis_points.toNat) ⌈/⌉ 10_000 < 2 ^ 116 := by
  have hmul := U128.mul_lt h (U64.toNat_lt basis_points)
  have hle : (amount * basis_points.toNat) ⌈/⌉ 10_000 ≤ 2 ^ 115 := by
    rw [ceilDiv_le_iff_le_mul (by decide)]
    omega
  omega

theorem floorNet_lt (amount : UInt64) (s : FeeSchedule) : s.floorNet amount.toNat < 2 ^ 64 :=
  lt_of_le_of_lt (FeeSchedule.floorNet_le _) (U64.toNat_lt amount)

theorem schedule_fee_lt (amount : UInt64) (bps : UInt64 × UInt64 × UInt64) (rate : Nat)
    (hrate : rate ∈ (schedule bps).rates) :
    (schedule bps).fee ((schedule bps).floorNet amount.toNat) rate < 2 ^ 64 := by
  have hle := FeeSchedule.fee_floorNet_le (b := amount.toNat) hrate
  have hlt := U64.toNat_lt amount
  omega

/-- No operator of the split overflows, for any input and rates: it computes
    the schedule's net and fees, or refuses an input that nets nothing. -/
theorem exact_in_fee_amounts_eq [Build] (amount_in : UInt64) (bps : UInt64 × UInt64 × UInt64) :
    exact_in_fee_amounts amount_in bps =
      if (schedule bps).net amount_in.toNat = 0 then Outcome.err .ZeroAmount
      else .ok (U64.cast ((schedule bps).net amount_in.toNat),
        U64.cast ((schedule bps).fee ((schedule bps).floorNet amount_in.toNat) bps.1.toNat),
        U64.cast ((schedule bps).fee ((schedule bps).floorNet amount_in.toNat) bps.2.1.toNat),
        U64.cast ((schedule bps).fee ((schedule bps).floorNet amount_in.toNat) bps.2.2.toNat)) := by
  have hin := U64.toNat_lt amount_in
  have h₀ := U64.toNat_lt bps.1
  have h₁ := U64.toNat_lt bps.2.1
  have h₂ := U64.toNat_lt bps.2.2
  have hsum : [bps.1.toNat, bps.2.1.toNat, bps.2.2.toNat].sum = (schedule bps).total := rfl
  have htotal := schedule_total bps
  have hn : amount_in.toNat * 10_000 / (10_000 + (schedule bps).total) =
      (schedule bps).floorNet amount_in.toNat := rfl
  have hnlt := floorNet_lt amount_in (schedule bps)
  have hf₀ := schedule_fee_lt amount_in bps bps.1.toNat (by simp [schedule_rates])
  have hf₁ := schedule_fee_lt amount_in bps bps.2.1.toNat (by simp [schedule_rates])
  have hf₂ := schedule_fee_lt amount_in bps bps.2.2.toNat (by simp [schedule_rates])
  have hfees := schedule_fees bps ((schedule bps).floorNet amount_in.toNat)
  unfold exact_in_fee_amounts
  dsimp only
  rw [U128.sum_eq_ok (by omega), hsum, Outcome.ok_bind,
    U128.mul_eq_ok (by omega), Outcome.ok_bind, U128.add_eq_ok (by omega), Outcome.ok_bind,
    U128.div_eq_ok (by omega), Outcome.ok_bind, hn, fee_amount_of_lt hnlt, fee_amount_of_lt hnlt,
    fee_amount_of_lt hnlt]
  rw [← schedule_fee bps, ← schedule_fee bps, ← schedule_fee bps, Outcome.ok_bind, Outcome.ok_bind,
    Outcome.ok_bind]
  have hnet : (schedule bps).net amount_in.toNat = (schedule bps).floorNet amount_in.toNat -
    ((schedule bps).floorNet amount_in.toNat +
      (schedule bps).fees ((schedule bps).floorNet amount_in.toNat) - amount_in.toNat) := rfl
  generalize (schedule bps).floorNet amount_in.toNat = n at *
  have hfeeSum : [(schedule bps).fee n bps.1.toNat, (schedule bps).fee n bps.2.1.toNat,
      (schedule bps).fee n bps.2.2.toNat].sum = (schedule bps).fees n := by
    rw [hfees, List.sum_cons, List.sum_cons, List.sum_cons, List.sum_nil, Nat.add_zero, Nat.add_assoc]
  by_cases hzero : n = 0
  · rw [if_pos hzero, if_pos (by omega)]
  rw [if_neg hzero, U128.sum_eq_ok (by omega), hfeeSum, Outcome.ok_bind, U128.add_eq_ok (by omega),
    Outcome.ok_bind]
  by_cases hover : n + (schedule bps).fees n > amount_in.toNat
  · rw [if_pos hover, U128.sub_eq_ok (by omega) (by omega), Outcome.ok_bind,
      U128.checked_sub_filter_pos]
    by_cases hshave : n + (schedule bps).fees n - amount_in.toNat < n
    · rw [if_pos hshave, if_neg (by omega), Outcome.ok_or_some, Outcome.ok_bind, hnet]
    · rw [if_neg hshave, if_pos (by omega), Outcome.ok_or_none, Outcome.err_bind]
  · rw [if_neg hover, if_neg (by omega), Outcome.ok_bind]
    congr 3
    omega

theorem exact_in_fee_amounts_zero [Build] {amount_in : UInt64} {bps : UInt64 × UInt64 × UInt64}
    (h : (schedule bps).net amount_in.toNat = 0) :
    exact_in_fee_amounts amount_in bps = Outcome.err .ZeroAmount := by
  rw [exact_in_fee_amounts_eq, if_pos h]

/-- A successful split returns the schedule's net and fees untruncated. -/
theorem exact_in_fee_amounts_ok [Build] {amount_in net fee₀ fee₁ fee₂ : UInt64}
    {bps : UInt64 × UInt64 × UInt64}
    (h : exact_in_fee_amounts amount_in bps = .ok (net, fee₀, fee₁, fee₂)) :
    0 < (schedule bps).net amount_in.toNat ∧
    net.toNat = (schedule bps).net amount_in.toNat ∧
    fee₀.toNat = (schedule bps).fee ((schedule bps).floorNet amount_in.toNat) bps.1.toNat ∧
    fee₁.toNat = (schedule bps).fee ((schedule bps).floorNet amount_in.toNat) bps.2.1.toNat ∧
    fee₂.toNat = (schedule bps).fee ((schedule bps).floorNet amount_in.toNat) bps.2.2.toNat := by
  rw [exact_in_fee_amounts_eq] at h
  split at h
  · simp at h
  · next hnet =>
    simp only [Except.ok.injEq, Prod.mk.injEq] at h
    obtain ⟨rfl, rfl, rfl, rfl⟩ := h
    have hlt := lt_of_le_of_lt (FeeSchedule.net_le (s := schedule bps) amount_in.toNat)
      (U64.toNat_lt amount_in)
    refine ⟨Nat.pos_of_ne_zero hnet, U64.toNat_cast_of_lt hlt, ?_, ?_, ?_⟩ <;>
      exact U64.toNat_cast_of_lt (schedule_fee_lt amount_in bps _ (by simp [schedule_rates]))

theorem exact_in_fee_amounts_exists [Build] {amount_in : UInt64} {bps : UInt64 × UInt64 × UInt64}
    (h : 0 < (schedule bps).net amount_in.toNat) :
    ∃ net fee₀ fee₁ fee₂, exact_in_fee_amounts amount_in bps = .ok (net, fee₀, fee₁, fee₂) :=
  ⟨_, _, _, _, by rw [exact_in_fee_amounts_eq, if_neg h.ne']⟩

theorem exact_in_fees_eq [Build] (amount_in : UInt64) (bps : UInt64 × UInt64 × UInt64) :
    exact_in_fees amount_in bps =
      if (schedule bps).net amount_in.toNat = 0 then Outcome.err .ZeroAmount
      else .ok (U64.cast ((schedule bps).net amount_in.toNat)) := by
  rw [exact_in_fees, exact_in_fee_amounts_eq]
  split <;> rfl

theorem toNat_cast_net (amount_in : UInt64) (bps : UInt64 × UInt64 × UInt64) :
    (U64.cast ((schedule bps).net amount_in.toNat)).toNat = (schedule bps).net amount_in.toNat :=
  U64.toNat_cast_of_lt
    (lt_of_le_of_lt (FeeSchedule.net_le amount_in.toNat) (U64.toNat_lt amount_in))

end pump_rust_client.math.fees
