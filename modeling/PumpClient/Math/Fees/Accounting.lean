import PumpClient.Exchange.Monotone
import PumpClient.Math.Fees.Split

open machine exchange

namespace pump_rust_client.math.fees

theorem schedule_charged_le_three (bps : UInt64 × UInt64 × UInt64) : (schedule bps).charged ≤ 3 :=
  List.countP_le_length

/-- How a split divides the whole of an input: the net is the unshaved net less
    a shave of at most two units, each fee is charged in full on the unshaved
    net, and what is left over is less than the rates' rounding. -/
structure SplitAccounts (amount_in : UInt64) (bps : UInt64 × UInt64 × UInt64) (n₀ : Nat)
    (net fee₀ fee₁ fee₂ : UInt64) : Prop where
  net_pos : 1 ≤ net.toNat
  fee₀_eq : fee₀.toNat = (n₀ * bps.1.toNat) ⌈/⌉ 10_000
  fee₁_eq : fee₁.toNat = (n₀ * bps.2.1.toNat) ⌈/⌉ 10_000
  fee₂_eq : fee₂.toNat = (n₀ * bps.2.2.toNat) ⌈/⌉ 10_000
  net_le : net.toNat ≤ n₀
  le_net : n₀ ≤ net.toNat + 2
  le_net_of_two : (schedule bps).charged ≤ 2 → n₀ ≤ net.toNat + 1
  charged_le : net.toNat + (fee₀.toNat + fee₁.toNat + fee₂.toNat) ≤ amount_in.toNat
  charged_eq : net.toNat < n₀ →
    net.toNat + (fee₀.toNat + fee₁.toNat + fee₂.toNat) = amount_in.toNat
  left_le : amount_in.toNat - net.toNat - (fee₀.toNat + fee₁.toNat + fee₂.toNat) ≤
    (bps.1.toNat + bps.2.1.toNat + bps.2.2.toNat) ⌈/⌉ 10_000
  left_le_one : bps.1.toNat + bps.2.1.toNat + bps.2.2.toNat ≤ 10_000 →
    amount_in.toNat - net.toNat - (fee₀.toNat + fee₁.toNat + fee₂.toNat) ≤ 1

/-- A split that returns accounts for its input. -/
theorem splitAccounts_of_ok [Build] {amount_in net fee₀ fee₁ fee₂ : UInt64}
    {bps : UInt64 × UInt64 × UInt64}
    (h : exact_in_fee_amounts amount_in bps = .ok (net, fee₀, fee₁, fee₂)) :
    SplitAccounts amount_in bps
      (amount_in.toNat * 10_000 / (10_000 + (bps.1.toNat + bps.2.1.toNat + bps.2.2.toNat)))
      net fee₀ fee₁ fee₂ := by
  obtain ⟨hpos, hnet, hfee₀, hfee₁, hfee₂⟩ := exact_in_fee_amounts_ok h
  have hfloor : amount_in.toNat * 10_000 /
      (10_000 + (bps.1.toNat + bps.2.1.toNat + bps.2.2.toNat)) =
      (schedule bps).floorNet amount_in.toNat := by
    rw [FeeSchedule.floorNet, schedule_scale, schedule_total]
  have hfees : fee₀.toNat + fee₁.toNat + fee₂.toNat =
      (schedule bps).fees ((schedule bps).floorNet amount_in.toNat) := by
    rw [schedule_fees, hfee₀, hfee₁, hfee₂]
  have hcharge : net.toNat + (fee₀.toNat + fee₁.toNat + fee₂.toNat) =
      (schedule bps).charge amount_in.toNat := by rw [FeeSchedule.charge, hnet, hfees]
  have hshave := FeeSchedule.floorNet_le_net_add (s := schedule bps) amount_in.toNat
  have hthree := schedule_charged_le_three bps
  have hleft : amount_in.toNat - net.toNat - (fee₀.toNat + fee₁.toNat + fee₂.toNat) ≤
      (bps.1.toNat + bps.2.1.toNat + bps.2.2.toNat) ⌈/⌉ 10_000 := by
    rw [Nat.sub_sub, hcharge, ← schedule_total]
    exact FeeSchedule.sub_charge_le amount_in.toNat
  rw [hfloor]
  exact {
    net_pos := hnet ▸ hpos
    fee₀_eq := hfee₀
    fee₁_eq := hfee₁
    fee₂_eq := hfee₂
    net_le := hnet ▸ FeeSchedule.net_le_floorNet amount_in.toNat
    le_net := by omega
    le_net_of_two := fun htwo => by omega
    charged_le := hcharge ▸ FeeSchedule.charge_le hpos
    charged_eq := fun hlt => hcharge ▸ FeeSchedule.charge_eq_of_net_lt hpos (hnet ▸ hlt)
    left_le := hleft
    left_le_one := fun htotal => by
      have hone : (bps.1.toNat + bps.2.1.toNat + bps.2.2.toNat) ⌈/⌉ 10_000 ≤ 1 :=
        (ceilDiv_le_iff_le_mul (by decide)).mpr htotal
      omega }

/-- Every input splits without overflow, in every build: into nothing to swap,
    or into a net and three fees that account for all of it. -/
theorem exact_in_split_accounts [Build] (amount_in : UInt64) (bps : UInt64 × UInt64 × UInt64) :
    exact_in_fee_amounts amount_in bps = Outcome.err .ZeroAmount ∨
      ∃ net fee₀ fee₁ fee₂,
        exact_in_fee_amounts amount_in bps = .ok (net, fee₀, fee₁, fee₂) ∧
        SplitAccounts amount_in bps
          (amount_in.toNat * 10_000 / (10_000 + (bps.1.toNat + bps.2.1.toNat + bps.2.2.toNat)))
          net fee₀ fee₁ fee₂ := by
  rcases Nat.eq_zero_or_pos ((schedule bps).net amount_in.toNat) with hzero | hpos
  · exact Or.inl (exact_in_fee_amounts_zero hzero)
  · obtain ⟨net, fee₀, fee₁, fee₂, hsplit⟩ := exact_in_fee_amounts_exists hpos
    exact Or.inr ⟨net, fee₀, fee₁, fee₂, hsplit, splitAccounts_of_ok hsplit⟩

end pump_rust_client.math.fees
