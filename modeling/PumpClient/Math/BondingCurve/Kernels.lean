import PumpClient.Exchange.Quoter
import PumpClient.Math.BondingCurve
import PumpClient.Math.Fees.Split

open machine exchange

namespace pump_rust_client.math.utils

theorem mul_div_u128_eq {a b c : Nat} (h : a * b < 2 ^ 128) (hc : 0 < c) :
    mul_div_u128 a b c = .ok (a * b / c) := by
  rw [mul_div_u128, U128.checked_mul_of_lt h, Outcome.ok_or_some, Outcome.ok_bind,
    U128.checked_div_of_pos hc, Outcome.ok_or_some]

/-- The swap computes whenever what is paid and the reserve it is paid from
    fit `u64`, on a paid-into reserve of any size below half of `u128`. -/
theorem swap_exact_input_eq_of_lt {amount X Y : Nat} (ha : amount < 2 ^ 64) (hX : X < 2 ^ 127)
    (hY : Y < 2 ^ 64) (hpos : 0 < X) : swap_exact_input amount X Y = .ok (swapOut amount X Y) := by
  rw [swap_exact_input, U128.checked_add_of_lt (by omega), Outcome.ok_or_some, Outcome.ok_bind,
    mul_div_u128_eq (U128.mul_lt ha hY) (by omega), swapOut]

/-- The swap on `u64` reserves, one of them paid into, never overflows. -/
theorem swap_exact_input_eq {amount X Y : Nat} (ha : amount < 2 ^ 64) (hX : X < 2 ^ 64)
    (hY : Y < 2 ^ 64) (hpos : 0 < X) : swap_exact_input amount X Y = .ok (swapOut amount X Y) :=
  swap_exact_input_eq_of_lt ha (by omega) hY hpos

/-- The only error of a swap. -/
theorem swap_exact_input_error {amount X Y : Nat} {e : Fault QuoteError}
    (h : swap_exact_input amount X Y = .error e) : e = .error .MathOverflow := by
  have hok_or : ∀ {α : Type} {o : Option α},
      Outcome.ok_or o QuoteError.MathOverflow = .error e → e = .error .MathOverflow := by
    intro α o ho
    cases o with
    | none => exact (Except.error.inj ho).symm
    | some a => cases ho
  rw [swap_exact_input, Outcome.bind_eq_error_iff] at h
  rcases h with h | ⟨denom, -, h⟩
  · exact hok_or h
  · rw [mul_div_u128, Outcome.bind_eq_error_iff] at h
    rcases h with h | ⟨ab, -, h⟩
    · exact hok_or h
    · exact hok_or h

end pump_rust_client.math.utils

namespace pump_rust_client.math.bonding_curve

open state utils fees

/-- The schedule of a curve trade: protocol and creator components. -/
abbrev curveSchedule (bps : UInt64 × UInt64) : FeeSchedule := schedule (bps.1, bps.2, 0)

theorem curveSchedule_fees (bps : UInt64 × UInt64) (n : Nat) :
    (curveSchedule bps).fees n = (n * bps.1.toNat) ⌈/⌉ 10_000 + (n * bps.2.toNat) ⌈/⌉ 10_000 := by
  rw [schedule_fees]
  simp [FeeSchedule.fee]

theorem curveSchedule_total (bps : UInt64 × UInt64) :
    (curveSchedule bps).total = bps.1.toNat + bps.2.toNat := by
  rw [schedule_total]
  simp

theorem curveSchedule_gross_lt (bps : UInt64 × UInt64) {n : Nat} (h : n < 2 ^ 64) :
    (curveSchedule bps).gross n < 2 ^ 118 := by
  have hp := fee_lt h bps.1
  have hc := fee_lt h bps.2
  rw [FeeSchedule.gross, curveSchedule_fees]
  omega

/-- Two components shave at most one unit off a net amount. -/
theorem curveSchedule_floorNet_le (bps : UInt64 × UInt64) (b : Nat) :
    (curveSchedule bps).floorNet b ≤ (curveSchedule bps).net b + 1 := by
  have hle := FeeSchedule.floorNet_le_net_add (s := curveSchedule bps) b
  have hcharged : (curveSchedule bps).charged ≤ 2 := schedule_charged_le bps
  omega

/-- The pool-to-be holds what the curve leg leaves of the base ATA, and the
    raise less the migration fee of a SOL-like curve. -/
theorem pool_to_be_eq_ok_iff {global : Global} {bonding_curve : BondingCurve}
    {base_ata_amount curve_tokens curve_net_quote base quote : UInt64} {is_legacy : Bool} :
    pool_to_be global bonding_curve base_ata_amount is_legacy curve_tokens curve_net_quote =
        .ok (base, quote) ↔
      base.toNat + curve_tokens.toNat = base_ata_amount.toNat ∧
      quote.toNat + (if is_legacy then global.pool_migration_fee.toNat else 0) =
        bonding_curve.real_quote_reserves.toNat + curve_net_quote.toNat ∧
      bonding_curve.real_quote_reserves.toNat + curve_net_quote.toNat < 2 ^ 64 ∧
      0 < base.toNat ∧ 0 < quote.toNat := by
  have hzero : ∀ n : UInt64, n = 0 ↔ n.toNat = 0 := fun n => UInt64.toNat_inj.symm
  simp only [pool_to_be, Outcome.bind_eq_ok_iff, Outcome.ok_or_eq_ok_iff,
    U64.checked_sub_eq_some_iff, U64.checked_add_eq_some_iff, hzero]
  constructor
  · rintro ⟨base', hbase, raised, hraised, quote', hquote, h⟩
    have hlt := U64.toNat_lt raised
    split at h
    · simp at h
    · next hne =>
      simp only [Except.ok.injEq, Prod.mk.injEq] at h
      obtain ⟨rfl, rfl⟩ := h
      cases is_legacy
      · simp only [Bool.false_eq_true, if_false, Except.ok.injEq] at hquote ⊢
        subst hquote
        omega
      · simp only [if_true, Outcome.ok_or_eq_ok_iff, U64.checked_sub_eq_some_iff] at hquote ⊢
        omega
  · rintro ⟨hbase, hquote, hlt, hbase_pos, hquote_pos⟩
    refine ⟨base, hbase, _, U64.toNat_cast_of_lt hlt, quote, ?_, if_neg (by omega)⟩
    cases is_legacy
    · simp only [Bool.false_eq_true, if_false, Nat.add_zero] at hquote ⊢
      rw [← hquote, U64.cast_toNat]
    · simp only [if_true, Outcome.ok_or_eq_ok_iff, U64.checked_sub_eq_some_iff] at hquote ⊢
      rw [hquote, U64.toNat_cast_of_lt hlt]

/-- The quote a leg puts into the pool for `budget`. -/
def legQuoteIn (bps : UInt64 × UInt64) (budget : Nat) (whole_budget : Bool) : Nat :=
  if (curveSchedule bps).floorNet budget < 2 then 0
  else if whole_budget then
    budget - (curveSchedule bps).fees ((curveSchedule bps).floorNet budget)
  else (curveSchedule bps).net budget

theorem legQuoteIn_add_fees_le {bps : UInt64 × UInt64} {budget : Nat} (whole_budget : Bool)
    (h : 2 ≤ (curveSchedule bps).floorNet budget) :
    0 < legQuoteIn bps budget whole_budget ∧
    legQuoteIn bps budget whole_budget +
      (curveSchedule bps).fees ((curveSchedule bps).floorNet budget) ≤ budget := by
  have hshave := curveSchedule_floorNet_le bps budget
  have hpos : 0 < (curveSchedule bps).net budget := by omega
  have hcharge := FeeSchedule.charge_le hpos
  unfold FeeSchedule.charge at hcharge
  unfold legQuoteIn
  rw [if_neg (by omega)]
  cases whole_budget
  · simp only [Bool.false_eq_true, if_false]
    omega
  · simp only [if_true]
    omega

/-- A leg of the whole budget swaps no less than one of its net. -/
theorem net_pred_le_legQuoteIn (bps : UInt64 × UInt64) (budget : Nat) :
    (curveSchedule bps).net budget - 1 ≤ legQuoteIn bps budget true - 1 := by
  have hfloor := FeeSchedule.net_le_floorNet (s := curveSchedule bps) budget
  have hwhole := FeeSchedule.net_le_wholeNet (s := curveSchedule bps) budget
  unfold legQuoteIn
  split
  · omega
  · rw [if_pos rfl]
    exact Nat.sub_le_sub_right hwhole 1

/-- Without a remainder the two legs swap the same. -/
theorem legQuoteIn_pred_eq {bps : UInt64 × UInt64} {budget : Nat}
    (h : 0 < (curveSchedule bps).net budget → (curveSchedule bps).charge budget = budget) :
    legQuoteIn bps budget true - 1 = (curveSchedule bps).net budget - 1 := by
  have hfloor := FeeSchedule.net_le_floorNet (s := curveSchedule bps) budget
  have hshave := curveSchedule_floorNet_le bps budget
  unfold legQuoteIn
  split
  · omega
  · rw [if_pos rfl]
    exact congrArg (· - 1) (FeeSchedule.wholeNet_eq_net (h (by omega)))

section

variable [Build]

theorem with_fees_eq (amount : UInt64) (bps : UInt64 × UInt64) :
    with_fees amount bps = .ok ((curveSchedule bps).gross amount.toNat) := by
  have hlt := U64.toNat_lt amount
  have hp := fee_lt hlt bps.1
  have hc := fee_lt hlt bps.2
  rw [with_fees, fee_amount_of_lt hlt, Outcome.ok_bind, U128.add_eq_ok (by omega), Outcome.ok_bind,
    fee_amount_of_lt hlt, Outcome.ok_bind, U128.add_eq_ok (by omega), FeeSchedule.gross,
    curveSchedule_fees, Nat.add_assoc]

omit [Build] in
/-- The price of any amount fits a `u128`. -/
theorem price_lt {t X : Nat} (ht : t < 2 ^ 64) (hX : X < 2 ^ 64) (Y : Nat) :
    swapInFloor t X Y + 1 < 2 ^ 128 := by
  have hdiv : swapInFloor t X Y ≤ t * X := Nat.div_le_self _ _
  have hmul := Nat.mul_le_mul (Nat.le_pred_of_lt ht) (Nat.le_pred_of_lt hX)
  norm_num at hmul ⊢
  omega

/-- The price of an amount the curve can sell, when it fits `u64`. -/
theorem buy_quote_eq {bonding_curve : BondingCurve} {amount : UInt64} (hpos : 0 < amount.toNat)
    (hlt : amount.toNat < bonding_curve.virtual_token_reserves.toNat) :
    buy_quote bonding_curve amount =
      Outcome.ok_or (U64.try_from (swapInFloor amount.toNat
        bonding_curve.virtual_quote_reserves.toNat bonding_curve.virtual_token_reserves.toNat + 1))
        .MathOverflow := by
  have hq := U64.toNat_lt bonding_curve.virtual_quote_reserves
  have ha := U64.toNat_lt amount
  have hprice := price_lt ha hq bonding_curve.virtual_token_reserves.toNat
  rw [buy_quote, if_neg (U64.ne_zero_iff.mpr hpos), U128.checked_sub_filter_pos, if_pos hlt,
    Outcome.ok_or_some, Outcome.ok_bind, mul_div_u128_eq (U128.mul_lt ha hq) (by omega),
    Outcome.ok_bind]
  change (U128.add (swapInFloor _ _ _) 1 >>= _) = _
  rw [U128.add_eq_ok hprice, Outcome.ok_bind]

/-- `buy_quote` prices every amount strictly inside the curve whose price fits
    `u64`, and nothing else. -/
theorem buy_quote_eq_ok_iff {bonding_curve : BondingCurve} {amount cost : UInt64} :
    buy_quote bonding_curve amount = .ok cost ↔
      0 < amount.toNat ∧ amount.toNat < bonding_curve.virtual_token_reserves.toNat ∧
      cost.toNat = swapInFloor amount.toNat bonding_curve.virtual_quote_reserves.toNat
        bonding_curve.virtual_token_reserves.toNat + 1 := by
  by_cases hzero : amount = 0
  · subst hzero
    simp [buy_quote]
  have hpos := U64.ne_zero_iff.mp hzero
  by_cases hlt : amount.toNat < bonding_curve.virtual_token_reserves.toNat
  · rw [buy_quote_eq hpos hlt, Outcome.ok_or_eq_ok_iff, U64.try_from_eq_some_iff]
    simp [hpos, hlt]
  · rw [buy_quote, if_neg hzero, U128.checked_sub_filter_pos, if_neg hlt]
    simp [hlt]

/-- Below the virtual reserve a curve is never depleted. -/
theorem buy_quote_ne_depleted {bonding_curve : BondingCurve} {amount : UInt64}
    (hpos : 0 < amount.toNat) (hlt : amount.toNat < bonding_curve.virtual_token_reserves.toNat) :
    buy_quote bonding_curve amount ≠ Outcome.err .DepletedBondingCurve := by
  rw [buy_quote_eq hpos hlt]
  intro h
  obtain ⟨-, herror⟩ := Outcome.ok_or_eq_error_iff.mp h
  simp at herror

theorem exact_in_fee_amounts_curve_exists (bps : UInt64 × UInt64) {amount_in : UInt64}
    (h : 0 < (curveSchedule bps).net amount_in.toNat) :
    ∃ net fee creator_fee fee₂,
      exact_in_fee_amounts amount_in (bps.1, bps.2, 0) = .ok (net, fee, creator_fee, fee₂) :=
  exact_in_fee_amounts_exists h

/-- The split of an exact input at a curve's two rates: the fees and the net
    add up to the charge without overflow. -/
theorem exact_in_fee_amounts_curve_ok {amount_in net fee creator_fee fee₂ : UInt64}
    {bps : UInt64 × UInt64}
    (h : exact_in_fee_amounts amount_in (bps.1, bps.2, 0) = .ok (net, fee, creator_fee, fee₂)) :
    0 < (curveSchedule bps).net amount_in.toNat ∧
    net.toNat = (curveSchedule bps).net amount_in.toNat ∧
    fee.toNat + creator_fee.toNat =
      (curveSchedule bps).fees ((curveSchedule bps).floorNet amount_in.toNat) ∧
    net.toNat + (fee.toNat + creator_fee.toNat) ≤ amount_in.toNat := by
  obtain ⟨hpos, hnet, hfee, hcreator, -⟩ := exact_in_fee_amounts_ok h
  have hfees : fee.toNat + creator_fee.toNat =
      (curveSchedule bps).fees ((curveSchedule bps).floorNet amount_in.toNat) := by
    rw [hfee, hcreator, curveSchedule_fees, schedule_fee, schedule_fee]
  have hcharge := FeeSchedule.charge_le hpos
  refine ⟨hpos, hnet, hfees, ?_⟩
  rw [hnet, hfees]
  exact hcharge

/-- What a leg puts into the pool, from its split. -/
theorem leg_quote_in_eq {bps : UInt64 × UInt64} {budget net fee creator_fee : UInt64}
    (whole_budget : Bool)
    (hsplit : 2 ≤ (curveSchedule bps).floorNet budget.toNat)
    (hnet : net.toNat = (curveSchedule bps).net budget.toNat)
    (hfees : fee.toNat + creator_fee.toNat =
      (curveSchedule bps).fees ((curveSchedule bps).floorNet budget.toNat)) :
    (if whole_budget then do
        Outcome.ok_or (U64.checked_sub budget (← U64.add fee creator_fee)) .MathOverflow
      else .ok net : QuoteResult UInt64) =
      .ok (U64.cast (legQuoteIn bps budget.toNat whole_budget)) := by
  have hin := U64.toNat_lt budget
  have hle := legQuoteIn_add_fees_le true hsplit
  unfold legQuoteIn at hle ⊢
  rw [if_neg (not_lt.mpr hsplit)] at hle ⊢
  cases whole_budget
  · simp only [Bool.false_eq_true, if_false]
    rw [← hnet, U64.cast_toNat]
  · simp only [if_true] at hle ⊢
    rw [U64.add_eq_ok (by omega), Outcome.ok_bind, Outcome.ok_or_eq_ok_iff,
      U64.checked_sub_eq_some_iff, U64.toNat_cast_of_lt (by omega), U64.toNat_add_of_lt (by omega)]
    omega

/-- No operator of a leg overflows, and its split nets something: two fee
    components shave at most one unit off a net of two or more. -/
theorem post_complete_leg_exact_quote_swap (pool bps : UInt64 × UInt64) (budget : UInt64)
    (whole_budget : Bool) :
    post_complete_leg_exact_quote pool bps budget whole_budget =
      if (curveSchedule bps).floorNet budget.toNat < 2 then .ok none
      else (do
        let base_out ← swap_exact_input (legQuoteIn bps budget.toNat whole_budget - 1) pool.2.toNat
          pool.1.toNat
        if base_out = 0 then .ok none
        else .ok (some (U64.cast base_out, U64.cast (legQuoteIn bps budget.toNat whole_budget +
          (curveSchedule bps).fees ((curveSchedule bps).floorNet budget.toNat))))) := by
  have hin := U64.toNat_lt budget
  have hprotocol := U64.toNat_lt bps.1
  have hcreator := U64.toNat_lt bps.2
  have htotal : 10_000 + (bps.1.toNat + bps.2.toNat) =
      (curveSchedule bps).scale + (curveSchedule bps).total := by rw [curveSchedule_total]; rfl
  have hfloor : budget.toNat * 10_000 / ((curveSchedule bps).scale + (curveSchedule bps).total) =
      (curveSchedule bps).floorNet budget.toNat := rfl
  unfold post_complete_leg_exact_quote
  rw [U128.add_eq_ok (by omega), Outcome.ok_bind, U128.mul_eq_ok (by omega), Outcome.ok_bind,
    U128.add_eq_ok (by omega), Outcome.ok_bind, htotal,
    U128.div_eq_ok (Nat.add_pos_left (curveSchedule bps).scale_pos _), Outcome.ok_bind, hfloor]
  by_cases hsmall : (curveSchedule bps).floorNet budget.toNat < 2
  · rw [if_pos hsmall, if_pos hsmall]
  have hle := legQuoteIn_add_fees_le whole_budget (not_lt.mp hsmall)
  have hshave := curveSchedule_floorNet_le bps budget.toNat
  have hpos : 0 < (curveSchedule bps).net budget.toNat := by omega
  obtain ⟨net, fee, creator_fee, fee₂, hsplit⟩ :=
    exact_in_fee_amounts_curve_exists bps hpos
  obtain ⟨-, hnet, hfees, -⟩ := exact_in_fee_amounts_curve_ok hsplit
  have hquote_in := leg_quote_in_eq whole_budget (not_lt.mp hsmall) hnet hfees
  rw [← hfees] at hle ⊢
  generalize legQuoteIn bps budget.toNat whole_budget = quote_in at *
  have hcast : (U64.cast quote_in).toNat = quote_in := U64.toNat_cast_of_lt (by omega)
  have hone : (1 : UInt64).toNat = 1 := rfl
  have hpaid : (U64.cast quote_in - 1).toNat = quote_in - 1 := by
    rw [U64.toNat_sub_of_le (by omega), hcast, hone]
  rw [if_neg hsmall, if_neg hsmall, hsplit, Outcome.ok_bind]
  dsimp only
  rw [hquote_in, Outcome.ok_bind, U64.sub_eq_ok (by omega), Outcome.ok_bind, hpaid]
  refine bind_congr fun base_out => ?_
  split
  · rfl
  · rw [U64.add_eq_ok (by omega), Outcome.ok_bind,
      U64.add_eq_ok (by rw [U64.toNat_add_of_lt (by omega)]; omega), Outcome.ok_bind]
    congr 3
    refine UInt64.toNat_inj.mp ?_
    rw [U64.toNat_add_of_lt (by rw [U64.toNat_add_of_lt (by omega)]; omega),
      U64.toNat_add_of_lt (by omega), hcast, U64.toNat_cast_of_lt (by omega), Nat.add_assoc]

/-- On a pool that holds quote a leg never fails. -/
theorem post_complete_leg_exact_quote_eq (pool bps : UInt64 × UInt64) (budget : UInt64)
    (whole_budget : Bool) (hpool : 0 < pool.2.toNat) :
    post_complete_leg_exact_quote pool bps budget whole_budget =
      if swapOut (legQuoteIn bps budget.toNat whole_budget - 1) pool.2.toNat pool.1.toNat = 0 then
        .ok none
      else .ok (some
        (U64.cast (swapOut (legQuoteIn bps budget.toNat whole_budget - 1) pool.2.toNat pool.1.toNat),
          U64.cast (legQuoteIn bps budget.toNat whole_budget +
            (curveSchedule bps).fees ((curveSchedule bps).floorNet budget.toNat)))) := by
  have hin := U64.toNat_lt budget
  rw [post_complete_leg_exact_quote_swap]
  by_cases hsmall : (curveSchedule bps).floorNet budget.toNat < 2
  · rw [if_pos hsmall, legQuoteIn, if_pos hsmall, if_pos (by simp)]
  · have hle := legQuoteIn_add_fees_le whole_budget (not_lt.mp hsmall)
    rw [if_neg hsmall, utils.swap_exact_input_eq (by omega) (U64.toNat_lt _) (U64.toNat_lt _) hpool,
      Outcome.ok_bind]

/-- A curve that prices its trades: its rates can be read, and it has reserves
    on both sides. -/
structure Priced (global : Global) (fee_config : FeeConfig) (bonding_curve : BondingCurve)
    (mint_supply : UInt64) (bps : UInt64 × UInt64) : Prop where
  rates : curve_fee_bps global fee_config bonding_curve mint_supply = .ok bps
  token_pos : 0 < bonding_curve.virtual_token_reserves
  quote_pos : 0 < bonding_curve.virtual_quote_reserves

/-- The uncapped exact-in tokens of an open reserve pair: the shaved net less
    the unit the price formula adds, swapped on the virtual reserves. -/
theorem buy_tokens_exact_in_eq {global : Global} {fee_config : FeeConfig}
    {bonding_curve : BondingCurve} {mint_supply sol_amount : UInt64} {bps : UInt64 × UInt64}
    (priced : Priced global fee_config bonding_curve mint_supply bps) :
    buy_tokens_exact_in global fee_config bonding_curve mint_supply sol_amount =
      .ok (swapOut ((curveSchedule bps).net sol_amount.toNat - 1)
        bonding_curve.virtual_quote_reserves.toNat bonding_curve.virtual_token_reserves.toNat) := by
  have hnet_lt := lt_of_le_of_lt (FeeSchedule.net_le (s := curveSchedule bps) sol_amount.toNat)
    (U64.toNat_lt sol_amount)
  have hvq_pos : 0 < bonding_curve.virtual_quote_reserves.toNat := U64.pos_iff.mp priced.quote_pos
  have hvt_ne : bonding_curve.virtual_token_reserves ≠ 0 := UInt64.pos_iff_ne_zero.mp priced.token_pos
  have hvq_ne : bonding_curve.virtual_quote_reserves ≠ 0 := UInt64.pos_iff_ne_zero.mp priced.quote_pos
  unfold buy_tokens_exact_in
  by_cases hzero : sol_amount = 0
  · subst hzero
    have hnet : (curveSchedule bps).net (0 : UInt64).toNat = 0 :=
      Nat.le_zero.mp (FeeSchedule.net_le 0)
    rw [if_pos (Or.inl rfl), hnet, swapOut_zero]
  rw [if_neg (not_or.mpr ⟨hzero, hvt_ne⟩), if_neg hvq_ne, priced.rates, Outcome.ok_bind, exact_in_fees_eq]
  by_cases hnet : (curveSchedule bps).net sol_amount.toNat = 0
  · rw [if_pos hnet, hnet, swapOut_zero]
    rfl
  · rw [if_neg hnet]
    dsimp only
    rw [U64.toNat_cast_of_lt hnet_lt, U128.sub_eq_ok (by omega) (by omega), Outcome.ok_bind,
      utils.swap_exact_input_eq (by omega) (U64.toNat_lt _) (U64.toNat_lt _) hvq_pos]

/-- Tokens bought name the rates they were bought at. -/
theorem buy_tokens_exact_in_pos {global : Global} {fee_config : FeeConfig}
    {bonding_curve : BondingCurve} {mint_supply sol_amount : UInt64} {tokens : Nat}
    (h : buy_tokens_exact_in global fee_config bonding_curve mint_supply sol_amount = .ok tokens)
    (hpos : 0 < tokens) :
    ∃ bps, Priced global fee_config bonding_curve mint_supply bps := by
  unfold buy_tokens_exact_in at h
  split at h
  · cases h
    omega
  · next hne =>
    split at h
    · simp at h
    · next hvq =>
      obtain ⟨bps, hbps, -⟩ := Outcome.bind_eq_ok_iff.mp h
      exact ⟨bps, hbps, UInt64.pos_iff_ne_zero.mpr (not_or.mp hne).2, UInt64.pos_iff_ne_zero.mpr hvq⟩

/-- A curve without quote reserves prices no budget. -/
theorem virtual_quote_pos_of_exact_in {global : Global} {fee_config : FeeConfig}
    {bonding_curve : BondingCurve} {mint_supply sol_amount : UInt64} {tokens : Nat}
    (h : buy_tokens_exact_in global fee_config bonding_curve mint_supply sol_amount = .ok tokens)
    (hsol : sol_amount ≠ 0) (hvt : 0 < bonding_curve.virtual_token_reserves) :
    0 < bonding_curve.virtual_quote_reserves := by
  rw [UInt64.pos_iff_ne_zero]
  intro hvq
  rw [buy_tokens_exact_in, if_neg (not_or.mpr ⟨hsol, UInt64.pos_iff_ne_zero.mp hvt⟩), if_pos hvq] at h
  simp at h

/-- The fees of an amount that fits `u64` never overflow. -/
theorem fee_for_quote_eq {global : Global} {fee_config : FeeConfig} {bonding_curve : BondingCurve}
    {mint_supply : UInt64} {bps : UInt64 × UInt64} {amount : Nat}
    (hbps : curve_fee_bps global fee_config bonding_curve mint_supply = .ok bps)
    (h : amount < 2 ^ 64) :
    fee_for_quote global fee_config bonding_curve mint_supply amount =
      .ok ((curveSchedule bps).fees amount) := by
  have hp := fee_lt h bps.1
  have hc := fee_lt h bps.2
  rw [fee_for_quote, hbps, Outcome.ok_bind, fee_amount_of_lt h, Outcome.ok_bind, fee_amount_of_lt h,
    Outcome.ok_bind, U128.add_eq_ok (by omega), curveSchedule_fees]

end

end pump_rust_client.math.bonding_curve
