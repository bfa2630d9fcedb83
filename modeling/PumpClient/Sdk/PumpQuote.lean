import PumpClient.Exchange.Monotone
import PumpClient.Math.BondingCurve.Totality
import PumpClient.Sdk.Quotes

open machine exchange

namespace pump_rust_client.math.utils

theorem mul_div_u128_ok {a b c r : Nat} (h : mul_div_u128 a b c = .ok r) : 0 < c ∧ r = a * b / c := by
  obtain ⟨ab, hab, h⟩ := Outcome.bind_eq_ok_iff.mp h
  have hab_eq := Outcome.ok_or_eq_ok_iff.mp hab
  have hdiv := Outcome.ok_or_eq_ok_iff.mp h
  unfold U128.checked_mul at hab_eq
  unfold U128.checked_div at hdiv
  split at hab_eq
  swap
  · cases hab_eq
  cases hab_eq
  split at hdiv
  · cases hdiv
  · next hc =>
    cases hdiv
    exact ⟨Nat.pos_of_ne_zero hc, rfl⟩

theorem swap_exact_input_ok {amount X Y r : Nat} (h : swap_exact_input amount X Y = .ok r) :
    r = swapOut amount X Y := by
  obtain ⟨denom, hdenom, h⟩ := Outcome.bind_eq_ok_iff.mp h
  have hdenom_eq := Outcome.ok_or_eq_ok_iff.mp hdenom
  unfold U128.checked_add at hdenom_eq
  split at hdenom_eq
  · cases hdenom_eq
    exact (mul_div_u128_ok h).2
  · cases hdenom_eq

end pump_rust_client.math.utils

namespace pump_rust_client.sdk

open state state.pump_amm math math.utils

namespace PumpSdk

/-- The reserves `create_v2` starts a curve quoted in `quote_mint` on; `none`
    where the mint is admitted nowhere. -/
def initial_virtual_quote_reserves (global : Global) (quote_control : Option QuoteControl)
    (quote_mint : Pubkey) : Option UInt64 :=
  if quote_mint = Pubkey.default ∨ quote_mint = constants.NATIVE_MINT then
    some global.initial_virtual_sol_reserves
  else if quote_mint ∈ global.whitelisted_quote_mints then
    some global.initial_virtual_quote_reserves
  else do
    let qc ← quote_control
    (qc.mints.find? (·.mint = quote_mint)).map (·.initial_virtual_quote_reserves)

/-- The seed of the curve that a quote coin prices a raise by: that of the coin
    it is itself quoted in below depth 0, and a configured one at depth 0. Only
    the zero key takes the SOL seed. -/
def pump_quote_target (global : Global) (quote_control : Option QuoteControl)
    (quote_curve : BondingCurve) : QuoteResult UInt64 :=
  let q := quote_curve.quote_mint
  if quote_curve.depth > 0 then .ok quote_curve.initial_virtual_quote_reserves
  else if q = Pubkey.default then .ok global.initial_virtual_sol_reserves
  else if q = constants.NATIVE_MINT ∨ q ∈ global.whitelisted_quote_mints then
    .ok global.initial_virtual_quote_reserves
  else
    Outcome.ok_or ((quote_control.bind fun qc => qc.mints.find? (·.mint = q)).map
      (·.initial_virtual_quote_reserves)) .QuoteCurveNotEligible

/-- A curve whose reserves `migrate_v2` has reset. -/
def migrated (curve : BondingCurve) : Bool :=
  curve.real_quote_reserves == 0 && curve.virtual_quote_reserves == 0 &&
    curve.real_token_reserves == 0 && curve.virtual_token_reserves == 0

/-- The `(base, quote)` reserves a quote coin trades on: its curve's, or its
    pool's with the signed virtual reserve. -/
def pump_quote_reserves (quote_curve : BondingCurve) (quote_pool : Option (Pool × UInt64 × UInt64)) :
    QuoteResult (UInt64 × Nat) :=
  if migrated quote_curve then do
    let (pool, base_vault, quote_vault) ← Outcome.ok_or quote_pool .QuotePoolAccountsRequired
    let quote ← Outcome.ok_or
      ((I128.checked_add (I128.from_u64 quote_vault) pool.virtual_quote_reserves).bind
        fun q => U128.try_from_int q.val) .MathOverflow
    .ok (base_vault, quote)
  else if quote_curve.complete then Outcome.err .QuoteCurveAwaitingMigration
  else .ok (quote_curve.virtual_token_reserves, quote_curve.virtual_quote_reserves.toNat)

/-- `create_v2` `(virtual_quote_reserves, depth)` for a coin quoted in a pump
    coin. Target's graduation raise is bought on the quote coin's constant
    product, and the seed is what it buys scaled back by the raise ratio. -/
def pump_quote_initial_virtual_quote_reserves (global : Global) (quote_control : Option QuoteControl)
    (quote_curve : BondingCurve) (quote_pool : Option (Pool × UInt64 × UInt64)) :
    QuoteResult (UInt64 × UInt8) := do
  let depth ← Outcome.ok_or (U8.checked_add quote_curve.depth 1) .MathOverflow
  if depth > global.max_curve_depth then Outcome.err .CurveDepthExceeded
  else if quote_curve.is_mayhem_mode then Outcome.err .QuoteCurveNotEligible
  else
    let target ← pump_quote_target global quote_control quote_curve
    let (base, quote) ← pump_quote_reserves quote_curve quote_pool
    -- An emptied quote side prices nothing.
    if quote = 0 then Outcome.err .MathOverflow
    else
      let real := global.initial_real_token_reserves.toNat
      let unsold ← Outcome.ok_or
        (U128.checked_sub global.initial_virtual_token_reserves.toNat real) .MathOverflow
      let graduation_raise ← mul_div_u128 target.toNat real unsold
      let raise ← swap_exact_input graduation_raise quote base.toNat
      let derived ← Outcome.ok_or (U64.try_from (← mul_div_u128 raise unsold real)) .MathOverflow
      if derived = 0 then Outcome.err .QuoteReservesOutOfRange else .ok (derived, depth)

end PumpSdk

/-- What the tokens unsold at graduation are, of what a curve starts on. -/
def unsold (global : Global) : Nat :=
  global.initial_virtual_token_reserves.toNat - global.initial_real_token_reserves.toNat

/-- The purchase, on reserves `base` and `quote`, of what a curve seeded with
    `target` raises by its graduation. -/
def pump_quote_raise (global : Global) (target base : UInt64) (quote : Nat) : Nat :=
  swapOut (target.toNat * global.initial_real_token_reserves.toNat / unsold global) quote base.toNat

/-- A derived seed with what it was derived from: an eligible quote coin, one
    deeper than it and within the depth limit, and a seed that is its raise
    scaled back, to rounding. -/
structure PumpQuoteSeed (global : Global) (quote_control : Option QuoteControl)
    (quote_curve : BondingCurve) (quote_pool : Option (Pool × UInt64 × UInt64))
    (derived : UInt64) (depth : UInt8) (target base : UInt64) (quote : Nat) : Prop where
  target_eq : PumpSdk.pump_quote_target global quote_control quote_curve = .ok target
  reserves_eq : PumpSdk.pump_quote_reserves quote_curve quote_pool = .ok (base, quote)
  depth_pos : 1 ≤ depth.toNat
  depth_eq : depth.toNat = quote_curve.depth.toNat + 1
  depth_le : depth ≤ global.max_curve_depth
  not_mayhem : quote_curve.is_mayhem_mode = false
  trading : PumpSdk.migrated quote_curve = true ∧ quote_pool.isSome = true ∨
    quote_curve.complete = false
  derived_pos : 1 ≤ derived.toNat
  unsold_pos : 1 ≤ unsold global
  quote_pos : 0 < quote
  derived_eq : derived.toNat = pump_quote_raise global target base quote * unsold global /
    global.initial_real_token_reserves.toNat
  raise_lt : pump_quote_raise global target base quote < base.toNat
  le_scaled : pump_quote_raise global target base quote - 1 -
      global.initial_real_token_reserves.toNat / unsold global ≤
    derived.toNat * global.initial_real_token_reserves.toNat / unsold global
  scaled_le : derived.toNat * global.initial_real_token_reserves.toNat / unsold global ≤
    pump_quote_raise global target base quote

section

variable {global : Global} {quote_control : Option QuoteControl} {quote_curve : BondingCurve}
  {quote_pool : Option (Pool × UInt64 × UInt64)}

theorem pump_quote_target_neverPanics (global : Global) (quote_control : Option QuoteControl)
    (quote_curve : BondingCurve) :
    (PumpSdk.pump_quote_target global quote_control quote_curve).NeverPanics := by
  unfold PumpSdk.pump_quote_target
  dsimp only
  split
  · exact Outcome.neverPanics_ok _
  split
  · exact Outcome.neverPanics_ok _
  split
  · exact Outcome.neverPanics_ok _
  · exact Outcome.neverPanics_ok_or _ _

theorem pump_quote_reserves_neverPanics (quote_curve : BondingCurve)
    (quote_pool : Option (Pool × UInt64 × UInt64)) :
    (PumpSdk.pump_quote_reserves quote_curve quote_pool).NeverPanics := by
  unfold PumpSdk.pump_quote_reserves
  split
  · apply (Outcome.neverPanics_ok_or _ _).bind
    rintro ⟨pool, base_vault, quote_vault⟩ -
    apply (Outcome.neverPanics_ok_or _ _).bind
    intro quote _
    exact Outcome.neverPanics_ok _
  split
  · exact Outcome.neverPanics_err _
  · exact Outcome.neverPanics_ok _

/-- Reserves are of a coin that trades: on its pool once it migrated, on its
    curve before. -/
theorem trading_of_reserves {reserves : UInt64 × Nat}
    (h : PumpSdk.pump_quote_reserves quote_curve quote_pool = .ok reserves) :
    PumpSdk.migrated quote_curve = true ∧ quote_pool.isSome = true ∨
      quote_curve.complete = false := by
  unfold PumpSdk.pump_quote_reserves at h
  split at h
  · next hmigrated =>
    obtain ⟨_, hpool, -⟩ := Outcome.bind_eq_ok_iff.mp h
    rw [Outcome.ok_or_eq_ok_iff] at hpool
    exact Or.inl ⟨hmigrated, by rw [hpool]; rfl⟩
  split at h
  · cases h
  · next hcomplete => exact Or.inr (by simpa using hcomplete)

theorem pump_quote_neverPanics (global : Global) (quote_control : Option QuoteControl)
    (quote_curve : BondingCurve) (quote_pool : Option (Pool × UInt64 × UInt64)) :
    (PumpSdk.pump_quote_initial_virtual_quote_reserves global quote_control quote_curve
      quote_pool).NeverPanics := by
  unfold PumpSdk.pump_quote_initial_virtual_quote_reserves
  apply (Outcome.neverPanics_ok_or _ _).bind
  intro depth _
  split
  · exact Outcome.neverPanics_err _
  split
  · exact Outcome.neverPanics_err _
  apply (pump_quote_target_neverPanics _ _ _).bind
  intro target _
  apply (pump_quote_reserves_neverPanics _ _).bind
  rintro ⟨base, quote⟩ -
  dsimp only
  split
  · exact Outcome.neverPanics_err _
  apply (Outcome.neverPanics_ok_or _ _).bind
  intro unsold _
  apply (mul_div_u128_neverPanics _ _ _).bind
  intro graduation_raise _
  apply (swap_exact_input_neverPanics _ _ _).bind
  intro raise _
  apply (mul_div_u128_neverPanics _ _ _).bind
  intro scaled _
  apply (Outcome.neverPanics_ok_or _ _).bind
  intro derived _
  split
  · exact Outcome.neverPanics_err _
  · exact Outcome.neverPanics_ok _

/-- Every seed the derivation returns is what it was derived from says. -/
theorem pumpQuoteSeed_of_ok {derived : UInt64} {depth : UInt8}
    (h : PumpSdk.pump_quote_initial_virtual_quote_reserves global quote_control quote_curve
      quote_pool = .ok (derived, depth)) :
    ∃ target base quote, PumpQuoteSeed global quote_control quote_curve quote_pool derived depth
      target base quote := by
  obtain ⟨depth', hdepth, h⟩ := Outcome.bind_eq_ok_iff.mp h
  have hdepth_eq := U8.checked_add_eq_some (Outcome.ok_or_eq_ok_iff.mp hdepth)
  have hone : (1 : UInt8).toNat = 1 := rfl
  split at h
  · simp at h
  next hlimit =>
  split at h
  · simp at h
  next hmayhem =>
  obtain ⟨target, htarget, h⟩ := Outcome.bind_eq_ok_iff.mp h
  obtain ⟨⟨base, quote⟩, hreserves, h⟩ := Outcome.bind_eq_ok_iff.mp h
  dsimp only at h
  split at h
  · simp at h
  next hquote =>
  obtain ⟨unsold', hunsold, h⟩ := Outcome.bind_eq_ok_iff.mp h
  obtain ⟨graduation_raise, hgraduation, h⟩ := Outcome.bind_eq_ok_iff.mp h
  obtain ⟨raise, hraise, h⟩ := Outcome.bind_eq_ok_iff.mp h
  obtain ⟨scaled, hscaled, h⟩ := Outcome.bind_eq_ok_iff.mp h
  obtain ⟨derived', hderived, h⟩ := Outcome.bind_eq_ok_iff.mp h
  split at h
  · simp at h
  next hpos =>
  cases h
  obtain ⟨hunsold_pos, rfl⟩ := mul_div_u128_ok hgraduation
  obtain ⟨hreal_pos, rfl⟩ := mul_div_u128_ok hscaled
  have hunsold_eq : unsold' = unsold global := by
    have hsum := U128.checked_sub_eq_some_iff.mp (Outcome.ok_or_eq_ok_iff.mp hunsold)
    unfold unsold
    omega
  subst hunsold_eq
  obtain rfl : raise = pump_quote_raise global target base quote := swap_exact_input_ok hraise
  have hderived_eq := U64.try_from_eq_some_iff.mp (Outcome.ok_or_eq_ok_iff.mp hderived)
  have hderived_pos := U64.ne_zero_iff.mp hpos
  -- an empty base side would have sold nothing, and so seeded nothing
  have hraise_pos : 0 < pump_quote_raise global target base quote := by
    by_contra hnot
    rw [Nat.eq_zero_of_not_pos hnot, Nat.zero_mul, Nat.zero_div] at hderived_eq
    omega
  have hbase : 0 < base.toNat := hraise_pos.trans_le (swapOut_le _ _ _)
  obtain ⟨hscaled_le, hle_scaled⟩ :=
    scale_back_bounds (pump_quote_raise global target base quote) hunsold_pos hreal_pos
  rw [← hderived_eq] at hscaled_le hle_scaled
  exact ⟨target, base, quote, {
    target_eq := htarget
    reserves_eq := hreserves
    depth_pos := by omega
    depth_eq := hdepth_eq
    depth_le := by
      rw [gt_iff_lt, UInt8.lt_iff_toNat_lt, not_lt] at hlimit
      exact UInt8.le_iff_toNat_le.mpr hlimit
    not_mayhem := by simpa using hmayhem
    trading := trading_of_reserves hreserves
    derived_pos := hderived_pos
    unsold_pos := hunsold_pos
    quote_pos := Nat.pos_of_ne_zero hquote
    derived_eq := hderived_eq
    raise_lt := swapOut_lt (Nat.pos_of_ne_zero hquote) hbase
    le_scaled := hle_scaled
    scaled_le := hscaled_le }⟩

/-- A larger target seed, a larger base reserve and a smaller quote reserve buy
    a larger raise. -/
theorem pump_quote_raise_mono {global global' : Global}
    (hreal : global.initial_real_token_reserves = global'.initial_real_token_reserves)
    (hvirtual : global.initial_virtual_token_reserves = global'.initial_virtual_token_reserves)
    {target target' base base' : UInt64} {quote quote' : Nat} (htarget : target ≤ target')
    (hbase : base ≤ base') (hquote : quote' ≤ quote) :
    pump_quote_raise global target base quote ≤ pump_quote_raise global' target' base' quote' := by
  have hunsold : unsold global = unsold global' := by unfold unsold; rw [hreal, hvirtual]
  have hgraduation : target.toNat * global.initial_real_token_reserves.toNat / unsold global ≤
      target'.toNat * global'.initial_real_token_reserves.toNat / unsold global' := by
    rw [hunsold, hreal]
    exact Nat.div_le_div_right (Nat.mul_le_mul_right _ (UInt64.le_iff_toNat_le.mp htarget))
  unfold pump_quote_raise
  calc _ ≤ swapOut (target'.toNat * global'.initial_real_token_reserves.toNat / unsold global')
        quote base.toNat := swapOut_mono hgraduation _ _
    _ ≤ swapOut (target'.toNat * global'.initial_real_token_reserves.toNat / unsold global')
        quote base'.toNat := swapOut_mono_right (UInt64.le_iff_toNat_le.mp hbase) _ _
    _ ≤ _ := swapOut_anti hquote _ _

end

/-- The pump-quote seed is bounded by the raise it comes from: the derivation
    never panics, what it returns is an eligible coin's raise scaled back, and
    on one pair of initial token reserves it grows with the target seed and the
    quote coin's base reserve and falls with its quote reserve. -/
theorem pump_quote_seed_bounded :
    (∀ (global : Global) (quote_control : Option QuoteControl) (quote_curve : BondingCurve)
        (quote_pool : Option (Pool × UInt64 × UInt64)),
      (PumpSdk.pump_quote_initial_virtual_quote_reserves global quote_control quote_curve
        quote_pool).NeverPanics ∧
      ∀ derived depth, PumpSdk.pump_quote_initial_virtual_quote_reserves global quote_control
          quote_curve quote_pool = .ok (derived, depth) →
        ∃ target base quote, PumpQuoteSeed global quote_control quote_curve quote_pool derived depth
          target base quote) ∧
    ∀ (global global' : Global) (quote_control quote_control' : Option QuoteControl)
        (quote_curve quote_curve' : BondingCurve)
        (quote_pool quote_pool' : Option (Pool × UInt64 × UInt64))
        (target target' base base' : UInt64) (quote quote' : Nat) (derived derived' : UInt64)
        (depth depth' : UInt8),
      global.initial_real_token_reserves = global'.initial_real_token_reserves →
      global.initial_virtual_token_reserves = global'.initial_virtual_token_reserves →
      PumpSdk.pump_quote_target global quote_control quote_curve = .ok target →
      PumpSdk.pump_quote_target global' quote_control' quote_curve' = .ok target' →
      PumpSdk.pump_quote_reserves quote_curve quote_pool = .ok (base, quote) →
      PumpSdk.pump_quote_reserves quote_curve' quote_pool' = .ok (base', quote') →
      target ≤ target' → base ≤ base' → quote' ≤ quote →
      PumpSdk.pump_quote_initial_virtual_quote_reserves global quote_control quote_curve quote_pool =
        .ok (derived, depth) →
      PumpSdk.pump_quote_initial_virtual_quote_reserves global' quote_control' quote_curve'
        quote_pool' = .ok (derived', depth') → derived ≤ derived' := by
  constructor
  · intro global quote_control quote_curve quote_pool
    exact ⟨pump_quote_neverPanics global quote_control quote_curve quote_pool,
      fun _ _ => pumpQuoteSeed_of_ok⟩
  · intro global global' quote_control quote_control' quote_curve quote_curve' quote_pool quote_pool'
      target target' base base' quote quote' derived derived' depth depth' hreal hvirtual htarget
      htarget' hreserves hreserves' hle_target hle_base hle_quote h h'
    obtain ⟨_, _, _, seed⟩ := pumpQuoteSeed_of_ok h
    obtain ⟨_, _, _, seed'⟩ := pumpQuoteSeed_of_ok h'
    cases seed.target_eq.symm.trans htarget
    cases seed'.target_eq.symm.trans htarget'
    cases seed.reserves_eq.symm.trans hreserves
    cases seed'.reserves_eq.symm.trans hreserves'
    have hunsold : unsold global = unsold global' := by unfold unsold; rw [hreal, hvirtual]
    have hraise := pump_quote_raise_mono hreal hvirtual hle_target hle_base hle_quote
    rw [UInt64.le_iff_toNat_le, seed.derived_eq, seed'.derived_eq, hreal, hunsold]
    exact Nat.div_le_div_right (Nat.mul_le_mul_right _ hraise)

/-- The launch configuration, its coins quoted in one another two deep. -/
def nestingGlobal : Global :=
  { bonding_curve.launchGlobal with
    initial_virtual_sol_reserves := 30_000_000_000
    max_curve_depth := 2 }

/-- A SOL-quoted coin that trades on its curve. -/
def quoteCurve (base quote : UInt64) : BondingCurve :=
  { BondingCurve.default with virtual_token_reserves := base, virtual_quote_reserves := quote }

/-- A coin at launch seeds more than the same coin after some buys, which took
    base out and put quote in. -/
theorem pump_quote_seed_bounded_launch :
    PumpSdk.pump_quote_initial_virtual_quote_reserves nestingGlobal none
        (quoteCurve 676_450_000_000_000 47_586_730_000) none = .ok (153_052_117_545_539, 1) ∧
      PumpSdk.pump_quote_initial_virtual_quote_reserves nestingGlobal none
        (quoteCurve 1_073_000_000_000_000 30_000_000_000) none = .ok (279_899_999_999_307, 1) ∧
      (153_052_117_545_539 : UInt64) ≤ 279_899_999_999_307 ∧
      ∃ target base quote, PumpQuoteSeed nestingGlobal none
        (quoteCurve 1_073_000_000_000_000 30_000_000_000) none 279_899_999_999_307 1 target base
          quote := by
  obtain ⟨hseed, hmono⟩ := pump_quote_seed_bounded
  have hbought : PumpSdk.pump_quote_initial_virtual_quote_reserves nestingGlobal none
      (quoteCurve 676_450_000_000_000 47_586_730_000) none = .ok (153_052_117_545_539, 1) := by
    decide +kernel
  have hlaunch : PumpSdk.pump_quote_initial_virtual_quote_reserves nestingGlobal none
      (quoteCurve 1_073_000_000_000_000 30_000_000_000) none = .ok (279_899_999_999_307, 1) := by
    decide +kernel
  refine ⟨hbought, hlaunch, ?_, (hseed _ _ _ _).2 _ _ hlaunch⟩
  exact hmono _ _ _ _ _ _ _ _ 30_000_000_000 30_000_000_000 _ _ _ _ _ _ _ _ rfl rfl
    (by decide +kernel) (by decide +kernel) rfl rfl (by decide) (by decide) (by decide) hbought hlaunch

namespace PumpSdk

end PumpSdk

end pump_rust_client.sdk
