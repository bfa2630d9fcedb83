import PumpClient.Math.Amm.Bracket
import PumpClient.Math.BondingCurve.Totality

open machine exchange

namespace pump_rust_client.math

open state state.pump_amm utils fees Outcome

/-- Where a fault means that the rates in force exceed, it means that they are
    degenerate exactly when rates that are not never exceed. -/
theorem only_degenerate_iff {α : Type} {fault : Prop} {InForce Exceed Degenerate : α → Prop}
    (hfault : fault ↔ ∃ rates, InForce rates ∧ Exceed rates)
    (hunique : ∀ rates rates', InForce rates → InForce rates' → rates = rates') :
    (fault → ∃ rates, InForce rates ∧ Degenerate rates) ↔
      ∀ rates, InForce rates → ¬ Degenerate rates → ¬ Exceed rates := by
  rw [hfault]
  constructor
  · rintro h rates hrates hsound hexceed
    obtain ⟨rates', hrates', hdegenerate⟩ := h ⟨rates, hrates, hexceed⟩
    cases hunique rates rates' hrates hrates'
    exact hsound hdegenerate
  · rintro h ⟨rates, hrates, hexceed⟩
    by_contra hnot
    exact h rates hrates (fun hdegenerate => hnot ⟨rates, hrates, hdegenerate⟩) hexceed

namespace fees

theorem fees_for_quote_mint_error {cfg : FeeConfig} {is_pump_pool : Bool} {market_cap : Nat}
    {quote_mint : Pubkey} {e : Fault QuoteError}
    (h : fees_for_quote_mint cfg is_pump_pool market_cap quote_mint = .error e) :
    e = .error .EmptyFeeTiers := by
  unfold fees_for_quote_mint at h
  dsimp only at h
  split at h
  · cases h
  split at h
  · exact (ok_or_eq_error_iff.mp h).2
  split at h
  · exact (ok_or_eq_error_iff.mp h).2
  split at h
  · cases h
  · cases h

/-- Reading rates refuses nothing but an empty table, whatever is made of
    them. -/
theorem fee_bps_avoids {β : Type} {e : QuoteError} (hne : e ≠ .EmptyFeeTiers)
    {market_cap : QuoteResult Nat} (hcap : NeverErrs market_cap) (cfg : FeeConfig)
    (is_pump_pool : Bool) (quote_mint : Pubkey) (f : Fees → β) :
    Avoids (.error e) (market_cap >>= fun cap =>
      fees_for_quote_mint cfg is_pump_pool cap quote_mint >>= fun fees => .ok (f fees)) := by
  apply (hcap.avoids e).bind
  intro cap _
  apply Avoids.bind
  · intro h
    cases fees_for_quote_mint_error h
    exact hne rfl
  · intro fees _
    exact avoids_ok _ _

variable [Build]

theorem compute_bonding_curve_fee_bps_avoids {e : QuoteError} (hne : e ≠ .EmptyFeeTiers)
    (global : Global) (fee_config : FeeConfig) (quote_mint : Pubkey)
    (coin_creator_fee_bps mint_supply virtual_quote_reserves virtual_token_reserves : UInt64) :
    Avoids (.error e) (compute_bonding_curve_fee_bps global fee_config quote_mint
      coin_creator_fee_bps mint_supply virtual_quote_reserves virtual_token_reserves) :=
  fee_bps_avoids hne ((U128.mul_neverErrs _ _).bind fun _ => U128.div_neverErrs _ _) _ _ _ _

theorem compute_amm_fee_bps_avoids [Solana] {e : QuoteError} (hne : e ≠ .EmptyFeeTiers)
    (global_config : GlobalConfig) (fee_config : FeeConfig)
    (base_mint pool_creator quote_mint : Pubkey)
    (coin_creator_fee_bps base_mint_supply base_reserve quote_reserve : UInt64) :
    Avoids (.error e) (compute_amm_fee_bps global_config fee_config base_mint pool_creator quote_mint
      coin_creator_fee_bps base_mint_supply base_reserve quote_reserve) :=
  fee_bps_avoids hne ((U128.mul_neverErrs _ _).bind fun _ => U128.div_neverErrs _ _) _ _ _ _

end fees

namespace bonding_curve

variable [Build] {global : Global} {fee_config : FeeConfig} {bonding_curve : BondingCurve}
  {mint_supply token_amount : UInt64} {rates : UInt64 × UInt64}

/-- What a curve pays for tokens before fees. -/
def gross (bonding_curve : BondingCurve) (token_amount : UInt64) : Nat :=
  swapOut token_amount.toNat bonding_curve.virtual_token_reserves.toNat
    bonding_curve.virtual_quote_reserves.toNat

/-- The rates a direct sell charges, when there is something to sell to. -/
def SellCharges (global : Global) (fee_config : FeeConfig) (bonding_curve : BondingCurve)
    (mint_supply token_amount : UInt64) (rates : UInt64 × UInt64) : Prop :=
  token_amount ≠ 0 ∧ bonding_curve.virtual_token_reserves ≠ 0 ∧
    curve_fee_bps global fee_config bonding_curve mint_supply = .ok rates

theorem curve_fee_bps_avoids {e : QuoteError} (hne : e ≠ .EmptyFeeTiers) :
    Avoids (.error e) (curve_fee_bps global fee_config bonding_curve mint_supply) :=
  (compute_bonding_curve_fee_bps_avoids hne _ _ _ _ _ _ _).bind fun _ _ => avoids_ok _ _

/-- A direct sell refuses its fees exactly where they exceed the gross. -/
theorem sell_sol_amount_fees_exceed_iff :
    sell_sol_amount_from_token_amount global fee_config bonding_curve mint_supply token_amount =
        Outcome.err .FeesExceedOutput ↔
      ∃ rates, SellCharges global fee_config bonding_curve mint_supply token_amount rates ∧
        gross bonding_curve token_amount <
          (curveSchedule rates).fees (gross bonding_curve token_amount) := by
  by_cases hsmall : token_amount = 0 ∨ bonding_curve.virtual_token_reserves = 0
  · rw [sell_sol_amount_from_token_amount, if_pos hsmall]
    constructor
    · intro h
      cases h
    · rintro ⟨rates, ⟨hin, hvt, -⟩, -⟩
      exact absurd hsmall (not_or.mpr ⟨hin, hvt⟩)
  obtain ⟨hin, hvt⟩ := not_or.mp hsmall
  rw [sell_sol_amount_eq (U64.ne_zero_iff.mp hvt) (U64.ne_zero_iff.mp hin) rfl]
  constructor
  · intro h
    rcases bind_eq_error_iff.mp h with hrates | ⟨rates, hrates, h⟩
    · exact absurd hrates (curve_fee_bps_avoids (by decide))
    · split at h
      · next hexceed => exact ⟨rates, ⟨hin, hvt, hrates⟩, hexceed⟩
      · cases h
  · rintro ⟨rates, ⟨-, -, hrates⟩, hexceed⟩
    rw [hrates, ok_bind]
    exact if_pos hexceed

end bonding_curve

namespace amm

variable [Build] [Solana]

/-- What a pool pays for tokens before fees. -/
def AmmContext.gross (ctx : AmmContext) (base_in : UInt64) : Nat :=
  swapOut base_in.toNat ctx.base_reserve.toNat ctx.quote_reserve.toNat

/-- The rates a direct sell charges on an open pool. -/
def AmmContext.SellCharges (ctx : AmmContext) (bps : AmmFeeBps) : Prop :=
  check_trading_enabled ctx.global_config false = .ok () ∧ ctx.check_reserves = .ok () ∧
    ctx.fee_bps = .ok bps

theorem sell_base_input_fees_exceed_iff {ctx : AmmContext} {base_in : UInt64} :
    sell_base_input ctx base_in = Outcome.err .FeesExceedOutput ↔
      ∃ bps, ctx.SellCharges bps ∧
        ctx.gross base_in < (schedule (ctx.charged_bps bps)).fees (ctx.gross base_in) := by
  constructor
  · intro h
    rcases check_trading_enabled_cases ctx.global_config false with hopen | hclosed
    swap
    · rw [sell_base_input, hclosed, err_bind] at h
      cases h
    rcases ctx.check_reserves_cases with hreserves | hempty
    swap
    · rw [sell_base_input, hopen, ok_bind, hempty, err_bind] at h
      cases h
    rw [sell_base_input_eq hopen hreserves rfl] at h
    rcases bind_eq_error_iff.mp h with hbps | ⟨bps, hbps, h⟩
    · exact absurd hbps (compute_amm_fee_bps_avoids (by decide) _ _ _ _ _ _ _ _ _)
    split at h
    · next hexceed => exact ⟨bps, ⟨hopen, hreserves, hbps⟩, hexceed⟩
    split at h
    · cases h
    · cases h
  · rintro ⟨bps, ⟨hopen, hreserves, hbps⟩, hexceed⟩
    rw [sell_base_input_eq hopen hreserves rfl, hbps, ok_bind]
    exact if_pos hexceed

section Hop

variable {global_config : GlobalConfig} {fee_config : FeeConfig} {pool : Pool}
  {base_reserve quote_vault_balance base_mint_supply amount_in : UInt64} {legs : HopFees}

/-- What a hop reads before it trades: the real reserve, the reserve it prices
    on and the rates it charges. -/
abbrev HopReads := UInt64 × UInt64 × UInt64 × UInt64 × UInt64

/-- What a sell hop reads on an open pool that takes part in routes. -/
def HopCharges (global_config : GlobalConfig) (fee_config : FeeConfig) (pool : Pool)
    (base_reserve quote_vault_balance base_mint_supply : UInt64) (is_buy : Bool) (legs : HopFees)
    (reads : HopReads) : Prop :=
  is_buy = false ∧ check_trading_enabled global_config false = .ok () ∧
    HopVenue global_config fee_config pool base_reserve quote_vault_balance base_mint_supply legs
      reads.1 reads.2.1 reads.2.2

/-- A hop refused for what it would pay out has read what it prices by. -/
theorem multi_hop_pool_hop_venue_of_refused {is_buy : Bool} {e : QuoteError}
    (hlate : e ∉ [QuoteError.TradingDisabled, .VenueNotSupported, .MathOverflow, .EmptyReserves,
      .EmptyFeeTiers])
    (h : multi_hop_pool_hop global_config fee_config pool base_reserve quote_vault_balance
      base_mint_supply is_buy amount_in legs = Outcome.err e) :
    check_trading_enabled global_config is_buy = .ok () ∧
      ∃ real_quote quote_reserve rates, HopVenue global_config fee_config pool base_reserve
        quote_vault_balance base_mint_supply legs real_quote quote_reserve rates := by
  simp only [List.mem_cons, List.not_mem_nil, or_false, not_or] at hlate
  obtain ⟨hdisabled, hvenue, hoverflow, hempty, htiers⟩ := hlate
  have hsteps := h
  unfold multi_hop_pool_hop at hsteps
  rcases check_trading_enabled_cases global_config is_buy with hopen | hclosed
  swap
  · rw [hclosed, err_bind] at hsteps
    cases hsteps
    exact absurd rfl hdisabled
  rw [hopen, ok_bind] at hsteps
  split at hsteps
  · cases hsteps
    exact absurd rfl hvenue
  next heligible =>
  rcases bind_eq_error_iff.mp hsteps with hreal | ⟨real_quote, hreal, hsteps⟩
  · cases real_quote_reserve_error hreal
    exact absurd rfl hoverflow
  rcases bind_eq_error_iff.mp hsteps with heffective | ⟨quote_reserve, heffective, hsteps⟩
  · cases effective_quote_reserve_error heffective
    exact absurd rfl hoverflow
  split at hsteps
  · cases hsteps
    exact absurd rfl hempty
  next hne =>
  rcases bind_eq_error_iff.mp hsteps with hbps | ⟨bps, hbps, -⟩
  · exact absurd hbps (compute_amm_fee_bps_avoids htiers _ _ _ _ _ _ _ _ _)
  exact ⟨hopen, real_quote, quote_reserve, hop_fee_bps pool legs bps,
    .of_reads heligible hreal heffective hne hbps⟩

/-- A hop that refuses its fees has read what it prices by. -/
theorem multi_hop_pool_hop_venue_of_fees_exceed {is_buy : Bool}
    (h : multi_hop_pool_hop global_config fee_config pool base_reserve quote_vault_balance
      base_mint_supply is_buy amount_in legs = Outcome.err .FeesExceedOutput) :
    check_trading_enabled global_config is_buy = .ok () ∧
      ∃ real_quote quote_reserve rates, HopVenue global_config fee_config pool base_reserve
        quote_vault_balance base_mint_supply legs real_quote quote_reserve rates :=
  multi_hop_pool_hop_venue_of_refused (by decide) h

/-- The gross of a sell hop and its LP fee. -/
def HopReads.gross (reads : HopReads) (base_reserve amount_in : UInt64) : Nat :=
  swapOut amount_in.toNat base_reserve.toNat reads.2.1.toNat

def HopReads.lp_fee (reads : HopReads) (base_reserve amount_in : UInt64) : Nat :=
  (schedule reads.2.2).fee (reads.gross base_reserve amount_in) reads.2.2.1.toNat

/-- A hop refuses its fees when the LP fee alone exceeds the gross, or all of
    them do where the vault covers the rest of it. -/
def HopReads.Exceed (reads : HopReads) (base_reserve amount_in : UInt64) : Prop :=
  reads.gross base_reserve amount_in < reads.lp_fee base_reserve amount_in ∨
    reads.gross base_reserve amount_in - reads.lp_fee base_reserve amount_in ≤ reads.1.toNat ∧
      reads.gross base_reserve amount_in <
        (schedule reads.2.2).fees (reads.gross base_reserve amount_in)

theorem multi_hop_pool_hop_fees_exceed_iff {is_buy : Bool} :
    multi_hop_pool_hop global_config fee_config pool base_reserve quote_vault_balance
        base_mint_supply is_buy amount_in legs = Outcome.err .FeesExceedOutput ↔
      ∃ reads : HopReads, HopCharges global_config fee_config pool base_reserve quote_vault_balance
        base_mint_supply is_buy legs reads ∧ reads.Exceed base_reserve amount_in := by
  constructor
  · intro h
    obtain ⟨hopen, real_quote, quote_reserve, rates, venue⟩ :=
      multi_hop_pool_hop_venue_of_fees_exceed h
    cases is_buy with
    | true =>
      rw [venue.buy_eq hopen] at h
      split at h <;> cases h
    | false =>
      refine ⟨(real_quote, quote_reserve, rates), ⟨rfl, hopen, venue⟩, ?_⟩
      rw [venue.sell_eq hopen rfl] at h
      split at h
      · next hlp => exact Or.inl hlp
      split at h
      · cases h
      next hcovered =>
      split at h
      · next hexceed => exact Or.inr ⟨not_lt.mp hcovered, hexceed⟩
      split at h
      · cases h
      · cases h
  · rintro ⟨reads, ⟨rfl, hopen, venue⟩, hexceed⟩
    rw [venue.sell_eq hopen rfl]
    by_cases hlp : reads.gross base_reserve amount_in < reads.lp_fee base_reserve amount_in
    · exact if_pos hlp
    obtain ⟨hcovered, hexceed⟩ := hexceed.resolve_left hlp
    exact (if_neg hlp).trans ((if_neg (not_lt.mpr hcovered)).trans (if_pos hexceed))

omit [Build] [Solana] in
/-- Sound rates exceed only in what they round up, never by the LP fee alone. -/
theorem HopReads.not_exceed_iff {reads : HopReads} {base_reserve amount_in : UInt64}
    (htotal : (schedule reads.2.2).total ≤ 10_000) :
    ¬ reads.Exceed base_reserve amount_in ↔
      (reads.gross base_reserve amount_in - reads.lp_fee base_reserve amount_in ≤ reads.1.toNat →
        (schedule reads.2.2).fees (reads.gross base_reserve amount_in) ≤
          reads.gross base_reserve amount_in) := by
  rw [schedule_total] at htotal
  have hlp : reads.lp_fee base_reserve amount_in ≤ reads.gross base_reserve amount_in :=
    FeeSchedule.fee_le (by rw [schedule_scale]; omega) _
  unfold HopReads.Exceed
  omega

theorem HopCharges.unique {is_buy : Bool} {reads reads' : HopReads}
    (h : HopCharges global_config fee_config pool base_reserve quote_vault_balance base_mint_supply
      is_buy legs reads)
    (h' : HopCharges global_config fee_config pool base_reserve quote_vault_balance base_mint_supply
      is_buy legs reads') : reads = reads' := by
  obtain ⟨real_quote, quote_reserve, rates⟩ := reads
  obtain ⟨real_quote', quote_reserve', rates'⟩ := reads'
  obtain ⟨-, -, venue⟩ := h
  obtain ⟨-, -, venue'⟩ := h'
  obtain rfl : real_quote = real_quote' := Except.ok.inj (venue.real.symm.trans venue'.real)
  obtain rfl : quote_reserve = quote_reserve' :=
    Except.ok.inj (venue.effective.symm.trans venue'.effective)
  obtain ⟨bps, hbps, hrates⟩ := venue.charged
  obtain ⟨bps', hbps', hrates'⟩ := venue'.charged
  obtain rfl : bps = bps' := Except.ok.inj (hbps.symm.trans hbps')
  obtain rfl : rates = rates' := hrates.trans hrates'.symm
  rfl

end Hop

end amm

open bonding_curve amm

/-- Exactly when refused fees mean a degenerate fee table, on each of the three
    sell paths: where, at every rates in force that add up to at most the
    whole, the rounded-up fees of the gross fit in it. A pool hop is held to
    that only where its vault covers the payout. -/
theorem fees_exceed_output_degenerate_iff [Build] [Solana] :
    (∀ (global : Global) (fee_config : FeeConfig) (curve : BondingCurve)
        (mint_supply token_amount : UInt64),
      (sell_sol_amount_from_token_amount global fee_config curve mint_supply token_amount =
          Outcome.err .FeesExceedOutput →
        ∃ rates, bonding_curve.SellCharges global fee_config curve mint_supply token_amount rates ∧
          10_000 < (curveSchedule rates).total) ↔
      ∀ rates, bonding_curve.SellCharges global fee_config curve mint_supply token_amount rates →
        (curveSchedule rates).total ≤ 10_000 →
        (curveSchedule rates).fees (gross curve token_amount) ≤ gross curve token_amount) ∧
    (∀ (ctx : AmmContext) (base_in : UInt64),
      (sell_base_input ctx base_in = Outcome.err .FeesExceedOutput →
        ∃ bps, ctx.SellCharges bps ∧ 10_000 < (schedule (ctx.charged_bps bps)).total) ↔
      ∀ bps, ctx.SellCharges bps → (schedule (ctx.charged_bps bps)).total ≤ 10_000 →
        (schedule (ctx.charged_bps bps)).fees (ctx.gross base_in) ≤ ctx.gross base_in) ∧
    ∀ (global_config : GlobalConfig) (fee_config : FeeConfig) (pool : Pool)
        (base_reserve quote_vault_balance base_mint_supply : UInt64) (is_buy : Bool)
        (amount_in : UInt64) (legs : HopFees),
      (multi_hop_pool_hop global_config fee_config pool base_reserve quote_vault_balance
          base_mint_supply is_buy amount_in legs = Outcome.err .FeesExceedOutput →
        ∃ reads, HopCharges global_config fee_config pool base_reserve quote_vault_balance
          base_mint_supply is_buy legs reads ∧ 10_000 < (schedule reads.2.2).total) ↔
      ∀ reads, HopCharges global_config fee_config pool base_reserve quote_vault_balance
          base_mint_supply is_buy legs reads → (schedule reads.2.2).total ≤ 10_000 →
        reads.gross base_reserve amount_in - reads.lp_fee base_reserve amount_in ≤ reads.1.toNat →
        (schedule reads.2.2).fees (reads.gross base_reserve amount_in) ≤
          reads.gross base_reserve amount_in := by
  refine ⟨?_, ?_, ?_⟩
  · intro global fee_config curve mint_supply token_amount
    rw [only_degenerate_iff sell_sol_amount_fees_exceed_iff]
    · simp only [not_lt]
    · rintro rates rates' ⟨-, -, hrates⟩ ⟨-, -, hrates'⟩
      exact Except.ok.inj (hrates.symm.trans hrates')
  · intro ctx base_in
    rw [only_degenerate_iff sell_base_input_fees_exceed_iff]
    · simp only [not_lt]
    · rintro bps bps' ⟨-, -, hbps⟩ ⟨-, -, hbps'⟩
      exact Except.ok.inj (hbps.symm.trans hbps')
  · intro global_config fee_config pool base_reserve quote_vault_balance base_mint_supply is_buy
      amount_in legs
    rw [only_degenerate_iff multi_hop_pool_hop_fees_exceed_iff]
    · simp only [not_lt]
      exact forall₃_congr fun reads _ htotal => HopReads.not_exceed_iff htotal
    · exact fun _ _ => HopCharges.unique

/-- Dust sells at 1.5% on the curve and 0.55% on the pool: one unit of gross does
    not cover two rounded-up fees, nor two units three. -/
theorem fees_exceed_output_dust :
    letI : Build := ⟨true⟩
    letI : Solana := graduatedPoolAuthority
    (sell_sol_amount_from_token_amount Global.default launchFees launchCurve 0 40_000 =
        Outcome.err .FeesExceedOutput ∧
      curve_fee_bps Global.default launchFees launchCurve 0 = .ok (100, 50)) ∧
    (sell_base_input graduatedContext 5_000 = Outcome.err .FeesExceedOutput ∧
      graduatedContext.fee_bps = .ok ⟨20, 5, 30⟩) ∧
    multi_hop_pool_hop GlobalConfig.default graduatedFees graduatedPool 206_900_000_000_000
        85_000_000_000 1_000_000_000_000_000 false 5_000 ⟨true, true, true⟩ =
      Outcome.err .FeesExceedOutput ∧
    ¬ (sell_sol_amount_from_token_amount Global.default launchFees launchCurve 0 40_000 =
        Outcome.err .FeesExceedOutput →
      ∃ rates, bonding_curve.SellCharges Global.default launchFees launchCurve 0 40_000 rates ∧
        10_000 < (curveSchedule rates).total) := by
  let _ : Build := ⟨true⟩
  let _ : Solana := graduatedPoolAuthority
  have hrates : curve_fee_bps Global.default launchFees launchCurve 0 = .ok (100, 50) := by
    decide +kernel
  have hexceed : sell_sol_amount_from_token_amount Global.default launchFees launchCurve 0 40_000 =
      Outcome.err .FeesExceedOutput := by decide +kernel
  refine ⟨⟨hexceed, hrates⟩, ⟨by decide +kernel, by decide +kernel⟩, by decide +kernel, ?_⟩
  intro h
  obtain ⟨rates, ⟨-, -, hrates'⟩, hdegenerate⟩ := h hexceed
  obtain rfl : (100, 50) = rates := Except.ok.inj (hrates.symm.trans hrates')
  revert hdegenerate
  decide

end pump_rust_client.math
