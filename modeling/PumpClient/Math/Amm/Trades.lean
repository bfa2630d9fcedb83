import PumpClient.Math.Amm.Reserves
import PumpClient.Math.BondingCurve.Hop

open machine exchange

namespace pump_rust_client.math.amm

open state state.pump_amm utils fees

/-- The rates of a direct pool trade: a pool without a coin creator charges it
    nothing. -/
def AmmContext.charged_bps (ctx : AmmContext) (bps : AmmFeeBps) : UInt64 × UInt64 × UInt64 :=
  (bps.lp_fee_bps, bps.protocol_fee_bps,
    if ctx.coin_creator = Pubkey.default then 0 else bps.creator_fee_bps)

/-- The fee-less pool quotes are the curve's, the reserves named the other way
    round. -/
theorem sell_quote_eq (pool_quote_token_reserves amount : UInt64) {pool_base_token_reserves : UInt64}
    (hbase : 0 < pool_base_token_reserves.toNat) :
    sell_quote pool_base_token_reserves pool_quote_token_reserves amount =
      .ok (swapOut amount.toNat pool_base_token_reserves.toNat pool_quote_token_reserves.toNat) :=
  bonding_curve.sell_quote_eq _ _ hbase

theorem buy_token_quote_with_sol_eq (pool_base_token_reserves sol_amount : UInt64)
    {pool_quote_token_reserves : UInt64} (hquote : 0 < pool_quote_token_reserves.toNat) :
    buy_token_quote_with_sol pool_base_token_reserves pool_quote_token_reserves sol_amount =
      .ok (swapOut sol_amount.toNat pool_quote_token_reserves.toNat
        pool_base_token_reserves.toNat) :=
  bonding_curve.buy_token_quote_with_sol_eq _ _ hquote

theorem AmmContext.check_reserves_eq_ok_iff {ctx : AmmContext} :
    ctx.check_reserves = .ok () ↔ 0 < ctx.base_reserve.toNat ∧ 0 < ctx.quote_reserve.toNat := by
  unfold AmmContext.check_reserves
  split
  · next h =>
    simp only [Outcome.err_ne_ok, false_iff, not_and]
    rcases h with h | h
    · simp [h]
    · simp [h]
  · next h =>
    rw [not_or] at h
    simp [← U64.ne_zero_iff, h]

theorem schedule_fees_lt {amount : Nat} (h : amount < 2 ^ 64) (rates : UInt64 × UInt64 × UInt64) :
    (schedule rates).fees amount < 2 ^ 118 := by
  have h₀ := fee_lt h rates.1
  have h₁ := fee_lt h rates.2.1
  have h₂ := fee_lt h rates.2.2
  rw [schedule_fees, schedule_fee, schedule_fee, schedule_fee]
  omega

section

variable [Build]

/-- The fees of a direct trade on an amount that fits `u64`: a zero creator key
    and a zero creator rate charge the same. -/
theorem AmmContext.fees_eq {amount : Nat} (h : amount < 2 ^ 64) (ctx : AmmContext) (bps : AmmFeeBps) :
    fee_amount amount bps.lp_fee_bps =
        .ok ((schedule (ctx.charged_bps bps)).fee amount (ctx.charged_bps bps).1.toNat) ∧
      fee_amount amount bps.protocol_fee_bps =
        .ok ((schedule (ctx.charged_bps bps)).fee amount (ctx.charged_bps bps).2.1.toNat) ∧
      creator_fee_amount ctx.coin_creator amount bps.creator_fee_bps =
        .ok ((schedule (ctx.charged_bps bps)).fee amount (ctx.charged_bps bps).2.2.toNat) := by
  refine ⟨fee_amount_of_lt h _, fee_amount_of_lt h _, ?_⟩
  unfold creator_fee_amount AmmContext.charged_bps
  split
  · simp
  · exact fee_amount_of_lt h _

variable [Solana] {ctx : AmmContext} {bps : AmmFeeBps}

/-- A direct sell pays the swap less all fees, when they fit in it and the
    vault covers everything but the LP fee. -/
theorem sell_base_input_eq {base_in : UInt64} {gross : Nat}
    (hopen : check_trading_enabled ctx.global_config false = .ok ())
    (hreserves : ctx.check_reserves = .ok ())
    (hgross : gross = swapOut base_in.toNat ctx.base_reserve.toNat ctx.quote_reserve.toNat) :
    sell_base_input ctx base_in = ctx.fee_bps >>= fun bps =>
      if gross < (schedule (ctx.charged_bps bps)).fees gross then Outcome.err .FeesExceedOutput
      else if ctx.real_quote_reserve.toNat < gross -
          (schedule (ctx.charged_bps bps)).fee gross (ctx.charged_bps bps).1.toNat then
        Outcome.err .InsufficientRealQuoteReserves
      else .ok {
        final_quote_out := U64.cast (gross - (schedule (ctx.charged_bps bps)).fees gross)
        raw_quote_out := U64.cast gross } := by
  obtain ⟨hbase_pos, -⟩ := AmmContext.check_reserves_eq_ok_iff.mp hreserves
  have hbase_lt := U64.toNat_lt ctx.base_reserve
  have hin_lt := U64.toNat_lt base_in
  have hquote_lt := U64.toNat_lt ctx.quote_reserve
  have hproduct := U128.mul_lt hquote_lt hin_lt
  have hle := swapOut_le base_in.toNat ctx.base_reserve.toNat ctx.quote_reserve.toNat
  have hgross_lt : gross < 2 ^ 64 := by omega
  have hdiv : ctx.quote_reserve.toNat * base_in.toNat / (ctx.base_reserve.toNat + base_in.toNat) =
      gross := by rw [hgross, swapOut, Nat.mul_comm]
  unfold sell_base_input
  rw [hopen, Outcome.ok_bind, hreserves, Outcome.ok_bind, U128.mul_eq_ok hproduct, Outcome.ok_bind,
    U128.add_eq_ok (by omega), Outcome.ok_bind, U128.div_eq_ok (by omega), Outcome.ok_bind, hdiv]
  cases hbps : ctx.fee_bps with
  | error e => rw [Outcome.error_bind, Outcome.error_bind]
  | ok bps =>
    have hfees := schedule_fees (ctx.charged_bps bps) gross
    have hlt := schedule_fees_lt hgross_lt (ctx.charged_bps bps)
    obtain ⟨hlp, hprotocol, hcreator⟩ := ctx.fees_eq hgross_lt bps
    rw [Outcome.ok_bind, Outcome.ok_bind, hlp, Outcome.ok_bind, hprotocol, Outcome.ok_bind, hcreator,
      Outcome.ok_bind, U128.add_eq_ok (by omega), Outcome.ok_bind, U128.add_eq_ok (by omega),
      Outcome.ok_bind, ← hfees]
    by_cases hexceed : gross < (schedule (ctx.charged_bps bps)).fees gross
    · rw [if_pos hexceed, if_pos hexceed]
    · rw [if_neg hexceed, if_neg hexceed, U128.sub_eq_ok (by omega) (by omega), Outcome.ok_bind,
        U128.sub_eq_ok (by omega) (by omega), Outcome.ok_bind]

/-- When a direct sell returns, and what. -/
theorem sell_base_input_ok_iff {base_in : UInt64} {res : SellBaseInputResult} {gross : Nat}
    (hgross : gross = swapOut base_in.toNat ctx.base_reserve.toNat ctx.quote_reserve.toNat) :
    sell_base_input ctx base_in = .ok res ↔
      check_trading_enabled ctx.global_config false = .ok () ∧ ctx.check_reserves = .ok () ∧
      ∃ bps, ctx.fee_bps = .ok bps ∧
        (schedule (ctx.charged_bps bps)).fees gross ≤ gross ∧
        gross - (schedule (ctx.charged_bps bps)).fee gross (ctx.charged_bps bps).1.toNat ≤
          ctx.real_quote_reserve.toNat ∧
        res = {
          final_quote_out := U64.cast (gross - (schedule (ctx.charged_bps bps)).fees gross)
          raw_quote_out := U64.cast gross } := by
  constructor
  · intro h
    have htrace := h
    unfold sell_base_input at htrace
    obtain ⟨⟨⟩, hopen, htrace⟩ := Outcome.bind_eq_ok_iff.mp htrace
    obtain ⟨⟨⟩, hreserves, htrace⟩ := Outcome.bind_eq_ok_iff.mp htrace
    obtain ⟨_, -, htrace⟩ := Outcome.bind_eq_ok_iff.mp htrace
    obtain ⟨_, -, htrace⟩ := Outcome.bind_eq_ok_iff.mp htrace
    obtain ⟨_, -, htrace⟩ := Outcome.bind_eq_ok_iff.mp htrace
    obtain ⟨bps, hbps, -⟩ := Outcome.bind_eq_ok_iff.mp htrace
    rw [sell_base_input_eq hopen hreserves hgross, hbps, Outcome.ok_bind] at h
    split at h
    · simp at h
    next hfees =>
    split at h
    · simp at h
    next hcovered =>
    exact ⟨hopen, hreserves, bps, hbps, not_lt.mp hfees, not_lt.mp hcovered, (Except.ok.inj h).symm⟩
  · rintro ⟨hopen, hreserves, bps, hbps, hfees, hcovered, rfl⟩
    rw [sell_base_input_eq hopen hreserves hgross, hbps, Outcome.ok_bind,
      if_neg (not_lt.mpr hfees), if_neg (not_lt.mpr hcovered)]

/-- A direct buy swaps its shaved net. -/
theorem buy_quote_input_eq {quote_in : UInt64} {rates : UInt64 × UInt64 × UInt64}
    (hopen : check_trading_enabled ctx.global_config true = .ok ())
    (hreserves : ctx.check_reserves = .ok ()) (hbps : ctx.fee_bps = .ok bps)
    (hrates : rates = ctx.charged_bps bps) :
    buy_quote_input ctx quote_in =
      if (schedule rates).net quote_in.toNat = 0 ∨ swapOut ((schedule rates).net quote_in.toNat - 1)
          ctx.quote_reserve.toNat ctx.base_reserve.toNat = 0 then Outcome.err .ZeroAmount
      else .ok {
        base_amount_out := U64.cast (swapOut ((schedule rates).net quote_in.toNat - 1)
          ctx.quote_reserve.toNat ctx.base_reserve.toNat)
        effective_quote := U64.cast ((schedule rates).net quote_in.toNat) } := by
  obtain ⟨-, hquote_pos⟩ := AmmContext.check_reserves_eq_ok_iff.mp hreserves
  have hin_lt := U64.toNat_lt quote_in
  have hnet_le := FeeSchedule.net_le (s := schedule rates) quote_in.toNat
  have hnet := toNat_cast_net quote_in rates
  unfold buy_quote_input
  dsimp only
  rw [hopen, Outcome.ok_bind, hreserves, Outcome.ok_bind, hbps, Outcome.ok_bind]
  change (exact_in_fees quote_in (ctx.charged_bps bps) >>= _) = _
  rw [← hrates, exact_in_fees_eq]
  by_cases hzero : (schedule rates).net quote_in.toNat = 0
  · rw [if_pos hzero, if_pos (Or.inl hzero), Outcome.err_bind]
  rw [if_neg hzero, Outcome.ok_bind, hnet, U128.sub_eq_ok (by omega) (by omega), Outcome.ok_bind,
    swap_exact_input_eq (by omega) (U64.toNat_lt _) (U64.toNat_lt _) hquote_pos, Outcome.ok_bind]
  simp [hzero]

theorem buy_quote_input_ok {quote_in : UInt64} {res : BuyQuoteInputResult}
    (h : buy_quote_input ctx quote_in = .ok res) :
    ∃ bps, check_trading_enabled ctx.global_config true = .ok () ∧ ctx.check_reserves = .ok () ∧
      ctx.fee_bps = .ok bps := by
  unfold buy_quote_input at h
  obtain ⟨⟨⟩, hopen, h⟩ := Outcome.bind_eq_ok_iff.mp h
  obtain ⟨⟨⟩, hreserves, h⟩ := Outcome.bind_eq_ok_iff.mp h
  obtain ⟨bps, hbps, -⟩ := Outcome.bind_eq_ok_iff.mp h
  exact ⟨bps, hopen, hreserves, hbps⟩

end

section Hop

variable [Build] [Solana] {global_config : GlobalConfig} {fee_config : FeeConfig} {pool : Pool}
  {base_reserve quote_vault_balance base_mint_supply : UInt64} {legs : HopFees}

/-- What a pool hop has checked and read before it prices: a pump pool that
    takes part in routes, its two reserves, and the rates it charges. -/
structure HopVenue (global_config : GlobalConfig) (fee_config : FeeConfig) (pool : Pool)
    (base_reserve quote_vault_balance base_mint_supply : UInt64) (legs : HopFees)
    (real_quote quote_reserve : UInt64) (rates : UInt64 × UInt64 × UInt64) : Prop where
  eligible : (!is_pump_pool pool.base_mint pool.creator || (legs.creator && pool.is_cashback_coin) ||
    pool.is_mayhem_mode) = false
  real : real_quote_reserve pool quote_vault_balance = .ok real_quote
  effective : effective_quote_reserve pool quote_vault_balance = .ok quote_reserve
  base_pos : 0 < base_reserve.toNat
  quote_pos : 0 < quote_reserve.toNat
  charged : ∃ bps, compute_amm_fee_bps global_config fee_config pool.base_mint pool.creator
      pool.quote_mint pool.creator_fee_bps base_mint_supply base_reserve quote_reserve = .ok bps ∧
    rates = hop_fee_bps pool legs bps

theorem HopVenue.of_reads {real_quote quote_reserve : UInt64} {bps : AmmFeeBps}
    (heligible : ¬ (!is_pump_pool pool.base_mint pool.creator ||
      (legs.creator && pool.is_cashback_coin) || pool.is_mayhem_mode) = true)
    (hreal : real_quote_reserve pool quote_vault_balance = .ok real_quote)
    (heffective : effective_quote_reserve pool quote_vault_balance = .ok quote_reserve)
    (hne : ¬ (base_reserve = 0 ∨ quote_reserve = 0))
    (hbps : compute_amm_fee_bps global_config fee_config pool.base_mint pool.creator pool.quote_mint
      pool.creator_fee_bps base_mint_supply base_reserve quote_reserve = .ok bps) :
    HopVenue global_config fee_config pool base_reserve quote_vault_balance base_mint_supply legs
      real_quote quote_reserve (hop_fee_bps pool legs bps) where
  eligible := by simpa using heligible
  real := hreal
  effective := heffective
  base_pos := U64.ne_zero_iff.mp (not_or.mp hne).1
  quote_pos := U64.ne_zero_iff.mp (not_or.mp hne).2
  charged := ⟨bps, hbps, rfl⟩

/-- A hop that returns names the venue it priced. -/
theorem multi_hop_pool_hop_venue {is_buy : Bool} {amount_in out : UInt64}
    (h : multi_hop_pool_hop global_config fee_config pool base_reserve quote_vault_balance
      base_mint_supply is_buy amount_in legs = .ok out) :
    check_trading_enabled global_config is_buy = .ok () ∧
      ∃ real_quote quote_reserve rates, HopVenue global_config fee_config pool base_reserve
        quote_vault_balance base_mint_supply legs real_quote quote_reserve rates := by
  unfold multi_hop_pool_hop at h
  obtain ⟨⟨⟩, hopen, h⟩ := Outcome.bind_eq_ok_iff.mp h
  split at h
  · simp at h
  next heligible =>
  obtain ⟨real_quote, hreal, h⟩ := Outcome.bind_eq_ok_iff.mp h
  obtain ⟨quote_reserve, heffective, h⟩ := Outcome.bind_eq_ok_iff.mp h
  split at h
  · simp at h
  next hne =>
  obtain ⟨bps, hbps, -⟩ := Outcome.bind_eq_ok_iff.mp h
  exact ⟨hopen, real_quote, quote_reserve, hop_fee_bps pool legs bps,
    .of_reads heligible hreal heffective hne hbps⟩

variable {real_quote quote_reserve : UInt64} {rates : UInt64 × UInt64 × UInt64}

/-- A sell hop pays the swap less its charged fees, when anything is left and
    the vault covers everything but the LP fee. -/
theorem HopVenue.sell_eq {amount_in : UInt64} {gross : Nat}
    (venue : HopVenue global_config fee_config pool base_reserve quote_vault_balance base_mint_supply
      legs real_quote quote_reserve rates)
    (hopen : check_trading_enabled global_config false = .ok ())
    (hgross : gross = swapOut amount_in.toNat base_reserve.toNat quote_reserve.toNat) :
    multi_hop_pool_hop global_config fee_config pool base_reserve quote_vault_balance base_mint_supply
        false amount_in legs =
      if gross < (schedule rates).fee gross rates.1.toNat then Outcome.err .FeesExceedOutput
      else if real_quote.toNat < gross - (schedule rates).fee gross rates.1.toNat then
        Outcome.err .InsufficientRealQuoteReserves
      else if gross < (schedule rates).fees gross then Outcome.err .FeesExceedOutput
      else if gross - (schedule rates).fees gross = 0 then Outcome.err .ZeroAmount
      else .ok (U64.cast (gross - (schedule rates).fees gross)) := by
  obtain ⟨bps, hbps, rfl⟩ := venue.charged
  have hbase := venue.base_pos
  have hquote := venue.quote_pos
  have hbase_lt := U64.toNat_lt base_reserve
  have hin_lt := U64.toNat_lt amount_in
  have hquote_lt := U64.toNat_lt quote_reserve
  have hle := swapOut_le amount_in.toNat base_reserve.toNat quote_reserve.toNat
  have hgross_lt : gross < 2 ^ 64 := by omega
  have hswap : sell_quote base_reserve quote_reserve amount_in = .ok gross := by
    rw [sell_quote, U128.checked_add_of_lt (by omega), Outcome.ok_or_some, Outcome.ok_bind,
      mul_div_u128_eq (U128.mul_lt hin_lt hquote_lt) (by omega), hgross, swapOut]
  have hlp := fee_amount_of_lt hgross_lt (hop_fee_bps pool legs bps).1
  have hprotocol := fee_amount_of_lt hgross_lt (hop_fee_bps pool legs bps).2.1
  have hcreator := fee_amount_of_lt hgross_lt (hop_fee_bps pool legs bps).2.2
  have hlt := schedule_fees_lt hgross_lt (hop_fee_bps pool legs bps)
  have hfees := schedule_fees (hop_fee_bps pool legs bps) gross
  simp only [← schedule_fee (hop_fee_bps pool legs bps)] at hlp hprotocol hcreator
  unfold multi_hop_pool_hop
  rw [hopen, Outcome.ok_bind, if_neg (by simp [venue.eligible]), venue.real, Outcome.ok_bind,
    venue.effective, Outcome.ok_bind,
    if_neg (not_or.mpr ⟨U64.ne_zero_iff.mpr hbase, U64.ne_zero_iff.mpr hquote⟩), hbps, Outcome.ok_bind]
  dsimp only
  rw [if_neg Bool.false_ne_true, hswap, Outcome.ok_bind, hlp, Outcome.ok_bind, hprotocol,
    Outcome.ok_bind, hcreator, Outcome.ok_bind]
  by_cases hlp_fits : gross < (schedule (hop_fee_bps pool legs bps)).fee gross
    (hop_fee_bps pool legs bps).1.toNat
  · have hnone : U128.checked_sub gross ((schedule (hop_fee_bps pool legs bps)).fee gross
        (hop_fee_bps pool legs bps).1.toNat) = none := if_neg (not_le.mpr hlp_fits)
    rw [hnone, Outcome.ok_or_none, Outcome.err_bind, if_pos hlp_fits]
  have hsome : U128.checked_sub gross ((schedule (hop_fee_bps pool legs bps)).fee gross
    (hop_fee_bps pool legs bps).1.toNat) = some _ := if_pos (not_lt.mp hlp_fits)
  rw [hsome, Outcome.ok_or_some, Outcome.ok_bind, if_neg hlp_fits, U128.add_eq_ok (by omega),
    Outcome.ok_bind]
  split
  · rfl
  by_cases hexceed : gross < (schedule (hop_fee_bps pool legs bps)).fees gross
  · rw [U128.checked_sub, if_neg (by omega), Outcome.ok_or_none, Outcome.err_bind, if_pos hexceed]
  · rw [U128.checked_sub, if_pos (by omega), Outcome.ok_or_some, Outcome.ok_bind, Nat.sub_sub,
      ← Nat.add_assoc, ← hfees, if_neg hexceed]

/-- When a sell hop returns, and what. -/
theorem HopVenue.sell_ok_iff {amount_in out : UInt64} {gross : Nat}
    (venue : HopVenue global_config fee_config pool base_reserve quote_vault_balance base_mint_supply
      legs real_quote quote_reserve rates)
    (hopen : check_trading_enabled global_config false = .ok ())
    (hgross : gross = swapOut amount_in.toNat base_reserve.toNat quote_reserve.toNat) :
    multi_hop_pool_hop global_config fee_config pool base_reserve quote_vault_balance base_mint_supply
        false amount_in legs = .ok out ↔
      (schedule rates).fees gross < gross ∧
      gross - (schedule rates).fee gross rates.1.toNat ≤ real_quote.toNat ∧
      out = U64.cast (gross - (schedule rates).fees gross) := by
  have hsplit := schedule_fees rates gross
  rw [venue.sell_eq hopen hgross]
  constructor
  · intro h
    split at h
    · simp at h
    split at h
    · simp at h
    next hcovered =>
    split at h
    · simp at h
    split at h
    · simp at h
    exact ⟨by omega, not_lt.mp hcovered, (Except.ok.inj h).symm⟩
  · rintro ⟨hfees, hcovered, rfl⟩
    rw [if_neg (by omega), if_neg (not_lt.mpr hcovered), if_neg (by omega), if_neg (by omega)]

/-- A buy hop swaps the whole input less its fees. -/
theorem HopVenue.buy_eq {amount_in : UInt64}
    (venue : HopVenue global_config fee_config pool base_reserve quote_vault_balance base_mint_supply
      legs real_quote quote_reserve rates)
    (hopen : check_trading_enabled global_config true = .ok ()) :
    multi_hop_pool_hop global_config fee_config pool base_reserve quote_vault_balance base_mint_supply
        true amount_in legs =
      if (schedule rates).net amount_in.toNat = 0 ∨
          swapOut ((schedule rates).wholeNet amount_in.toNat - 1) quote_reserve.toNat
            base_reserve.toNat = 0 then Outcome.err .ZeroAmount
      else .ok (U64.cast (swapOut ((schedule rates).wholeNet amount_in.toNat - 1) quote_reserve.toNat
        base_reserve.toNat)) := by
  obtain ⟨bps, hbps, rfl⟩ := venue.charged
  have hbase := venue.base_pos
  have hquote := venue.quote_pos
  have hin_lt := U64.toNat_lt amount_in
  have hwhole_le := FeeSchedule.wholeNet_le (s := schedule (hop_fee_bps pool legs bps)) amount_in.toNat
  unfold multi_hop_pool_hop
  rw [hopen, Outcome.ok_bind, if_neg (by simp [venue.eligible]), venue.real, Outcome.ok_bind,
    venue.effective, Outcome.ok_bind,
    if_neg (not_or.mpr ⟨U64.ne_zero_iff.mpr hbase, U64.ne_zero_iff.mpr hquote⟩), hbps, Outcome.ok_bind]
  dsimp only
  rw [if_pos rfl]
  by_cases hzero : (schedule (hop_fee_bps pool legs bps)).net amount_in.toNat = 0
  · rw [exact_in_fee_amounts_zero hzero, Outcome.err_bind, if_pos (Or.inl hzero)]
  obtain ⟨net, fee₀, fee₁, fee₂, hsplit⟩ := exact_in_fee_amounts_exists (Nat.pos_of_ne_zero hzero)
  obtain ⟨hpos, -, hfee₀, hfee₁, hfee₂⟩ := exact_in_fee_amounts_ok hsplit
  have hcharge := FeeSchedule.charge_le hpos
  have hfees := schedule_fees (hop_fee_bps pool legs bps)
    ((schedule (hop_fee_bps pool legs bps)).floorNet amount_in.toNat)
  unfold FeeSchedule.charge at hcharge
  have hsum : ([fee₀, fee₁, fee₂].map UInt64.toNat).sum = (schedule (hop_fee_bps pool legs bps)).fees
      ((schedule (hop_fee_bps pool legs bps)).floorNet amount_in.toNat) := by
    simp only [List.map_cons, List.map_nil, List.sum_cons, List.sum_nil]
    omega
  have htotal := U64.toNat_cast_of_lt (n := ([fee₀, fee₁, fee₂].map UInt64.toNat).sum) (by omega)
  have hwhole : (amount_in - U64.cast ([fee₀, fee₁, fee₂].map UInt64.toNat).sum).toNat =
      (schedule (hop_fee_bps pool legs bps)).wholeNet amount_in.toNat := by
    rw [U64.toNat_sub_of_le (by omega), htotal, hsum]
    rfl
  rw [hsplit, Outcome.ok_bind]
  dsimp only
  rw [U64.sum_eq_ok (by omega), Outcome.ok_bind, U64.checked_sub_filter_pos, if_pos (by omega),
    Outcome.ok_or_some, Outcome.ok_bind, hwhole]
  have hpaid := FeeSchedule.net_le_wholeNet (s := schedule (hop_fee_bps pool legs bps)) amount_in.toNat
  rw [U128.sub_eq_ok (by omega) (by omega), Outcome.ok_bind,
    swap_exact_input_eq (by omega) (U64.toNat_lt _) (U64.toNat_lt _) hquote, Outcome.ok_bind]
  simp [hzero]

/-- A pool hop that returns gives something. -/
theorem multi_hop_pool_hop_pos {is_buy : Bool} {amount_in out : UInt64}
    (h : multi_hop_pool_hop global_config fee_config pool base_reserve quote_vault_balance
      base_mint_supply is_buy amount_in legs = .ok out) : 0 < out.toNat := by
  obtain ⟨hopen, real_quote, quote_reserve, rates, venue⟩ := multi_hop_pool_hop_venue h
  have hbase := U64.toNat_lt base_reserve
  have hquote := U64.toNat_lt quote_reserve
  cases is_buy with
  | false =>
    obtain ⟨hfees, -, rfl⟩ := (venue.sell_ok_iff hopen rfl).mp h
    have hgross := swapOut_le amount_in.toNat base_reserve.toNat quote_reserve.toNat
    rw [U64.toNat_cast_of_lt (by omega)]
    omega
  | true =>
    have hout := swapOut_le ((schedule rates).wholeNet amount_in.toNat - 1) quote_reserve.toNat
      base_reserve.toNat
    rw [venue.buy_eq hopen] at h
    split at h
    · simp at h
    · next hne =>
      cases h
      rw [U64.toNat_cast_of_lt (by omega)]
      exact Nat.pos_of_ne_zero (not_or.mp hne).2

end Hop

end pump_rust_client.math.amm
