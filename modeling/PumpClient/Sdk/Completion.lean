import PumpClient.Math.BondingCurve.Hop
import PumpClient.Sdk.Quotes

open machine exchange

namespace pump_rust_client.sdk

open state math math.utils math.fees math.bonding_curve

section

/-- A buy past the remaining supply, with none of the exits behind the price of
    that supply: `budget_left` goes to the pool, unless the coin is mayhem. -/
def crossingBuy (global : Global) (bonding_curve : BondingCurve) (base_ata_amount : UInt64)
    (bps : UInt64 × UInt64) (net curve_total budget_left : UInt64) :
    QuoteResult (UInt64 × UInt64) := do
  check_curve_open bonding_curve false
  if bonding_curve.is_mayhem_mode then .ok (bonding_curve.real_token_reserves, curve_total)
  else
    let pool ← pool_to_be global bonding_curve base_ata_amount
      (is_sol_like_quote_mint bonding_curve.quote_mint) bonding_curve.real_token_reserves net
    let base_out := (legQuoter pool bps).out budget_left.toNat
    .ok (U64.cast (bonding_curve.real_token_reserves.toNat + base_out),
      U64.cast (curve_total.toNat +
        if 0 < base_out then (legQuoter pool bps).charge budget_left.toNat else 0))

/-- A hop past the remaining supply, with none of those exits. All of
    `budget_left` but its fees goes to the pool. -/
def crossingHop (global : Global) (bonding_curve : BondingCurve) (base_ata_amount : UInt64)
    (user : Pubkey) (charges_creator : Bool) (bps : UInt64 × UInt64) (curve_net : UInt64)
    (budget_left : Nat) : QuoteResult UInt64 := do
  check_curve_open bonding_curve (!charges_creator)
  if bonding_curve.is_mayhem_mode then Outcome.err .VenueNotSupported
  else if user = global.whitelist_pda then Outcome.err .PostCompleteLegNotAllowed
  else
    let pool ← pool_to_be global bonding_curve base_ata_amount
      (is_sol_like_quote_mint bonding_curve.quote_mint) bonding_curve.real_token_reserves curve_net
    .ok (U64.cast (bonding_curve.real_token_reserves.toNat +
      swapOut (legQuoteIn bps budget_left true - 1) pool.2.toNat pool.1.toNat))

variable {global : Global} {fee_config : FeeConfig} {bonding_curve : BondingCurve}
  {mint_supply base_ata_amount : UInt64} {bps : UInt64 × UInt64}

/-- A crossing buy fails only on a curve that is not open, or with the pool it
    would open. -/
theorem crossingBuy_error {net curve_total budget_left : UInt64} {e : Fault QuoteError}
    (h : crossingBuy global bonding_curve base_ata_amount bps net curve_total budget_left =
      .error e) :
    check_curve_open bonding_curve false = .error e ∨
      bonding_curve.is_mayhem_mode = false ∧
        pool_to_be global bonding_curve base_ata_amount
          (is_sol_like_quote_mint bonding_curve.quote_mint) bonding_curve.real_token_reserves net =
          .error e := by
  rcases Outcome.bind_eq_error_iff.mp h with hopen | ⟨⟨⟩, -, h⟩
  · exact .inl hopen
  right
  split at h
  · cases h
  · next hmayhem =>
    rcases Outcome.bind_eq_error_iff.mp h with hpool | ⟨pool, -, h⟩
    · exact ⟨by simpa using hmayhem, hpool⟩
    · cases h

/-- A crossing hop fails only on a curve it is refused on, for the whitelisted
    user, or with the pool it would open. -/
theorem crossingHop_error {user : Pubkey} {charges_creator : Bool} {curve_net : UInt64}
    {budget_left : Nat} {e : Fault QuoteError}
    (h : crossingHop global bonding_curve base_ata_amount user charges_creator bps curve_net
      budget_left = .error e) :
    check_curve_open bonding_curve (!charges_creator) = .error e ∨
      (bonding_curve.is_mayhem_mode = true ∧ e = .error .VenueNotSupported) ∨
      (user = global.whitelist_pda ∧ e = .error .PostCompleteLegNotAllowed) ∨
      pool_to_be global bonding_curve base_ata_amount
        (is_sol_like_quote_mint bonding_curve.quote_mint) bonding_curve.real_token_reserves
        curve_net = .error e := by
  rcases Outcome.bind_eq_error_iff.mp h with hopen | ⟨⟨⟩, -, h⟩
  · exact .inl hopen
  right
  split at h
  · next hmayhem =>
    cases h
    exact .inl ⟨hmayhem, rfl⟩
  right
  split at h
  · next huser =>
    cases h
    exact .inl ⟨huser, rfl⟩
  rcases Outcome.bind_eq_error_iff.mp h with hpool | ⟨pool, -, h⟩
  · exact .inr hpool
  · cases h

/-- What a crossing hop takes past the remaining supply comes out of the pool it
    opened. -/
theorem crossingHop_ok {user : Pubkey} {charges_creator : Bool} {curve_net out : UInt64}
    {budget_left : Nat}
    (h : crossingHop global bonding_curve base_ata_amount user charges_creator bps curve_net
      budget_left = .ok out) :
    bonding_curve.real_token_reserves ≤ out ∧ out < base_ata_amount := by
  obtain ⟨⟨⟩, -, h⟩ := Outcome.bind_eq_ok_iff.mp h
  split at h
  · cases h
  split at h
  · cases h
  obtain ⟨pool, hpool, h⟩ := Outcome.bind_eq_ok_iff.mp h
  obtain ⟨hbase, -, -, hbase_pos, hquote_pos⟩ := pool_to_be_eq_ok_iff.mp hpool
  have hout := swapOut_lt (n := legQuoteIn bps budget_left true - 1) hquote_pos hbase_pos
  have hbase_lt := U64.toNat_lt base_ata_amount
  cases h
  rw [UInt64.le_iff_toNat_le, UInt64.lt_iff_toNat_lt, U64.toNat_cast_of_lt (by omega)]
  omega

variable [Build]

/-- The cost of the remaining supply leaves something of any budget that buys
    more than it. -/
theorem completing_price {sol_amount : UInt64}
    (hvq : 0 < bonding_curve.virtual_quote_reserves.toNat)
    (hr : 0 < bonding_curve.real_token_reserves.toNat)
    (hcross : bonding_curve.real_token_reserves.toNat <
      (quoter bonding_curve bps).out sol_amount.toNat) :
    ∃ net curve_total budget_left : UInt64,
      buy_quote bonding_curve bonding_curve.real_token_reserves = .ok net ∧
      with_fees net bps = .ok curve_total.toNat ∧
      curve_total.toNat =
        (quoter bonding_curve bps).cost bonding_curve.real_token_reserves.toNat ∧
      U64.checked_sub sol_amount curve_total = some budget_left ∧ 0 < budget_left := by
  obtain ⟨net, hnet, -, hwith_fees⟩ := buy_quote_of_lt_quoter_out hvq hr hcross
  obtain ⟨-, htotal⟩ := price_lt_of_lt_quoter_out hvq hcross
  have hcharge := FeeSchedule.charge_le (net_pos_of_quoter_out_pos (Nat.zero_lt_of_lt hcross))
  have hlt := U64.toNat_lt sol_amount
  have hcast := U64.toNat_cast_of_lt (htotal.trans_le (hcharge.trans hlt.le))
  refine ⟨net, U64.cast ((quoter bonding_curve bps).cost bonding_curve.real_token_reserves.toNat),
    U64.cast (sol_amount.toNat -
      (quoter bonding_curve bps).cost bonding_curve.real_token_reserves.toNat), hnet, ?_, hcast, ?_, ?_⟩
  · rw [hcast, hwith_fees]
  · rw [U64.checked_sub_eq_some_iff, hcast, U64.toNat_cast_of_lt (by omega)]
    omega
  · have hzero : (0 : UInt64).toNat = 0 := rfl
    rw [UInt64.lt_iff_toNat_lt, hzero, U64.toNat_cast_of_lt (by omega)]
    omega

/-- What a crossing buy comes to: the remaining supply at its cost and, unless
    the coin is mayhem, what the rest of the budget buys from the pool it opens. -/
theorem completing_buy_eq (base_ata_amount : UInt64) {sol_amount net curve_total budget_left : UInt64}
    (priced : Priced global fee_config bonding_curve mint_supply bps)
    (hcross : bonding_curve.real_token_reserves.toNat <
      (quoter bonding_curve bps).out sol_amount.toNat)
    (hnet : buy_quote bonding_curve bonding_curve.real_token_reserves = .ok net)
    (hwith_fees : with_fees net bps = .ok curve_total.toNat)
    (hleft : U64.checked_sub sol_amount curve_total = some budget_left) :
    buy_v3_token_amount_from_sol_amount global fee_config bonding_curve mint_supply base_ata_amount
        sol_amount =
      crossingBuy global bonding_curve base_ata_amount bps net curve_total budget_left := by
  obtain ⟨-, -, hprice⟩ := buy_quote_eq_ok_iff.mp hnet
  have hcost : (quoter bonding_curve bps).cost bonding_curve.real_token_reserves.toNat =
      curve_total.toNat := by
    rw [with_fees_eq, hprice] at hwith_fees
    exact Except.ok.inj hwith_fees
  have hbudget : sol_amount.toNat - curve_total.toNat = budget_left.toNat := by
    rw [U64.checked_sub_eq_some_iff] at hleft
    omega
  rcases hopen : check_curve_open bonding_curve false with e | ⟨⟨⟩⟩
  · rw [buy_v3_token_amount_from_sol_amount, crossingBuy, hopen]
    rfl
  · rw [buy_v3_token_amount_crossing hopen priced hcross hnet, crossingBuy, hopen, Outcome.ok_bind]
    simp only [Quoter.glue_out_of_lt hcross, Quoter.glue_charge_of_lt hcross, hcost, hbudget,
      U64.cast_toNat]

/-- A crossing buy takes at least the remaining supply at its cost, stays below
    the base ATA's balance with anything more, and is charged no more than its
    budget. -/
theorem completing_buy_bounds {sol_amount tokens charged : UInt64}
    (hr : 0 < bonding_curve.real_token_reserves.toNat)
    (priced : Priced global fee_config bonding_curve mint_supply bps)
    (hcross : bonding_curve.real_token_reserves.toNat <
      (quoter bonding_curve bps).out sol_amount.toNat)
    (h : buy_v3_token_amount_from_sol_amount global fee_config bonding_curve mint_supply
      base_ata_amount sol_amount = .ok (tokens, charged)) :
    bonding_curve.real_token_reserves ≤ tokens ∧
      (bonding_curve.real_token_reserves < tokens → tokens < base_ata_amount) ∧
      (quoter bonding_curve bps).cost bonding_curve.real_token_reserves.toNat ≤ charged.toNat ∧
      charged ≤ sol_amount := by
  obtain ⟨⟨⟩, hopen, -⟩ := Outcome.bind_eq_ok_iff.mp h
  obtain ⟨net, curve_total, budget_left, hnet, -, hcost, hleft, -⟩ :=
    completing_price (U64.pos_iff.mp priced.quote_pos) hr hcross
  rw [U64.checked_sub_eq_some_iff] at hleft
  by_cases hmayhem : bonding_curve.is_mayhem_mode = true
  · rw [buy_v3_token_amount_crossing hopen priced hcross hnet, if_pos hmayhem, ← hcost,
      U64.cast_toNat] at h
    cases h
    exact ⟨UInt64.le_refl _, fun hlt => absurd hlt (UInt64.lt_irrefl _), hcost.ge,
      UInt64.le_iff_toNat_le.mpr (by omega)⟩
  · obtain ⟨pool, -, hglued⟩ :=
      buy_v3_token_amount_past hopen (by simpa using hmayhem) priced hcross hnet h
    have htokens := hglued.tokens_eq
    have hcharged := hglued.charged_eq
    rw [Quoter.glue_out_of_lt hcross] at htokens
    rw [Quoter.glue_charge_of_lt hcross] at hcharged
    exact ⟨UInt64.le_iff_toNat_le.mpr (by omega),
      fun _ => UInt64.lt_iff_toNat_lt.mpr hglued.tokens_lt, by omega,
      UInt64.le_iff_toNat_le.mpr hglued.charged_le⟩

/-- v2 re-prices a partial fill without fault, within its budget. -/
theorem completing_buy_repriced {sol_amount : UInt64} (slippage_bps : UInt16)
    (hr : 0 < bonding_curve.real_token_reserves.toNat)
    (priced : Priced global fee_config bonding_curve mint_supply bps)
    (hcross : bonding_curve.real_token_reserves.toNat <
      (quoter bonding_curve bps).out sol_amount.toNat) :
    ∃ quote, PumpSdk.buy_quote_bonding_curve_sol_in global fee_config bonding_curve mint_supply
        sol_amount slippage_bps = .ok quote ∧
      quote.amount = bonding_curve.real_token_reserves ∧
      quote.input_amount_used.toNat =
        (quoter bonding_curve bps).cost bonding_curve.real_token_reserves.toNat ∧
      quote.input_amount_used ≤ sol_amount := by
  have hvq_nat : 0 < bonding_curve.virtual_quote_reserves.toNat := U64.pos_iff.mp priced.quote_pos
  obtain ⟨hprice, htotal⟩ := price_lt_of_lt_quoter_out hvq_nat hcross
  have hnet := FeeSchedule.net_le (s := curveSchedule bps) sol_amount.toNat
  have hcharge := FeeSchedule.charge_le (net_pos_of_quoter_out_pos (Nat.zero_lt_of_lt hcross))
  have hsol_lt := U64.toNat_lt sol_amount
  have htokens := lt_of_swapOut_pos hvq_nat (Nat.zero_lt_of_lt hcross) hcross.le
  have hbought : buy_token_amount_from_sol_amount global fee_config bonding_curve mint_supply
      sol_amount = .ok bonding_curve.real_token_reserves := by
    rw [buy_token_amount_eq priced, cappedQuoter, Quoter.glue_closed_out,
      min_eq_right hcross.le, U64.cast_toNat]
  have hcost := buy_sol_amount_eq priced.rates (U64.ne_zero_iff.mpr hr) (by rwa [min_self])
    (by rw [min_self]; omega)
  rw [cappedQuoter, Quoter.glue_cost_of_le le_rfl] at hcost
  have hcast := U64.toNat_cast_of_lt (htotal.trans_le (hcharge.trans hsol_lt.le))
  have hquote := PumpSdk.buy_quote_bonding_curve_sol_in.eq_1 global fee_config bonding_curve
    mint_supply sol_amount slippage_bps
  rw [hbought, Outcome.ok_bind, if_pos ⟨U64.pos_iff.mpr hr, UInt64.le_refl _⟩, hcost,
    Outcome.ok_bind] at hquote
  refine ⟨_, hquote, rfl, hcast, UInt64.le_iff_toNat_le.mpr ?_⟩
  rw [hcast]
  omega

/-- A leg's split never nets nothing, and no operator of it panics. -/
theorem post_complete_leg_exact_quote_no_fault (pool bps : UInt64 × UInt64) (budget : UInt64)
    (whole_budget : Bool) :
    post_complete_leg_exact_quote pool bps budget whole_budget ≠ Outcome.panic ∧
      post_complete_leg_exact_quote pool bps budget whole_budget ≠ Outcome.err .ZeroAmount := by
  rw [post_complete_leg_exact_quote_swap]
  by_cases hsmall : (curveSchedule bps).floorNet budget.toNat < 2
  · rw [if_pos hsmall]
    exact ⟨nofun, nofun⟩
  rw [if_neg hsmall]
  rcases hswap : swap_exact_input (legQuoteIn bps budget.toNat whole_budget - 1) pool.2.toNat
    pool.1.toNat with e | base_out
  · rw [swap_exact_input_error hswap]
    exact ⟨nofun, nofun⟩
  · rw [Outcome.ok_bind]
    split
    · exact ⟨nofun, nofun⟩
    · exact ⟨nofun, nofun⟩

/-- At charged rates of at most the whole, a buy hop that crosses the end of
    the curve has something left of its input after the remaining supply. -/
theorem completing_hop_price {amount_in net fee creator_fee fee₂ : UInt64} {tokens : Nat}
    (hvq : 0 < bonding_curve.virtual_quote_reserves.toNat)
    (hr : 0 < bonding_curve.real_token_reserves.toNat)
    (hrates : bps.1.toNat + bps.2.toNat ≤ 10_000)
    (hsplit : exact_in_fee_amounts amount_in (bps.1, bps.2, 0) = .ok (net, fee, creator_fee, fee₂))
    (htokens : swap_exact_input (amount_in.toNat - (fee.toNat + creator_fee.toNat) - 1)
      bonding_curve.virtual_quote_reserves.toNat bonding_curve.virtual_token_reserves.toNat =
      .ok tokens)
    (hcross : bonding_curve.real_token_reserves.toNat < tokens) :
    ∃ curve_net total, buy_quote bonding_curve bonding_curve.real_token_reserves = .ok curve_net ∧
      with_fees curve_net bps = .ok total ∧ total < amount_in.toNat := by
  obtain ⟨hpos, -, hfees, hle⟩ := exact_in_fee_amounts_curve_ok hsplit
  have hin := U64.toNat_lt amount_in
  have hwhole : amount_in.toNat - (fee.toNat + creator_fee.toNat) =
      (curveSchedule bps).wholeNet amount_in.toNat := by rw [hfees]; rfl
  have hwhole_le := FeeSchedule.wholeNet_le (s := curveSchedule bps) amount_in.toNat
  rw [hwhole, swap_whole_net_eq _ _ _ hvq] at htokens
  cases htokens
  have hprice := floorSwap_cost_lt hvq hcross
  have htotal : (curveSchedule bps).total ≤ (curveSchedule bps).scale := by
    rw [curveSchedule_total]
    exact hrates
  have hcast := U64.toNat_cast_of_lt (hprice.trans_le (hwhole_le.trans hin.le))
  have htokens_lt := lt_of_swapOut_pos hvq (Nat.zero_lt_of_lt hcross) hcross.le
  refine ⟨_, _, buy_quote_eq_ok_iff.mpr ⟨hr, htokens_lt, hcast⟩, with_fees_eq _ _, ?_⟩
  rw [hcast]
  exact FeeSchedule.gross_lt_of_lt_wholeNet htotal hprice

/-- What a crossing hop comes to, on a curve that takes it: the remaining supply
    and what the rest of its input, put in whole, takes from the pool it opens. -/
theorem completing_hop_eq (base_ata_amount : UInt64) (user : Pubkey) {flags : UInt8}
    {rates : UInt64 × UInt64}
    {amount_in net fee creator_fee fee₂ curve_net : UInt64} {tokens total : Nat}
    (hrates : curve_fee_bps global fee_config bonding_curve mint_supply = .ok rates)
    (hsplit : exact_in_fee_amounts amount_in
      ((hop_fee_bps flags rates).1, (hop_fee_bps flags rates).2, 0) = .ok (net, fee, creator_fee, fee₂))
    (htokens : swap_exact_input (amount_in.toNat - (fee.toNat + creator_fee.toNat) - 1)
      bonding_curve.virtual_quote_reserves.toNat bonding_curve.virtual_token_reserves.toNat =
      .ok tokens)
    (hcross : bonding_curve.real_token_reserves.toNat < tokens)
    (hcurve : buy_quote bonding_curve bonding_curve.real_token_reserves = .ok curve_net)
    (htotal : with_fees curve_net (hop_fee_bps flags rates) = .ok total)
    (hlt : total < amount_in.toNat) :
    multi_hop_curve_hop global fee_config bonding_curve mint_supply base_ata_amount user true
        amount_in flags =
      crossingHop global bonding_curve base_ata_amount user (flags &&& HOP_FEE_CREATOR != 0)
        (hop_fee_bps flags rates) curve_net (amount_in.toNat - total) := by
  obtain ⟨hpos, -, hfees, -⟩ := exact_in_fee_amounts_curve_ok hsplit
  have hwhole : amount_in.toNat - (fee.toNat + creator_fee.toNat) =
      (curveSchedule (hop_fee_bps flags rates)).wholeNet amount_in.toNat := by rw [hfees]; rfl
  rw [hwhole] at htokens
  rcases hopen : check_curve_open bonding_curve (!(flags &&& HOP_FEE_CREATOR != 0)) with e | ⟨⟨⟩⟩
  · unfold multi_hop_curve_hop crossingHop
    dsimp only
    rw [hopen]
    rfl
  rw [crossingHop, hopen, Outcome.ok_bind]
  by_cases hmayhem : bonding_curve.is_mayhem_mode = true
  · unfold multi_hop_curve_hop
    dsimp only
    rw [hopen, Outcome.ok_bind, if_pos hmayhem, if_pos hmayhem]
  · have venue : CurveVenue global fee_config bonding_curve mint_supply flags rates :=
      ⟨hopen, by simpa using hmayhem, hrates⟩
    rw [if_neg hmayhem]
    exact venue.buy_crossing hpos htokens hcross hcurve htotal hlt

/-- A buy that crosses the end of the curve never fails or misprices because of
    its own arithmetic. The remaining supply costs strictly less than the
    budget in v3, in v2's re-pricing and in a hop, so that v3 and the hop are the
    crossing buy and hop, failing only where the trade is refused or the pool
    cannot open; and the leg itself has no failing split. -/
theorem completing_buy_never_fails (global : Global) (fee_config : FeeConfig)
    (bonding_curve : BondingCurve) (mint_supply base_ata_amount : UInt64)
    (hvt : 0 < bonding_curve.virtual_token_reserves)
    (hvq : 0 < bonding_curve.virtual_quote_reserves)
    (hr : 0 < bonding_curve.real_token_reserves) :
    (∀ sol_amount tokens,
      buy_tokens_exact_in global fee_config bonding_curve mint_supply sol_amount = .ok tokens →
      bonding_curve.real_token_reserves.toNat < tokens →
      ∃ bps, ∃ net curve_total budget_left : UInt64,
        curve_fee_bps global fee_config bonding_curve mint_supply = .ok bps ∧
        buy_quote bonding_curve bonding_curve.real_token_reserves = .ok net ∧
        with_fees net bps = .ok curve_total.toNat ∧
        U64.checked_sub sol_amount curve_total = some budget_left ∧ 0 < budget_left ∧
        buy_v3_token_amount_from_sol_amount global fee_config bonding_curve mint_supply
            base_ata_amount sol_amount =
          crossingBuy global bonding_curve base_ata_amount bps net curve_total budget_left ∧
        (∀ e, buy_v3_token_amount_from_sol_amount global fee_config bonding_curve mint_supply
            base_ata_amount sol_amount = .error e →
          check_curve_open bonding_curve false = .error e ∨
            bonding_curve.is_mayhem_mode = false ∧
              pool_to_be global bonding_curve base_ata_amount
                (is_sol_like_quote_mint bonding_curve.quote_mint)
                bonding_curve.real_token_reserves net = .error e) ∧
        (∀ bought charged, buy_v3_token_amount_from_sol_amount global fee_config bonding_curve
            mint_supply base_ata_amount sol_amount = .ok (bought, charged) →
          bonding_curve.real_token_reserves ≤ bought ∧
            (bonding_curve.real_token_reserves < bought → bought < base_ata_amount) ∧
            curve_total ≤ charged ∧ charged ≤ sol_amount) ∧
        ∀ slippage_bps, ∃ quote, PumpSdk.buy_quote_bonding_curve_sol_in global fee_config
            bonding_curve mint_supply sol_amount slippage_bps = .ok quote ∧
          quote.amount = bonding_curve.real_token_reserves ∧
          quote.input_amount_used = curve_total ∧ quote.input_amount_used ≤ sol_amount) ∧
    (∀ pool bps budget whole_budget,
      post_complete_leg_exact_quote pool bps budget whole_budget ≠ Outcome.panic ∧
        post_complete_leg_exact_quote pool bps budget whole_budget ≠ Outcome.err .ZeroAmount) ∧
    ∀ user flags rates amount_in net fee creator_fee fee₂ tokens,
      curve_fee_bps global fee_config bonding_curve mint_supply = .ok rates →
      (hop_fee_bps flags rates).1.toNat + (hop_fee_bps flags rates).2.toNat ≤ 10_000 →
      exact_in_fee_amounts amount_in ((hop_fee_bps flags rates).1, (hop_fee_bps flags rates).2, 0) =
        .ok (net, fee, creator_fee, fee₂) →
      swap_exact_input (amount_in.toNat - (fee.toNat + creator_fee.toNat) - 1)
        bonding_curve.virtual_quote_reserves.toNat bonding_curve.virtual_token_reserves.toNat =
        .ok tokens →
      bonding_curve.real_token_reserves.toNat < tokens →
      ∃ curve_net total, buy_quote bonding_curve bonding_curve.real_token_reserves = .ok curve_net ∧
        with_fees curve_net (hop_fee_bps flags rates) = .ok total ∧ total < amount_in.toNat ∧
        multi_hop_curve_hop global fee_config bonding_curve mint_supply base_ata_amount user true
            amount_in flags =
          crossingHop global bonding_curve base_ata_amount user (flags &&& HOP_FEE_CREATOR != 0)
            (hop_fee_bps flags rates) curve_net (amount_in.toNat - total) ∧
        (∀ e, multi_hop_curve_hop global fee_config bonding_curve mint_supply base_ata_amount user
            true amount_in flags = .error e →
          check_curve_open bonding_curve (!(flags &&& HOP_FEE_CREATOR != 0)) = .error e ∨
          (bonding_curve.is_mayhem_mode = true ∧ e = .error .VenueNotSupported) ∨
          (user = global.whitelist_pda ∧ e = .error .PostCompleteLegNotAllowed) ∨
          pool_to_be global bonding_curve base_ata_amount
            (is_sol_like_quote_mint bonding_curve.quote_mint) bonding_curve.real_token_reserves
            curve_net = .error e) ∧
        ∀ out, multi_hop_curve_hop global fee_config bonding_curve mint_supply base_ata_amount user
            true amount_in flags = .ok out →
          bonding_curve.real_token_reserves ≤ out ∧ out < base_ata_amount := by
  have hvq_nat : 0 < bonding_curve.virtual_quote_reserves.toNat := U64.pos_iff.mp hvq
  have hr_nat : 0 < bonding_curve.real_token_reserves.toNat := U64.pos_iff.mp hr
  refine ⟨?_, post_complete_leg_exact_quote_no_fault, ?_⟩
  · intro sol_amount tokens htokens hcross
    obtain ⟨bps, hbps, -, -⟩ := buy_tokens_exact_in_pos htokens (Nat.zero_lt_of_lt hcross)
    have priced : Priced global fee_config bonding_curve mint_supply bps := ⟨hbps, hvt, hvq⟩
    rw [buy_tokens_exact_in_eq priced, ← quoter_out] at htokens
    cases htokens
    obtain ⟨net, curve_total, budget_left, hnet, hwith_fees, hcost, hleft, hpos⟩ :=
      completing_price hvq_nat hr_nat hcross
    have hbuy := completing_buy_eq base_ata_amount priced hcross hnet hwith_fees hleft
    refine ⟨bps, net, curve_total, budget_left, hbps, hnet, hwith_fees, hleft, hpos, hbuy,
      fun _ he => crossingBuy_error (hbuy ▸ he), fun bought charged hok => ?_, fun slippage_bps => ?_⟩
    · obtain ⟨hsupply, hata, hcharged, hbudget⟩ := completing_buy_bounds hr_nat priced hcross hok
      exact ⟨hsupply, hata, UInt64.le_iff_toNat_le.mpr (hcost.trans_le hcharged), hbudget⟩
    · obtain ⟨quote, hquote, hamount, hused, hbudget⟩ :=
        completing_buy_repriced slippage_bps hr_nat priced hcross
      exact ⟨quote, hquote, hamount, UInt64.toNat_inj.mp (hused.trans hcost.symm), hbudget⟩
  · intro user flags rates amount_in net fee creator_fee fee₂ tokens hrates htotal hsplit htokens hcross
    obtain ⟨curve_net, total, hcurve, hwith_fees, hlt⟩ :=
      completing_hop_price hvq_nat hr_nat htotal hsplit htokens hcross
    have hhop := completing_hop_eq base_ata_amount user hrates hsplit htokens hcross hcurve hwith_fees
      hlt
    exact ⟨curve_net, total, hcurve, hwith_fees, hlt, hhop, fun _ he => crossingHop_error (hhop ▸ he),
      fun _ hok => crossingHop_ok (hhop ▸ hok)⟩

end

/-- 100 of quote completes the launch curve and goes on to the pool, in v3 and in
    a hop; v2 stops at the remaining supply. -/
theorem completing_buy_never_fails_launch :
    letI : Build := ⟨true⟩
    buy_v3_token_amount_from_sol_amount Global.default launchFees launchCurve 0
        1_000_000_000_000_000 100_000_000_000 = .ok (821_485_770_786_056, 100_000_000_000) ∧
      (∃ quote, PumpSdk.buy_quote_bonding_curve_sol_in Global.default launchFees launchCurve 0
          100_000_000_000 0 = .ok quote ∧
        quote.amount = 793_100_000_000_000 ∧ quote.input_amount_used = 86_280_439_444) ∧
      multi_hop_curve_hop Global.default launchFees launchCurve 0 1_000_000_000_000_000 ⟨1⟩ true
        100_000_000_000 3 = .ok 821_485_770_786_056 := by
  let _ : Build := ⟨true⟩
  obtain ⟨hbuy, -, hhop⟩ := completing_buy_never_fails Global.default launchFees launchCurve 0
    1_000_000_000_000_000 (by decide) (by decide) (by decide)
  have hrates : curve_fee_bps Global.default launchFees launchCurve 0 = .ok (100, 50) := by
    decide +kernel
  have hprice : buy_quote launchCurve launchCurve.real_token_reserves = .ok 85_005_359_057 := by
    decide +kernel
  have htotal : (with_fees 85_005_359_057 (100, 50) : QuoteResult Nat) = .ok 86_280_439_444 := by
    decide +kernel
  obtain ⟨bps, net, curve_total, budget_left, hbps, hnet, hwith_fees, hleft, -, hbought, -, -,
    hrepriced⟩ := hbuy 100_000_000_000 822_537_370_636_808 (by decide +kernel) (by decide)
  obtain rfl : (100, 50) = bps := Except.ok.inj (hrates.symm.trans hbps)
  obtain rfl : 85_005_359_057 = net := Except.ok.inj (hprice.symm.trans hnet)
  obtain rfl : 86_280_439_444 = curve_total :=
    UInt64.toNat_inj.mp (Except.ok.inj (htotal.symm.trans hwith_fees))
  have hbudget : U64.checked_sub 100_000_000_000 86_280_439_444 = some 13_719_560_556 := by
    decide +kernel
  obtain rfl : 13_719_560_556 = budget_left := Option.some.inj (hbudget.symm.trans hleft)
  obtain ⟨quote, hquote, hamount, hused, -⟩ := hrepriced 0
  obtain ⟨curve_net, total, hcurve, hwith_fees', -, hhopped, -⟩ := hhop ⟨1⟩ 3 (100, 50) 100_000_000_000
    98_522_167_487 985_221_675 492_610_838 0 822_537_370_636_808 hrates (by decide) (by decide +kernel)
    (by decide +kernel) (by decide +kernel)
  obtain rfl : 85_005_359_057 = curve_net := Except.ok.inj (hprice.symm.trans hcurve)
  obtain rfl : 86_280_439_444 = total := Except.ok.inj (htotal.symm.trans hwith_fees')
  exact ⟨hbought.trans (by decide +kernel), ⟨quote, hquote, hamount, hused⟩,
    hhopped.trans (by decide +kernel)⟩

end pump_rust_client.sdk
