import PumpClient.Math.BondingCurve.Kernels

open machine exchange

namespace pump_rust_client.math.bonding_curve

open state utils fees

/-- Trades inside the curve: fees on top of a price of `⌊·⌋ + 1`. -/
def quoter (bonding_curve : BondingCurve) (bps : UInt64 × UInt64) : Quoter ℕ ℕ :=
  (curveSchedule bps).quoter.comp
    (floorSwap bonding_curve.virtual_quote_reserves.toNat bonding_curve.virtual_token_reserves.toNat)
    floorSwap_pos

/-- Trades on the pool-to-be: fees on top of a rounded-up price. -/
def legQuoter (pool bps : UInt64 × UInt64) : Quoter ℕ ℕ :=
  (curveSchedule bps).quoter.comp (ceilSwap pool.2.toNat pool.1.toNat) ceilSwap_pos

/-- The pool a buy of the remaining supply opens, if it opens one. -/
def openedPool (global : Global) (bonding_curve : BondingCurve) (base_ata_amount : UInt64) :
    Option (UInt64 × UInt64) :=
  if bonding_curve.is_mayhem_mode ∨ bonding_curve.real_token_reserves = 0 then none
  else (pool_to_be global bonding_curve base_ata_amount
    (is_sol_like_quote_mint bonding_curve.quote_mint) bonding_curve.real_token_reserves
    (U64.cast (swapInFloor bonding_curve.real_token_reserves.toNat
      bonding_curve.virtual_quote_reserves.toNat bonding_curve.virtual_token_reserves.toNat + 1))).toOption

/-- A curve whose trades end at the remaining supply, as v2 quotes them. -/
def cappedQuoter (bonding_curve : BondingCurve) (bps : UInt64 × UInt64) : Quoter ℕ ℕ :=
  (quoter bonding_curve bps).glue bonding_curve.real_token_reserves.toNat Quoter.closed

/-- A curve whose trades continue on the pool they open, as v3 quotes them. -/
def completingQuoter (global : Global) (bonding_curve : BondingCurve) (base_ata_amount : UInt64)
    (bps : UInt64 × UInt64) : Quoter ℕ ℕ :=
  (quoter bonding_curve bps).glue bonding_curve.real_token_reserves.toNat
    ((openedPool global bonding_curve base_ata_amount).elim Quoter.closed (legQuoter · bps))

section Prices

variable {bonding_curve : BondingCurve} {bps : UInt64 × UInt64}

theorem quoter_out (amount : Nat) : (quoter bonding_curve bps).out amount =
    swapOut ((curveSchedule bps).net amount - 1) bonding_curve.virtual_quote_reserves.toNat
      bonding_curve.virtual_token_reserves.toNat := rfl

theorem quoter_cost (t : Nat) : (quoter bonding_curve bps).cost t =
    (curveSchedule bps).gross (swapInFloor t bonding_curve.virtual_quote_reserves.toNat
      bonding_curve.virtual_token_reserves.toNat + 1) := rfl

theorem quoter_charge (amount : Nat) :
    (quoter bonding_curve bps).charge amount = (curveSchedule bps).charge amount := rfl

theorem legQuoter_out (pool : UInt64 × UInt64) (budget : Nat) : (legQuoter pool bps).out budget =
    swapOut ((curveSchedule bps).net budget - 1) pool.2.toNat pool.1.toNat := rfl

theorem legQuoter_charge (pool : UInt64 × UInt64) (budget : Nat) :
    (legQuoter pool bps).charge budget = (curveSchedule bps).charge budget := rfl

theorem net_pos_of_quoter_out_pos {amount : Nat} (h : 0 < (quoter bonding_curve bps).out amount) :
    0 < (curveSchedule bps).net amount := floorSwap_pos h

/-- A supply a budget buys more than all of is priced below the budget's net,
    and with its fees below the budget's charge. -/
theorem price_lt_of_lt_quoter_out {amount r : Nat}
    (hvq : 0 < bonding_curve.virtual_quote_reserves.toNat)
    (h : r < (quoter bonding_curve bps).out amount) :
    swapInFloor r bonding_curve.virtual_quote_reserves.toNat
        bonding_curve.virtual_token_reserves.toNat + 1 < (curveSchedule bps).net amount ∧
      (quoter bonding_curve bps).cost r < (curveSchedule bps).charge amount := by
  have hprice := floorSwap_cost_lt hvq h
  exact ⟨hprice, FeeSchedule.gross_lt_charge hprice⟩

/-- A leg never empties the pool it trades on, so that the tokens stay below
    the base ATA's balance. -/
theorem leg_out_lt (bps : UInt64 × UInt64) {global : Global} {base_ata_amount net : UInt64}
    {is_legacy : Bool} {pool : UInt64 × UInt64}
    (hpool : pool_to_be global bonding_curve base_ata_amount is_legacy
      bonding_curve.real_token_reserves net = .ok pool) (budget : Nat) :
    bonding_curve.real_token_reserves.toNat + (legQuoter pool bps).out budget <
      base_ata_amount.toNat := by
  obtain ⟨hbase, -, -, hbase_pos, hquote_pos⟩ := pool_to_be_eq_ok_iff.mp hpool
  have hlt := swapOut_lt (n := (curveSchedule bps).net budget - 1) hquote_pos hbase_pos
  rw [← legQuoter_out] at hlt
  omega

/-- A mayhem curve ends its trades at the remaining supply. -/
theorem completingQuoter_of_mayhem {global : Global} {base_ata_amount : UInt64}
    (hmayhem : bonding_curve.is_mayhem_mode = true) :
    completingQuoter global bonding_curve base_ata_amount bps = cappedQuoter bonding_curve bps := by
  rw [completingQuoter, openedPool, if_pos (Or.inl hmayhem), Option.elim_none, cappedQuoter]

end Prices

section Code

variable [Build] {global : Global} {fee_config : FeeConfig} {bonding_curve : BondingCurve}
  {mint_supply base_ata_amount : UInt64} {bps : UInt64 × UInt64}

/-- A supply that a budget buys more than all of is priced without fault. -/
theorem buy_quote_of_lt_quoter_out {amount t : UInt64}
    (hvq : 0 < bonding_curve.virtual_quote_reserves.toNat) (ht : 0 < t.toNat)
    (h : t.toNat < (quoter bonding_curve bps).out amount.toNat) :
    ∃ net, buy_quote bonding_curve t = .ok net ∧
      net.toNat = swapInFloor t.toNat bonding_curve.virtual_quote_reserves.toNat
        bonding_curve.virtual_token_reserves.toNat + 1 ∧
      with_fees net bps = .ok ((quoter bonding_curve bps).cost t.toNat) := by
  obtain ⟨hprice, -⟩ := price_lt_of_lt_quoter_out hvq h
  have hnet := FeeSchedule.net_le (s := curveSchedule bps) amount.toNat
  have hlt := U64.toNat_lt amount
  have hcast := U64.toNat_cast_of_lt (lt_of_lt_of_le hprice (hnet.trans hlt.le))
  have htokens := lt_of_swapOut_pos hvq (Nat.zero_lt_of_lt h) h.le
  refine ⟨_, buy_quote_eq_ok_iff.mpr ⟨ht, htokens, hcast⟩, hcast, ?_⟩
  rw [with_fees_eq, hcast, quoter_cost]

theorem openedPool_of_buy_quote (global : Global) (base_ata_amount : UInt64) {net : UInt64}
    (hmayhem : bonding_curve.is_mayhem_mode = false)
    (hnet : buy_quote bonding_curve bonding_curve.real_token_reserves = .ok net) :
    openedPool global bonding_curve base_ata_amount =
      (pool_to_be global bonding_curve base_ata_amount
        (is_sol_like_quote_mint bonding_curve.quote_mint) bonding_curve.real_token_reserves
        net).toOption := by
  obtain ⟨hpos, -, hprice⟩ := buy_quote_eq_ok_iff.mp hnet
  have hne : bonding_curve.real_token_reserves ≠ 0 :=
    U64.ne_zero_iff.mpr hpos
  rw [openedPool, if_neg (by simp [hmayhem, hne]), ← hprice, U64.cast_toNat]

/-- A leg of a net budget buys and charges what the pool's quoter says. -/
theorem post_complete_leg_exact_quote_net (pool bps : UInt64 × UInt64) (budget : UInt64)
    (hpool : 0 < pool.2.toNat) :
    post_complete_leg_exact_quote pool bps budget false =
      if (legQuoter pool bps).out budget.toNat = 0 then .ok none
      else .ok (some (U64.cast ((legQuoter pool bps).out budget.toNat),
        U64.cast ((legQuoter pool bps).charge budget.toNat))) := by
  rw [post_complete_leg_exact_quote_eq pool bps budget false hpool, legQuoter_out]
  by_cases hsmall : (curveSchedule bps).floorNet budget.toNat < 2
  · have hnet := FeeSchedule.net_le_floorNet (s := curveSchedule bps) budget.toNat
    have hpaid : (curveSchedule bps).net budget.toNat - 1 = 0 := by omega
    rw [legQuoteIn, if_pos hsmall, hpaid, swapOut_zero, if_pos rfl, if_pos rfl]
  · rw [legQuoteIn, if_neg hsmall, if_neg Bool.false_ne_true, legQuoter_charge,
      FeeSchedule.charge]

theorem completingQuoter_of_pool {net : UInt64} {pool : UInt64 × UInt64}
    (hmayhem : bonding_curve.is_mayhem_mode = false)
    (hnet : buy_quote bonding_curve bonding_curve.real_token_reserves = .ok net)
    (hpool : pool_to_be global bonding_curve base_ata_amount
      (is_sol_like_quote_mint bonding_curve.quote_mint) bonding_curve.real_token_reserves net =
      .ok pool) :
    completingQuoter global bonding_curve base_ata_amount bps =
      (quoter bonding_curve bps).glue bonding_curve.real_token_reserves.toNat
        (legQuoter pool bps) := by
  rw [completingQuoter, openedPool_of_buy_quote global base_ata_amount hmayhem hnet, hpool]
  rfl

/-- A budget that buys tokens inside the curve is charged its net and fees. -/
theorem buy_v3_token_amount_inside
    (hopen : check_curve_open bonding_curve false = .ok ())
    (priced : Priced global fee_config bonding_curve mint_supply bps) {sol_amount : UInt64}
    (hpos : 0 < (quoter bonding_curve bps).out sol_amount.toNat)
    (h : (quoter bonding_curve bps).out sol_amount.toNat ≤ bonding_curve.real_token_reserves.toNat) :
    buy_v3_token_amount_from_sol_amount global fee_config bonding_curve mint_supply base_ata_amount
        sol_amount =
      .ok (U64.cast ((quoter bonding_curve bps).out sol_amount.toNat),
        U64.cast ((quoter bonding_curve bps).charge sol_amount.toNat)) := by
  have hlt := U64.toNat_lt sol_amount
  have hnet_pos := net_pos_of_quoter_out_pos hpos
  obtain ⟨net, fee, creator_fee, fee₂, hsplit⟩ :=
    exact_in_fee_amounts_curve_exists bps hnet_pos
  obtain ⟨-, hnet, hfees, hle⟩ := exact_in_fee_amounts_curve_ok hsplit
  have hsum : (net + fee).toNat = net.toNat + fee.toNat := U64.toNat_add_of_lt (by omega)
  have hcharge : net + fee + creator_fee = U64.cast ((quoter bonding_curve bps).charge sol_amount.toNat) := by
    refine UInt64.toNat_inj.mp ?_
    rw [U64.toNat_add_of_lt (by omega), hsum, quoter_charge, FeeSchedule.charge, ← hnet, ← hfees,
      U64.toNat_cast_of_lt (by omega), Nat.add_assoc]
  rw [buy_v3_token_amount_from_sol_amount, hopen, Outcome.ok_bind, buy_tokens_exact_in_eq priced,
    Outcome.ok_bind, ← quoter_out, if_neg hpos.ne', priced.rates, Outcome.ok_bind, if_pos h, hsplit,
    Outcome.ok_bind]
  dsimp only
  rw [U64.add_eq_ok (by omega), Outcome.ok_bind, U64.add_eq_ok (by omega), Outcome.ok_bind, hcharge]

/-- A budget that buys past the remaining supply pays for it and takes the
    rest to the pool it opens. Nothing after the price of the remaining supply
    can fail but the opening itself. -/
theorem buy_v3_token_amount_crossing
    (hopen : check_curve_open bonding_curve false = .ok ())
    (priced : Priced global fee_config bonding_curve mint_supply bps) {sol_amount net : UInt64}
    (h : bonding_curve.real_token_reserves.toNat < (quoter bonding_curve bps).out sol_amount.toNat)
    (hnet : buy_quote bonding_curve bonding_curve.real_token_reserves = .ok net) :
    buy_v3_token_amount_from_sol_amount global fee_config bonding_curve mint_supply base_ata_amount
        sol_amount =
      if bonding_curve.is_mayhem_mode then
        .ok (bonding_curve.real_token_reserves,
          U64.cast ((quoter bonding_curve bps).cost bonding_curve.real_token_reserves.toNat))
      else (do
        let pool ← pool_to_be global bonding_curve base_ata_amount
          (is_sol_like_quote_mint bonding_curve.quote_mint) bonding_curve.real_token_reserves net
        .ok (U64.cast (((quoter bonding_curve bps).glue bonding_curve.real_token_reserves.toNat
            (legQuoter pool bps)).out sol_amount.toNat),
          U64.cast (((quoter bonding_curve bps).glue bonding_curve.real_token_reserves.toNat
            (legQuoter pool bps)).charge sol_amount.toNat))) := by
  obtain ⟨-, htotal⟩ := price_lt_of_lt_quoter_out (U64.pos_iff.mp priced.quote_pos) h
  have hcharge := FeeSchedule.charge_le (net_pos_of_quoter_out_pos (Nat.zero_lt_of_lt h))
  have hlt := U64.toNat_lt sol_amount
  obtain ⟨hpos, -, hprice⟩ := buy_quote_eq_ok_iff.mp hnet
  have hwith_fees : with_fees net bps =
      .ok ((quoter bonding_curve bps).cost bonding_curve.real_token_reserves.toNat) := by
    rw [with_fees_eq, hprice, quoter_cost]
  generalize hcost : (quoter bonding_curve bps).cost bonding_curve.real_token_reserves.toNat =
    curve_total at *
  have hcast : (U64.cast curve_total).toNat = curve_total := U64.toNat_cast_of_lt (by omega)
  have hleft : U64.checked_sub sol_amount (U64.cast curve_total) =
      some (U64.cast (sol_amount.toNat - curve_total)) := by
    rw [U64.checked_sub_eq_some_iff, hcast, U64.toNat_cast_of_lt (by omega)]
    omega
  have hbudget : (U64.cast (sol_amount.toNat - curve_total)).toNat = sol_amount.toNat - curve_total :=
    U64.toNat_cast_of_lt (by omega)
  have hne : U64.cast (sol_amount.toNat - curve_total) ≠ 0 := by
    rw [ne_eq, ← UInt64.toNat_inj, hbudget]
    have hzero : (0 : UInt64).toNat = 0 := rfl
    omega
  rw [buy_v3_token_amount_from_sol_amount, hopen, Outcome.ok_bind, buy_tokens_exact_in_eq priced,
    Outcome.ok_bind, ← quoter_out, if_neg (by omega), priced.rates, Outcome.ok_bind, if_neg (by omega), hnet,
    Outcome.ok_bind, hwith_fees, Outcome.ok_bind, U64.try_from_of_lt (by omega), Outcome.ok_or_some,
    Outcome.ok_bind, hleft, Outcome.ok_or_some, Outcome.ok_bind]
  by_cases hmayhem : bonding_curve.is_mayhem_mode = true
  · rw [if_pos (Or.inr hmayhem), if_pos hmayhem]
  rw [if_neg (not_or.mpr ⟨hne, hmayhem⟩), if_neg hmayhem]
  dsimp only
  rcases hpool : pool_to_be global bonding_curve base_ata_amount
    (is_sol_like_quote_mint bonding_curve.quote_mint) bonding_curve.real_token_reserves net with e | pool
  · rfl
  obtain ⟨-, -, -, -, hquote⟩ := pool_to_be_eq_ok_iff.mp hpool
  have hbase_lt := U64.toNat_lt base_ata_amount
  have hout := leg_out_lt bps hpool (sol_amount.toNat - curve_total)
  rw [Outcome.ok_bind, Outcome.ok_bind, post_complete_leg_exact_quote_net pool bps _ hquote, hbudget,
    Quoter.glue_out_of_lt h, Quoter.glue_charge_of_lt h, hcost]
  rcases Nat.eq_zero_or_pos ((legQuoter pool bps).out (sol_amount.toNat - curve_total)) with hleg | hleg
  · rw [hleg, if_pos rfl, if_neg (lt_irrefl 0), Nat.add_zero, Nat.add_zero, U64.cast_toNat]
    rfl
  · have hleg_total := (legQuoter pool bps).charge_le hleg
    rw [if_neg hleg.ne', if_pos hleg, Outcome.ok_bind]
    dsimp only
    rw [U64.add_cast_eq_ok (by omega), Outcome.ok_bind, U64.add_cast_eq_ok (by omega), Outcome.ok_bind,
      hcast]

/-- A budget whose uncapped tokens are none buys nothing. -/
theorem buy_v3_token_amount_zero {sol_amount : UInt64}
    (huncapped : buy_tokens_exact_in global fee_config bonding_curve mint_supply sol_amount = .ok 0)
    (hopen : check_curve_open bonding_curve false = .ok ()) :
    buy_v3_token_amount_from_sol_amount global fee_config bonding_curve mint_supply base_ata_amount
      sol_amount = .ok (0, 0) := by
  rw [buy_v3_token_amount_from_sol_amount, hopen, Outcome.ok_bind, huncapped, Outcome.ok_bind,
    if_pos rfl]

/-- A crossing buy that returns has priced the remaining supply. -/
theorem buy_quote_of_crossing_ok {sol_amount : UInt64} {result : UInt64 × UInt64}
    (priced : Priced global fee_config bonding_curve mint_supply bps)
    (hcross : bonding_curve.real_token_reserves.toNat <
      (quoter bonding_curve bps).out sol_amount.toNat)
    (h : buy_v3_token_amount_from_sol_amount global fee_config bonding_curve mint_supply
      base_ata_amount sol_amount = .ok result) :
    ∃ net, buy_quote bonding_curve bonding_curve.real_token_reserves = .ok net := by
  obtain ⟨⟨⟩, -, hrest⟩ := Outcome.bind_eq_ok_iff.mp h
  rw [buy_tokens_exact_in_eq priced, ← quoter_out, Outcome.ok_bind, if_neg (by omega), priced.rates,
    Outcome.ok_bind] at hrest
  dsimp only at hrest
  rw [if_neg (not_le.mpr hcross)] at hrest
  obtain ⟨net, hnet, -⟩ := Outcome.bind_eq_ok_iff.mp hrest
  exact ⟨net, hnet⟩

/-- What a crossing buy is answered with when its pool opens: the curve glued
    to the pool, within the base ATA's balance and the budget. -/
structure Glued (bonding_curve : BondingCurve) (bps pool : UInt64 × UInt64)
    (base_ata_amount sol_amount tokens charged : UInt64) : Prop where
  tokens_eq : tokens.toNat = ((quoter bonding_curve bps).glue
    bonding_curve.real_token_reserves.toNat (legQuoter pool bps)).out sol_amount.toNat
  charged_eq : charged.toNat = ((quoter bonding_curve bps).glue
    bonding_curve.real_token_reserves.toNat (legQuoter pool bps)).charge sol_amount.toNat
  tokens_lt : tokens.toNat < base_ata_amount.toNat
  charged_le : charged.toNat ≤ sol_amount.toNat

theorem buy_v3_token_amount_past {sol_amount tokens charged net : UInt64}
    (hopen : check_curve_open bonding_curve false = .ok ())
    (hmayhem : bonding_curve.is_mayhem_mode = false)
    (priced : Priced global fee_config bonding_curve mint_supply bps)
    (hcross : bonding_curve.real_token_reserves.toNat <
      (quoter bonding_curve bps).out sol_amount.toNat)
    (hnet : buy_quote bonding_curve bonding_curve.real_token_reserves = .ok net)
    (h : buy_v3_token_amount_from_sol_amount global fee_config bonding_curve mint_supply
      base_ata_amount sol_amount = .ok (tokens, charged)) :
    ∃ pool, pool_to_be global bonding_curve base_ata_amount
        (is_sol_like_quote_mint bonding_curve.quote_mint) bonding_curve.real_token_reserves net =
        .ok pool ∧
      Glued bonding_curve bps pool base_ata_amount sol_amount tokens charged := by
  rw [buy_v3_token_amount_crossing hopen priced hcross hnet,
    if_neg (by simp [hmayhem])] at h
  obtain ⟨pool, hpool, h⟩ := Outcome.bind_eq_ok_iff.mp h
  have hbase := leg_out_lt bps hpool
    (sol_amount.toNat - (quoter bonding_curve bps).cost bonding_curve.real_token_reserves.toNat)
  have hr : 0 < bonding_curve.real_token_reserves.toNat := (buy_quote_eq_ok_iff.mp hnet).1
  have hbase_lt := U64.toNat_lt base_ata_amount
  have hsol_lt := U64.toNat_lt sol_amount
  have hout : ((quoter bonding_curve bps).glue bonding_curve.real_token_reserves.toNat
      (legQuoter pool bps)).out sol_amount.toNat = _ := Quoter.glue_out_of_lt hcross
  have hcharge := ((quoter bonding_curve bps).glue bonding_curve.real_token_reserves.toNat
    (legQuoter pool bps)).charge_le (a := sol_amount.toNat) (by omega)
  cases h
  have htokens := U64.toNat_cast_of_lt (n := ((quoter bonding_curve bps).glue
    bonding_curve.real_token_reserves.toNat (legQuoter pool bps)).out sol_amount.toNat) (by omega)
  have hcharged := U64.toNat_cast_of_lt (n := ((quoter bonding_curve bps).glue
    bonding_curve.real_token_reserves.toNat (legQuoter pool bps)).charge sol_amount.toNat) (by omega)
  exact ⟨pool, hpool, htokens, hcharged, by omega, by omega⟩

/-- What a budget buys and is charged on a curve is what the completing
    quoter says, as soon as it would buy anything on an endless one. -/
theorem buy_v3_token_amount_refines {sol_amount tokens charged : UInt64}
    (priced : Priced global fee_config bonding_curve mint_supply bps)
    (hpos : 0 < (quoter bonding_curve bps).out sol_amount.toNat)
    (h : buy_v3_token_amount_from_sol_amount global fee_config bonding_curve mint_supply
      base_ata_amount sol_amount = .ok (tokens, charged)) :
    tokens.toNat =
        (completingQuoter global bonding_curve base_ata_amount bps).out sol_amount.toNat ∧
      charged.toNat =
        (completingQuoter global bonding_curve base_ata_amount bps).charge sol_amount.toNat := by
  obtain ⟨⟨⟩, hopen, -⟩ := Outcome.bind_eq_ok_iff.mp h
  have hin := U64.toNat_lt sol_amount
  have hremaining := U64.toNat_lt bonding_curve.real_token_reserves
  rcases Nat.lt_or_ge bonding_curve.real_token_reserves.toNat
    ((quoter bonding_curve bps).out sol_amount.toNat) with hcross | hinside
  · obtain ⟨net, hnet⟩ := buy_quote_of_crossing_ok priced hcross h
    have hr : 0 < bonding_curve.real_token_reserves.toNat := (buy_quote_eq_ok_iff.mp hnet).1
    by_cases hmayhem : bonding_curve.is_mayhem_mode = true
    · have hcost := (price_lt_of_lt_quoter_out (U64.pos_iff.mp priced.quote_pos) hcross).2
      have hcharge := FeeSchedule.charge_le (net_pos_of_quoter_out_pos (Nat.zero_lt_of_lt hcross))
      rw [buy_v3_token_amount_crossing hopen priced hcross hnet, if_pos hmayhem] at h
      cases h
      rw [completingQuoter_of_mayhem hmayhem, cappedQuoter, Quoter.glue_closed_out,
        min_eq_right hcross.le, Quoter.glue_closed_charge_of_lt hcross]
      exact ⟨rfl, U64.toNat_cast_of_lt (by omega)⟩
    · obtain ⟨pool, hpool, hglued⟩ :=
        buy_v3_token_amount_past hopen (by simpa using hmayhem) priced hcross hnet h
      rw [completingQuoter_of_pool (by simpa using hmayhem) hnet hpool]
      exact ⟨hglued.tokens_eq, hglued.charged_eq⟩
  · have hcharge := FeeSchedule.charge_le (net_pos_of_quoter_out_pos hpos)
    rw [buy_v3_token_amount_inside hopen priced hpos hinside] at h
    cases h
    rw [completingQuoter, Quoter.glue_out_of_le hinside, Quoter.glue_charge_of_le hinside]
    exact ⟨U64.toNat_cast_of_lt (by omega), U64.toNat_cast_of_lt (by rw [quoter_charge]; omega)⟩

theorem buy_v3_token_amount_out {sol_amount tokens charged : UInt64}
    (priced : Priced global fee_config bonding_curve mint_supply bps)
    (h : buy_v3_token_amount_from_sol_amount global fee_config bonding_curve mint_supply
      base_ata_amount sol_amount = .ok (tokens, charged)) :
    tokens.toNat =
      (completingQuoter global bonding_curve base_ata_amount bps).out sol_amount.toNat := by
  rcases Nat.eq_zero_or_pos ((quoter bonding_curve bps).out sol_amount.toNat) with hzero | hpos
  · obtain ⟨⟨⟩, hopen, -⟩ := Outcome.bind_eq_ok_iff.mp h
    have huncapped : buy_tokens_exact_in global fee_config bonding_curve mint_supply sol_amount =
        .ok 0 := by rw [buy_tokens_exact_in_eq priced, ← quoter_out, hzero]
    rw [buy_v3_token_amount_zero huncapped hopen] at h
    cases h
    rw [completingQuoter, Quoter.glue_out_of_le (by omega), hzero]
    rfl
  · exact (buy_v3_token_amount_refines priced hpos h).1

/-- Tokens bought name the rates they were bought at. -/
theorem buy_v3_token_amount_ok {sol_amount tokens charged : UInt64}
    (h : buy_v3_token_amount_from_sol_amount global fee_config bonding_curve mint_supply
      base_ata_amount sol_amount = .ok (tokens, charged)) (hpos : 0 < tokens) :
    ∃ bps, check_curve_open bonding_curve false = .ok () ∧
      Priced global fee_config bonding_curve mint_supply bps ∧
      tokens.toNat =
        (completingQuoter global bonding_curve base_ata_amount bps).out sol_amount.toNat ∧
      charged.toNat =
        (completingQuoter global bonding_curve base_ata_amount bps).charge sol_amount.toNat := by
  obtain ⟨⟨⟩, hopen, hrest⟩ := Outcome.bind_eq_ok_iff.mp h
  obtain ⟨uncapped, htokens, -⟩ := Outcome.bind_eq_ok_iff.mp hrest
  have hne : uncapped ≠ 0 := by
    rintro rfl
    rw [buy_v3_token_amount_zero htokens hopen] at h
    cases h
    exact absurd hpos (by decide)
  obtain ⟨bps, priced⟩ := buy_tokens_exact_in_pos htokens (Nat.pos_of_ne_zero hne)
  rw [buy_tokens_exact_in_eq priced, ← quoter_out] at htokens
  cases htokens
  exact ⟨bps, hopen, priced,
    buy_v3_token_amount_refines priced (Nat.pos_of_ne_zero hne) h⟩

/-- The tokens v2 quotes are the capped quoter's. -/
theorem buy_token_amount_eq {sol_amount : UInt64}
    (priced : Priced global fee_config bonding_curve mint_supply bps) :
    buy_token_amount_from_sol_amount global fee_config bonding_curve mint_supply sol_amount =
      .ok (U64.cast ((cappedQuoter bonding_curve bps).out sol_amount.toNat)) := by
  rw [buy_token_amount_from_sol_amount, buy_tokens_exact_in_eq priced, Outcome.ok_bind,
    ← quoter_out, cappedQuoter, Quoter.glue_closed_out]

/-- What the curve asks for an amount before fees, the amount capped at the
    remaining supply. -/
def capped_price (bonding_curve : BondingCurve) (token_amount : UInt64) : Nat :=
  swapInFloor (min token_amount.toNat bonding_curve.real_token_reserves.toNat)
    bonding_curve.virtual_quote_reserves.toNat bonding_curve.virtual_token_reserves.toNat + 1

/-- Past its checks a v2 price only computes: the fees of the capped price, the
    sum of both, and a cast. -/
theorem buy_sol_amount_run {token_amount : UInt64} (hne : token_amount ≠ 0)
    (htokens : min token_amount.toNat bonding_curve.real_token_reserves.toNat <
      bonding_curve.virtual_token_reserves.toNat) :
    buy_sol_amount_from_token_amount global fee_config bonding_curve mint_supply token_amount = (do
      let fee ← fee_for_quote global fee_config bonding_curve mint_supply
        (capped_price bonding_curve token_amount)
      .ok (U64.cast (← U128.add (capped_price bonding_curve token_amount) fee))) := by
  have hvt : bonding_curve.virtual_token_reserves ≠ 0 := U64.ne_zero_iff.mpr (by omega)
  have hvt_lt := U64.toNat_lt bonding_curve.virtual_token_reserves
  have hvq_lt := U64.toNat_lt bonding_curve.virtual_quote_reserves
  have hcapped := lt_of_le_of_lt
    (min_le_left token_amount.toNat bonding_curve.real_token_reserves.toNat) (U64.toNat_lt _)
  unfold buy_sol_amount_from_token_amount
  rw [if_neg (not_or.mpr ⟨hne, hvt⟩)]
  dsimp only
  rw [if_neg (not_le.mpr htokens), U128.mul_eq_ok (U128.mul_lt hcapped hvq_lt), Outcome.ok_bind,
    U128.sub_eq_ok htokens.le (by omega), Outcome.ok_bind, U128.div_eq_ok (by omega), Outcome.ok_bind]
  change (U128.add (swapInFloor _ _ _) 1 >>= _) = _
  rw [U128.add_eq_ok (price_lt hcapped hvq_lt _)]
  exact Outcome.ok_bind _ _

/-- The v2 price of any amount is the capped quoter's, as long as the price of
    the tokens fits `u64`. -/
theorem buy_sol_amount_eq {token_amount : UInt64}
    (hbps : curve_fee_bps global fee_config bonding_curve mint_supply = .ok bps)
    (hne : token_amount ≠ 0)
    (htokens : min token_amount.toNat bonding_curve.real_token_reserves.toNat <
      bonding_curve.virtual_token_reserves.toNat)
    (hprice : swapInFloor (min token_amount.toNat bonding_curve.real_token_reserves.toNat)
      bonding_curve.virtual_quote_reserves.toNat bonding_curve.virtual_token_reserves.toNat + 1 <
        2 ^ 64) :
    buy_sol_amount_from_token_amount global fee_config bonding_curve mint_supply token_amount =
      .ok (U64.cast ((cappedQuoter bonding_curve bps).cost token_amount.toNat)) := by
  have hgross := curveSchedule_gross_lt bps hprice
  rw [cappedQuoter, Quoter.glue_closed_cost, quoter_cost, buy_sol_amount_run hne htokens,
    capped_price, fee_for_quote_eq hbps hprice, Outcome.ok_bind]
  change (U128.add _ _ >>= _) = _
  rw [U128.add_eq_ok (lt_trans hgross (by decide)), Outcome.ok_bind]
  rfl

/-- A v2 price names the rates it was quoted at and prices fewer tokens than
    the curve holds. -/
theorem buy_sol_amount_ok {token_amount cost : UInt64}
    (h : buy_sol_amount_from_token_amount global fee_config bonding_curve mint_supply token_amount =
      .ok cost) (hne : token_amount ≠ 0) (hvt : 0 < bonding_curve.virtual_token_reserves) :
    ∃ bps, curve_fee_bps global fee_config bonding_curve mint_supply = .ok bps ∧
      min token_amount.toNat bonding_curve.real_token_reserves.toNat <
        bonding_curve.virtual_token_reserves.toNat := by
  unfold buy_sol_amount_from_token_amount at h
  rw [if_neg (not_or.mpr ⟨hne, UInt64.pos_iff_ne_zero.mp hvt⟩)] at h
  dsimp only at h
  split at h
  · simp at h
  · next htokens =>
    obtain ⟨product, -, h⟩ := Outcome.bind_eq_ok_iff.mp h
    obtain ⟨rest, -, h⟩ := Outcome.bind_eq_ok_iff.mp h
    obtain ⟨ratio, -, h⟩ := Outcome.bind_eq_ok_iff.mp h
    obtain ⟨sol_cost, -, h⟩ := Outcome.bind_eq_ok_iff.mp h
    obtain ⟨fee, hfee, -⟩ := Outcome.bind_eq_ok_iff.mp h
    obtain ⟨bps, hbps, -⟩ := Outcome.bind_eq_ok_iff.mp hfee
    exact ⟨bps, hbps, not_le.mp htokens⟩

/-- Inside the curve, and anywhere on a mayhem curve, v3 prices are v2's. -/
theorem buy_v3_sol_amount_capped {token_amount : UInt64}
    (hopen : check_curve_open bonding_curve false = .ok ())
    (h : token_amount ≤ bonding_curve.real_token_reserves ∨ bonding_curve.is_mayhem_mode = true) :
    buy_v3_sol_amount_from_token_amount global fee_config bonding_curve mint_supply base_ata_amount
        token_amount =
      buy_sol_amount_from_token_amount global fee_config bonding_curve mint_supply token_amount := by
  rw [buy_v3_sol_amount_from_token_amount, hopen, Outcome.ok_bind]
  exact if_pos h

/-- The price of `past` tokens on the opened pool, added to the curve's. -/
private theorem past_total_ok_iff {pool : UInt64 × UInt64} {net past cost : UInt64} :
    (if pool.1 ≤ past then Outcome.err .BaseOutExceedsReserve
      else do
        let product ← U128.mul pool.2.toNat past.toNat
        let rest ← U64.sub pool.1 past
        let quote_in ← Outcome.ok_or (U64.try_from (← ceil_div product rest.toNat)) .MathOverflow
        let curve_total ← with_fees net bps
        let leg_total ← with_fees quote_in bps
        Outcome.ok_or (U64.try_from (← U128.add curve_total leg_total)) .MathOverflow :
        QuoteResult UInt64) = .ok cost ↔
      past.toNat < pool.1.toNat ∧ cost.toNat = (curveSchedule bps).gross net.toNat +
        (legQuoter pool bps).cost past.toNat := by
  have hmul := U128.mul_lt (U64.toNat_lt pool.2) (U64.toNat_lt past)
  have hcurve := curveSchedule_gross_lt bps (U64.toNat_lt net)
  have hcost_lt := U64.toNat_lt cost
  simp only [UInt64.le_iff_toNat_le]
  by_cases hpast : pool.1.toNat ≤ past.toNat
  · rw [if_pos hpast]
    simp [Nat.not_lt.mpr hpast]
  have hlt := not_le.mp hpast
  have hquote_in : (pool.2.toNat * past.toNat) ⌈/⌉ (pool.1.toNat - past.toNat) =
      swapInCeil past.toNat pool.2.toNat pool.1.toNat := by
    rw [swapInCeil, Nat.mul_comm]
  have hleg_cost : (legQuoter pool bps).cost past.toNat =
      (curveSchedule bps).gross (swapInCeil past.toNat pool.2.toNat pool.1.toNat) := rfl
  rw [if_neg hpast, U128.mul_eq_ok hmul, Outcome.ok_bind, U64.sub_eq_ok hlt.le, Outcome.ok_bind,
    U64.toNat_sub_of_le hlt.le, ceil_div_eq (by omega), Outcome.ok_bind, hquote_in, hleg_cost]
  generalize swapInCeil past.toNat pool.2.toNat pool.1.toNat = quote_in
  have hgross : quote_in ≤ (curveSchedule bps).gross quote_in := Nat.le_add_right _ _
  by_cases hfits : quote_in < 2 ^ 64
  · have hleg := curveSchedule_gross_lt bps hfits
    rw [U64.try_from_of_lt hfits, Outcome.ok_or_some, Outcome.ok_bind, with_fees_eq, Outcome.ok_bind,
      with_fees_eq, Outcome.ok_bind, U64.toNat_cast_of_lt hfits, U128.add_eq_ok (by omega),
      Outcome.ok_bind, Outcome.ok_or_eq_ok_iff, U64.try_from_eq_some_iff]
    simp [hlt]
  · rw [U64.try_from_of_ge hfits, Outcome.ok_or_none, Outcome.err_bind]
    simp only [Outcome.err_ne_ok, false_iff, not_and]
    intro _
    omega

/-- An amount past the remaining supply is priced exactly when the supply has
    a price, the pool it opens holds more than the rest, and the whole price
    fits `u64`. -/
theorem buy_v3_sol_amount_past_ok_iff {token_amount cost : UInt64}
    (hopen : check_curve_open bonding_curve false = .ok ())
    (hpast : bonding_curve.real_token_reserves < token_amount)
    (hmayhem : bonding_curve.is_mayhem_mode = false) :
    buy_v3_sol_amount_from_token_amount global fee_config bonding_curve mint_supply base_ata_amount
        token_amount = .ok cost ↔
      ∃ bps net pool, curve_fee_bps global fee_config bonding_curve mint_supply = .ok bps ∧
        buy_quote bonding_curve bonding_curve.real_token_reserves = .ok net ∧
        pool_to_be global bonding_curve base_ata_amount
          (is_sol_like_quote_mint bonding_curve.quote_mint) bonding_curve.real_token_reserves net =
          .ok pool ∧
        token_amount.toNat - bonding_curve.real_token_reserves.toNat < pool.1.toNat ∧
        cost.toNat = ((quoter bonding_curve bps).glue bonding_curve.real_token_reserves.toNat
          (legQuoter pool bps)).cost token_amount.toNat := by
  have hpast_nat : bonding_curve.real_token_reserves.toNat < token_amount.toNat :=
    UInt64.lt_iff_toNat_lt.mp hpast
  have hpast_sub : (token_amount - bonding_curve.real_token_reserves).toNat =
      token_amount.toNat - bonding_curve.real_token_reserves.toNat := U64.toNat_sub_of_le hpast_nat.le
  rw [buy_v3_sol_amount_from_token_amount, hopen, Outcome.ok_bind]
  dsimp only
  rw [if_neg (by simp [hmayhem, hpast]), Outcome.bind_eq_ok_iff]
  refine exists_congr fun bps => ?_
  have htail : ∀ {net : UInt64} {pool : UInt64 × UInt64},
      buy_quote bonding_curve bonding_curve.real_token_reserves = .ok net →
      ((curveSchedule bps).gross net.toNat + (legQuoter pool bps).cost
        (token_amount - bonding_curve.real_token_reserves).toNat =
        ((quoter bonding_curve bps).glue bonding_curve.real_token_reserves.toNat
          (legQuoter pool bps)).cost token_amount.toNat) := by
    intro net pool hnet
    rw [Quoter.glue_cost_of_lt hpast_nat, quoter_cost, ← (buy_quote_eq_ok_iff.mp hnet).2.2, hpast_sub]
  rw [Outcome.bind_eq_ok_iff]
  constructor
  · rintro ⟨hbps, net, hnet, h⟩
    obtain ⟨pool, hpool, h⟩ := Outcome.bind_eq_ok_iff.mp h
    rw [U64.sub_eq_ok hpast_nat.le, Outcome.ok_bind, past_total_ok_iff, htail hnet, hpast_sub] at h
    exact ⟨net, pool, hbps, hnet, hpool, h⟩
  · rintro ⟨net, pool, hbps, hnet, hpool, h⟩
    refine ⟨hbps, net, hnet, Outcome.bind_eq_ok_iff.mpr ⟨pool, hpool, ?_⟩⟩
    rw [U64.sub_eq_ok hpast_nat.le, Outcome.ok_bind, past_total_ok_iff, htail hnet, hpast_sub]
    exact h

end Code

/-- A coin at launch: 30 of quote against 1.073e15 tokens, 793.1e12 of them
    for sale. -/
def launchCurve : BondingCurve :=
  { BondingCurve.default with
    virtual_token_reserves := 1_073_000_000_000_000
    virtual_quote_reserves := 30_000_000_000
    real_token_reserves := 793_100_000_000_000
    token_total_supply := 1_000_000_000_000_000
    creator := ⟨7⟩
    quote_mint := constants.NATIVE_MINT }

def launchGlobal : Global :=
  { Global.default with
    initial_virtual_token_reserves := 1_073_000_000_000_000
    initial_real_token_reserves := 793_100_000_000_000
    token_total_supply := 1_000_000_000_000_000
    pool_migration_fee := 15_000_001
    whitelist_pda := ⟨9⟩ }

/-- One tier of 1% for the protocol and 0.5% for the creator. -/
def launchFees : FeeConfig where
  bump := 0
  admin := Pubkey.default
  flat_fees := ⟨0, 100, 50⟩
  fee_tiers := [⟨0, ⟨0, 100, 50⟩⟩]
  stable_fee_tiers := []
  exotic_flat_fees := ⟨0, 0, 0⟩

end pump_rust_client.math.bonding_curve
