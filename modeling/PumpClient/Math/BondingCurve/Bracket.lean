import PumpClient.Math.BondingCurve.Quoters

open machine exchange

namespace pump_rust_client.math.bonding_curve

open state utils fees

/-- The cost of `token_amount` tokens, partially filled at the remaining
    supply, before any truncation to machine words. -/
def exactCost (bonding_curve : BondingCurve) (bps : UInt64 × UInt64) (token_amount : Nat) : Nat :=
  let filled := min token_amount bonding_curve.real_token_reserves.toNat
  let price := filled * bonding_curve.virtual_quote_reserves.toNat /
    (bonding_curve.virtual_token_reserves.toNat - filled) + 1
  price + (price * bps.1.toNat) ⌈/⌉ 10_000 + (price * bps.2.toNat) ⌈/⌉ 10_000

theorem exactCost_eq (bonding_curve : BondingCurve) (bps : UInt64 × UInt64) (token_amount : Nat) :
    exactCost bonding_curve bps token_amount = (cappedQuoter bonding_curve bps).cost token_amount := by
  rw [cappedQuoter, Quoter.glue_closed_cost, quoter_cost, FeeSchedule.gross, curveSchedule_fees,
    ← Nat.add_assoc]
  rfl

section

variable [Build]

/-- `cost` is the exact price of a v3 buy: where v3 quotes by the v2 formula,
    whose fee products may wrap and whose sum is cast, nothing was lost. Past
    the remaining supply every conversion is checked. -/
def ExactPrice (global : Global) (fee_config : FeeConfig) (bonding_curve : BondingCurve)
    (mint_supply token_amount cost : UInt64) : Prop :=
  token_amount ≤ bonding_curve.real_token_reserves ∨ bonding_curve.is_mayhem_mode = true →
    token_amount ≠ 0 → ∀ bps, curve_fee_bps global fee_config bonding_curve mint_supply = .ok bps →
      cost.toNat = exactCost bonding_curve bps token_amount.toNat

variable {global : Global} {fee_config : FeeConfig} {bonding_curve : BondingCurve}
  {mint_supply base_ata_amount : UInt64} {bps : UInt64 × UInt64}

/-- Tokens that some budget buys within the remaining supply, or on a mayhem
    curve, have a v2 price. -/
theorem buy_sol_amount_of_completingQuoter_out {budget tokens : UInt64}
    (priced : Priced global fee_config bonding_curve mint_supply bps) (hpos : 0 < tokens)
    (htokens : tokens.toNat =
      (completingQuoter global bonding_curve base_ata_amount bps).out budget.toNat) :
    buy_sol_amount_from_token_amount global fee_config bonding_curve mint_supply tokens =
      .ok (U64.cast ((cappedQuoter bonding_curve bps).cost tokens.toNat)) := by
  have hpos_nat : 0 < tokens.toNat := U64.pos_iff.mp hpos
  have hvq_nat : 0 < bonding_curve.virtual_quote_reserves.toNat := U64.pos_iff.mp priced.quote_pos
  have hbought : 0 < (quoter bonding_curve bps).out budget.toNat ∧
      min tokens.toNat bonding_curve.real_token_reserves.toNat ≤
        (quoter bonding_curve bps).out budget.toNat := by
    rcases le_or_gt ((quoter bonding_curve bps).out budget.toNat)
      bonding_curve.real_token_reserves.toNat with h | h
    · rw [completingQuoter, Quoter.glue_out_of_le h] at htokens
      omega
    · omega
  have hprice := swapInFloor_lt_of_le_swapOut hvq_nat hbought.1 hbought.2
  have hnet := FeeSchedule.net_le (s := curveSchedule bps) budget.toNat
  have hbudget := U64.toNat_lt budget
  exact buy_sol_amount_eq priced.rates (UInt64.pos_iff_ne_zero.mp hpos)
    (lt_of_swapOut_pos hvq_nat hbought.1 hbought.2)
    (lt_of_le_of_lt (Nat.succ_le_of_lt hprice) (lt_of_le_of_lt hnet hbudget))

/-- A budget that buys past the remaining supply has priced the supply and
    opened a pool that holds more than the rest. -/
theorem opened_of_out_gt {budget : UInt64} (hvq : 0 < bonding_curve.virtual_quote_reserves)
    (hmayhem : bonding_curve.is_mayhem_mode = false)
    (h : bonding_curve.real_token_reserves.toNat <
      (completingQuoter global bonding_curve base_ata_amount bps).out budget.toNat) :
    ∃ net pool, buy_quote bonding_curve bonding_curve.real_token_reserves = .ok net ∧
      pool_to_be global bonding_curve base_ata_amount
        (is_sol_like_quote_mint bonding_curve.quote_mint) bonding_curve.real_token_reserves net =
        .ok pool ∧
      (completingQuoter global bonding_curve base_ata_amount bps).out budget.toNat -
        bonding_curve.real_token_reserves.toNat < pool.1.toNat := by
  have hcross : bonding_curve.real_token_reserves.toNat <
      (quoter bonding_curve bps).out budget.toNat := by
    by_contra hnot
    rw [completingQuoter, Quoter.glue_out_of_le (not_lt.mp hnot)] at h
    exact hnot h
  rcases Nat.eq_zero_or_pos bonding_curve.real_token_reserves.toNat with hzero | hr
  · have hnone : openedPool global bonding_curve base_ata_amount = none :=
      if_pos (Or.inr (UInt64.toNat_inj.mp hzero))
    rw [completingQuoter, hnone, Option.elim_none, Quoter.glue_closed_out] at h
    omega
  obtain ⟨net, hnet, -, -⟩ := buy_quote_of_lt_quoter_out (U64.pos_iff.mp hvq) hr hcross
  rcases hpool : pool_to_be global bonding_curve base_ata_amount
    (is_sol_like_quote_mint bonding_curve.quote_mint) bonding_curve.real_token_reserves net with e | pool
  · have hnone := openedPool_of_buy_quote global base_ata_amount hmayhem hnet
    rw [hpool] at hnone
    rw [completingQuoter, hnone] at h
    change _ < ((quoter bonding_curve bps).glue _ Quoter.closed).out _ at h
    rw [Quoter.glue_closed_out] at h
    omega
  · obtain ⟨-, -, -, hbase_pos, hquote_pos⟩ := pool_to_be_eq_ok_iff.mp hpool
    refine ⟨net, pool, hnet, hpool, ?_⟩
    rw [completingQuoter_of_pool hmayhem hnet hpool, Quoter.glue_out_of_lt hcross,
      Nat.add_sub_cancel_left]
    exact swapOut_lt hquote_pos hbase_pos

/-- What a budget buys costs at most what the budget was charged. -/
theorem buy_v3_sol_amount_of_token_amount {budget tokens charged : UInt64}
    (h : buy_v3_token_amount_from_sol_amount global fee_config bonding_curve mint_supply
      base_ata_amount budget = .ok (tokens, charged)) (hpos : 0 < tokens) :
    charged ≤ budget ∧ ∃ cost, buy_v3_sol_amount_from_token_amount global fee_config bonding_curve
      mint_supply base_ata_amount tokens = .ok cost ∧ cost ≤ charged := by
  obtain ⟨bps, hopen, priced, htokens, hcharged⟩ := buy_v3_token_amount_ok h hpos
  have hpos_nat : 0 < tokens.toNat := U64.pos_iff.mp hpos
  have hcharged_lt := U64.toNat_lt charged
  have hbudget := (completingQuoter global bonding_curve base_ata_amount bps).charge_le
    (htokens ▸ hpos_nat)
  have hcost_le := (completingQuoter global bonding_curve base_ata_amount bps).cost_out_le_charge
    (htokens ▸ hpos_nat)
  rw [← htokens, ← hcharged] at hcost_le
  rw [← hcharged] at hbudget
  refine ⟨UInt64.le_iff_toNat_le.mpr hbudget, U64.cast
    ((completingQuoter global bonding_curve base_ata_amount bps).cost tokens.toNat), ?_, ?_⟩
  swap
  · rw [UInt64.le_iff_toNat_le, U64.toNat_cast_of_lt (by omega)]
    exact hcost_le
  by_cases hmayhem : bonding_curve.is_mayhem_mode = true
  · rw [buy_v3_sol_amount_capped hopen (Or.inr hmayhem),
      buy_sol_amount_of_completingQuoter_out priced hpos htokens, completingQuoter_of_mayhem hmayhem]
  rcases le_or_gt tokens.toNat bonding_curve.real_token_reserves.toNat with hinside | hpast
  · rw [buy_v3_sol_amount_capped hopen (Or.inl (UInt64.le_iff_toNat_le.mpr hinside)),
      buy_sol_amount_of_completingQuoter_out priced hpos htokens, cappedQuoter, completingQuoter,
      Quoter.glue_cost_of_le hinside, Quoter.glue_cost_of_le hinside]
  · have hmayhem' : bonding_curve.is_mayhem_mode = false := by simpa using hmayhem
    obtain ⟨net, pool, hnet, hpool, hpast_lt⟩ := opened_of_out_gt priced.quote_pos hmayhem' (htokens ▸ hpast)
    rw [completingQuoter_of_pool hmayhem' hnet hpool] at hcost_le ⊢
    rw [buy_v3_sol_amount_past_ok_iff hopen (UInt64.lt_iff_toNat_lt.mpr hpast) hmayhem']
    exact ⟨bps, net, pool, priced.rates, hnet, hpool, htokens ▸ hpast_lt,
      U64.toNat_cast_of_lt (lt_of_le_of_lt hcost_le hcharged_lt)⟩

/-- A budget of exactly the price of `token_amount` buys at most that. -/
theorem buy_v3_token_amount_of_sol_amount {token_amount cost tokens charged : UInt64}
    (hcost : buy_v3_sol_amount_from_token_amount global fee_config bonding_curve mint_supply
      base_ata_amount token_amount = .ok cost)
    (hexact : ExactPrice global fee_config bonding_curve mint_supply token_amount cost)
    (h : buy_v3_token_amount_from_sol_amount global fee_config bonding_curve mint_supply
      base_ata_amount cost = .ok (tokens, charged)) : tokens ≤ token_amount := by
  rcases Nat.eq_zero_or_pos tokens.toNat with hzero | hpos_nat
  · exact UInt64.le_iff_toNat_le.mpr (by omega)
  obtain ⟨bps, hopen, priced, htokens, -⟩ :=
    buy_v3_token_amount_ok h (U64.pos_iff.mpr hpos_nat)
  suffices hle : cost.toNat ≤
      (completingQuoter global bonding_curve base_ata_amount bps).cost token_amount.toNat by
    rw [UInt64.le_iff_toNat_le, htokens]
    exact Quoter.out_le_of_le_cost _ hle
  have hcapped : token_amount ≤ bonding_curve.real_token_reserves ∨
      bonding_curve.is_mayhem_mode = true →
      cost.toNat ≤ (cappedQuoter bonding_curve bps).cost token_amount.toNat := by
    intro hcap
    rcases eq_or_ne token_amount 0 with rfl | hne
    · rw [buy_v3_sol_amount_capped hopen hcap] at hcost
      cases hcost
      exact Nat.zero_le _
    · rw [hexact hcap hne bps priced.rates, exactCost_eq]
  by_cases hmayhem : bonding_curve.is_mayhem_mode = true
  · rw [completingQuoter_of_mayhem hmayhem]
    exact hcapped (Or.inr hmayhem)
  rcases le_or_gt token_amount.toNat bonding_curve.real_token_reserves.toNat with hinside | hpast
  · have hle := hcapped (Or.inl (UInt64.le_iff_toNat_le.mpr hinside))
    rwa [cappedQuoter, Quoter.glue_cost_of_le hinside, ← Quoter.glue_cost_of_le hinside] at hle
  · have hmayhem' : bonding_curve.is_mayhem_mode = false := by simpa using hmayhem
    rw [buy_v3_sol_amount_past_ok_iff hopen (UInt64.lt_iff_toNat_lt.mpr hpast) hmayhem'] at hcost
    obtain ⟨bps', net, pool, hbps', hnet, hpool, -, hcost⟩ := hcost
    obtain rfl : bps = bps' := Except.ok.inj (priced.rates.symm.trans hbps')
    rw [hcost, completingQuoter_of_pool hmayhem' hnet hpool]

/-- The two v3 curve buy quoters bracket each other on both sides of curve
    completion: what a budget buys costs at most its charge, which it covers,
    and a budget of exactly the price of an amount buys at most that amount. -/
theorem buy_v3_quotes_bracket (global : Global) (fee_config : FeeConfig)
    (bonding_curve : BondingCurve) (mint_supply base_ata_amount : UInt64) :
    (∀ budget tokens charged, buy_v3_token_amount_from_sol_amount global fee_config bonding_curve
        mint_supply base_ata_amount budget = .ok (tokens, charged) → 0 < tokens →
      charged ≤ budget ∧ ∃ cost, buy_v3_sol_amount_from_token_amount global fee_config bonding_curve
        mint_supply base_ata_amount tokens = .ok cost ∧ cost ≤ charged) ∧
    (∀ token_amount cost, buy_v3_sol_amount_from_token_amount global fee_config bonding_curve
        mint_supply base_ata_amount token_amount = .ok cost →
      ExactPrice global fee_config bonding_curve mint_supply token_amount cost →
      ∀ tokens charged, buy_v3_token_amount_from_sol_amount global fee_config bonding_curve
        mint_supply base_ata_amount cost = .ok (tokens, charged) → tokens ≤ token_amount) :=
  ⟨fun _ _ _ => buy_v3_sol_amount_of_token_amount,
    fun _ _ hcost hexact _ _ => buy_v3_token_amount_of_sol_amount hcost hexact⟩

end

/-- A budget that completes the launch curve, and the exact price of an amount
    inside it. -/
theorem buy_v3_quotes_bracket_launch :
    letI : Build := ⟨true⟩
    ((100_000_000_000 : UInt64) ≤ 100_000_000_000 ∧ ∃ cost,
      buy_v3_sol_amount_from_token_amount Global.default launchFees launchCurve 0
        1_000_000_000_000_000 821_485_770_786_056 = .ok cost ∧ cost ≤ 100_000_000_000) ∧
    ∀ tokens charged, buy_v3_token_amount_from_sol_amount Global.default launchFees launchCurve 0
      1_000_000_000_000_000 3_129_496_404 = .ok (tokens, charged) → tokens ≤ 100_000_000_000_000 := by
  let _ : Build := ⟨true⟩
  obtain ⟨hforward, hback⟩ :=
    buy_v3_quotes_bracket Global.default launchFees launchCurve 0 1_000_000_000_000_000
  refine ⟨hforward 100_000_000_000 821_485_770_786_056 100_000_000_000 (by decide +kernel)
    (by decide), hback 100_000_000_000_000 3_129_496_404 (by decide +kernel) ?_⟩
  intro _ _ bps hbps
  have hrates : curve_fee_bps Global.default launchFees launchCurve 0 = .ok (100, 50) := by
    decide +kernel
  obtain rfl : (100, 50) = bps := Except.ok.inj (hrates.symm.trans hbps)
  decide +kernel

end pump_rust_client.math.bonding_curve
