import PumpClient.Math.BondingCurve.Bracket
import PumpClient.Sdk.Completion

open machine exchange

namespace pump_rust_client.sdk

open state math math.utils math.fees math.bonding_curve

/-- The curve a completing buy leaves behind: it sold its supply for `net`, and
    its leg took `base_out` for `quote_in`. -/
def completedCurve (bonding_curve : BondingCurve) (net base_out quote_in : UInt64) : BondingCurve :=
  { bonding_curve with
    complete := true
    real_token_reserves := 0
    real_quote_reserves := bonding_curve.real_quote_reserves + net
    post_complete_base_out := base_out
    post_complete_quote_in := quote_in }

section

variable {global : Global} {bonding_curve : BondingCurve} {base_ata_amount : UInt64}

/-- `estimated_reserves` and `pool_to_be` meet: the supply the one starts from
    is the base ATA's balance less the remaining supply of the other, and both
    charge the migration fee on a SOL-like curve only. -/
theorem estimated_reserves_completed {net base_out quote_in : UInt64} {pool : UInt64 × UInt64}
    (hsupply : base_ata_amount.toNat + global.initial_real_token_reserves.toNat =
      bonding_curve.token_total_supply.toNat + bonding_curve.real_token_reserves.toNat)
    (hpool : pool_to_be global bonding_curve base_ata_amount
      (is_sol_like_quote_mint bonding_curve.quote_mint) bonding_curve.real_token_reserves net =
      .ok pool)
    (hout : base_out.toNat < pool.1.toNat)
    (hfits : bonding_curve.real_quote_reserves.toNat + net.toNat + quote_in.toNat < 2 ^ 64) :
    ∃ base quote : UInt64,
      estimated_reserves global (completedCurve bonding_curve net base_out quote_in) =
        .ok (base, quote) ∧
      base.toNat + base_out.toNat = pool.1.toNat ∧ quote.toNat = pool.2.toNat + quote_in.toNat := by
  obtain ⟨hbase, hquote, hraised, -, hquote_pos⟩ := pool_to_be_eq_ok_iff.mp hpool
  have hraised_add := U64.toNat_add_of_lt hraised
  have hbase_lt := U64.toNat_lt pool.1
  have hnew_base := U64.toNat_cast_of_lt (n := pool.1.toNat - base_out.toNat) (by omega)
  have hnew_quote := U64.toNat_cast_of_lt (n := pool.2.toNat + quote_in.toNat) (by omega)
  refine ⟨U64.cast (pool.1.toNat - base_out.toNat), U64.cast (pool.2.toNat + quote_in.toNat), ?_,
    by omega, hnew_quote⟩
  have hunsold : U64.checked_sub bonding_curve.token_total_supply global.initial_real_token_reserves =
      some pool.1 := by
    rw [U64.checked_sub_eq_some_iff]
    omega
  have hrest : U64.checked_sub pool.1 base_out = some (U64.cast (pool.1.toNat - base_out.toNat)) := by
    rw [U64.checked_sub_eq_some_iff]
    omega
  have hraised_leg : U64.checked_add (bonding_curve.real_quote_reserves + net) quote_in =
      some (bonding_curve.real_quote_reserves + net + quote_in) := by
    rw [U64.checked_add_eq_some_iff, U64.toNat_add_of_lt (by omega)]
  have hdeposit : U64.checked_sub (bonding_curve.real_quote_reserves + net + quote_in)
      (if is_sol_like_quote_mint bonding_curve.quote_mint then global.pool_migration_fee else 0) =
      some (U64.cast (pool.2.toNat + quote_in.toNat)) := by
    have hfee : (if is_sol_like_quote_mint bonding_curve.quote_mint then global.pool_migration_fee
        else 0 : UInt64).toNat = if is_sol_like_quote_mint bonding_curve.quote_mint then
        global.pool_migration_fee.toNat else 0 := apply_ite UInt64.toNat _ _ _
    rw [U64.checked_sub_eq_some_iff, U64.toNat_add_of_lt (by omega), hfee, hnew_quote]
    omega
  unfold estimated_reserves completedCurve
  dsimp only
  rw [hunsold, Option.bind_some, hrest, Outcome.ok_or_some, Outcome.ok_bind, hraised_leg,
    Option.bind_some, hdeposit, Outcome.ok_or_some, Outcome.ok_bind, if_neg]
  rw [not_or]
  exact ⟨U64.ne_zero_iff.mpr (by omega), U64.ne_zero_iff.mpr (by omega)⟩

variable [Build] {fee_config : FeeConfig} {mint_supply : UInt64}

/-- A buy past the remaining supply went through a leg: the price of the
    supply, the pool it opens and the split of what the budget has left. -/
theorem buy_v3_token_amount_leg {sol_amount tokens charged : UInt64}
    (h : buy_v3_token_amount_from_sol_amount global fee_config bonding_curve mint_supply
      base_ata_amount sol_amount = .ok (tokens, charged))
    (hpast : bonding_curve.real_token_reserves < tokens) :
    ∃ bps pool, ∃ net curve_total budget_left base_out leg_total quote_in fee creator_fee fee₂ : UInt64,
      curve_fee_bps global fee_config bonding_curve mint_supply = .ok bps ∧
      buy_quote bonding_curve bonding_curve.real_token_reserves = .ok net ∧
      with_fees net bps = .ok curve_total.toNat ∧
      U64.checked_sub sol_amount curve_total = some budget_left ∧
      pool_to_be global bonding_curve base_ata_amount
        (is_sol_like_quote_mint bonding_curve.quote_mint) bonding_curve.real_token_reserves net =
        .ok pool ∧
      post_complete_leg_exact_quote pool bps budget_left false = .ok (some (base_out, leg_total)) ∧
      exact_in_fee_amounts budget_left (bps.1, bps.2, 0) = .ok (quote_in, fee, creator_fee, fee₂) ∧
      tokens.toNat = bonding_curve.real_token_reserves.toNat + base_out.toNat ∧
      charged.toNat = curve_total.toNat + leg_total.toNat ∧
      base_out.toNat = swapOut (quote_in.toNat - 1) pool.2.toNat pool.1.toNat := by
  have hpast_nat := UInt64.lt_iff_toNat_lt.mp hpast
  obtain ⟨bps, -, priced, htokens, hcharged⟩ :=
    buy_v3_token_amount_ok h (U64.pos_iff.mpr (by omega))
  rw [htokens] at hpast_nat
  have hmayhem : bonding_curve.is_mayhem_mode = false := by
    by_contra hnot
    rw [completingQuoter_of_mayhem (by simpa using hnot), cappedQuoter, Quoter.glue_closed_out]
      at hpast_nat
    omega
  obtain ⟨net, pool, hnet, hpool, -⟩ := opened_of_out_gt priced.quote_pos hmayhem hpast_nat
  have hcross : bonding_curve.real_token_reserves.toNat <
      (quoter bonding_curve bps).out sol_amount.toNat := by
    by_contra hnot
    rw [completingQuoter, Quoter.glue_out_of_le (not_lt.mp hnot)] at hpast_nat
    exact hnot hpast_nat
  obtain ⟨net', curve_total, budget_left, hnet', hwith_fees, hcost, hleft, -⟩ :=
    completing_price (U64.pos_iff.mp priced.quote_pos) (buy_quote_eq_ok_iff.mp hnet).1 hcross
  obtain rfl : net = net' := Except.ok.inj (hnet.symm.trans hnet')
  have hbudget := U64.checked_sub_eq_some_iff.mp hleft
  have hbudget_left : sol_amount.toNat -
      (quoter bonding_curve bps).cost bonding_curve.real_token_reserves.toNat = budget_left.toNat := by
    omega
  rw [completingQuoter_of_pool hmayhem hnet hpool, Quoter.glue_out_of_lt hcross, hbudget_left]
    at htokens hpast_nat
  have hleg_pos : 0 < (legQuoter pool bps).out budget_left.toNat := by omega
  rw [completingQuoter_of_pool hmayhem hnet hpool, Quoter.glue_charge_of_lt hcross, hbudget_left,
    if_pos hleg_pos, ← hcost] at hcharged
  obtain ⟨quote_in, fee, creator_fee, fee₂, hsplit⟩ :=
    exact_in_fee_amounts_curve_exists bps (ceilSwap_pos hleg_pos)
  obtain ⟨-, hquote_in, -, -⟩ := exact_in_fee_amounts_curve_ok hsplit
  have htokens_lt := U64.toNat_lt tokens
  have hcharged_lt := U64.toNat_lt charged
  have hbase_out := U64.toNat_cast_of_lt (n := (legQuoter pool bps).out budget_left.toNat) (by omega)
  have hleg_total := U64.toNat_cast_of_lt (n := (legQuoter pool bps).charge budget_left.toNat) (by omega)
  have hleg := post_complete_leg_exact_quote_net pool bps budget_left
    (pool_to_be_eq_ok_iff.mp hpool).2.2.2.2
  rw [if_neg hleg_pos.ne'] at hleg
  exact ⟨bps, pool, net, curve_total, budget_left, _, _, quote_in, fee, creator_fee, fee₂,
    priced.rates, hnet, hwith_fees, hleft, hpool, hleg, hsplit, by rw [hbase_out, htokens],
    by rw [hleg_total, hcharged], by rw [hbase_out, legQuoter_out, hquote_in]⟩

/-- The pool estimated from a completed curve opens exactly where the buy that
    completed it stopped. -/
theorem estimated_reserves_after_leg (global : Global) (fee_config : FeeConfig)
    (bonding_curve : BondingCurve) (mint_supply base_ata_amount sol_amount tokens charged : UInt64)
    (hsupply : base_ata_amount.toNat + global.initial_real_token_reserves.toNat =
      bonding_curve.token_total_supply.toNat + bonding_curve.real_token_reserves.toNat)
    (h : buy_v3_token_amount_from_sol_amount global fee_config bonding_curve mint_supply
      base_ata_amount sol_amount = .ok (tokens, charged))
    (hleg : bonding_curve.real_token_reserves < tokens) :
    ∃ bps pool, ∃ net curve_total budget_left base_out leg_total quote_in fee creator_fee fee₂ : UInt64,
      curve_fee_bps global fee_config bonding_curve mint_supply = .ok bps ∧
      buy_quote bonding_curve bonding_curve.real_token_reserves = .ok net ∧
      with_fees net bps = .ok curve_total.toNat ∧
      U64.checked_sub sol_amount curve_total = some budget_left ∧
      pool_to_be global bonding_curve base_ata_amount
        (is_sol_like_quote_mint bonding_curve.quote_mint) bonding_curve.real_token_reserves net =
        .ok pool ∧
      post_complete_leg_exact_quote pool bps budget_left false = .ok (some (base_out, leg_total)) ∧
      exact_in_fee_amounts budget_left (bps.1, bps.2, 0) = .ok (quote_in, fee, creator_fee, fee₂) ∧
      tokens.toNat = bonding_curve.real_token_reserves.toNat + base_out.toNat ∧
      (bonding_curve.real_quote_reserves.toNat + net.toNat + quote_in.toNat < 2 ^ 64 →
        ∃ base quote : UInt64,
          estimated_reserves global (completedCurve bonding_curve net base_out quote_in) =
            .ok (base, quote) ∧
          base.toNat + base_out.toNat = pool.1.toNat ∧
          quote.toNat = pool.2.toNat + quote_in.toNat ∧
          0 < base ∧ 0 < quote ∧
          pool.1.toNat * pool.2.toNat ≤ base.toNat * quote.toNat) := by
  obtain ⟨bps, pool, net, curve_total, budget_left, base_out, leg_total, quote_in, fee, creator_fee,
    fee₂, hbps, hnet, hwith_fees, hleft, hpool, hleg, hsplit, htokens, -, hout⟩ :=
    buy_v3_token_amount_leg h hleg
  refine ⟨bps, pool, net, curve_total, budget_left, base_out, leg_total, quote_in, fee, creator_fee,
    fee₂, hbps, hnet, hwith_fees, hleft, hpool, hleg, hsplit, htokens, fun hfits => ?_⟩
  obtain ⟨-, -, -, hbase_pos, hquote_pos⟩ := pool_to_be_eq_ok_iff.mp hpool
  have hout_lt : base_out.toNat < pool.1.toNat := hout ▸ swapOut_lt hquote_pos hbase_pos
  obtain ⟨base, quote, hopens, hbase, hquote⟩ :=
    estimated_reserves_completed hsupply hpool hout_lt hfits
  refine ⟨base, quote, hopens, hbase, hquote, U64.pos_iff.mpr (by omega), U64.pos_iff.mpr (by omega), ?_⟩
  have hproduct := mul_le_mul_of_le_swapOut (Nat.sub_le quote_in.toNat 1) hout.le
  rw [← hquote, show pool.1.toNat - base_out.toNat = base.toNat by omega] at hproduct
  rwa [Nat.mul_comm pool.1.toNat, Nat.mul_comm base.toNat]

end

/-- 150 of quote complete the launch curve and trade on in its pool. -/
theorem estimated_reserves_after_leg_launch :
    letI : Build := ⟨true⟩
    ∃ net base_out quote_in base quote : UInt64,
      buy_quote launchCurve launchCurve.real_token_reserves = .ok net ∧
      estimated_reserves launchGlobal (completedCurve launchCurve net base_out quote_in) =
        .ok (base, quote) ∧ 0 < base ∧ 0 < quote := by
  let _ : Build := ⟨true⟩
  obtain ⟨bps, pool, net, curve_total, budget_left, base_out, leg_total, quote_in, fee, creator_fee,
    fee₂, hbps, hnet, -, hleft, -, -, hsplit, -, hopens⟩ :=
    estimated_reserves_after_leg launchGlobal launchFees launchCurve 0 1_000_000_000_000_000
      150_000_000_000 880_999_435_653_100 150_000_000_000 (by decide) (by decide +kernel) (by decide)
  obtain ⟨-, -, -, hquote_in⟩ := exact_in_fee_amounts_curve_ok hsplit
  rw [U64.checked_sub_eq_some_iff] at hleft
  have hsol : UInt64.toNat 150_000_000_000 = 150_000_000_000 := rfl
  have hprice : buy_quote launchCurve launchCurve.real_token_reserves = .ok 85_005_359_057 := by
    decide +kernel
  have hnet_eq : net.toNat = 85_005_359_057 :=
    congrArg UInt64.toNat (Except.ok.inj (hnet.symm.trans hprice))
  have hraised : launchCurve.real_quote_reserves.toNat = 0 := rfl
  obtain ⟨base, quote, hreserves, -, -, hbase, hquote, -⟩ := hopens (by omega)
  exact ⟨net, base_out, quote_in, base, quote, hnet, hreserves, hbase, hquote⟩

end pump_rust_client.sdk
