import PumpClient.Sdk.CurveRuns
import PumpClient.Sdk.Migration

open machine exchange Relation

namespace pump_rust_client.sdk

open state math math.utils math.fees math.bonding_curve

/-- How a curve graduates on a buy of `sol_amount`: the buy takes the remainder
    for `net` and `base_out` more for `quote_in` from the pool it opens, and the
    completed curve's estimate opens on all that is in its books, the migration fee
    of a SOL-like curve apart. -/
structure Graduates [Build] (global : Global) (fee_config : FeeConfig)
    (bonding_curve : BondingCurve) (mint_supply base_ata_amount sol_amount : UInt64)
    (pool : UInt64 × UInt64) (net base_out quote_in tokens charged base quote : UInt64) : Prop where
  price : buy_quote bonding_curve bonding_curve.real_token_reserves = .ok net
  opens : pool_to_be global bonding_curve base_ata_amount
    (is_sol_like_quote_mint bonding_curve.quote_mint) bonding_curve.real_token_reserves net = .ok pool
  buys : buy_v3_token_amount_from_sol_amount global fee_config bonding_curve mint_supply
    base_ata_amount sol_amount = .ok (tokens, charged)
  tokens_eq : tokens.toNat = bonding_curve.real_token_reserves.toNat + base_out.toNat
  leg : base_out.toNat = swapOut (quote_in.toNat - 1) pool.2.toNat pool.1.toNat
  charged_le : net.toNat + quote_in.toNat ≤ charged.toNat ∧ charged.toNat ≤ sol_amount.toNat
  estimate : estimated_reserves global (completedCurve bonding_curve net base_out quote_in) =
    .ok (base, quote)
  base_eq : base.toNat + base_out.toNat + global.initial_real_token_reserves.toNat =
    bonding_curve.token_total_supply.toNat
  quote_eq : quote.toNat +
      (if is_sol_like_quote_mint bonding_curve.quote_mint then global.pool_migration_fee.toNat
        else 0) =
    bonding_curve.real_quote_reserves.toNat + net.toNat + quote_in.toNat

section

variable [Build] {s s' : TradedCurve}

/-- A trade moves the four reserves and nothing else. -/
theorem Trade.frame (htrade : Trade s s') : s'.curve = { s.curve with
    virtual_quote_reserves := s'.curve.virtual_quote_reserves
    real_quote_reserves := s'.curve.real_quote_reserves
    virtual_token_reserves := s'.curve.virtual_token_reserves
    real_token_reserves := s'.curve.real_token_reserves } := by
  cases htrade with
  | buy_exact_in => rfl
  | buy_exact_out => rfl
  | sell => rfl

theorem trades_frame (hrun : ReflTransGen Trade s s') : s'.curve = { s.curve with
    virtual_quote_reserves := s'.curve.virtual_quote_reserves
    real_quote_reserves := s'.curve.real_quote_reserves
    virtual_token_reserves := s'.curve.virtual_token_reserves
    real_token_reserves := s'.curve.real_token_reserves } := by
  induction hrun with
  | refl => rfl
  | tail _ htrade ih =>
    rw [htrade.frame, ih]

variable {global : Global} {fee_config : FeeConfig} {bonding_curve : BondingCurve}
  {mint_supply base_ata_amount : UInt64} {bps : UInt64 × UInt64}

/-- A curve whose raise covers the migration fee graduates on any budget that
    buys past its remainder. -/
theorem graduates_of_crossing {sol_amount : UInt64}
    (hopen : check_curve_open bonding_curve false = .ok ())
    (hmayhem : bonding_curve.is_mayhem_mode = false)
    (priced : Priced global fee_config bonding_curve mint_supply bps)
    (hremaining : 0 < bonding_curve.real_token_reserves.toNat)
    (hcross : bonding_curve.real_token_reserves.toNat <
      (quoter bonding_curve bps).out sol_amount.toNat)
    (hsupply : base_ata_amount.toNat + global.initial_real_token_reserves.toNat =
      bonding_curve.token_total_supply.toNat + bonding_curve.real_token_reserves.toNat)
    (hpool_base : global.initial_real_token_reserves < bonding_curve.token_total_supply)
    (hfee : is_sol_like_quote_mint bonding_curve.quote_mint = true →
      global.pool_migration_fee.toNat < bonding_curve.real_quote_reserves.toNat +
        (swapInFloor bonding_curve.real_token_reserves.toNat
          bonding_curve.virtual_quote_reserves.toNat
          bonding_curve.virtual_token_reserves.toNat + 1))
    (hfits : bonding_curve.real_quote_reserves.toNat + sol_amount.toNat < 2 ^ 64) :
    ∃ pool net base_out quote_in tokens charged base quote,
      Graduates global fee_config bonding_curve mint_supply base_ata_amount sol_amount pool net
        base_out quote_in tokens charged base quote := by
  have hsol := U64.toNat_lt sol_amount
  have hbase_nat := UInt64.lt_iff_toNat_lt.mp hpool_base
  obtain ⟨net, curve_total, budget_left, hnet, hwith_fees, hcost, hleft, -⟩ :=
    completing_price (U64.pos_iff.mp priced.quote_pos) hremaining hcross
  obtain ⟨-, -, hprice⟩ := buy_quote_eq_ok_iff.mp hnet
  rw [with_fees_eq] at hwith_fees
  have hnet_le : net.toNat ≤ curve_total.toNat := Except.ok.inj hwith_fees ▸ Nat.le_add_right _ _
  have hbudget := U64.checked_sub_eq_some_iff.mp hleft
  rw [← hprice] at hfee
  -- the raise and the unsold supply are there to open the pool with
  have hopens : ∃ pool, pool_to_be global bonding_curve base_ata_amount
      (is_sol_like_quote_mint bonding_curve.quote_mint) bonding_curve.real_token_reserves net =
      .ok pool := by
    have hbase := U64.toNat_lt base_ata_amount
    let base := base_ata_amount.toNat - bonding_curve.real_token_reserves.toNat
    let fee := if is_sol_like_quote_mint bonding_curve.quote_mint then
      global.pool_migration_fee.toNat else 0
    have hfee_lt : fee < bonding_curve.real_quote_reserves.toNat + net.toNat := by
      by_cases hsol_like : is_sol_like_quote_mint bonding_curve.quote_mint = true
      · simpa [fee, hsol_like] using hfee hsol_like
      · simp only [fee, hsol_like, Bool.false_eq_true, if_false]
        omega
    refine ⟨(U64.cast base, U64.cast (bonding_curve.real_quote_reserves.toNat + net.toNat - fee)),
      pool_to_be_eq_ok_iff.mpr ?_⟩
    rw [U64.toNat_cast_of_lt (n := base) (by omega), U64.toNat_cast_of_lt (by omega)]
    omega
  obtain ⟨pool, hpool⟩ := hopens
  obtain ⟨hpool_base_eq, hpool_quote_eq, -, -, -⟩ := pool_to_be_eq_ok_iff.mp hpool
  have hbuys : buy_v3_token_amount_from_sol_amount global fee_config bonding_curve mint_supply
      base_ata_amount sol_amount = _ := buy_v3_token_amount_crossing hopen priced hcross hnet
  have hleft_eq : sol_amount.toNat - (quoter bonding_curve bps).cost
      bonding_curve.real_token_reserves.toNat = budget_left.toNat := by omega
  have hout_lt := leg_out_lt bps hpool budget_left.toNat
  rw [if_neg (by simp [hmayhem]), hpool, Outcome.ok_bind, Quoter.glue_out_of_lt hcross,
    Quoter.glue_charge_of_lt hcross, hleft_eq, ← hcost] at hbuys
  have hbase_lt := U64.toNat_lt base_ata_amount
  have hout := U64.toNat_cast_of_lt (n := (legQuoter pool bps).out budget_left.toNat) (by omega)
  have htokens := U64.toNat_cast_of_lt (n := bonding_curve.real_token_reserves.toNat +
    (legQuoter pool bps).out budget_left.toNat) (by omega)
  -- what the leg puts into the pool, none where it buys nothing
  obtain ⟨quote_in, hquote_in, hcharge⟩ : ∃ quote_in : UInt64,
      (legQuoter pool bps).out budget_left.toNat =
        swapOut (quote_in.toNat - 1) pool.2.toNat pool.1.toNat ∧
      quote_in.toNat ≤ (if 0 < (legQuoter pool bps).out budget_left.toNat then
        (legQuoter pool bps).charge budget_left.toNat else 0) := by
    rcases Nat.eq_zero_or_pos ((legQuoter pool bps).out budget_left.toNat) with hnone | hbought
    · refine ⟨0, ?_, Nat.zero_le _⟩
      rw [hnone]
      exact (swapOut_zero _ _).symm
    · have hnet_in := FeeSchedule.net_le (s := curveSchedule bps) budget_left.toNat
      have hin := U64.toNat_cast_of_lt (n := (curveSchedule bps).net budget_left.toNat)
        (hnet_in.trans_lt (U64.toNat_lt _))
      refine ⟨U64.cast ((curveSchedule bps).net budget_left.toNat), ?_, ?_⟩
      · rw [hin]
        rfl
      · rw [hin, if_pos hbought]
        exact Nat.le_add_right _ _
  have hcharge_le : (if 0 < (legQuoter pool bps).out budget_left.toNat then
      (legQuoter pool bps).charge budget_left.toNat else 0) ≤ budget_left.toNat := by
    split
    · next hbought => exact (legQuoter pool bps).charge_le hbought
    · exact Nat.zero_le _
  have hcharged := U64.toNat_cast_of_lt (n := curve_total.toNat +
    (if 0 < (legQuoter pool bps).out budget_left.toNat then
      (legQuoter pool bps).charge budget_left.toNat else 0)) (by omega)
  have hbase_out : (U64.cast ((legQuoter pool bps).out budget_left.toNat)).toNat < pool.1.toNat := by
    omega
  obtain ⟨base, quote, hestimate, hbase, hquote⟩ := estimated_reserves_completed hsupply hpool
    hbase_out (show bonding_curve.real_quote_reserves.toNat + net.toNat + quote_in.toNat < 2 ^ 64 by
      omega)
  refine ⟨pool, net, _, quote_in, _, _, base, quote, hnet, hpool, hbuys, ?_, ?_, ?_, hestimate, ?_, ?_⟩
  · rw [htokens, hout]
  · rw [hout, hquote_in]
  · rw [hcharged]
    omega
  · omega
  · omega

end

end pump_rust_client.sdk
