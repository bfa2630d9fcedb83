import PumpClient.Math.BondingCurve.Quoters

open machine exchange

namespace pump_rust_client.math.bonding_curve

open state utils fees

theorem sell_quote_eq (virtual_sol_reserves amount : UInt64) {virtual_token_reserves : UInt64}
    (hvt : 0 < virtual_token_reserves.toNat) :
    sell_quote virtual_sol_reserves virtual_token_reserves amount =
      .ok (swapOut amount.toNat virtual_token_reserves.toNat virtual_sol_reserves.toNat) := by
  have ha := U64.toNat_lt amount
  have ht := U64.toNat_lt virtual_token_reserves
  rw [sell_quote, U128.checked_add_of_lt (by omega), Outcome.ok_or_some, Outcome.ok_bind,
    utils.mul_div_u128_eq (U128.mul_lt ha (U64.toNat_lt _)) (by omega), swapOut]

theorem buy_token_quote_with_sol_eq (virtual_token_reserves sol_amount : UInt64)
    {virtual_sol_reserves : UInt64} (hvq : 0 < virtual_sol_reserves.toNat) :
    buy_token_quote_with_sol virtual_sol_reserves virtual_token_reserves sol_amount =
      .ok (swapOut sol_amount.toNat virtual_sol_reserves.toNat virtual_token_reserves.toNat) := by
  have ha := U64.toNat_lt sol_amount
  have hs := U64.toNat_lt virtual_sol_reserves
  rw [buy_token_quote_with_sol, U128.checked_add_of_lt (by omega), Outcome.ok_or_some, Outcome.ok_bind,
    utils.mul_div_u128_eq (U128.mul_lt ha (U64.toNat_lt _)) (by omega), swapOut]

/-- The swap of an input less its fees fits the machine. -/
theorem swap_whole_net_eq (s : FeeSchedule) (amount_in : UInt64) {in_reserve : UInt64}
    (out_reserve : UInt64) (hpos : 0 < in_reserve.toNat) :
    swap_exact_input (s.wholeNet amount_in.toNat - 1) in_reserve.toNat out_reserve.toNat =
      .ok (swapOut (s.wholeNet amount_in.toNat - 1) in_reserve.toNat out_reserve.toNat) := by
  have hin := U64.toNat_lt amount_in
  have hwhole := s.wholeNet_le amount_in.toNat
  exact utils.swap_exact_input_eq (by omega) (U64.toNat_lt _) (U64.toNat_lt _) hpos

section

variable [Build] {global : Global} {fee_config : FeeConfig} {bonding_curve : BondingCurve}
  {mint_supply base_ata_amount amount_in : UInt64} {user : Pubkey} {flags : UInt8}
  {rates : UInt64 × UInt64}

/-- What a curve hop has checked and read before it prices: a curve open to it,
    not in mayhem mode, and the rates it charges some of. -/
structure CurveVenue (global : Global) (fee_config : FeeConfig) (bonding_curve : BondingCurve)
    (mint_supply : UInt64) (flags : UInt8) (rates : UInt64 × UInt64) : Prop where
  opened : check_curve_open bonding_curve (!(flags &&& HOP_FEE_CREATOR != 0)) = .ok ()
  mayhem : bonding_curve.is_mayhem_mode = false
  charged : curve_fee_bps global fee_config bonding_curve mint_supply = .ok rates

/-- A hop that returns has found its venue. -/
theorem multi_hop_curve_hop_venue {is_buy : Bool} {out : UInt64}
    (h : multi_hop_curve_hop global fee_config bonding_curve mint_supply base_ata_amount user is_buy
      amount_in flags = .ok out) :
    ∃ rates, CurveVenue global fee_config bonding_curve mint_supply flags rates := by
  unfold multi_hop_curve_hop at h
  obtain ⟨⟨⟩, hopen, h⟩ := Outcome.bind_eq_ok_iff.mp h
  split at h
  · simp at h
  next hmayhem =>
  obtain ⟨rates, hrates, -⟩ := Outcome.bind_eq_ok_iff.mp h
  exact ⟨rates, hopen, by simpa using hmayhem, hrates⟩

/-- A sell hop pays the swap less the charged fees, when anything is left. -/
theorem CurveVenue.sell_eq
    (venue : CurveVenue global fee_config bonding_curve mint_supply flags rates)
    (hvt : 0 < bonding_curve.virtual_token_reserves.toNat) {gross : Nat}
    (hgross : gross = swapOut amount_in.toNat bonding_curve.virtual_token_reserves.toNat
      bonding_curve.virtual_quote_reserves.toNat) :
    multi_hop_curve_hop global fee_config bonding_curve mint_supply base_ata_amount user false
        amount_in flags =
      if (curveSchedule (hop_fee_bps flags rates)).fees gross < gross then
        .ok (U64.cast (gross - (curveSchedule (hop_fee_bps flags rates)).fees gross))
      else Outcome.err .ZeroAmount := by
  have hle := swapOut_le amount_in.toNat bonding_curve.virtual_token_reserves.toNat
    bonding_curve.virtual_quote_reserves.toNat
  have hvq := U64.toNat_lt bonding_curve.virtual_quote_reserves
  have hgross_lt : gross < 2 ^ 64 := by omega
  have hp := fee_lt hgross_lt (hop_fee_bps flags rates).1
  have hc := fee_lt hgross_lt (hop_fee_bps flags rates).2
  have hfees := curveSchedule_fees (hop_fee_bps flags rates) gross
  unfold multi_hop_curve_hop
  dsimp only
  rw [venue.opened, Outcome.ok_bind, if_neg (by simp [venue.mayhem]), venue.charged, Outcome.ok_bind,
    if_pos (by rfl : (!false) = true), sell_quote_eq _ _ hvt, ← hgross, Outcome.ok_bind, fee_amount_of_lt hgross_lt, Outcome.ok_bind,
    fee_amount_of_lt hgross_lt, Outcome.ok_bind, U128.add_eq_ok (by omega), Outcome.ok_bind, ← hfees,
    U128.checked_sub_filter_pos]
  split
  · rw [Outcome.ok_or_some, Outcome.ok_bind, U64.try_from_of_lt (by omega), Outcome.ok_or_some]
  · rw [Outcome.ok_or_none, Outcome.err_bind]

/-- A buy hop swaps the whole input less its fees, rounding remainder
    included. -/
theorem CurveVenue.buy_eq
    (venue : CurveVenue global fee_config bonding_curve mint_supply flags rates)
    {bps : UInt64 × UInt64} (hbps : bps = hop_fee_bps flags rates) :
    multi_hop_curve_hop global fee_config bonding_curve mint_supply base_ata_amount user true
        amount_in flags =
      if (curveSchedule bps).net amount_in.toNat = 0 then Outcome.err .ZeroAmount
      else (do
        let tokens ← swap_exact_input ((curveSchedule bps).wholeNet amount_in.toNat - 1)
          bonding_curve.virtual_quote_reserves.toNat bonding_curve.virtual_token_reserves.toNat
        if tokens = 0 then Outcome.err .ZeroAmount
        else if tokens ≤ bonding_curve.real_token_reserves.toNat then .ok (U64.cast tokens)
        else if user = global.whitelist_pda then Outcome.err .PostCompleteLegNotAllowed
        else do
          let curve_net ← buy_quote bonding_curve bonding_curve.real_token_reserves
          match (U128.checked_sub amount_in.toNat (← with_fees curve_net bps)).filter (0 < ·) with
          | none => .ok bonding_curve.real_token_reserves
          | some left =>
            let pool ← pool_to_be global bonding_curve base_ata_amount
              (is_sol_like_quote_mint bonding_curve.quote_mint) bonding_curve.real_token_reserves
              curve_net
            let leg ← post_complete_leg_exact_quote pool bps (U64.cast left) true
            U64.add bonding_curve.real_token_reserves (leg.elim 0 Prod.fst)) := by
  have hin := U64.toNat_lt amount_in
  unfold multi_hop_curve_hop
  dsimp only
  rw [venue.opened, Outcome.ok_bind, if_neg (by simp [venue.mayhem]), venue.charged, Outcome.ok_bind,
    if_neg (by decide : ¬(!true) = true), ← hbps]
  rcases Nat.eq_zero_or_pos ((curveSchedule bps).net amount_in.toNat) with hzero | hpos
  · rw [if_pos hzero, exact_in_fee_amounts_zero hzero, Outcome.err_bind]
  obtain ⟨net, fee, creator_fee, fee₂, hsplit⟩ :=
    exact_in_fee_amounts_curve_exists bps hpos
  obtain ⟨-, hnet, hfees, hle⟩ := exact_in_fee_amounts_curve_ok hsplit
  have hsum : (fee + creator_fee).toNat = fee.toNat + creator_fee.toNat :=
    U64.toNat_add_of_lt (by omega)
  have hwhole : (curveSchedule bps).wholeNet amount_in.toNat =
      amount_in.toNat - (fee.toNat + creator_fee.toNat) := by rw [hfees]; rfl
  have hsub : (amount_in - (fee + creator_fee)).toNat =
      (curveSchedule bps).wholeNet amount_in.toNat := by
    rw [U64.toNat_sub_of_le (by omega), hwhole, hsum]
  rw [if_neg hpos.ne', hsplit, Outcome.ok_bind]
  dsimp only
  rw [U64.add_eq_ok (by omega), Outcome.ok_bind, U64.checked_sub_filter_pos, if_pos (by omega),
    Outcome.ok_or_some, Outcome.ok_bind, hsub, U128.sub_eq_ok (by omega) (by omega)]
  exact Outcome.ok_bind _ _

/-- An input that nets nothing buys nothing. -/
theorem CurveVenue.buy_zero
    (venue : CurveVenue global fee_config bonding_curve mint_supply flags rates)
    (hnet : (curveSchedule (hop_fee_bps flags rates)).net amount_in.toNat = 0) :
    multi_hop_curve_hop global fee_config bonding_curve mint_supply base_ata_amount user true
      amount_in flags = Outcome.err .ZeroAmount := by
  rw [venue.buy_eq rfl, if_pos hnet]

/-- A buy hop that returns nets something of its input. -/
theorem CurveVenue.buy_net_pos {out : UInt64}
    (venue : CurveVenue global fee_config bonding_curve mint_supply flags rates)
    (h : multi_hop_curve_hop global fee_config bonding_curve mint_supply base_ata_amount user true
      amount_in flags = .ok out) :
    0 < (curveSchedule (hop_fee_bps flags rates)).net amount_in.toNat := by
  by_contra hnot
  rw [venue.buy_zero (Nat.eq_zero_of_not_pos hnot)] at h
  simp at h

/-- Only a positive output is an output. -/
theorem CurveVenue.sell_ok_iff {out : UInt64}
    (venue : CurveVenue global fee_config bonding_curve mint_supply flags rates)
    (hvt : 0 < bonding_curve.virtual_token_reserves.toNat) {gross : Nat}
    (hgross : gross = swapOut amount_in.toNat bonding_curve.virtual_token_reserves.toNat
      bonding_curve.virtual_quote_reserves.toNat) :
    multi_hop_curve_hop global fee_config bonding_curve mint_supply base_ata_amount user false
        amount_in flags = .ok out ↔
      out.toNat + (curveSchedule (hop_fee_bps flags rates)).fees gross = gross ∧ 0 < out.toNat := by
  have hle := swapOut_le amount_in.toNat bonding_curve.virtual_token_reserves.toNat
    bonding_curve.virtual_quote_reserves.toNat
  have hvq := U64.toNat_lt bonding_curve.virtual_quote_reserves
  rw [venue.sell_eq hvt hgross]
  constructor
  · intro h
    split at h
    · next hfees =>
      cases h
      rw [U64.toNat_cast_of_lt (by omega)]
      omega
    · simp at h
  · rintro ⟨hout, hpos⟩
    rw [if_pos (by omega)]
    refine congrArg Except.ok (UInt64.toNat_inj.mp ?_)
    rw [U64.toNat_cast_of_lt (by omega)]
    omega

/-- A direct sell that pays out sold something, at the rates it read. -/
theorem sell_sol_amount_pos {out : UInt64}
    (h : sell_sol_amount_from_token_amount global fee_config bonding_curve mint_supply amount_in =
      .ok out) (hpos : 0 < out.toNat) :
    0 < amount_in.toNat ∧
      ∃ rates, curve_fee_bps global fee_config bonding_curve mint_supply = .ok rates := by
  unfold sell_sol_amount_from_token_amount at h
  split at h
  · cases h
    exact absurd hpos (by decide)
  next hne =>
  rw [not_or] at hne
  obtain ⟨_, -, h⟩ := Outcome.bind_eq_ok_iff.mp h
  obtain ⟨_, -, h⟩ := Outcome.bind_eq_ok_iff.mp h
  obtain ⟨_, -, h⟩ := Outcome.bind_eq_ok_iff.mp h
  obtain ⟨fee, hfee, -⟩ := Outcome.bind_eq_ok_iff.mp h
  obtain ⟨rates, hrates, -⟩ := Outcome.bind_eq_ok_iff.mp hfee
  exact ⟨U64.ne_zero_iff.mp hne.1, rates, hrates⟩

/-- A direct sell pays the swap less its fees, or refuses when they exceed it:
    past its rates it neither overflows nor panics. -/
theorem sell_sol_amount_eq (hvt : 0 < bonding_curve.virtual_token_reserves.toNat)
    (hin : 0 < amount_in.toNat) {gross : Nat}
    (hgross : gross = swapOut amount_in.toNat bonding_curve.virtual_token_reserves.toNat
      bonding_curve.virtual_quote_reserves.toNat) :
    sell_sol_amount_from_token_amount global fee_config bonding_curve mint_supply amount_in =
      curve_fee_bps global fee_config bonding_curve mint_supply >>= fun rates =>
        if gross < (curveSchedule rates).fees gross then Outcome.err .FeesExceedOutput
        else .ok (U64.cast (gross - (curveSchedule rates).fees gross)) := by
  have hle := swapOut_le amount_in.toNat bonding_curve.virtual_token_reserves.toNat
    bonding_curve.virtual_quote_reserves.toNat
  have hvq := U64.toNat_lt bonding_curve.virtual_quote_reserves
  have hvt_lt := U64.toNat_lt bonding_curve.virtual_token_reserves
  have hin_lt := U64.toNat_lt amount_in
  have hproduct := U128.mul_lt hin_lt hvq
  have hgross_lt : gross < 2 ^ 64 := by omega
  have hswap : amount_in.toNat * bonding_curve.virtual_quote_reserves.toNat /
      (bonding_curve.virtual_token_reserves.toNat + amount_in.toNat) = gross := hgross.symm
  unfold sell_sol_amount_from_token_amount
  rw [if_neg (not_or.mpr ⟨U64.ne_zero_iff.mpr hin, U64.ne_zero_iff.mpr hvt⟩), U128.mul_eq_ok hproduct,
    Outcome.ok_bind, U128.add_eq_ok (by omega), Outcome.ok_bind, U128.div_eq_ok (by omega),
    Outcome.ok_bind, hswap]
  cases hrates : curve_fee_bps global fee_config bonding_curve mint_supply with
  | error e => rw [fee_for_quote, hrates, Outcome.error_bind, Outcome.error_bind, Outcome.error_bind]
  | ok rates =>
    have hfees_lt : (curveSchedule rates).fees gross < 2 ^ 118 :=
      lt_of_le_of_lt (Nat.le_add_left _ _) (curveSchedule_gross_lt rates hgross_lt)
    have hgross_val := I128.cast_val_of_lt (n := gross) (by omega)
    have hfees_val := I128.cast_val_of_lt (n := (curveSchedule rates).fees gross) (by omega)
    have hleft : I128.sub (I128.cast gross) (I128.cast ((curveSchedule rates).fees gross)) =
        (.ok ⟨(gross : Int) - (curveSchedule rates).fees gross, by omega⟩ : QuoteResult I128) := by
      apply I128.sub_eq_ok
      rw [hgross_val, hfees_val]
    rw [fee_for_quote_eq hrates hgross_lt, Outcome.ok_bind, hleft, Outcome.ok_bind, Outcome.ok_bind]
    dsimp only
    by_cases hexceed : gross < (curveSchedule rates).fees gross
    · rw [if_pos (by omega), if_pos hexceed]
    · rw [if_neg (by omega), if_neg hexceed, U128.sub_eq_ok (by omega) (by omega), Outcome.ok_bind]

/-- The direct sell on the curve, on the same swap. -/
theorem sell_sol_amount_ok_iff {out : UInt64}
    (hrates : curve_fee_bps global fee_config bonding_curve mint_supply = .ok rates)
    (hvt : 0 < bonding_curve.virtual_token_reserves.toNat) (hin : 0 < amount_in.toNat) {gross : Nat}
    (hgross : gross = swapOut amount_in.toNat bonding_curve.virtual_token_reserves.toNat
      bonding_curve.virtual_quote_reserves.toNat) :
    sell_sol_amount_from_token_amount global fee_config bonding_curve mint_supply amount_in = .ok out ↔
      out.toNat + (curveSchedule rates).fees gross = gross := by
  have hle := swapOut_le amount_in.toNat bonding_curve.virtual_token_reserves.toNat
    bonding_curve.virtual_quote_reserves.toNat
  have hvq := U64.toNat_lt bonding_curve.virtual_quote_reserves
  rw [sell_sol_amount_eq hvt hin hgross, hrates, Outcome.ok_bind]
  split
  · simp only [Outcome.err_ne_ok, false_iff]
    omega
  · rw [Except.ok.injEq]
    constructor
    · rintro rfl
      rw [U64.toNat_cast_of_lt (by omega)]
      omega
    · intro hout
      refine UInt64.toNat_inj.mp ?_
      rw [U64.toNat_cast_of_lt (by omega)]
      omega

/-- The tokens of a buy hop that stays inside the curve. -/
theorem CurveVenue.buy_inside
    (venue : CurveVenue global fee_config bonding_curve mint_supply flags rates)
    (hnet : 0 < (curveSchedule (hop_fee_bps flags rates)).net amount_in.toNat) {tokens : Nat}
    (htokens : swap_exact_input
      ((curveSchedule (hop_fee_bps flags rates)).wholeNet amount_in.toNat - 1)
      bonding_curve.virtual_quote_reserves.toNat bonding_curve.virtual_token_reserves.toNat =
      .ok tokens)
    (hinside : tokens ≤ bonding_curve.real_token_reserves.toNat) :
    multi_hop_curve_hop global fee_config bonding_curve mint_supply base_ata_amount user true
        amount_in flags =
      if tokens = 0 then Outcome.err .ZeroAmount else .ok (U64.cast tokens) := by
  rw [venue.buy_eq rfl, if_neg hnet.ne', htokens, Outcome.ok_bind,
    if_pos hinside]

/-- The leg of a completing hop always returns, and its tokens fit what the
    curve leaves of the base ATA. -/
theorem hop_leg_eq {net budget : UInt64} {bps pool : UInt64 × UInt64} {is_legacy : Bool}
    (hpool : pool_to_be global bonding_curve base_ata_amount is_legacy
      bonding_curve.real_token_reserves net = .ok pool) :
    (do
      let leg ← post_complete_leg_exact_quote pool bps budget true
      U64.add bonding_curve.real_token_reserves (leg.elim 0 Prod.fst)) =
      .ok (U64.cast (bonding_curve.real_token_reserves.toNat +
        swapOut (legQuoteIn bps budget.toNat true - 1) pool.2.toNat pool.1.toNat)) := by
  obtain ⟨hbase, -, -, hbase_pos, hquote_pos⟩ := pool_to_be_eq_ok_iff.mp hpool
  have hbase_lt := U64.toNat_lt base_ata_amount
  have hout := swapOut_le (legQuoteIn bps budget.toNat true - 1) pool.2.toNat pool.1.toNat
  rw [post_complete_leg_exact_quote_eq _ _ _ _ hquote_pos]
  split
  · next hzero =>
    rw [hzero, Outcome.ok_bind]
    exact U64.add_cast_eq_ok (a := bonding_curve.real_token_reserves) (n := 0) (by omega)
  · rw [Outcome.ok_bind]
    exact U64.add_cast_eq_ok (by omega)

/-- A buy hop that crosses the end of the curve pays for the remaining supply
    and takes the rest of its input to the pool it opens. -/
theorem CurveVenue.buy_crossing
    (venue : CurveVenue global fee_config bonding_curve mint_supply flags rates)
    (hnet : 0 < (curveSchedule (hop_fee_bps flags rates)).net amount_in.toNat) {tokens : Nat}
    (htokens : swap_exact_input
      ((curveSchedule (hop_fee_bps flags rates)).wholeNet amount_in.toNat - 1)
      bonding_curve.virtual_quote_reserves.toNat bonding_curve.virtual_token_reserves.toNat =
      .ok tokens)
    (hcross : bonding_curve.real_token_reserves.toNat < tokens) {curve_net : UInt64} {total : Nat}
    (hcurve : buy_quote bonding_curve bonding_curve.real_token_reserves = .ok curve_net)
    (htotal : with_fees curve_net (hop_fee_bps flags rates) = .ok total)
    (hlt : total < amount_in.toNat) :
    multi_hop_curve_hop global fee_config bonding_curve mint_supply base_ata_amount user true
        amount_in flags =
      if user = global.whitelist_pda then Outcome.err .PostCompleteLegNotAllowed
      else (do
        let pool ← pool_to_be global bonding_curve base_ata_amount
          (is_sol_like_quote_mint bonding_curve.quote_mint) bonding_curve.real_token_reserves
          curve_net
        .ok (U64.cast (bonding_curve.real_token_reserves.toNat +
          swapOut (legQuoteIn (hop_fee_bps flags rates) (amount_in.toNat - total) true - 1)
            pool.2.toNat pool.1.toNat))) := by
  have hin := U64.toNat_lt amount_in
  rw [venue.buy_eq rfl, if_neg hnet.ne', htokens, Outcome.ok_bind,
    if_neg (by omega), if_neg (by omega), hcurve, Outcome.ok_bind, htotal, Outcome.ok_bind,
    U128.checked_sub_filter_pos, if_pos hlt]
  dsimp only
  split
  · rfl
  rcases hpool : pool_to_be global bonding_curve base_ata_amount
    (is_sol_like_quote_mint bonding_curve.quote_mint) bonding_curve.real_token_reserves curve_net
    with e | pool
  · rfl
  · rw [Outcome.ok_bind, Outcome.ok_bind, hop_leg_eq hpool, U64.toNat_cast_of_lt (by omega)]

/-- A crossing hop that returns sells the remaining supply, alone or, when its
    input covers more, with what its leg buys. -/
theorem CurveVenue.buy_crossing_ok {out : UInt64}
    (venue : CurveVenue global fee_config bonding_curve mint_supply flags rates)
    (hnet : 0 < (curveSchedule (hop_fee_bps flags rates)).net amount_in.toNat) {tokens : Nat}
    (htokens : swap_exact_input
      ((curveSchedule (hop_fee_bps flags rates)).wholeNet amount_in.toNat - 1)
      bonding_curve.virtual_quote_reserves.toNat bonding_curve.virtual_token_reserves.toNat =
      .ok tokens)
    (hcross : bonding_curve.real_token_reserves.toNat < tokens)
    (h : multi_hop_curve_hop global fee_config bonding_curve mint_supply base_ata_amount user true
      amount_in flags = .ok out) :
    ∃ curve_net, buy_quote bonding_curve bonding_curve.real_token_reserves = .ok curve_net ∧
      (amount_in.toNat ≤ (curveSchedule (hop_fee_bps flags rates)).gross curve_net.toNat ∧
          out = bonding_curve.real_token_reserves ∨
        (curveSchedule (hop_fee_bps flags rates)).gross curve_net.toNat < amount_in.toNat ∧
          ∃ pool, pool_to_be global bonding_curve base_ata_amount
              (is_sol_like_quote_mint bonding_curve.quote_mint) bonding_curve.real_token_reserves
              curve_net = .ok pool ∧
            out.toNat = bonding_curve.real_token_reserves.toNat +
              swapOut (legQuoteIn (hop_fee_bps flags rates) (amount_in.toNat -
                (curveSchedule (hop_fee_bps flags rates)).gross curve_net.toNat) true - 1)
                pool.2.toNat pool.1.toNat) := by
  have hin := U64.toNat_lt amount_in
  have htrace := h
  rw [venue.buy_eq rfl, if_neg hnet.ne', htokens, Outcome.ok_bind,
    if_neg (by omega), if_neg (by omega)] at htrace
  split at htrace
  · simp at htrace
  next huser =>
  obtain ⟨curve_net, hcurve, htrace⟩ := Outcome.bind_eq_ok_iff.mp htrace
  have htotal := with_fees_eq curve_net (hop_fee_bps flags rates)
  refine ⟨curve_net, hcurve, ?_⟩
  by_cases hlt : (curveSchedule (hop_fee_bps flags rates)).gross curve_net.toNat < amount_in.toNat
  · right
    refine ⟨hlt, ?_⟩
    rw [venue.buy_crossing hnet htokens hcross hcurve htotal hlt,
      if_neg huser] at h
    obtain ⟨pool, hpool, h⟩ := Outcome.bind_eq_ok_iff.mp h
    obtain ⟨hbase, -, -, -, -⟩ := pool_to_be_eq_ok_iff.mp hpool
    have hbase_lt := U64.toNat_lt base_ata_amount
    have hout := swapOut_le (legQuoteIn (hop_fee_bps flags rates) (amount_in.toNat -
      (curveSchedule (hop_fee_bps flags rates)).gross curve_net.toNat) true - 1)
      pool.2.toNat pool.1.toNat
    cases h
    exact ⟨pool, hpool, U64.toNat_cast_of_lt (by omega)⟩
  · left
    rw [htotal, Outcome.ok_bind, U128.checked_sub_filter_pos, if_neg hlt] at htrace
    exact ⟨not_lt.mp hlt, (Except.ok.inj htrace).symm⟩

/-- A buy hop within the real reserve gives at most what its whole net swaps
    for. -/
theorem multi_hop_curve_hop_buy_le {out : UInt64}
    (hvq : 0 < bonding_curve.virtual_quote_reserves.toNat)
    (hinside : out ≤ bonding_curve.real_token_reserves)
    (h : multi_hop_curve_hop global fee_config bonding_curve mint_supply base_ata_amount user true
      amount_in flags = .ok out) :
    ∃ net, net ≤ amount_in.toNat ∧ out.toNat ≤ swapOut (net - 1)
      bonding_curve.virtual_quote_reserves.toNat bonding_curve.virtual_token_reserves.toNat := by
  obtain ⟨rates, venue⟩ := multi_hop_curve_hop_venue h
  have hin := U64.toNat_lt amount_in
  have hreal := U64.toNat_lt bonding_curve.real_token_reserves
  have hnet := venue.buy_net_pos h
  have htokens := swap_whole_net_eq (curveSchedule (hop_fee_bps flags rates)) amount_in
    bonding_curve.virtual_token_reserves hvq
  refine ⟨_, FeeSchedule.wholeNet_le (s := curveSchedule (hop_fee_bps flags rates)) _, ?_⟩
  by_cases hle : swapOut ((curveSchedule (hop_fee_bps flags rates)).wholeNet amount_in.toNat - 1)
    bonding_curve.virtual_quote_reserves.toNat bonding_curve.virtual_token_reserves.toNat ≤
    bonding_curve.real_token_reserves.toNat
  · rw [venue.buy_inside hnet htokens hle] at h
    split at h
    · simp at h
    cases h
    rw [U64.toNat_cast_of_lt (by omega)]
  · exact (UInt64.le_iff_toNat_le.mp hinside).trans (not_le.mp hle).le

end

end pump_rust_client.math.bonding_curve
