import PumpClient.Math.BondingCurve.Hop
import PumpClient.Sdk.Payable

open machine exchange

namespace pump_rust_client.sdk

open state state.pump_amm math math.utils math.fees math.bonding_curve math.amm

/-- Both hop flags charge what the direct trade charges. -/
theorem hop_fee_bps_both (rates : UInt64 × UInt64) : hop_fee_bps 3 rates = rates := rfl

theorem check_curve_open_eq_ok {bonding_curve : BondingCurve} (allow_cashback : Bool)
    (hcomplete : bonding_curve.complete = false) (hcashback : bonding_curve.is_cashback_coin = false) :
    check_curve_open bonding_curve allow_cashback = .ok () := by
  simp [check_curve_open, hcomplete, hcashback]

section Curve

variable [Build] {global : Global} {fee_config : FeeConfig} {bonding_curve : BondingCurve}
  {mint_supply base_ata_amount : UInt64} {user : Pubkey}

/-- A sell with both legs charged returns exactly when the direct sell returns
    something. -/
theorem curve_sell_hop_iff {amount out : UInt64} (hcomplete : bonding_curve.complete = false)
    (hmayhem : bonding_curve.is_mayhem_mode = false)
    (hcashback : bonding_curve.is_cashback_coin = false)
    (hvt : 0 < bonding_curve.virtual_token_reserves) :
    multi_hop_curve_hop global fee_config bonding_curve mint_supply base_ata_amount user false amount
        3 = .ok out ↔
      sell_sol_amount_from_token_amount global fee_config bonding_curve mint_supply amount = .ok out ∧
        0 < out := by
  have hvt_nat : 0 < bonding_curve.virtual_token_reserves.toNat := U64.pos_iff.mp hvt
  rw [U64.pos_iff]
  constructor
  · intro h
    obtain ⟨rates, venue⟩ := multi_hop_curve_hop_venue h
    obtain ⟨hout, hpos⟩ := (venue.sell_ok_iff hvt_nat rfl).mp h
    have hamount : 0 < amount.toNat := pos_of_swapOut_pos (lt_of_lt_of_le hpos (hout ▸ Nat.le_add_right _ _))
    rw [hop_fee_bps_both] at hout
    exact ⟨(sell_sol_amount_ok_iff venue.charged hvt_nat hamount rfl).mpr hout, hpos⟩
  · rintro ⟨h, hpos⟩
    obtain ⟨hamount, rates, hrates⟩ := sell_sol_amount_pos h hpos
    have venue : CurveVenue global fee_config bonding_curve mint_supply 3 rates :=
      ⟨check_curve_open_eq_ok _ hcomplete hcashback, hmayhem, hrates⟩
    rw [venue.sell_ok_iff hvt_nat rfl, hop_fee_bps_both]
    exact ⟨(sell_sol_amount_ok_iff hrates hvt_nat hamount rfl).mp h, hpos⟩

/-- The fee split of `amount` leaves no remainder: net and fees add up to it. -/
def SplitsEvenly (bps : UInt64 × UInt64) (amount : UInt64) : Prop :=
  ∀ net fee creator_fee fee₂,
    exact_in_fee_amounts amount (bps.1, bps.2, 0) = .ok (net, fee, creator_fee, fee₂) →
    net.toNat + fee.toNat + creator_fee.toNat = amount.toNat

theorem SplitsEvenly.charge_eq {bps : UInt64 × UInt64} {amount : UInt64} (h : SplitsEvenly bps amount)
    (hpos : 0 < (curveSchedule bps).net amount.toNat) :
    (curveSchedule bps).charge amount.toNat = amount.toNat := by
  obtain ⟨net, fee, creator_fee, fee₂, hsplit⟩ := exact_in_fee_amounts_curve_exists bps hpos
  obtain ⟨-, hnet, hfees, -⟩ := exact_in_fee_amounts_curve_ok hsplit
  have heven := h net fee creator_fee fee₂ hsplit
  rw [FeeSchedule.charge, ← hnet, ← hfees]
  omega

/-- What the remaining supply leaves of `amount` splits evenly too. -/
def LegSplitsEvenly (bonding_curve : BondingCurve) (bps : UInt64 × UInt64) (amount : UInt64) : Prop :=
  ∀ net curve_total budget_left,
    buy_quote bonding_curve bonding_curve.real_token_reserves = .ok net →
    with_fees net bps = .ok curve_total → budget_left.toNat + curve_total = amount.toNat →
    SplitsEvenly bps budget_left

/-- A crossing buy hop with both legs charged, beside the quoter of the direct
    buy, which crosses no earlier and then leaves its pool no more. -/
theorem curve_buy_hop_crossing {amount out : UInt64} {rates : UInt64 × UInt64}
    (hvq : 0 < bonding_curve.virtual_quote_reserves.toNat)
    (hmayhem : bonding_curve.is_mayhem_mode = false)
    {curve_net : UInt64}
    (hcurve : buy_quote bonding_curve bonding_curve.real_token_reserves = .ok curve_net)
    (hout : amount.toNat ≤ (curveSchedule rates).gross curve_net.toNat ∧
        out = bonding_curve.real_token_reserves ∨
      (curveSchedule rates).gross curve_net.toNat < amount.toNat ∧
        ∃ pool, pool_to_be global bonding_curve base_ata_amount
            (is_sol_like_quote_mint bonding_curve.quote_mint) bonding_curve.real_token_reserves
            curve_net = .ok pool ∧
          out.toNat = bonding_curve.real_token_reserves.toNat +
            swapOut (legQuoteIn rates (amount.toNat - (curveSchedule rates).gross curve_net.toNat)
              true - 1) pool.2.toNat pool.1.toNat) :
    (completingQuoter global bonding_curve base_ata_amount rates).out amount.toNat ≤ out.toNat ∧
      (bonding_curve.real_token_reserves.toNat < (quoter bonding_curve rates).out amount.toNat →
        LegSplitsEvenly bonding_curve rates amount →
        (completingQuoter global bonding_curve base_ata_amount rates).out amount.toNat =
          out.toNat) := by
  have hin := U64.toNat_lt amount
  have hcost : (quoter bonding_curve rates).cost bonding_curve.real_token_reserves.toNat =
      (curveSchedule rates).gross curve_net.toNat := by
    rw [quoter_cost, (buy_quote_eq_ok_iff.mp hcurve).2.2]
  rcases le_or_gt ((quoter bonding_curve rates).out amount.toNat)
    bonding_curve.real_token_reserves.toNat with hinside | hcross
  · -- The direct buy stays inside the curve, the hop sold all of it.
    have hle : bonding_curve.real_token_reserves.toNat ≤ out.toNat := by
      rcases hout with ⟨-, rfl⟩ | ⟨-, pool, -, hout⟩
      · exact le_rfl
      · omega
    rw [completingQuoter, Quoter.glue_out_of_le hinside]
    exact ⟨hinside.trans hle, fun hcross => absurd hcross (not_lt.mpr hinside)⟩
  · have htotal := (price_lt_of_lt_quoter_out hvq hcross).2
    have hcharge := FeeSchedule.charge_le (net_pos_of_quoter_out_pos (Nat.zero_lt_of_lt hcross))
    rcases hout with ⟨hge, -⟩ | ⟨hlt, pool, hpool, hout⟩
    · omega
    rw [completingQuoter_of_pool hmayhem hcurve hpool, Quoter.glue_out_of_lt hcross, hcost,
      legQuoter_out, hout]
    generalize hleft : amount.toNat - (curveSchedule rates).gross curve_net.toNat = left
    refine ⟨Nat.add_le_add_left (swapOut_mono (net_pred_le_legQuoteIn rates left) _ _) _, ?_⟩
    intro _ heven
    have hcast := U64.toNat_cast_of_lt (n := left) (by omega)
    have hsplits := heven curve_net _ (U64.cast left) hcurve (with_fees_eq curve_net rates) (by omega)
    have hpaid := legQuoteIn_pred_eq hsplits.charge_eq
    rw [hcast] at hpaid
    rw [hpaid]

/-- A buy hop with both legs charged, beside the quoter of the direct buy. -/
theorem curve_buy_hop_of_quoter {amount out : UInt64} {rates : UInt64 × UInt64}
    (hvq : 0 < bonding_curve.virtual_quote_reserves.toNat)
    (venue : CurveVenue global fee_config bonding_curve mint_supply 3 rates)
    (h : multi_hop_curve_hop global fee_config bonding_curve mint_supply base_ata_amount user true
      amount 3 = .ok out) :
    (completingQuoter global bonding_curve base_ata_amount rates).out amount.toNat ≤ out.toNat ∧
      (SplitsEvenly rates amount →
        (bonding_curve.real_token_reserves.toNat < (quoter bonding_curve rates).out amount.toNat →
          LegSplitsEvenly bonding_curve rates amount) →
        (completingQuoter global bonding_curve base_ata_amount rates).out amount.toNat =
          out.toNat) := by
  have hin := U64.toNat_lt amount
  have hremaining := U64.toNat_lt bonding_curve.real_token_reserves
  have hwhole_le := FeeSchedule.wholeNet_le (s := curveSchedule rates) amount.toNat
  have hnet := venue.buy_net_pos h
  rw [hop_fee_bps_both] at hnet
  have htokens := swap_whole_net_eq (curveSchedule rates) amount bonding_curve.virtual_token_reserves
    hvq
  have hmono : (quoter bonding_curve rates).out amount.toNat ≤
      swapOut ((curveSchedule rates).wholeNet amount.toNat - 1)
        bonding_curve.virtual_quote_reserves.toNat bonding_curve.virtual_token_reserves.toNat :=
    swapOut_mono (Nat.sub_le_sub_right (FeeSchedule.net_le_wholeNet _) 1) _ _
  have heven : SplitsEvenly rates amount → (quoter bonding_curve rates).out amount.toNat =
      swapOut ((curveSchedule rates).wholeNet amount.toNat - 1)
        bonding_curve.virtual_quote_reserves.toNat bonding_curve.virtual_token_reserves.toNat := by
    intro hsplits
    rw [quoter_out, FeeSchedule.wholeNet_eq_net (hsplits.charge_eq hnet)]
  rcases le_or_gt (swapOut ((curveSchedule rates).wholeNet amount.toNat - 1)
    bonding_curve.virtual_quote_reserves.toNat bonding_curve.virtual_token_reserves.toNat)
    bonding_curve.real_token_reserves.toNat with hinside | hcross
  · rw [venue.buy_inside hnet htokens hinside] at h
    split at h
    · simp at h
    cases h
    rw [completingQuoter, Quoter.glue_out_of_le (hmono.trans hinside), U64.toNat_cast_of_lt (by omega)]
    exact ⟨hmono, fun hsplits _ => heven hsplits⟩
  · obtain ⟨curve_net, hcurve, hout⟩ := venue.buy_crossing_ok hnet htokens hcross h
    obtain ⟨hle, heq⟩ := curve_buy_hop_crossing hvq venue.mayhem hcurve hout
    refine ⟨hle, fun hsplits hleg => ?_⟩
    have hcross' : bonding_curve.real_token_reserves.toNat <
        (quoter bonding_curve rates).out amount.toNat := by rwa [heven hsplits]
    exact heq hcross' (hleg hcross')

/-- A one-hop curve buy yields at least the direct buy's tokens, and exactly
    those when no split leaves a remainder. -/
theorem curve_buy_hop_of_direct {amount out tokens charged : UInt64}
    (hvt : 0 < bonding_curve.virtual_token_reserves)
    (hhop : multi_hop_curve_hop global fee_config bonding_curve mint_supply base_ata_amount user true
      amount 3 = .ok out)
    (hdirect : buy_v3_token_amount_from_sol_amount global fee_config bonding_curve mint_supply
      base_ata_amount amount = .ok (tokens, charged)) :
    tokens ≤ out ∧
      ∀ rates, curve_fee_bps global fee_config bonding_curve mint_supply = .ok rates →
        SplitsEvenly rates amount →
        (∀ uncapped, buy_tokens_exact_in global fee_config bonding_curve mint_supply amount =
            .ok uncapped → bonding_curve.real_token_reserves.toNat < uncapped →
          LegSplitsEvenly bonding_curve rates amount) → tokens = out := by
  obtain ⟨rates, venue⟩ := multi_hop_curve_hop_venue hhop
  have hamount : amount ≠ 0 := by
    rintro rfl
    have hnet : (curveSchedule (hop_fee_bps 3 rates)).net (0 : UInt64).toNat = 0 :=
      Nat.le_zero.mp (FeeSchedule.net_le 0)
    rw [venue.buy_zero hnet] at hhop
    simp at hhop
  obtain ⟨⟨⟩, -, htrace⟩ := Outcome.bind_eq_ok_iff.mp hdirect
  obtain ⟨uncapped, huncapped, -⟩ := Outcome.bind_eq_ok_iff.mp htrace
  have hvq := virtual_quote_pos_of_exact_in huncapped hamount hvt
  have priced : Priced global fee_config bonding_curve mint_supply rates :=
    ⟨venue.charged, hvt, hvq⟩
  have htokens := buy_v3_token_amount_out priced hdirect
  have hexact : buy_tokens_exact_in global fee_config bonding_curve mint_supply amount = .ok _ :=
    buy_tokens_exact_in_eq priced
  obtain ⟨hle, heq⟩ := curve_buy_hop_of_quoter (U64.pos_iff.mp hvq) venue hhop
  refine ⟨UInt64.le_iff_toNat_le.mpr (htokens ▸ hle), fun rates' hrates' hsplits hleg => ?_⟩
  obtain rfl : rates = rates' := Except.ok.inj (venue.charged.symm.trans hrates')
  exact UInt64.toNat_inj.mp (htokens.trans (heq hsplits (hleg _ hexact)))

end Curve

/-- A hop with every leg charges what the direct trade charges. -/
theorem hop_fee_bps_all (pool : Pool) (bps : AmmFeeBps) : amm.hop_fee_bps pool ⟨true, true, true⟩ bps =
    (bps.lp_fee_bps, bps.protocol_fee_bps,
      if pool.coin_creator = Pubkey.default then 0 else bps.creator_fee_bps) := by
  by_cases hcreator : pool.coin_creator = Pubkey.default
  · simp [amm.hop_fee_bps, hcreator]
  · simp [amm.hop_fee_bps, hcreator]

section Pool

variable [Build] [Solana] {global_config : GlobalConfig} {fee_config : FeeConfig} {pool : Pool}
  {base_reserve quote_vault_balance base_mint_supply : UInt64}

/-- The venue of a hop with every leg is the context of the direct trade. -/
theorem hopVenue_iff_context (hpump : is_pump_pool pool.base_mint pool.creator = true)
    (hmayhem : pool.is_mayhem_mode = false) (hcashback : pool.is_cashback_coin = false)
    {real_quote quote_reserve : UInt64} {rates : UInt64 × UInt64 × UInt64}
    (heffective : effective_quote_reserve pool quote_vault_balance = .ok quote_reserve)
    (hreal : real_quote_reserve pool quote_vault_balance = .ok real_quote) :
    HopVenue global_config fee_config pool base_reserve quote_vault_balance base_mint_supply
        ⟨true, true, true⟩ real_quote quote_reserve rates ↔
      (poolContext global_config fee_config pool base_reserve base_mint_supply quote_reserve
          real_quote).check_reserves = .ok () ∧
        ∃ bps, (poolContext global_config fee_config pool base_reserve base_mint_supply quote_reserve
          real_quote).fee_bps = .ok bps ∧
          rates = (poolContext global_config fee_config pool base_reserve base_mint_supply
            quote_reserve real_quote).charged_bps bps := by
  have hsupply : fee_tier_supply pool.is_mayhem_mode base_mint_supply = base_mint_supply := by
    rw [hmayhem]
    rfl
  have hfee_bps : (poolContext global_config fee_config pool base_reserve base_mint_supply
      quote_reserve real_quote).fee_bps =
      compute_amm_fee_bps global_config fee_config pool.base_mint pool.creator pool.quote_mint
        pool.creator_fee_bps base_mint_supply base_reserve quote_reserve := by
    rw [AmmContext.fee_bps]
    dsimp only [poolContext]
    rw [hsupply]
  rw [AmmContext.check_reserves_eq_ok_iff, hfee_bps]
  constructor
  · intro venue
    obtain ⟨bps, hbps, hrates⟩ := venue.charged
    exact ⟨⟨venue.base_pos, venue.quote_pos⟩, bps, hbps, hrates.trans (hop_fee_bps_all pool bps)⟩
  · rintro ⟨⟨hbase, hquote⟩, bps, hbps, hrates⟩
    exact {
      eligible := by simp [hpump, hmayhem, hcashback]
      real := hreal
      effective := heffective
      base_pos := hbase
      quote_pos := hquote
      charged := ⟨bps, hbps, hrates.trans (hop_fee_bps_all pool bps).symm⟩ }

/-- A pool sell with every leg returns exactly when the direct sell returns
    something. -/
theorem pool_sell_hop_iff (hpump : is_pump_pool pool.base_mint pool.creator = true)
    (hmayhem : pool.is_mayhem_mode = false) (hcashback : pool.is_cashback_coin = false)
    {amount out : UInt64} :
    multi_hop_pool_hop global_config fee_config pool base_reserve quote_vault_balance base_mint_supply
        false amount ⟨true, true, true⟩ = .ok out ↔
      ∃ res, PumpSdk.map_amm_quote_source global_config fee_config
          (.Pool pool base_reserve quote_vault_balance base_mint_supply)
          (fun ctx => sell_base_input ctx amount) = .ok res ∧
        res.final_quote_out = out ∧ 0 < out := by
  constructor
  · intro h
    obtain ⟨hopen, real_quote, quote_reserve, rates, venue⟩ := multi_hop_pool_hop_venue h
    obtain ⟨hfees, hcovered, rfl⟩ := (venue.sell_ok_iff hopen rfl).mp h
    obtain ⟨hreserves, bps, hbps, hrates⟩ :=
      (hopVenue_iff_context hpump hmayhem hcashback venue.effective venue.real).mp venue
    rw [hrates] at hfees hcovered ⊢
    have hquote_lt := U64.toNat_lt quote_reserve
    have hle := swapOut_le amount.toNat base_reserve.toNat quote_reserve.toNat
    refine ⟨_, map_amm_quote_source_pool_ok_iff.mpr ⟨quote_reserve, real_quote, venue.effective,
      venue.real, (sell_base_input_ok_iff rfl).mpr ⟨hopen, hreserves, bps, hbps, hfees.le, hcovered,
        rfl⟩⟩, rfl, ?_⟩
    rw [U64.pos_iff, U64.toNat_cast_of_lt (by omega)]
    omega
  · rintro ⟨res, h, rfl, hpos⟩
    obtain ⟨quote_reserve, real_quote, heffective, hreal, h⟩ :=
      map_amm_quote_source_pool_ok_iff.mp h
    obtain ⟨hopen, hreserves, bps, hbps, hfees, hcovered, rfl⟩ := (sell_base_input_ok_iff rfl).mp h
    have venue := (hopVenue_iff_context hpump hmayhem hcashback heffective hreal).mpr
      ⟨hreserves, bps, hbps, rfl⟩
    refine (venue.sell_ok_iff hopen rfl).mpr ⟨lt_of_le_of_ne hfees fun heq => ?_, hcovered, rfl⟩
    -- fees equal to the swap would leave nothing
    have hnothing := Nat.sub_eq_zero_of_le heq.ge
    exact (U64.pos_iff.mp hpos).ne' (congrArg (fun left => (U64.cast left).toNat) hnothing)

/-- A pool buy with every leg yields at least the direct buy's base. -/
theorem pool_buy_hop_of_direct (hpump : is_pump_pool pool.base_mint pool.creator = true)
    (hmayhem : pool.is_mayhem_mode = false) (hcashback : pool.is_cashback_coin = false)
    {amount out : UInt64} {res : BuyQuoteInputResult}
    (hhop : multi_hop_pool_hop global_config fee_config pool base_reserve quote_vault_balance
      base_mint_supply true amount ⟨true, true, true⟩ = .ok out)
    (hdirect : PumpSdk.map_amm_quote_source global_config fee_config
      (.Pool pool base_reserve quote_vault_balance base_mint_supply)
      (fun ctx => buy_quote_input ctx amount) = .ok res) :
    res.base_amount_out ≤ out := by
  obtain ⟨quote_reserve, real_quote, heffective, hreal, hdirect⟩ :=
    map_amm_quote_source_pool_ok_iff.mp hdirect
  obtain ⟨bps, hopen, hreserves, hbps⟩ := buy_quote_input_ok hdirect
  obtain ⟨rates, hrates⟩ : ∃ rates, rates = (poolContext global_config fee_config pool base_reserve
    base_mint_supply quote_reserve real_quote).charged_bps bps := ⟨_, rfl⟩
  have venue := (hopVenue_iff_context hpump hmayhem hcashback heffective hreal).mpr
    ⟨hreserves, bps, hbps, hrates⟩
  have hbase_lt := U64.toNat_lt base_reserve
  have hmono : swapOut ((schedule rates).net amount.toNat - 1) quote_reserve.toNat base_reserve.toNat ≤
      swapOut ((schedule rates).wholeNet amount.toNat - 1) quote_reserve.toNat base_reserve.toNat :=
    swapOut_mono (Nat.sub_le_sub_right (FeeSchedule.net_le_wholeNet _) 1) _ _
  have hle := swapOut_le ((schedule rates).wholeNet amount.toNat - 1) quote_reserve.toNat
    base_reserve.toNat
  rw [venue.buy_eq hopen] at hhop
  rw [buy_quote_input_eq hopen hreserves hbps hrates] at hdirect
  split at hhop
  · simp at hhop
  split at hdirect
  · simp at hdirect
  cases hhop
  cases hdirect
  rw [UInt64.le_iff_toNat_le]
  dsimp only [poolContext]
  rw [U64.toNat_cast_of_lt (by omega), U64.toNat_cast_of_lt (by omega)]
  exact hmono

end Pool

/-- A one-hop route prices like the direct trade. Sells agree whenever there is
    something to pay out. A buy hop spends the remainder of the fee split as
    well, so it never buys less, and the same where a curve's splits leave no
    remainder. -/
theorem one_hop_prices_direct_trade [Build] [Solana] :
    (∀ (global : Global) (fee_config : FeeConfig) (bonding_curve : BondingCurve)
        (mint_supply base_ata_amount : UInt64) (user : Pubkey) (amount : UInt64),
      bonding_curve.complete = false → bonding_curve.is_mayhem_mode = false →
      bonding_curve.is_cashback_coin = false → 0 < bonding_curve.virtual_token_reserves →
      (∀ out, multi_hop_curve_hop global fee_config bonding_curve mint_supply base_ata_amount user
          false amount 3 = .ok out ↔
        sell_sol_amount_from_token_amount global fee_config bonding_curve mint_supply amount =
          .ok out ∧ 0 < out) ∧
      ∀ out tokens charged,
        multi_hop_curve_hop global fee_config bonding_curve mint_supply base_ata_amount user true
          amount 3 = .ok out →
        buy_v3_token_amount_from_sol_amount global fee_config bonding_curve mint_supply
          base_ata_amount amount = .ok (tokens, charged) →
        tokens ≤ out ∧
          ∀ rates, curve_fee_bps global fee_config bonding_curve mint_supply = .ok rates →
            SplitsEvenly rates amount →
            (∀ uncapped, buy_tokens_exact_in global fee_config bonding_curve mint_supply amount =
                .ok uncapped → bonding_curve.real_token_reserves.toNat < uncapped →
              LegSplitsEvenly bonding_curve rates amount) → tokens = out) ∧
    ∀ (global_config : GlobalConfig) (fee_config : FeeConfig) (pool : Pool)
        (base_reserve quote_vault_balance base_mint_supply amount out : UInt64),
      is_pump_pool pool.base_mint pool.creator = true → pool.is_mayhem_mode = false →
      pool.is_cashback_coin = false →
      (multi_hop_pool_hop global_config fee_config pool base_reserve quote_vault_balance
          base_mint_supply false amount ⟨true, true, true⟩ = .ok out ↔
        ∃ res, PumpSdk.map_amm_quote_source global_config fee_config
            (.Pool pool base_reserve quote_vault_balance base_mint_supply)
            (fun ctx => sell_base_input ctx amount) = .ok res ∧
          res.final_quote_out = out ∧ 0 < out) ∧
      ∀ res, multi_hop_pool_hop global_config fee_config pool base_reserve quote_vault_balance
          base_mint_supply true amount ⟨true, true, true⟩ = .ok out →
        PumpSdk.map_amm_quote_source global_config fee_config
          (.Pool pool base_reserve quote_vault_balance base_mint_supply)
          (fun ctx => buy_quote_input ctx amount) = .ok res →
        res.base_amount_out ≤ out := by
  constructor
  · intro global fee_config bonding_curve mint_supply base_ata_amount user amount hcomplete hmayhem
      hcashback hvt
    refine ⟨fun out => curve_sell_hop_iff hcomplete hmayhem hcashback hvt, ?_⟩
    intro out tokens charged hhop hdirect
    exact curve_buy_hop_of_direct hvt hhop hdirect
  · intro global_config fee_config pool base_reserve quote_vault_balance base_mint_supply amount out
      hpump hmayhem hcashback
    refine ⟨pool_sell_hop_iff hpump hmayhem hcashback, ?_⟩
    intro res hhop hdirect
    exact pool_buy_hop_of_direct hpump hmayhem hcashback hhop hdirect

/-- One sell and one evenly split buy on a launch curve, one sell and one buy on
    the pool it leads to. -/
theorem one_hop_prices_direct_trade_launch :
    letI : Build := ⟨true⟩
    letI : Solana := graduatedPoolAuthority
    (sell_sol_amount_from_token_amount Global.default launchFees launchCurve 0 1_000_000_000_000 =
        .ok 27_513_965 ∧ (0 : UInt64) < 27_513_965) ∧
      (34_612_903_192_310 : UInt64) = 34_612_903_192_310 ∧
      (∃ res, PumpSdk.map_amm_quote_source GlobalConfig.default launchFees
          (.Pool graduatedPool 206_900_000_000_000 85_000_000_000 0)
          (fun ctx => sell_base_input ctx 1_000_000_000_000) = .ok res ∧
        res.final_quote_out = 402_717_628 ∧ (0 : UInt64) < 402_717_628) ∧
      (2_370_667_563_924 : UInt64) ≤ 2_370_667_563_924 := by
  let _ : Build := ⟨true⟩
  let _ : Solana := graduatedPoolAuthority
  obtain ⟨hcurve, hpool⟩ := one_hop_prices_direct_trade
  obtain ⟨hsell, -⟩ := hcurve Global.default launchFees launchCurve 0 1_000_000_000_000_000 ⟨1⟩
    1_000_000_000_000 rfl rfl rfl (by decide)
  obtain ⟨-, hbuy⟩ := hcurve Global.default launchFees launchCurve 0 1_000_000_000_000_000 ⟨1⟩
    1_015_000_000 rfl rfl rfl (by decide)
  obtain ⟨hpool_sell, -⟩ := hpool GlobalConfig.default launchFees graduatedPool 206_900_000_000_000
    85_000_000_000 0 1_000_000_000_000 402_717_628 (by decide +kernel) rfl rfl
  obtain ⟨-, hpool_buy⟩ := hpool GlobalConfig.default launchFees graduatedPool 206_900_000_000_000
    85_000_000_000 0 1_000_000_000 2_370_667_563_924 (by decide +kernel) rfl rfl
  have heven : SplitsEvenly (100, 50) 1_015_000_000 := by
    intro net fee creator_fee fee₂ h
    have hsplit : exact_in_fee_amounts 1_015_000_000 (100, 50, 0) =
      .ok (1_000_000_000, 10_000_000, 5_000_000, 0) := by decide +kernel
    cases hsplit.symm.trans h
    rfl
  refine ⟨(hsell _).mp (by decide +kernel), ?_, (hpool_sell.mp (by decide +kernel)),
    hpool_buy ⟨2_370_667_563_924, 985_221_674⟩ (by decide +kernel) (by decide +kernel)⟩
  refine (hbuy _ _ 1_015_000_000 (by decide +kernel) (by decide +kernel)).2 (100, 50)
    (by decide +kernel) heven fun uncapped huncapped hcross => ?_
  have hinside : buy_tokens_exact_in Global.default launchFees launchCurve 0 1_015_000_000 =
    .ok 34_612_903_192_310 := by decide +kernel
  cases hinside.symm.trans huncapped
  simp [launchCurve] at hcross

end pump_rust_client.sdk
