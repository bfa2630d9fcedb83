import PumpClient.Exchange.Market
import PumpClient.Sdk.CurveRuns

open machine exchange Relation

namespace pump_rust_client.sdk

open state math math.utils math.fees math.bonding_curve

/-- A traded curve with what its traders have paid and received, and what of
    either went to fees. -/
structure CurveLedger where
  traded : TradedCurve
  paid : Nat
  received : Nat
  fees : Nat

namespace CurveLedger

/-- A curve before any trade. -/
def new (bonding_curve : BondingCurve) : CurveLedger := ⟨TradedCurve.new bonding_curve, 0, 0, 0⟩

def curve (s : CurveLedger) : BondingCurve := s.traded.curve

/-- The tokens its traders hold. -/
def outside (s : CurveLedger) : Nat := s.traded.bought - s.traded.sold

def market (s : CurveLedger) : Market where
  quote := s.curve.virtual_quote_reserves.toNat
  tokens := s.curve.virtual_token_reserves.toNat
  paid := s.paid
  received := s.received
  fees := s.fees

end CurveLedger

section

variable [Build]

/-- One v3 trade inside an open curve, charged and paid as its quoter says: an
    exact-in buy that stays inside the remaining supply, an exact-out buy inside it
    at its exact cost, a paying sell of tokens its traders hold. The configuration
    may be another one at every trade. -/
inductive QuotedTrade : CurveLedger → CurveLedger → Prop
  | buy_exact_in {s : CurveLedger} {global : Global} {fee_config : FeeConfig}
      {mint_supply base_ata_amount sol_amount tokens charged net fee creator_fee fee₂ : UInt64}
      {bps : UInt64 × UInt64}
      (hquote : buy_v3_token_amount_from_sol_amount global fee_config s.curve mint_supply
        base_ata_amount sol_amount = .ok (tokens, charged))
      (hpos : 0 < tokens)
      (hinside : buy_tokens_exact_in global fee_config s.curve mint_supply sol_amount =
        .ok tokens.toNat)
      (hleft : tokens ≤ s.curve.real_token_reserves)
      (hbps : curve_fee_bps global fee_config s.curve mint_supply = .ok bps)
      (hsplit : exact_in_fee_amounts sol_amount (bps.1, bps.2, 0) =
        .ok (net, fee, creator_fee, fee₂))
      (hfits : s.curve.virtual_quote_reserves.toNat + net.toNat < 2 ^ 64) :
      QuotedTrade s {
        traded := ⟨afterBuy s.curve net tokens, s.traded.bought + tokens.toNat, s.traded.sold⟩
        paid := s.paid + charged.toNat
        received := s.received
        fees := s.fees + (fee.toNat + creator_fee.toNat) }
  | buy_exact_out {s : CurveLedger} {global : Global} {fee_config : FeeConfig}
      {mint_supply base_ata_amount tokens cost net : UInt64} {bps : UInt64 × UInt64}
      (hquote : buy_v3_sol_amount_from_token_amount global fee_config s.curve mint_supply
        base_ata_amount tokens = .ok cost)
      (hleft : tokens ≤ s.curve.real_token_reserves)
      (hbps : curve_fee_bps global fee_config s.curve mint_supply = .ok bps)
      (hnet : buy_quote s.curve tokens = .ok net)
      -- the quoted cost is the exact one
      (hexact : with_fees net bps = .ok cost.toNat)
      (hfits : s.curve.virtual_quote_reserves.toNat + net.toNat < 2 ^ 64) :
      QuotedTrade s {
        traded := ⟨afterBuy s.curve net tokens, s.traded.bought + tokens.toNat, s.traded.sold⟩
        paid := s.paid + cost.toNat
        received := s.received
        fees := s.fees + (cost.toNat - net.toNat) }
  | sell {s : CurveLedger} {global : Global} {fee_config : FeeConfig}
      {mint_supply tokens out : UInt64} {gross : Nat}
      (hquote : sell_sol_amount_from_token_amount global fee_config s.curve mint_supply tokens =
        .ok out)
      (hpos : 0 < out)
      (houtside : tokens.toNat ≤ s.outside)
      (hgross : sell_quote s.curve.virtual_quote_reserves s.curve.virtual_token_reserves tokens =
        .ok gross) :
      QuotedTrade s {
        traded := ⟨afterSell s.curve (U64.cast gross) tokens, s.traded.bought,
          s.traded.sold + tokens.toNat⟩
        paid := s.paid
        received := s.received + out.toNat
        fees := s.fees + (gross - out.toNat) }

variable {s s' : CurveLedger}

/-- What a buy inside the curve swaps and charges, from its fee split. -/
theorem buy_exact_in_split {global : Global} {fee_config : FeeConfig} {bonding_curve : BondingCurve}
    {mint_supply base_ata_amount sol_amount tokens charged net fee creator_fee fee₂ : UInt64}
    {bps : UInt64 × UInt64}
    (hquote : buy_v3_token_amount_from_sol_amount global fee_config bonding_curve mint_supply
      base_ata_amount sol_amount = .ok (tokens, charged))
    (hpos : 0 < tokens)
    (hinside : buy_tokens_exact_in global fee_config bonding_curve mint_supply sol_amount =
      .ok tokens.toNat)
    (hleft : tokens ≤ bonding_curve.real_token_reserves)
    (hbps : curve_fee_bps global fee_config bonding_curve mint_supply = .ok bps)
    (hsplit : exact_in_fee_amounts sol_amount (bps.1, bps.2, 0) =
      .ok (net, fee, creator_fee, fee₂)) :
    0 < net ∧ 0 < bonding_curve.virtual_quote_reserves ∧
      tokens.toNat = swapOut (net.toNat - 1) bonding_curve.virtual_quote_reserves.toNat
        bonding_curve.virtual_token_reserves.toNat ∧
      charged.toNat = net.toNat + (fee.toNat + creator_fee.toNat) := by
  have hpos_nat := U64.pos_iff.mp hpos
  obtain ⟨rates, priced⟩ := buy_tokens_exact_in_pos hinside hpos_nat
  obtain rfl : rates = bps := Except.ok.inj (priced.rates.symm.trans hbps)
  obtain ⟨hnet_pos, hnet, hfees, hle⟩ := exact_in_fee_amounts_curve_ok hsplit
  have hlt := U64.toNat_lt sol_amount
  have hcharge : (quoter bonding_curve rates).charge sol_amount.toNat =
      net.toNat + (fee.toNat + creator_fee.toNat) := by
    rw [quoter_charge, FeeSchedule.charge, ← hnet, ← hfees]
  rw [buy_tokens_exact_in_eq priced, ← quoter_out] at hinside
  have hout := Except.ok.inj hinside
  obtain ⟨⟨⟩, hopen, -⟩ := Outcome.bind_eq_ok_iff.mp hquote
  rw [buy_v3_token_amount_inside hopen priced (hout ▸ hpos_nat)
    (hout ▸ UInt64.le_iff_toNat_le.mp hleft)] at hquote
  cases hquote
  refine ⟨U64.pos_iff.mpr (hnet ▸ hnet_pos), priced.quote_pos, ?_, ?_⟩
  · rw [← hout, quoter_out, hnet]
  · rw [U64.toNat_cast_of_lt (by omega), hcharge]

/-- What a sell takes out of the reserves splits into the payout and the fees. -/
theorem sell_gross_split {global : Global} {fee_config : FeeConfig} {bonding_curve : BondingCurve}
    {mint_supply tokens out : UInt64} {gross : Nat}
    (hquote : sell_sol_amount_from_token_amount global fee_config bonding_curve mint_supply tokens =
      .ok out)
    (hpos : 0 < out)
    (hgross : sell_quote bonding_curve.virtual_quote_reserves bonding_curve.virtual_token_reserves
      tokens = .ok gross) :
    gross = swapOut tokens.toNat bonding_curve.virtual_token_reserves.toNat
        bonding_curve.virtual_quote_reserves.toNat ∧ out.toNat ≤ gross := by
  obtain ⟨hin, rates, hrates⟩ := sell_sol_amount_pos hquote (U64.pos_iff.mp hpos)
  have hvt : 0 < bonding_curve.virtual_token_reserves.toNat := by
    apply Nat.pos_of_ne_zero
    intro hzero
    have hvt_zero : bonding_curve.virtual_token_reserves = 0 := UInt64.toNat_inj.mp hzero
    rw [sell_sol_amount_from_token_amount, if_pos (Or.inr hvt_zero)] at hquote
    cases hquote
    exact absurd hpos (by decide)
  rw [sell_quote_eq _ _ hvt] at hgross
  have hswap := (Except.ok.inj hgross).symm
  have hsplit := (sell_sol_amount_ok_iff hrates hvt hin hswap).mp hquote
  exact ⟨hswap, by omega⟩

/-- A quoted trade is a trade of the curve. -/
theorem QuotedTrade.trade (htrade : QuotedTrade s s') : Trade s.traded s'.traded := by
  cases htrade with
  | buy_exact_in hquote hpos hinside hleft hbps hsplit hfits =>
    obtain ⟨hnet, hvq, hout, -⟩ := buy_exact_in_split hquote hpos hinside hleft hbps hsplit
    have hnet_nat := U64.pos_iff.mp hnet
    refine .buy_exact_in hnet_nat ?_ hleft hfits
    rw [hout]
    exact utils.swap_exact_input_eq (lt_of_le_of_lt (Nat.sub_le _ 1) (U64.toNat_lt _))
      (U64.toNat_lt _) (U64.toNat_lt _) (U64.pos_iff.mp hvq)
  | buy_exact_out hquote hleft hbps hnet hexact hfits => exact .buy_exact_out hnet hleft hfits
  | sell hquote hpos houtside hgross => exact .sell hgross houtside

/-- A quoted trade keeps the product, and all it moves is in the reserves, with
    the traders or in the fees. -/
theorem QuotedTrade.follows {seed supply unsold : ℕ} {book : Book seed supply}
    (htrade : QuotedTrade s s') (hsupply : supply < 2 ^ 64) (keeps : Keeps unsold s.traded book) :
    Market.Follows s.market s'.market := by
  cases htrade with
  | @buy_exact_in _ _ _ _ _ tokens charged net fee creator_fee _ _ hquote hpos hinside hleft hbps
      hsplit hfits =>
    obtain ⟨-, -, hout, hcharged⟩ := buy_exact_in_split hquote hpos hinside hleft hbps hsplit
    have hle : tokens.toNat ≤ s.curve.virtual_token_reserves.toNat := hout ▸ swapOut_le _ _ _
    refine .of_buy net.toNat (fee.toNat + creator_fee.toNat) tokens.toNat
      (mul_le_mul_of_le_swapOut (Nat.sub_le _ 1) hout.le) ?_ ?_ ?_ rfl rfl
    · exact U64.toNat_add_of_lt hfits
    · change (s.curve.virtual_token_reserves - tokens).toNat + _ = _
      rw [U64.toNat_sub_of_le hle]
      exact Nat.sub_add_cancel hle
    · exact congrArg (s.paid + ·) hcharged
  | @buy_exact_out _ _ _ _ tokens cost net bps hquote hleft hbps hnet hexact hfits =>
    obtain ⟨-, hlt, hprice⟩ := buy_quote_eq_ok_iff.mp hnet
    rw [with_fees_eq] at hexact
    have hcost : net.toNat ≤ cost.toNat := Except.ok.inj hexact ▸ Nat.le_add_right _ _
    refine .of_buy net.toNat (cost.toNat - net.toNat) tokens.toNat
      (mul_le_mul_of_swapInFloor_lt hlt (hprice ▸ Nat.lt_succ_self _)) ?_ ?_ ?_ rfl rfl
    · exact U64.toNat_add_of_lt hfits
    · change (s.curve.virtual_token_reserves - tokens).toNat + _ = _
      rw [U64.toNat_sub_of_le hlt.le]
      exact Nat.sub_add_cancel hlt.le
    · exact congrArg (s.paid + ·) (Nat.add_sub_cancel' hcost).symm
  | @sell _ _ _ tokens out gross hquote hpos houtside hgross =>
    obtain ⟨hswap, hout⟩ := sell_gross_split hquote hpos hgross
    have hvt : s.curve.virtual_token_reserves.toNat = book.tokens := keeps.virtual_token
    have htokens := book.tokens_eq
    have hheld := keeps.held
    have hback : tokens.toNat ≤ s.traded.bought - s.traded.sold := houtside
    have hle : gross ≤ s.curve.virtual_quote_reserves.toNat := hswap ▸ swapOut_le _ _ _
    have hcast := U64.toNat_cast_of_lt (lt_of_le_of_lt hle (U64.toNat_lt _))
    refine .of_sell tokens.toNat gross out.toNat (gross - out.toNat) hswap.le
      (Nat.add_sub_cancel' hout).symm ?_ ?_ rfl rfl rfl
    · change (s.curve.virtual_quote_reserves - U64.cast gross).toNat + gross = _
      rw [U64.toNat_sub_of_le (hcast.le.trans hle), hcast]
      exact Nat.sub_add_cancel hle
    · exact U64.toNat_add_of_lt (by omega)

/-- A run of quoted trades from a curve's creation: the book behind the curve,
    and the market between two of its states. -/
theorem quoted_trades_follow {global : Global} {creator quote_mint : Pubkey} {seed : UInt64}
    {mayhem_mode cashback : Bool} {creator_fee_bps : UInt64} (hseed : 1 ≤ seed)
    (htokens : global.initial_real_token_reserves < global.initial_virtual_token_reserves)
    (hreached : ReflTransGen QuotedTrade (CurveLedger.new (PumpSdk.initial_bonding_curve global
      creator quote_mint seed mayhem_mode cashback creator_fee_bps)) s)
    (hlater : ReflTransGen QuotedTrade s s') :
    ∃ book book' : Book seed.toNat global.initial_virtual_token_reserves.toNat,
      Keeps (global.initial_virtual_token_reserves.toNat -
        global.initial_real_token_reserves.toNat) s.traded book ∧
      Keeps (global.initial_virtual_token_reserves.toNat -
        global.initial_real_token_reserves.toNat) s'.traded book' ∧
      Market.Follows (CurveLedger.new (PumpSdk.initial_bonding_curve global creator quote_mint seed
        mayhem_mode cashback creator_fee_bps)).market s.market ∧
      Market.Follows s.market s'.market := by
  have hseed_nat : 0 < seed.toNat := UInt64.le_iff_toNat_le.mp hseed
  have htokens_nat := UInt64.lt_iff_toNat_lt.mp htokens
  have hsupply := U64.toNat_lt global.initial_virtual_token_reserves
  have hstep : ∀ s s' : CurveLedger,
      (∃ book : Book seed.toNat global.initial_virtual_token_reserves.toNat,
        Keeps (global.initial_virtual_token_reserves.toNat -
          global.initial_real_token_reserves.toNat) s.traded book) →
      QuotedTrade s s' →
      (∃ book' : Book seed.toNat global.initial_virtual_token_reserves.toNat,
        Keeps (global.initial_virtual_token_reserves.toNat -
          global.initial_real_token_reserves.toNat) s'.traded book') ∧
      Market.Follows s.market s'.market := by
    rintro s s' ⟨book, keeps⟩ htrade
    obtain ⟨book', -, keeps'⟩ := htrade.trade.keeps hseed_nat (by omega) hsupply keeps
    exact ⟨⟨book', keeps'⟩, htrade.follows hsupply keeps⟩
  obtain ⟨⟨book, keeps⟩, hfirst⟩ := Market.follows_of_run CurveLedger.market hstep
    ⟨_, Keeps.new htokens⟩ hreached
  obtain ⟨⟨book', keeps'⟩, hsecond⟩ := Market.follows_of_run CurveLedger.market hstep
    ⟨book, keeps⟩ hlater
  exact ⟨book, book', keeps, keeps', hfirst, hsecond⟩

/-- From a curve's creation on, whatever was paid is what the curve has raised,
    what the traders received and the fees, and the traders hold what it no longer
    has of its supply. -/
theorem quoted_trades_balance {global : Global} {creator quote_mint : Pubkey} {seed : UInt64}
    {mayhem_mode cashback : Bool} {creator_fee_bps : UInt64} (hseed : 1 ≤ seed)
    (htokens : global.initial_real_token_reserves < global.initial_virtual_token_reserves)
    (hreached : ReflTransGen QuotedTrade (CurveLedger.new (PumpSdk.initial_bonding_curve global
      creator quote_mint seed mayhem_mode cashback creator_fee_bps)) s) :
    s.paid = s.curve.real_quote_reserves.toNat + s.received + s.fees ∧
      s.outside + s.curve.real_token_reserves.toNat = global.initial_real_token_reserves.toNat := by
  obtain ⟨book, -, keeps, -, hfollows, -⟩ := quoted_trades_follow hseed htokens hreached .refl
  have htokens_nat := UInt64.lt_iff_toNat_lt.mp htokens
  have hstart := hfollows.balance
  have hvq := keeps.virtual_quote
  have hrq := keeps.real_quote
  have hquote := book.quote_eq
  have hheld := keeps.held
  have hreal := keeps.real_token
  have hsupply := book.tokens_eq
  simp only [CurveLedger.market, CurveLedger.new, CurveLedger.curve, TradedCurve.new,
    PumpSdk.initial_bonding_curve, PumpSdk.resolve_quote_mint] at hstart
  simp only [CurveLedger.curve, CurveLedger.outside]
  omega

end

/-- A launch curve, one exact-in buy on it, and the sale of all it bought. -/
def launchLedger : CurveLedger := .new (PumpSdk.initial_bonding_curve bonding_curve.launchGlobal ⟨7⟩
  Pubkey.default 30_000_000_000 false false 0)

def boughtLedger : CurveLedger where
  traded := ⟨afterBuy launchLedger.curve 985_221_674 34_117_646_995_895,
    launchLedger.traded.bought + UInt64.toNat 34_117_646_995_895, launchLedger.traded.sold⟩
  paid := launchLedger.paid + UInt64.toNat 1_000_000_000
  received := launchLedger.received
  fees := launchLedger.fees + (UInt64.toNat 9_852_217 + UInt64.toNat 4_926_109)

def soldLedger : CurveLedger where
  traded := ⟨afterSell boughtLedger.curve (U64.cast 985_221_673) 34_117_646_995_895,
    boughtLedger.traded.bought, boughtLedger.traded.sold + UInt64.toNat 34_117_646_995_895⟩
  paid := boughtLedger.paid
  received := boughtLedger.received + UInt64.toNat 970_443_347
  fees := boughtLedger.fees + (985_221_673 - UInt64.toNat 970_443_347)

theorem launchLedger_trades :
    letI : Build := ⟨true⟩
    QuotedTrade launchLedger boughtLedger ∧ QuotedTrade boughtLedger soldLedger := by
  let _ : Build := ⟨true⟩
  have hbuy : buy_v3_token_amount_from_sol_amount launchGlobal launchFees launchLedger.curve 0 0
      1_000_000_000 = .ok (34_117_646_995_895, 1_000_000_000) := by decide +kernel
  have hinside : buy_tokens_exact_in launchGlobal launchFees launchLedger.curve 0 1_000_000_000 =
      .ok (UInt64.toNat 34_117_646_995_895) := by decide +kernel
  have hbps : curve_fee_bps launchGlobal launchFees launchLedger.curve 0 = .ok (100, 50) := by
    decide +kernel
  have hsplit : exact_in_fee_amounts 1_000_000_000 (100, 50, 0) =
      .ok (985_221_674, 9_852_217, 4_926_109, 0) := by decide +kernel
  have hsell : sell_sol_amount_from_token_amount launchGlobal launchFees boughtLedger.curve 0
      34_117_646_995_895 = .ok 970_443_347 := by decide +kernel
  constructor
  · exact .buy_exact_in hbuy (by decide) hinside (by decide) hbps hsplit (by decide)
  · exact .sell hsell (by decide) (by decide) (by decide +kernel)

/-- The traders of a curve never take out more than they put in by its quoted
    trades. From its creation on, whatever was paid is what the curve has raised, what the traders
    received and the fees; and over any stretch of the run that leaves them with
    no fewer tokens they paid at least what they received and all the fees. -/
theorem curve_traders_never_profit [Build] (global : Global) (creator quote_mint : Pubkey)
    (seed : UInt64) (mayhem_mode cashback : Bool) (creator_fee_bps : UInt64) (hseed : 1 ≤ seed)
    (htokens : global.initial_real_token_reserves < global.initial_virtual_token_reserves)
    {s s' : CurveLedger}
    (hreached : ReflTransGen QuotedTrade (CurveLedger.new (PumpSdk.initial_bonding_curve global
      creator quote_mint seed mayhem_mode cashback creator_fee_bps)) s)
    (hlater : ReflTransGen QuotedTrade s s') :
    s.paid = s.curve.real_quote_reserves.toNat + s.received + s.fees ∧
    (s.outside ≤ s'.outside → s.paid + s'.received + s'.fees ≤ s'.paid + s.received + s.fees) := by
  obtain ⟨book, book', keeps, keeps', -, hsecond⟩ :=
    quoted_trades_follow hseed htokens hreached hlater
  obtain ⟨hbalance, houtside_s⟩ := quoted_trades_balance hseed htokens hreached
  obtain ⟨-, houtside_s'⟩ := quoted_trades_balance hseed htokens (hreached.trans hlater)
  have htokens_nat := UInt64.lt_iff_toNat_lt.mp htokens
  have hvt := keeps.virtual_token
  have hvt' := keeps'.virtual_token
  have hreal := keeps.real_token
  have hreal' := keeps'.real_token
  refine ⟨hbalance, fun houtside => ?_⟩
  simp only [CurveLedger.curve] at houtside_s houtside_s'
  have hpay := hsecond.traders_pay (by simp only [CurveLedger.market, CurveLedger.curve]; omega)
    (by simp only [CurveLedger.market, CurveLedger.curve]; omega)
  simp only [CurveLedger.market] at hpay
  omega

/-- The buyer of a launch curve who sells all of it again is out of pocket by
    the fees. -/
theorem curve_traders_never_profit_launch :
    soldLedger.paid = 1 + 970_443_347 + 29_556_652 ∧
      launchLedger.paid + soldLedger.received + soldLedger.fees ≤
        soldLedger.paid + launchLedger.received + launchLedger.fees := by
  let _ : Build := ⟨true⟩
  obtain ⟨hbuy, hsell⟩ := launchLedger_trades
  obtain ⟨hledger, -⟩ := curve_traders_never_profit launchGlobal ⟨7⟩ Pubkey.default 30_000_000_000
    false false 0 (by decide) (by decide) (.tail (.single hbuy) hsell) .refl
  obtain ⟨-, hlose⟩ := curve_traders_never_profit launchGlobal ⟨7⟩ Pubkey.default 30_000_000_000
    false false 0 (by decide) (by decide) .refl (.tail (.single hbuy) hsell)
  exact ⟨hledger.trans (by decide +kernel), hlose (by decide +kernel)⟩

/-- No sequence of trades beats one. Whatever a stretch of a run went through,
    the tokens it put in brought its traders no more than one fee-less sell of
    them on the reserves it started from, and the quote it put in no more tokens
    than one fee-less buy. -/
theorem curve_run_never_beats_one_trade [Build] (global : Global) (creator quote_mint : Pubkey)
    (seed : UInt64) (mayhem_mode cashback : Bool) (creator_fee_bps : UInt64) (hseed : 1 ≤ seed)
    (htokens : global.initial_real_token_reserves < global.initial_virtual_token_reserves)
    {s s' : CurveLedger}
    (hreached : ReflTransGen QuotedTrade (CurveLedger.new (PumpSdk.initial_bonding_curve global
      creator quote_mint seed mayhem_mode cashback creator_fee_bps)) s)
    (hlater : ReflTransGen QuotedTrade s s') :
    (∀ sold : UInt64, s.outside = s'.outside + sold.toNat →
      ∃ gross, sell_quote s.curve.virtual_quote_reserves s.curve.virtual_token_reserves sold =
          .ok gross ∧
        s.paid + s'.received + s'.fees ≤ s'.paid + s.received + s.fees + gross) ∧
    ∀ raised : UInt64, s'.curve.real_quote_reserves.toNat =
        s.curve.real_quote_reserves.toNat + raised.toNat →
      ∃ tokens, buy_token_quote_with_sol s.curve.virtual_quote_reserves
          s.curve.virtual_token_reserves raised = .ok tokens ∧
        s'.outside ≤ s.outside + tokens := by
  obtain ⟨book, book', keeps, keeps', -, hlater⟩ :=
    quoted_trades_follow hseed htokens hreached hlater
  have hseed_nat : 0 < seed.toNat := UInt64.le_iff_toNat_le.mp hseed
  have htokens_nat := UInt64.lt_iff_toNat_lt.mp htokens
  have hvq : s.curve.virtual_quote_reserves.toNat = book.quote := keeps.virtual_quote
  have hvq' : s'.curve.virtual_quote_reserves.toNat = book'.quote := keeps'.virtual_quote
  have hrq : s.curve.real_quote_reserves.toNat = book.raised := keeps.real_quote
  have hrq' : s'.curve.real_quote_reserves.toNat = book'.raised := keeps'.real_quote
  have hvt : s.curve.virtual_token_reserves.toNat = book.tokens := keeps.virtual_token
  have hvt' : s'.curve.virtual_token_reserves.toNat = book'.tokens := keeps'.virtual_token
  have hreal := keeps.real_token
  have hquote := book.quote_eq
  have hquote' := book'.quote_eq
  have hsupply := book.tokens_eq
  have hsupply' := book'.tokens_eq
  have hheld : s.outside = book.held := by
    rw [CurveLedger.outside, keeps.held, Nat.add_sub_cancel_left]
  have hheld' : s'.outside = book'.held := by
    rw [CurveLedger.outside, keeps'.held, Nat.add_sub_cancel_left]
  constructor
  · intro sold hsold
    have hput : s'.market.tokens = s.market.tokens + sold.toNat := by
      simp only [CurveLedger.market]
      omega
    have hpos : 0 < s.curve.virtual_token_reserves.toNat := by omega
    have hbest := hlater.received_le_swapOut hpos hput
    refine ⟨_, sell_quote_eq _ _ hpos, ?_⟩
    simp only [CurveLedger.market] at hbest
    omega
  · intro raised hraised
    have hput : s'.market.quote = s.market.quote + raised.toNat := by
      simp only [CurveLedger.market]
      omega
    have hpos : 0 < s.curve.virtual_quote_reserves.toNat := by omega
    have hbest := hlater.taken_le_swapOut hpos hput
    refine ⟨_, buy_token_quote_with_sol_eq _ _ hpos, ?_⟩
    simp only [CurveLedger.market] at hbest
    omega

/-- The buy took no more than the fee-less one, and the sale brought no more. -/
theorem curve_run_never_beats_one_trade_launch :
    boughtLedger.outside ≤ launchLedger.outside + 34_117_647_029_424 ∧
      boughtLedger.paid + soldLedger.received + soldLedger.fees ≤
        soldLedger.paid + boughtLedger.received + boughtLedger.fees + 985_221_673 := by
  let _ : Build := ⟨true⟩
  obtain ⟨hbuy, hsell⟩ := launchLedger_trades
  obtain ⟨-, htaken⟩ := curve_run_never_beats_one_trade launchGlobal ⟨7⟩ Pubkey.default
    30_000_000_000 false false 0 (by decide) (by decide) .refl (.single hbuy)
  obtain ⟨hput, -⟩ := curve_run_never_beats_one_trade launchGlobal ⟨7⟩ Pubkey.default
    30_000_000_000 false false 0 (by decide) (by decide) (.single hbuy) (.single hsell)
  obtain ⟨tokens, hquote, htokens⟩ := htaken 985_221_674 (by decide +kernel)
  obtain ⟨gross, hgross, hreceived⟩ := hput 34_117_646_995_895 (by decide +kernel)
  have heq : tokens = 34_117_647_029_424 := Except.ok.inj (hquote.symm.trans (by decide +kernel))
  have heq' : gross = 985_221_673 := Except.ok.inj (hgross.symm.trans (by decide +kernel))
  exact ⟨heq ▸ htokens, heq' ▸ hreceived⟩

end pump_rust_client.sdk
