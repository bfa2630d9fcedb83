import Mathlib.Logic.Relation
import PumpClient.Exchange.Book
import PumpClient.Math.BondingCurve.Hop
import PumpClient.Math.BondingCurve.Quoters
import PumpClient.Sdk.Quotes

open machine exchange Relation

namespace pump_rust_client.sdk

open state math math.utils math.bonding_curve

/-- A curve that took `quote` for `tokens`. -/
def afterBuy (bonding_curve : BondingCurve) (quote tokens : UInt64) : BondingCurve :=
  { bonding_curve with
    virtual_quote_reserves := bonding_curve.virtual_quote_reserves + quote
    real_quote_reserves := bonding_curve.real_quote_reserves + quote
    virtual_token_reserves := bonding_curve.virtual_token_reserves - tokens
    real_token_reserves := bonding_curve.real_token_reserves - tokens }

/-- A curve that took `tokens` back for `quote`. -/
def afterSell (bonding_curve : BondingCurve) (quote tokens : UInt64) : BondingCurve :=
  { bonding_curve with
    virtual_quote_reserves := bonding_curve.virtual_quote_reserves - quote
    real_quote_reserves := bonding_curve.real_quote_reserves - quote
    virtual_token_reserves := bonding_curve.virtual_token_reserves + tokens
    real_token_reserves := bonding_curve.real_token_reserves + tokens }

/-- A curve with the tokens its trades bought and sold so far. -/
structure TradedCurve where
  curve : BondingCurve
  bought : Nat
  sold : Nat

def TradedCurve.product (s : TradedCurve) : Nat :=
  s.curve.virtual_quote_reserves.toNat * s.curve.virtual_token_reserves.toNat

/-- The curve's reserves are those of a book opened on its seed. What the book
    holds beyond the real tokens never goes on sale. -/
structure Keeps {seed supply : ℕ} (unsold : ℕ) (s : TradedCurve) (book : Book seed supply) : Prop where
  virtual_quote : s.curve.virtual_quote_reserves.toNat = book.quote
  virtual_token : s.curve.virtual_token_reserves.toNat = book.tokens
  real_quote : s.curve.real_quote_reserves.toNat = book.raised
  real_token : s.curve.real_token_reserves.toNat + unsold = book.tokens
  held : s.bought = s.sold + book.held

/-- A new curve before any trade. -/
def TradedCurve.new (bonding_curve : BondingCurve) : TradedCurve := ⟨bonding_curve, 0, 0⟩

theorem Keeps.new {global : Global} {creator quote_mint : Pubkey} {seed : UInt64}
    {mayhem_mode cashback : Bool} {creator_fee_bps : UInt64}
    (htokens : global.initial_real_token_reserves < global.initial_virtual_token_reserves) :
    Keeps (global.initial_virtual_token_reserves.toNat - global.initial_real_token_reserves.toNat)
      (TradedCurve.new (PumpSdk.initial_bonding_curve global creator quote_mint seed mayhem_mode
        cashback creator_fee_bps))
      (Book.opened seed.toNat global.initial_virtual_token_reserves.toNat) where
  virtual_quote := rfl
  virtual_token := rfl
  real_quote := rfl
  real_token := by
    rw [UInt64.lt_iff_toNat_lt] at htokens
    simp only [TradedCurve.new, PumpSdk.initial_bonding_curve, Book.opened]
    omega
  held := rfl

section

variable {seed supply unsold : ℕ} {s s' : TradedCurve} {book : Book seed supply}

/-- A buy on terms that keep the product is a buy of the book. -/
theorem Keeps.after_buy (keeps : Keeps unsold s book) {net tokens : UInt64}
    (hleft : tokens ≤ s.curve.real_token_reserves)
    (hfits : s.curve.virtual_quote_reserves.toNat + net.toNat < 2 ^ 64)
    (hproduct : book.quote * book.tokens ≤
      (book.quote + net.toNat) * (book.tokens - tokens.toNat)) :
    ∃ book' : Book seed supply, book.quote * book.tokens ≤ book'.quote * book'.tokens ∧
      Keeps unsold ⟨afterBuy s.curve net tokens, s.bought + tokens.toNat, s.sold⟩ book' := by
  have hreal := keeps.real_token
  have hquote_eq := book.quote_eq
  have hvq := keeps.virtual_quote
  have hvt := keeps.virtual_token
  have hrq := keeps.real_quote
  have hheld := keeps.held
  rw [UInt64.le_iff_toNat_le] at hleft
  refine ⟨book.buy net.toNat tokens.toNat (by omega) hproduct, hproduct, ?_⟩
  constructor
  · simp only [afterBuy, Book.buy]
    rw [U64.toNat_add_of_lt (by omega), hvq]
  · simp only [afterBuy, Book.buy]
    rw [U64.toNat_sub_of_le (by omega), hvt]
  · simp only [afterBuy, Book.buy]
    rw [U64.toNat_add_of_lt (by omega), hrq]
  · simp only [afterBuy, Book.buy]
    rw [U64.toNat_sub_of_le (by omega)]
    omega
  · simp only [Book.buy]
    omega

variable [Build]

/-- One trade at the curve's own quote. Buys take at most what is left for sale,
    sells return at most what is outside; the quote they add fits `u64`. -/
inductive Trade : TradedCurve → TradedCurve → Prop
  | buy_exact_in {s : TradedCurve} {net tokens : UInt64} (hnet : 0 < net)
      (hquote : swap_exact_input (net.toNat - 1) s.curve.virtual_quote_reserves.toNat
        s.curve.virtual_token_reserves.toNat = .ok tokens.toNat)
      (hleft : tokens ≤ s.curve.real_token_reserves)
      (hfits : s.curve.virtual_quote_reserves.toNat + net.toNat < 2 ^ 64) :
      Trade s ⟨afterBuy s.curve net tokens, s.bought + tokens.toNat, s.sold⟩
  | buy_exact_out {s : TradedCurve} {net tokens : UInt64}
      (hquote : buy_quote s.curve tokens = .ok net)
      (hleft : tokens ≤ s.curve.real_token_reserves)
      (hfits : s.curve.virtual_quote_reserves.toNat + net.toNat < 2 ^ 64) :
      Trade s ⟨afterBuy s.curve net tokens, s.bought + tokens.toNat, s.sold⟩
  | sell {s : TradedCurve} {gross : Nat} {tokens : UInt64}
      (hquote : sell_quote s.curve.virtual_quote_reserves s.curve.virtual_token_reserves tokens =
        .ok gross)
      (houtside : tokens.toNat ≤ s.bought - s.sold) :
      Trade s ⟨afterSell s.curve (U64.cast gross) tokens, s.bought, s.sold + tokens.toNat⟩

/-- One trade is one trade of the book. -/
theorem Trade.keeps (htrade : Trade s s') (hseed : 0 < seed) (hunsold : 0 < unsold)
    (hsupply : supply < 2 ^ 64) (keeps : Keeps unsold s book) :
    ∃ book' : Book seed supply, book.quote * book.tokens ≤ book'.quote * book'.tokens ∧
      Keeps unsold s' book' := by
  have hvq := keeps.virtual_quote
  have hvt := keeps.virtual_token
  have hquote_eq := book.quote_eq
  have htokens_eq := book.tokens_eq
  have hreal := keeps.real_token
  cases htrade with
  | @buy_exact_in net tokens hnet hquote hleft hfits =>
    rw [utils.swap_exact_input_eq (by omega) (by omega) (by omega) (by omega), hvq, hvt] at hquote
    exact keeps.after_buy hleft hfits
      (mul_le_mul_of_le_swapOut (Nat.sub_le _ 1) (Except.ok.inj hquote).ge)
  | @buy_exact_out net tokens hquote hleft hfits =>
    obtain ⟨-, hlt, hnet⟩ := buy_quote_eq_ok_iff.mp hquote
    rw [hvq, hvt] at hnet
    exact keeps.after_buy hleft hfits (mul_le_mul_of_swapInFloor_lt (by omega) (by omega))
  | @sell gross tokens hquote houtside =>
    have hheld := keeps.held
    have hrq := keeps.real_quote
    rw [sell_quote_eq _ _ (by omega), hvq, hvt] at hquote
    obtain rfl := Except.ok.inj hquote
    have hback : tokens.toNat ≤ book.held := by omega
    have hpaid := book.swapOut_le_raised (by omega) hback
    have hraised := U64.toNat_lt s.curve.real_quote_reserves
    have hcast := U64.toNat_cast_of_lt (n := swapOut tokens.toNat book.tokens book.quote) (by omega)
    refine ⟨book.sell (by omega) tokens.toNat hback, book.product_le_after_sell _, ?_⟩
    constructor
    · simp only [afterSell, Book.sell]
      rw [U64.toNat_sub_of_le (by omega), hcast, hvq]
    · simp only [afterSell, Book.sell]
      rw [U64.toNat_add_of_lt (by omega), hvt]
    · simp only [afterSell, Book.sell]
      rw [U64.toNat_sub_of_le (by omega), hcast, hrq]
    · simp only [afterSell, Book.sell]
      rw [U64.toNat_add_of_lt (by omega)]
      omega
    · simp only [Book.sell]
      omega

/-- A run of trades is a run of the book. -/
theorem trades_keep (hrun : ReflTransGen Trade s s') (hseed : 0 < seed) (hunsold : 0 < unsold)
    (hsupply : supply < 2 ^ 64) (keeps : Keeps unsold s book) :
    ∃ book' : Book seed supply, book.quote * book.tokens ≤ book'.quote * book'.tokens ∧
      Keeps unsold s' book' := by
  induction hrun with
  | refl => exact ⟨book, le_rfl, keeps⟩
  | tail _ htrade ih =>
    obtain ⟨book₁, hle₁, keeps₁⟩ := ih
    obtain ⟨book₂, hle₂, keeps₂⟩ := htrade.keeps hseed hunsold hsupply keeps₁
    exact ⟨book₂, hle₁.trans hle₂, keeps₂⟩

/-- Two states of one run from a curve's creation are books opened on its seed,
    the later one with no smaller product. -/
theorem launched_books {global : Global} {creator quote_mint : Pubkey} {seed : UInt64}
    {mayhem_mode cashback : Bool} {creator_fee_bps : UInt64} (hseed : 1 ≤ seed)
    (htokens : global.initial_real_token_reserves < global.initial_virtual_token_reserves)
    (hreached : ReflTransGen Trade (TradedCurve.new (PumpSdk.initial_bonding_curve global creator
      quote_mint seed mayhem_mode cashback creator_fee_bps)) s)
    (hlater : ReflTransGen Trade s s') :
    ∃ book book' : Book seed.toNat global.initial_virtual_token_reserves.toNat,
      book.quote * book.tokens ≤ book'.quote * book'.tokens ∧
      Keeps (global.initial_virtual_token_reserves.toNat -
        global.initial_real_token_reserves.toNat) s book ∧
      Keeps (global.initial_virtual_token_reserves.toNat -
        global.initial_real_token_reserves.toNat) s' book' := by
  have hseed_nat : 0 < seed.toNat := UInt64.le_iff_toNat_le.mp hseed
  have htokens_nat := UInt64.lt_iff_toNat_lt.mp htokens
  have hsupply := U64.toNat_lt global.initial_virtual_token_reserves
  obtain ⟨book, -, keeps⟩ := trades_keep hreached hseed_nat (by omega) hsupply (Keeps.new htokens)
  obtain ⟨book', hproduct, keeps'⟩ := trades_keep hlater hseed_nat (by omega) hsupply keeps
  exact ⟨book, book', hproduct, keeps, keeps'⟩

/-- A curve traded at its own quotes from its creation on keeps the distance
    between virtual and real reserves, never lowers its product, never depletes
    on what it still sells, and can pay every sell of tokens it sold. -/
theorem curve_run_invariant (global : Global) (creator quote_mint : Pubkey) (seed : UInt64)
    (mayhem_mode cashback : Bool) (creator_fee_bps : UInt64) (hseed : 1 ≤ seed)
    (htokens : global.initial_real_token_reserves < global.initial_virtual_token_reserves)
    {s s' : TradedCurve}
    (hreached : ReflTransGen Trade (TradedCurve.new (PumpSdk.initial_bonding_curve global creator
      quote_mint seed mayhem_mode cashback creator_fee_bps)) s)
    (hlater : ReflTransGen Trade s s') :
    (s'.curve.real_token_reserves ≤ s'.curve.virtual_token_reserves ∧
      s'.curve.virtual_token_reserves.toNat - s'.curve.real_token_reserves.toNat =
        global.initial_virtual_token_reserves.toNat - global.initial_real_token_reserves.toNat) ∧
    (s'.curve.real_quote_reserves ≤ s'.curve.virtual_quote_reserves ∧
      s'.curve.virtual_quote_reserves.toNat - s'.curve.real_quote_reserves.toNat = seed.toNat) ∧
    s.product ≤ s'.product ∧
    (∀ amount, 1 ≤ amount → amount ≤ s'.curve.real_token_reserves →
      buy_quote s'.curve amount ≠ Outcome.err .DepletedBondingCurve) ∧
    ∀ (amount : UInt64) (gross : Nat), amount.toNat ≤ s'.bought - s'.sold →
      sell_quote s'.curve.virtual_quote_reserves s'.curve.virtual_token_reserves amount = .ok gross →
      gross ≤ s'.curve.real_quote_reserves.toNat := by
  have hseed_nat : 0 < seed.toNat := UInt64.le_iff_toNat_le.mp hseed
  have htokens_nat := UInt64.lt_iff_toNat_lt.mp htokens
  obtain ⟨book, book', hproduct, keeps, keeps'⟩ := launched_books hseed htokens hreached hlater
  have hreal_token := keeps'.real_token
  have hvirtual_token := keeps'.virtual_token
  have hreal_quote := keeps'.real_quote
  have hvirtual_quote := keeps'.virtual_quote
  have hquote_eq := book'.quote_eq
  refine ⟨⟨UInt64.le_iff_toNat_le.mpr (by omega), by omega⟩,
    ⟨UInt64.le_iff_toNat_le.mpr (by omega), by omega⟩, ?_, ?_, ?_⟩
  · simp only [TradedCurve.product, keeps.virtual_quote, keeps.virtual_token, hvirtual_quote,
      hvirtual_token, hproduct]
  · intro amount hpos hleft h
    rw [UInt64.le_iff_toNat_le] at hpos hleft
    exact buy_quote_ne_depleted hpos (by omega) h
  · intro amount gross houtside hsell
    have hheld := keeps'.held
    rw [sell_quote_eq _ _ (by omega), hvirtual_quote, hvirtual_token] at hsell
    obtain rfl := Except.ok.inj hsell
    exact hreal_quote ▸ book'.swapOut_le_raised (by omega) (by omega)

end

/-- A launch curve after one exact-out buy, an exact-in buy, and a sell of some
    of what the first one bought. -/
theorem curve_run_invariant_launch :
    letI : Build := ⟨true⟩
    let start := TradedCurve.new (PumpSdk.initial_bonding_curve launchGlobal ⟨7⟩ Pubkey.default
      30_000_000_000 false false 0)
    let first : TradedCurve :=
      ⟨afterBuy start.curve 27_985_075 1_000_000_000_000, 0 + UInt64.toNat 1_000_000_000_000, 0⟩
    let second : TradedCurve :=
      ⟨afterBuy first.curve 1_000_000_000 34_549_455_801_636,
        first.bought + UInt64.toNat 34_549_455_801_636, 0⟩
    let third : TradedCurve :=
      ⟨afterSell second.curve (U64.cast 14_946_755) 500_000_000_000, second.bought,
        0 + UInt64.toNat 500_000_000_000⟩
    first.product ≤ third.product ∧
      buy_quote third.curve third.curve.real_token_reserves ≠ Outcome.err .DepletedBondingCurve ∧
      1_013_038_318 ≤ third.curve.real_quote_reserves.toNat := by
  let _ : Build := ⟨true⟩
  intro start first second third
  have hfirst : Trade start first :=
    .buy_exact_out (by decide +kernel) (by decide +kernel) (by decide +kernel)
  have hsecond : Trade first second :=
    .buy_exact_in (by decide) (by decide +kernel) (by decide +kernel) (by decide +kernel)
  have hthird : Trade second third := .sell (by decide +kernel) (by decide +kernel)
  obtain ⟨-, -, hproduct, hdepleted, hpayable⟩ :=
    curve_run_invariant launchGlobal ⟨7⟩ Pubkey.default 30_000_000_000 false false 0 (by decide)
      (by decide) (.single hfirst) (.head hsecond (.single hthird))
  exact ⟨hproduct, hdepleted _ (by decide +kernel) (by decide +kernel),
    hpayable 35_049_455_801_636 1_013_038_318 (by decide +kernel) (by decide +kernel)⟩

end pump_rust_client.sdk
