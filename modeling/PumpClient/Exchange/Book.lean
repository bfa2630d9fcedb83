import PumpClient.Exchange.ConstantProduct

namespace exchange

/-- A constant-product book opened on `seed` of quote and `supply` of tokens.
    `raised` is what trades have paid in since and `held` what they have taken
    out. No trade it allows lowers the product. -/
structure Book (seed supply : ℕ) where
  quote : ℕ
  tokens : ℕ
  raised : ℕ
  held : ℕ
  quote_eq : quote = seed + raised
  tokens_eq : tokens + held = supply
  product_le : seed * supply ≤ quote * tokens

namespace Book

variable {seed supply : ℕ}

/-- The book before any trade. -/
def opened (seed supply : ℕ) : Book seed supply where
  quote := seed
  tokens := supply
  raised := 0
  held := 0
  quote_eq := rfl
  tokens_eq := rfl
  product_le := le_rfl

/-- `paid` in for `taken` out, on terms that keep the product. -/
def buy (book : Book seed supply) (paid taken : ℕ) (htaken : taken ≤ book.tokens)
    (hproduct : book.quote * book.tokens ≤ (book.quote + paid) * (book.tokens - taken)) :
    Book seed supply where
  quote := book.quote + paid
  tokens := book.tokens - taken
  raised := book.raised + paid
  held := book.held + taken
  quote_eq := by rw [book.quote_eq, Nat.add_assoc]
  tokens_eq := by
    have := book.tokens_eq
    omega
  product_le := book.product_le.trans hproduct

theorem product_le_after_sell (book : Book seed supply) (sold : ℕ) :
    book.quote * book.tokens ≤
      (book.quote - swapOut sold book.tokens book.quote) * (book.tokens + sold) := by
  rw [Nat.mul_comm book.quote, Nat.mul_comm (book.quote - _)]
  exact mul_le_mul_of_le_swapOut le_rfl le_rfl

/-- A book that kept its product with fewer tokens holds no less quote. -/
theorem quote_le_of_tokens_le {book book' : Book seed supply}
    (hproduct : book.quote * book.tokens ≤ book'.quote * book'.tokens)
    (htokens : book'.tokens ≤ book.tokens) (hpos : 0 < book'.tokens) : book.quote ≤ book'.quote :=
  Nat.le_of_mul_le_mul_right ((Nat.mul_le_mul_left _ htokens).trans hproduct) hpos

/-- A book that kept its product with less quote holds no fewer tokens. -/
theorem tokens_le_of_quote_le {book book' : Book seed supply}
    (hproduct : book.quote * book.tokens ≤ book'.quote * book'.tokens)
    (hquote : book'.quote ≤ book.quote) (hpos : 0 < book.quote) : book.tokens ≤ book'.tokens :=
  Nat.le_of_mul_le_mul_left (hproduct.trans (Nat.mul_le_mul_right _ hquote)) hpos

/-- Selling back at most what is held pays out at most what was raised: the
    product never fell below its opening value, and the tokens never exceed the
    opening supply. -/
theorem swapOut_le_raised (book : Book seed supply) (hsupply : 0 < supply) {sold : ℕ}
    (hsold : sold ≤ book.held) : swapOut sold book.tokens book.quote ≤ book.raised := by
  have hquote := book.quote_eq
  have htokens := book.tokens_eq
  have hpaid := swapOut_le sold book.tokens book.quote
  have hkept := book.product_le.trans (book.product_le_after_sell sold)
  have hback : book.tokens + sold ≤ supply := by omega
  by_contra hnot
  have hshort : book.quote - swapOut sold book.tokens book.quote < seed := by omega
  have hfell : (book.quote - swapOut sold book.tokens book.quote) * (book.tokens + sold) <
      seed * supply :=
    calc (book.quote - swapOut sold book.tokens book.quote) * (book.tokens + sold)
        ≤ (book.quote - swapOut sold book.tokens book.quote) * supply :=
          Nat.mul_le_mul_left _ hback
      _ < seed * supply := Nat.mul_lt_mul_of_pos_right hshort hsupply
  omega

/-- However a book was traded, what it raised and the price of more of its
    tokens come to no less than the opening price of all that is then held. -/
theorem swapInFloor_le_raised_add (book : Book seed supply) {more : ℕ} (hmore : more < book.tokens) :
    swapInFloor (book.held + more) seed supply ≤
      book.raised + swapInFloor more book.quote book.tokens := by
  have hquote := book.quote_eq
  have htokens := book.tokens_eq
  have hproduct := book.product_le
  -- the product has not fallen, and the price is a floor
  have hprice := (swapInFloor_lt_iff hmore).mp
    (Nat.lt_succ_self (swapInFloor more book.quote book.tokens))
  generalize swapInFloor more book.quote book.tokens = price at *
  obtain ⟨rest, hrest⟩ := Nat.exists_eq_add_of_le hmore.le
  have hsupply : supply = rest + (book.held + more) := by omega
  have hopening : seed * (rest + (book.held + more)) ≤ book.quote * (more + rest) := by
    rw [← hsupply, ← hrest]
    exact hproduct
  rw [hrest, Nat.add_sub_cancel_left] at hprice
  apply Nat.le_of_lt_succ
  have hleft : supply - (book.held + more) = rest := by omega
  rw [swapInFloor, hleft, Nat.div_lt_iff_lt_mul (by omega)]
  rw [hquote] at hopening hprice
  nlinarith

/-- Selling back at most what is held, for what the swap pays. -/
def sell (book : Book seed supply) (hsupply : 0 < supply) (sold : ℕ) (hsold : sold ≤ book.held) :
    Book seed supply where
  quote := book.quote - swapOut sold book.tokens book.quote
  tokens := book.tokens + sold
  raised := book.raised - swapOut sold book.tokens book.quote
  held := book.held - sold
  quote_eq := by
    have hpaid := book.swapOut_le_raised hsupply hsold
    have hquote := book.quote_eq
    omega
  tokens_eq := by
    have htokens := book.tokens_eq
    omega
  product_le := book.product_le.trans (book.product_le_after_sell sold)

end Book

end exchange
