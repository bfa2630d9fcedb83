import Mathlib.Logic.Relation
import PumpClient.Exchange.Splitting

open Relation

namespace exchange

/-- The reserves a market prices on, with what its traders have paid in and been
    paid out and what fees have left the reserves. -/
structure Market where
  quote : ℕ
  tokens : ℕ
  paid : ℕ
  received : ℕ
  fees : ℕ

namespace Market

/-- `m'` follows `m` when it kept the product and every unit of quote its
    traders moved is in the reserves or in the fees. -/
structure Follows (m m' : Market) : Prop where
  product_le : m.quote * m.tokens ≤ m'.quote * m'.tokens
  balance : m'.quote + m'.received + m'.fees + m.paid = m.quote + m.received + m.fees + m'.paid

variable {m m' m'' : Market}

theorem Follows.refl (m : Market) : Follows m m where
  product_le := le_rfl
  balance := rfl

theorem Follows.trans (h : Follows m m') (h' : Follows m' m'') : Follows m m'' where
  product_le := h.product_le.trans h'.product_le
  balance := by
    have hfirst := h.balance
    have hsecond := h'.balance
    omega

/-- A system whose steps each follow, from states that keep an invariant, stays
    a market over its whole run. -/
theorem follows_of_run {σ : Type} {step : σ → σ → Prop} {inv : σ → Prop} (market : σ → Market)
    (hstep : ∀ s s', inv s → step s s' → inv s' ∧ Follows (market s) (market s')) {s s' : σ}
    (hinv : inv s) (hrun : ReflTransGen step s s') : inv s' ∧ Follows (market s) (market s') := by
  induction hrun with
  | refl => exact ⟨hinv, .refl _⟩
  | tail _ hlast ih =>
    obtain ⟨hmiddle, hfollows⟩ := ih
    obtain ⟨hend, hlast⟩ := hstep _ _ hmiddle hlast
    exact ⟨hend, hfollows.trans hlast⟩

/-- A buy: `net` joins the reserves for `taken` tokens, `fee` leaves them. -/
theorem Follows.of_buy (net fee taken : ℕ)
    (hproduct : m.quote * m.tokens ≤ (m.quote + net) * (m.tokens - taken))
    (hquote : m'.quote = m.quote + net) (htokens : m'.tokens + taken = m.tokens)
    (hpaid : m'.paid = m.paid + (net + fee))
    (hreceived : m'.received = m.received) (hfees : m'.fees = m.fees + fee) : Follows m m' where
  product_le := by
    have hleft : m'.tokens = m.tokens - taken := by omega
    rwa [hquote, hleft]
  balance := by omega

/-- A sell: at most what the swap pays leaves the reserves, as a payout and a
    fee. -/
theorem Follows.of_sell (sold out payout fee : ℕ)
    (hout : out ≤ swapOut sold m.tokens m.quote) (hsplit : out = payout + fee)
    (hquote : m'.quote + out = m.quote) (htokens : m'.tokens = m.tokens + sold)
    (hpaid : m'.paid = m.paid) (hreceived : m'.received = m.received + payout)
    (hfees : m'.fees = m.fees + fee) : Follows m m' where
  product_le := by
    have hkept := mul_le_mul_of_le_swapOut (X := m.tokens) (Y := m.quote) le_rfl hout
    have hleft : m'.quote = m.quote - out := by omega
    rw [hleft, htokens, Nat.mul_comm m.quote, Nat.mul_comm (m.quote - out)]
    exact hkept
  balance := by omega

/-- Traders who hold no fewer tokens between them than before have paid all
    they received and all the fees. -/
theorem Follows.traders_pay (h : Follows m m') (htokens : m'.tokens ≤ m.tokens)
    (hpos : 0 < m'.tokens) : m'.received + m'.fees + m.paid ≤ m.received + m.fees + m'.paid := by
  have hbalance := h.balance
  have hmore : m.quote ≤ m'.quote := Nat.le_of_mul_le_mul_right
    ((Nat.mul_le_mul_left _ htokens).trans h.product_le) hpos
  omega

/-- However a run puts `n` tokens in, it takes no more out than one fee-less
    sell of `n` on the reserves it started from. -/
theorem Follows.received_le_swapOut (h : Follows m m') {n : ℕ} (hpos : 0 < m.tokens)
    (hn : m'.tokens = m.tokens + n) :
    m'.received + m'.fees + m.paid ≤
      m.received + m.fees + m'.paid + swapOut n m.tokens m.quote := by
  have hbalance := h.balance
  have hproduct := h.product_le
  rcases Nat.le_total m.quote m'.quote with hmore | hless
  · omega
  · have hback : m.quote - m'.quote ≤ swapOut n m.tokens m.quote := by
      apply le_swapOut_of_mul_le hpos (Nat.sub_le _ _)
      rw [Nat.sub_sub_self hless, ← hn, Nat.mul_comm m.tokens, Nat.mul_comm m'.tokens]
      exact hproduct
    omega

/-- However a run puts `n` of quote into the reserves, it takes no more tokens
    out than one fee-less buy with `n` on the reserves it started from. -/
theorem Follows.taken_le_swapOut (h : Follows m m') {n : ℕ} (hpos : 0 < m.quote)
    (hn : m'.quote = m.quote + n) : m.tokens ≤ m'.tokens + swapOut n m.quote m.tokens := by
  have hproduct := h.product_le
  rcases Nat.le_total m.tokens m'.tokens with hmore | hless
  · omega
  · have htaken : m.tokens - m'.tokens ≤ swapOut n m.quote m.tokens := by
      apply le_swapOut_of_mul_le hpos (Nat.sub_le _ _)
      rw [Nat.sub_sub_self hless, ← hn]
      exact hproduct
    omega

end Market

end exchange
