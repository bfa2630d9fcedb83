import PumpClient.Math.Amm

open machine

namespace pump_rust_client.math.amm

open state state.pump_amm utils fees

variable {pool : Pool} {quote_vault_balance : UInt64}

/-- The pricing reserve is the exact sum of the vault and the signed virtual
    reserve; `i128` is wide enough that only the result can be out of range. -/
theorem effective_quote_reserve_eq_ok_iff {quote_reserve : UInt64} :
    effective_quote_reserve pool quote_vault_balance = .ok quote_reserve ↔
      (quote_reserve.toNat : Int) = quote_vault_balance.toNat + pool.virtual_quote_reserves.val := by
  have hlt := U64.toNat_lt quote_reserve
  have hvault : (I128.from_u64 quote_vault_balance).val = quote_vault_balance.toNat := rfl
  simp only [effective_quote_reserve, Outcome.ok_or_eq_ok_iff, Option.bind_eq_some_iff,
    U64.try_from_int_eq_some_iff, I128.checked_add_eq_some_iff, hvault]
  constructor
  · rintro ⟨v, hv, hquote⟩
    rw [hquote, hv]
  · intro h
    exact ⟨⟨quote_reserve.toNat, by omega⟩, h, rfl⟩

/-- The real reserve is the vault less both fee buckets, without wraparound. -/
theorem real_quote_reserve_eq_ok_iff {real_quote : UInt64} :
    real_quote_reserve pool quote_vault_balance = .ok real_quote ↔
      real_quote.toNat + (pool.protocol_fees.toNat + pool.creator_fees.toNat) =
        quote_vault_balance.toNat := by
  have hlt := U64.toNat_lt quote_vault_balance
  simp only [real_quote_reserve, fee_buckets_total, Outcome.bind_eq_ok_iff, Outcome.ok_or_eq_ok_iff,
    U64.checked_add_eq_some_iff, U64.checked_sub_eq_some_iff]
  constructor
  · rintro ⟨buckets, hbuckets, h⟩
    omega
  · intro h
    refine ⟨pool.protocol_fees + pool.creator_fees, ?_, ?_⟩
    · exact U64.toNat_add_of_lt (by omega)
    · rw [U64.toNat_add_of_lt (by omega), h]

theorem effective_quote_reserve_error {e : Fault QuoteError}
    (h : effective_quote_reserve pool quote_vault_balance = .error e) :
    e = .error .MathOverflow :=
  (Outcome.ok_or_eq_error_iff.mp h).2

theorem real_quote_reserve_error {e : Fault QuoteError}
    (h : real_quote_reserve pool quote_vault_balance = .error e) : e = .error .MathOverflow := by
  rw [real_quote_reserve, Outcome.bind_eq_error_iff] at h
  obtain h | ⟨buckets, -, h⟩ := h
  · exact (Outcome.ok_or_eq_error_iff.mp h).2
  · exact (Outcome.ok_or_eq_error_iff.mp h).2

/-- A pool of pump's own, with unswept fees in its vault. -/
def graduatedPool : Pool :=
  { Pool.default with
    creator := ⟨0xe91f1a5ed3e92dd3c011414baecabed477083285d5861bfb3618ad6394981f0c⟩
    base_mint := ⟨11⟩
    quote_mint := constants.NATIVE_MINT
    coin_creator := ⟨7⟩
    virtual_quote_reserves := ⟨-5_000, by decide⟩
    protocol_fees := 3_000
    creator_fees := 2_000 }

/-- The pool authority of its base mint, the one address its trades derive. -/
abbrev graduatedPoolAuthority : Solana where
  find_program_address _ _ :=
    (⟨0xe91f1a5ed3e92dd3c011414baecabed477083285d5861bfb3618ad6394981f0c⟩, 255)

end pump_rust_client.math.amm
