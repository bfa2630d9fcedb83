import PumpClient.Machine.Faults
import PumpClient.Math.Amm.Trades

open machine exchange

namespace pump_rust_client.math.fees

open Outcome

variable [Build]

theorem fee_amount_neverErrs (amount : Nat) (basis_points : UInt64) :
    NeverErrs (fee_amount amount basis_points) :=
  (U128.mul_neverErrs _ _).bind fun _ => U128.div_ceil_neverErrs _ _

theorem creator_fee_amount_neverErrs (creator : Pubkey) (amount : Nat) (basis_points : UInt64) :
    NeverErrs (creator_fee_amount creator amount basis_points) := by
  unfold creator_fee_amount
  split
  · exact neverErrs_ok _
  · exact fee_amount_neverErrs _ _

end pump_rust_client.math.fees

namespace pump_rust_client.math.amm

open state state.pump_amm utils fees

theorem check_trading_enabled_cases (global_config : GlobalConfig) (is_buy : Bool) :
    check_trading_enabled global_config is_buy = .ok () ∨
      check_trading_enabled global_config is_buy = Outcome.err .TradingDisabled := by
  unfold check_trading_enabled
  dsimp only
  generalize (global_config.disable_flags &&& _ != 0) = disabled
  cases disabled with
  | true => exact Or.inr rfl
  | false => exact Or.inl rfl

theorem AmmContext.check_reserves_cases (ctx : AmmContext) :
    ctx.check_reserves = .ok () ∨ ctx.check_reserves = Outcome.err .EmptyReserves := by
  unfold AmmContext.check_reserves
  split
  · exact Or.inr rfl
  · exact Or.inl rfl

/-- The exact quote a wanted base amount swaps for, rounded up. -/
def AmmContext.raw_quote (ctx : AmmContext) (base_out : UInt64) : Nat :=
  swapInCeil base_out.toNat ctx.quote_reserve.toNat ctx.base_reserve.toNat

/-- The exact cost of a wanted base amount: the raw quote and its fees. -/
def AmmContext.total_quote (ctx : AmmContext) (bps : AmmFeeBps) (base_out : UInt64) : Nat :=
  (schedule (ctx.charged_bps bps)).gross (ctx.raw_quote base_out)

theorem AmmContext.raw_quote_le_total_quote (ctx : AmmContext) (bps : AmmFeeBps) (base_out : UInt64) :
    ctx.raw_quote base_out ≤ ctx.total_quote bps base_out := Nat.le_add_right _ _

theorem AmmContext.total_quote_mono {ctx : AmmContext} {base_out base_out' : UInt64}
    (h : base_out.toNat ≤ base_out'.toNat) (hlt : base_out'.toNat < ctx.base_reserve.toNat)
    (bps : AmmFeeBps) : ctx.total_quote bps base_out ≤ ctx.total_quote bps base_out' :=
  FeeSchedule.gross_mono (swapInCeil_mono h hlt)

variable [Build] [Solana]

/-- A token-out quote that prices exactly or refuses: what it returns are the
    exact raw and total cost, and a cost past `u64` is an error. -/
structure ExactOrRefused (ctx : AmmContext) (base_out : UInt64) : Prop where
  exact : ∀ res, buy_base_input ctx base_out = .ok res →
    ∃ bps, ctx.fee_bps = .ok bps ∧ res.raw_quote_in.toNat = ctx.raw_quote base_out ∧
      res.total_quote_in.toNat = ctx.total_quote bps base_out
  refused : ∀ bps, ctx.fee_bps = .ok bps → base_out < ctx.base_reserve →
    2 ^ 64 ≤ ctx.total_quote bps base_out → ∃ e, buy_base_input ctx base_out = Outcome.err e

/-- The exact cost of a trade that passes every check fits `u64`. -/
def TotalFits (ctx : AmmContext) (base_out : UInt64) : Prop :=
  check_trading_enabled ctx.global_config true = .ok () → ctx.check_reserves = .ok () →
    base_out < ctx.base_reserve →
      ∀ bps, ctx.fee_bps = .ok bps → ctx.total_quote bps base_out < 2 ^ 64

variable {ctx : AmmContext} {bps : AmmFeeBps} {base_out : UInt64}

theorem TotalFits.of_le {base_out' : UInt64} (h : base_out ≤ base_out')
    (hlt : base_out' < ctx.base_reserve) (hfits : TotalFits ctx base_out') :
    TotalFits ctx base_out := by
  intro hopen hreserves _ bps hbps
  exact (ctx.total_quote_mono (UInt64.le_iff_toNat_le.mp h) (UInt64.lt_iff_toNat_lt.mp hlt)
    bps).trans_lt (hfits hopen hreserves hlt bps hbps)

/-- Past its checks the quote only computes: fees on the raw quote, added up
    and cast. -/
theorem buy_base_input_eq (hopen : check_trading_enabled ctx.global_config true = .ok ())
    (hreserves : ctx.check_reserves = .ok ()) (hlt : base_out < ctx.base_reserve)
    (hbps : ctx.fee_bps = .ok bps) :
    buy_base_input ctx base_out = (do
      let lp ← fee_amount (ctx.raw_quote base_out) bps.lp_fee_bps
      let protocol ← fee_amount (ctx.raw_quote base_out) bps.protocol_fee_bps
      let coin_creator ←
        creator_fee_amount ctx.coin_creator (ctx.raw_quote base_out) bps.creator_fee_bps
      let total ←
        U128.add (← U128.add (← U128.add (ctx.raw_quote base_out) lp) protocol) coin_creator
      .ok { total_quote_in := U64.cast total
            raw_quote_in := U64.cast (ctx.raw_quote base_out) }) := by
  have hlt_nat := UInt64.lt_iff_toNat_lt.mp hlt
  have hbase_lt := U64.toNat_lt ctx.base_reserve
  have hproduct := U128.mul_lt (U64.toNat_lt ctx.quote_reserve) (U64.toNat_lt base_out)
  have hraw : (ctx.quote_reserve.toNat * base_out.toNat) ⌈/⌉
      (ctx.base_reserve.toNat - base_out.toNat) = ctx.raw_quote base_out := by
    rw [AmmContext.raw_quote, swapInCeil, Nat.mul_comm]
  have hpast : ¬ ctx.base_reserve ≤ base_out := by
    rw [UInt64.le_iff_toNat_le]
    omega
  unfold buy_base_input
  rw [hopen, Outcome.ok_bind, hreserves, Outcome.ok_bind, if_neg hpast, U128.mul_eq_ok hproduct,
    Outcome.ok_bind, U128.sub_eq_ok hlt_nat.le (by omega), Outcome.ok_bind,
    ceil_div_eq (by omega), Outcome.ok_bind, hraw, hbps]
  exact Outcome.ok_bind _ _

/-- A quote that returns has passed every check. -/
theorem buy_base_input_ok {res : BuyBaseInputResult} (h : buy_base_input ctx base_out = .ok res) :
    check_trading_enabled ctx.global_config true = .ok () ∧ ctx.check_reserves = .ok () ∧
      base_out < ctx.base_reserve ∧ ∃ bps, ctx.fee_bps = .ok bps := by
  unfold buy_base_input at h
  obtain ⟨⟨⟩, hopen, h⟩ := Outcome.bind_eq_ok_iff.mp h
  obtain ⟨⟨⟩, hreserves, h⟩ := Outcome.bind_eq_ok_iff.mp h
  split at h
  · simp at h
  next hpast =>
  obtain ⟨_, -, h⟩ := Outcome.bind_eq_ok_iff.mp h
  obtain ⟨_, -, h⟩ := Outcome.bind_eq_ok_iff.mp h
  obtain ⟨_, -, h⟩ := Outcome.bind_eq_ok_iff.mp h
  obtain ⟨bps, hbps, -⟩ := Outcome.bind_eq_ok_iff.mp h
  rw [UInt64.le_iff_toNat_le, not_le] at hpast
  exact ⟨hopen, hreserves, UInt64.lt_iff_toNat_lt.mpr hpast, bps, hbps⟩

/-- Past its checks the quote never refuses, whatever the cost. -/
theorem buy_base_input_neverErrs (hopen : check_trading_enabled ctx.global_config true = .ok ())
    (hreserves : ctx.check_reserves = .ok ()) (hlt : base_out < ctx.base_reserve)
    (hbps : ctx.fee_bps = .ok bps) : (buy_base_input ctx base_out).NeverErrs := by
  rw [buy_base_input_eq hopen hreserves hlt hbps]
  apply (fee_amount_neverErrs _ _).bind
  intro lp
  apply (fee_amount_neverErrs _ _).bind
  intro protocol
  apply (creator_fee_amount_neverErrs _ _ _).bind
  intro coin_creator
  apply (U128.add_neverErrs _ _).bind
  intro with_lp
  apply (U128.add_neverErrs _ _).bind
  intro with_protocol
  apply (U128.add_neverErrs _ _).bind
  intro total
  exact Outcome.neverErrs_ok _

/-- A cost that fits is quoted exactly. -/
theorem buy_base_input_of_fits (hopen : check_trading_enabled ctx.global_config true = .ok ())
    (hreserves : ctx.check_reserves = .ok ()) (hlt : base_out < ctx.base_reserve)
    (hbps : ctx.fee_bps = .ok bps) (hfits : ctx.total_quote bps base_out < 2 ^ 64) :
    buy_base_input ctx base_out = .ok {
      total_quote_in := U64.cast (ctx.total_quote bps base_out)
      raw_quote_in := U64.cast (ctx.raw_quote base_out) } := by
  have hraw := ctx.raw_quote_le_total_quote bps base_out
  obtain ⟨hlp, hprotocol, hcreator⟩ := ctx.fees_eq (hraw.trans_lt hfits) bps
  have htotal : ctx.total_quote bps base_out = ctx.raw_quote base_out +
      (schedule (ctx.charged_bps bps)).fees (ctx.raw_quote base_out) := rfl
  have hfees := schedule_fees (ctx.charged_bps bps) (ctx.raw_quote base_out)
  rw [buy_base_input_eq hopen hreserves hlt hbps, hlp, Outcome.ok_bind, hprotocol, Outcome.ok_bind,
    hcreator, Outcome.ok_bind, U128.add_eq_ok (by omega), Outcome.ok_bind, U128.add_eq_ok (by omega),
    Outcome.ok_bind, U128.add_eq_ok (by omega), Outcome.ok_bind, htotal, hfees, Nat.add_assoc,
    Nat.add_assoc, Nat.add_assoc]

/-- A token-out quote is exact or refused exactly where the cost of the trade
    fits `u64`. -/
theorem exactOrRefused_iff : ExactOrRefused ctx base_out ↔ TotalFits ctx base_out := by
  constructor
  · intro h hopen hreserves hlt bps hbps
    by_contra hover
    obtain ⟨e, herr⟩ := h.refused bps hbps hlt (not_lt.mp hover)
    exact buy_base_input_neverErrs hopen hreserves hlt hbps e herr
  · intro hfits
    constructor
    · intro res hres
      obtain ⟨hopen, hreserves, hlt, bps, hbps⟩ := buy_base_input_ok hres
      have htotal := hfits hopen hreserves hlt bps hbps
      have hraw := ctx.raw_quote_le_total_quote bps base_out
      rw [buy_base_input_of_fits hopen hreserves hlt hbps htotal] at hres
      cases hres
      exact ⟨bps, hbps, U64.toNat_cast_of_lt (by omega), U64.toNat_cast_of_lt htotal⟩
    · intro bps hbps hlt hover
      -- a trade past every check would fit, so one of the checks refuses
      rcases check_trading_enabled_cases ctx.global_config true with hopen | hclosed
      · rcases ctx.check_reserves_cases with hreserves | hempty
        · have := hfits hopen hreserves hlt bps hbps
          omega
        · exact ⟨.EmptyReserves, by rw [buy_base_input, hopen, Outcome.ok_bind, hempty, Outcome.err_bind]⟩
      · exact ⟨.TradingDisabled, by rw [buy_base_input, hclosed, Outcome.err_bind]⟩

end pump_rust_client.math.amm
