import PumpClient.Machine.Chain
import PumpClient.Sdk.PoolRuns

open machine exchange

namespace pump_rust_client.sdk

open state state.pump_amm math math.fees math.amm PoolLedger

namespace PoolLedger

section

variable {s s' t : PoolLedger} {boost : Int}
  {base_in base_out quote_in quote_out protocol creator protocol_kept creator_kept : Nat}

/-- Two sweeps are one of both amounts. -/
theorem Swept.trans {u : PoolLedger} (h : Swept s t) (h' : Swept t u) : Swept s u := by
  obtain ⟨first, rfl⟩ := h
  obtain ⟨second, rfl⟩ := h'
  have hprotocol := first.protocol_le
  have hcreator := first.creator_le
  have hprotocol' : second.protocol.toNat ≤ (s.pool.protocol_fees - first.protocol).toNat :=
    second.protocol_le
  have hcreator' : second.creator.toNat ≤ (s.pool.creator_fees - first.creator).toNat :=
    second.creator_le
  have hcovered' : second.protocol.toNat + second.creator.toNat ≤ first.vault.toNat :=
    second.covered
  have hvault := first.toNat_vault
  have hlt := U64.toNat_lt s.quote_vault
  have hvirtual : second.virtual_quote_reserves.val =
      first.virtual_quote_reserves.val + second.protocol.toNat + second.creator.toNat :=
    second.virtual_eq
  have hfirst := first.virtual_eq
  rw [U64.toNat_sub_of_le hprotocol] at hprotocol'
  rw [U64.toNat_sub_of_le hcreator] at hcreator'
  have hprotocols : (first.protocol + second.protocol).toNat =
      first.protocol.toNat + second.protocol.toNat := U64.toNat_add_of_lt (by omega)
  have hcreators : (first.creator + second.creator).toNat =
      first.creator.toNat + second.creator.toNat := U64.toNat_add_of_lt (by omega)
  let both : Sweep s.pool s.quote_vault := {
    protocol := first.protocol + second.protocol
    creator := first.creator + second.creator
    virtual_quote_reserves := second.virtual_quote_reserves
    protocol_le := by omega
    creator_le := by omega
    covered := by omega
    virtual_eq := by omega }
  have hsub (a b c : UInt64) : a - (b + c) = a - b - c := by grind
  have hpool : both.swept = second.swept := by
    simp only [both, Sweep.swept, hsub]
  have hvaults : both.vault = second.vault := by
    simp only [both, Sweep.vault]
    grind
  exact ⟨both, by rw [hpool, hvaults]⟩

/-- A trade settles after a sweep as it does before, and leaves as much swept. -/
theorem Settles.swept (h : Settles s s' base_in base_out quote_in quote_out protocol creator
      protocol_kept creator_kept) (sound : s'.Sound boost) (sweep : Sweep s.pool s.quote_vault) :
    ∃ sweep' : Sweep s'.pool s'.quote_vault,
      Settles { s with pool := sweep.swept, quote_vault := sweep.vault }
        { s' with pool := sweep'.swept, quote_vault := sweep'.vault } base_in base_out quote_in
        quote_out protocol creator protocol_kept creator_kept := by
  have hprotocol_fees := h.protocol_fees
  have hcreator_fees := h.creator_fees
  have hvirtual := h.virtual
  have hprotocol_le := sweep.protocol_le
  have hcreator_le := sweep.creator_le
  have hcovered := sound.covered
  have hsweep := sweep.virtual_eq
  have hrange := sweep.virtual_quote_reserves.range
  have hrange' := s'.pool.virtual_quote_reserves.range
  let sweep' : Sweep s'.pool s'.quote_vault := {
    protocol := sweep.protocol
    creator := sweep.creator
    virtual_quote_reserves :=
      ⟨s'.pool.virtual_quote_reserves.val + sweep.protocol.toNat + sweep.creator.toNat, by omega⟩
    protocol_le := by omega
    creator_le := by omega
    covered := by
      unfold buckets at hcovered
      omega
    virtual_eq := rfl }
  have hvault := sweep.toNat_vault
  have hvault' : sweep'.vault.toNat + (sweep.protocol.toNat + sweep.creator.toNat) =
      s'.quote_vault.toNat := sweep'.toNat_vault
  have hprotocol : (s.pool.protocol_fees - sweep.protocol).toNat =
      s.pool.protocol_fees.toNat - sweep.protocol.toNat := U64.toNat_sub_of_le hprotocol_le
  have hcreator : (s.pool.creator_fees - sweep.creator).toNat =
      s.pool.creator_fees.toNat - sweep.creator.toNat := U64.toNat_sub_of_le hcreator_le
  have hprotocol' : (s'.pool.protocol_fees - sweep.protocol).toNat =
      s'.pool.protocol_fees.toNat - sweep.protocol.toNat := U64.toNat_sub_of_le sweep'.protocol_le
  have hcreator' : (s'.pool.creator_fees - sweep.creator).toNat =
      s'.pool.creator_fees.toNat - sweep.creator.toNat := U64.toNat_sub_of_le sweep'.creator_le
  have hsettled := h.quote_vault
  refine ⟨sweep', h.protocol_le, h.creator_le, h.base_vault, ?_, ?_, ?_, ?_, ?_, h.paid, h.received,
    h.fees⟩
  · dsimp only
    omega
  · change (s'.pool.protocol_fees - sweep.protocol).toNat =
      (s.pool.protocol_fees - sweep.protocol).toNat + protocol_kept
    omega
  · change (s'.pool.creator_fees - sweep.creator).toNat =
      (s.pool.creator_fees - sweep.creator).toNat + creator_kept
    omega
  · change s'.pool.virtual_quote_reserves.val + sweep.protocol.toNat + sweep.creator.toNat =
      sweep.virtual_quote_reserves.val - protocol_kept - creator_kept
    omega
  · exact congrArg (fun pool : Pool => { pool with
      protocol_fees := sweep'.swept.protocol_fees
      creator_fees := sweep'.swept.creator_fees
      virtual_quote_reserves := sweep'.swept.virtual_quote_reserves }) h.terms

end

variable [Build] [Solana] {s s' t : PoolLedger} {quote : PoolQuote} {boost : Int} {ctx : AmmContext}
  {rates : UInt64 × UInt64 × UInt64}

theorem Reads.swept (reads : Reads s ctx rates) (sweep : Sweep s.pool s.quote_vault) :
    Reads { s with pool := sweep.swept, quote_vault := sweep.vault } ctx rates where
  effective := sweep.effective_quote_reserve_swept.trans reads.effective
  real := sweep.real_quote_reserve_swept.trans reads.real
  context := reads.context
  rates := reads.rates

/-- A swept pool makes the same trade at the same quote, and stays as much
    swept: neither a quote nor the fees behind it tell how much is left in the
    buckets. -/
theorem Trade.swept (htrade : Trade quote s s') (sound : s.Sound boost) (hswept : Swept s t) :
    ∃ t', Trade quote t t' ∧ Swept s' t' := by
  obtain ⟨sweep, rfl⟩ := hswept
  obtain ⟨sound', -⟩ := htrade.sound_follows sound
  cases htrade with
  | buy_exact_in reads hquote hsplit settles =>
    obtain ⟨sweep', settles'⟩ := settles.swept sound' sweep
    exact ⟨_, .buy_exact_in (reads.swept sweep) hquote hsplit settles', sweep', rfl⟩
  | buy_exact_out reads hquote hexact hlp hprotocol hcreator settles =>
    obtain ⟨sweep', settles'⟩ := settles.swept sound' sweep
    exact ⟨_, .buy_exact_out (reads.swept sweep) hquote hexact hlp hprotocol hcreator settles',
      sweep', rfl⟩
  | sell reads hquote hprotocol hcreator settles =>
    obtain ⟨sweep', settles'⟩ := settles.swept sound' sweep
    exact ⟨_, .sell (reads.swept sweep) hquote hprotocol hcreator settles', sweep', rfl⟩
  | hop_buy hquote heffective hbps hsplit settles =>
    obtain ⟨sweep', settles'⟩ := settles.swept sound' sweep
    exact ⟨_, .hop_buy ((sweep.multi_hop_pool_hop_swept ..).trans hquote)
      (sweep.effective_quote_reserve_swept.trans heffective) hbps hsplit settles', sweep', rfl⟩
  | hop_sell hquote heffective hbps hgross hprotocol hcreator settles =>
    obtain ⟨sweep', settles'⟩ := settles.swept sound' sweep
    exact ⟨_, .hop_sell ((sweep.multi_hop_pool_hop_swept ..).trans hquote)
      (sweep.effective_quote_reserve_swept.trans heffective) hbps hgross hprotocol hcreator settles',
      sweep', rfl⟩

end PoolLedger

/-- Sweeps go unseen over whole runs. Whoever sweeps a pool after each trade of
    a run, whenever and however much, the trades of that run go through one by one
    at the quotes they had in it, and the pool ends as the run would have left it
    but for what was swept. -/
theorem sweeps_go_unseen [Build] [Solana] {boost : Int} {s s' : PoolLedger}
    {quotes : List PoolQuote} (sound : s.Sound boost) (sweeper : Nat → PoolLedger → PoolLedger)
    (hsweeper : ∀ n (t : PoolLedger), t.Sound boost → Swept t (sweeper n t))
    (hrun : Chain PoolLedger.Trade s quotes s') :
    ∃ t', Chain (fun trade t u => ∃ traded, PoolLedger.Trade trade.1 t traded ∧
        u = sweeper trade.2 traded) s quotes.zipIdx t' ∧
      Swept s' t' ∧ t'.market = s'.market := by
  have hmatch : ∀ (trade : PoolQuote × Nat) (s s' t : PoolLedger), s.Sound boost ∧ Swept s t →
      PoolLedger.Trade trade.1 s s' →
      ∃ t', (∃ traded, PoolLedger.Trade trade.1 t traded ∧ t' = sweeper trade.2 traded) ∧
        s'.Sound boost ∧ Swept s' t' := by
    rintro ⟨quote, n⟩ s s' t ⟨sound, hswept⟩ htrade
    obtain ⟨sound', -⟩ := htrade.sound_follows sound
    obtain ⟨traded, htraded, hstill⟩ := htrade.swept sound hswept
    exact ⟨_, ⟨traded, htraded, rfl⟩, sound',
      hstill.trans (hsweeper n traded (hstill.sound sound'))⟩
  obtain ⟨t', hswept_run, -, hswept⟩ :=
    (Chain.zipIdx_iff.mpr hrun).exists_match hmatch ⟨sound, .refl s⟩
  exact ⟨t', hswept_run, hswept, hswept.market_eq⟩

/-- The graduated pool, swept of everything after its sell. -/
theorem sweeps_go_unseen_graduated :
    letI : Build := ⟨true⟩
    letI : Solana := graduatedPoolAuthority
    ∃ t traded, PoolLedger.Trade (.sell 1_000_000_000_000 ⟨402_717_628, 408_850_384⟩) graduatedLedger
        traded ∧ t = sweepAll traded ∧ Swept graduatedSold t ∧ t.market = graduatedSold.market := by
  let _ : Build := ⟨true⟩
  let _ : Solana := graduatedPoolAuthority
  obtain ⟨t, hrun, hswept, hmarket⟩ := sweeps_go_unseen graduatedLedger_sound (fun _ => sweepAll)
    (fun _ t _ => swept_sweepAll t) (.cons graduatedLedger_sells .nil)
  obtain ⟨_, ⟨traded, htrade, rfl⟩, hlast⟩ := Chain.cons_iff.mp hrun
  rw [List.zipIdx_nil, Chain.nil_iff] at hlast
  exact ⟨t, traded, htrade, hlast.symm, hswept, hmarket⟩

end pump_rust_client.sdk
