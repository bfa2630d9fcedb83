import PumpClient.AsyncClient.DiscoveredRoutes

open machine

namespace pump_rust_client.async_client

open state state.pump_amm math math.amm math.bonding_curve sdk sdk.PumpSdk errors accounts

section Reaches

variable [Solana] [AccountDeserialize BondingCurve] {snapshot : Snapshot}
  {out_mint in_mint : Pubkey} {hops : List (Pubkey × BondingCurve)}

/-- The stretch of the quote chain from one mint to where it first comes to
    another. -/
structure Snapshot.Reaches (snapshot : Snapshot) (out_mint : Pubkey)
    (hops : List (Pubkey × BondingCurve)) (in_mint : Pubkey) : Prop where
  apart : in_mint ≠ out_mint
  chain : Chain snapshot.Quotes out_mint hops in_mint
  length_le : hops.length ≤ MAX_HOPS
  first : ∀ hops', Chain snapshot.Quotes out_mint hops' in_mint → hops.length ≤ hops'.length

/-- What a walk told to stop at a mint goes through, if it comes there. -/
theorem Snapshot.reaches_iff :
    snapshot.Reaches out_mint hops in_mint ↔
      hops ≠ [] ∧ snapshot.Walk (some in_mint) 0 out_mint in_mint hops := by
  constructor
  · intro h
    constructor
    · rintro rfl
      exact h.apart (Chain.nil_iff.mp h.chain).symm
    · refine ⟨h.chain, by rw [Nat.zero_add]; exact h.length_le, ?_, .inl rfl⟩
      intro hop hmem hstop
      obtain ⟨before, after, rfl⟩ := List.append_of_mem hmem
      obtain ⟨mint, hbefore, hafter⟩ := Chain.append_iff.mp h.chain
      cases hafter with
      | cons head tail =>
        -- A shorter chain comes to the stop already.
        rw [head.1, Option.some.inj hstop] at hbefore
        have hshorter := h.first before hbefore
        rw [List.length_append, List.length_cons] at hshorter
        omega
  · rintro ⟨hne, hwalk⟩
    refine ⟨?_, hwalk.chain, ?_, fun hops' => hwalk.length_le_of_chain⟩
    · cases hwalk.chain with
      | nil => exact absurd rfl hne
      | cons head tail =>
        intro hsame
        apply hwalk.past _ List.mem_cons_self
        rw [← head.1, hsame]
    · have hlength := hwalk.length_le
      rwa [Nat.zero_add] at hlength

end Reaches

section Swaps

variable [Solana] [AccountDeserialize state.pump_amm.Pool] [AccountDeserialize BondingCurve]
  [AccountDeserialize Mint] [AccountDeserialize TokenAccount] [AccountDeserialize Global]
  [AccountDeserialize FeeConfig] [AccountDeserialize state.pump_amm.GlobalConfig] [RpcClient]
  [RpcAccounts] [Fastrand] [Build]

variable {snapshot : Snapshot} {user in_mint out_mint : Pubkey} {is_buy : Bool} {amount_in : UInt64}
  {slippage_bps : UInt16}

theorem build_multi_hop_swap_from_ok_iff
    (hsnapshot : ∀ request address, RpcAccounts.get_account_with_commitment request address =
      .ok (snapshot address)) {result : Quote × List Instruction} :
    build_multi_hop_swap_from user in_mint out_mint is_buy amount_in slippage_bps = .ok result ↔
      ∃ hops, snapshot.Reaches out_mint hops in_mint ∧
        build_multi_hop_swap_for_route user ⟨in_mint, out_mint,
          (hops.map fun hop => curve_venue hop.1 hop.2).reverse⟩ is_buy amount_in slippage_bps =
            .ok result := by
  rw [build_multi_hop_swap_from, Outcome.bind_eq_ok_iff]
  constructor
  · rintro ⟨route, hroute, hbuild⟩
    obtain ⟨hout, hops, hne, hwalk, hvenues⟩ := (discover_route_ok_iff hsnapshot).mp hroute
    by_cases hstart : route.in_mint = in_mint
    · rw [if_neg (not_not.mpr hstart)] at hbuild
      rw [hstart] at hwalk
      refine ⟨hops, Snapshot.reaches_iff.mpr ⟨hne, hwalk⟩, ?_⟩
      rw [← hvenues, ← hstart, ← hout]
      exact hbuild
    · rw [if_pos hstart] at hbuild
      cases hbuild
  · rintro ⟨hops, hreaches, hbuild⟩
    obtain ⟨hne, hwalk⟩ := Snapshot.reaches_iff.mp hreaches
    refine ⟨⟨in_mint, out_mint, _⟩, (discover_route_ok_iff hsnapshot).mpr
      ⟨rfl, hops, hne, hwalk, rfl⟩, ?_⟩
    rw [if_neg (not_not.mpr rfl)]
    exact hbuild

theorem build_multi_hop_swap_from_refused
    (hsnapshot : ∀ request address, RpcAccounts.get_account_with_commitment request address =
      .ok (snapshot address)) (hnever : ¬ ∃ hops, snapshot.Reaches out_mint hops in_mint) :
    ∃ e, build_multi_hop_swap_from user in_mint out_mint is_buy amount_in slippage_bps =
      Outcome.err e := by
  have hreturns := discover_route_neverPanics (snapshot_neverPanics hsnapshot) out_mint (some in_mint)
  obtain ⟨route, hroute⟩ | ⟨e, hroute⟩ := hreturns.ok_or_err
  · obtain ⟨-, hops, hne, hwalk, -⟩ := (discover_route_ok_iff hsnapshot).mp hroute
    have hstart : route.in_mint ≠ in_mint := by
      intro hstart
      rw [hstart] at hwalk
      exact hnever ⟨hops, Snapshot.reaches_iff.mpr ⟨hne, hwalk⟩⟩
    rw [build_multi_hop_swap_from, hroute, Outcome.ok_bind]
    exact ⟨_, if_pos hstart⟩
  · rw [build_multi_hop_swap_from, hroute]
    exact ⟨e, rfl⟩

end Swaps

end pump_rust_client.async_client
