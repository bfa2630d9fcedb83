import PumpClient.AsyncClient.Snapshot
import PumpClient.Machine.Faults

open machine

namespace pump_rust_client.async_client

open state state.pump_amm math sdk sdk.PumpSdk errors accounts

/-- The cluster asked for one account at a time. -/
class RpcAccounts where
  get_account_with_commitment (request : Nat) (address : Pubkey) : Result (Option Account)

-- 8 hops is well past what a transaction fits; guards a cyclic chain.
def MAX_HOPS : Nat := 8

section

variable [Solana]

/-- A complete curve becomes its canonical pool, an open one a curve venue. -/
def curve_venue (mint : Pubkey) (curve : BondingCurve) : RouteVenue :=
  let quote := resolve_quote_mint curve.quote_mint
  if curve.complete then .Pool (pda.pump_amm.canonical_pool mint quote).1 else .Curve mint

variable [AccountDeserialize BondingCurve] [RpcAccounts]

/-- The walk of `discover_route` from a mint it has come to. -/
def discover_from (stop_at : Option Pubkey) (mint : Pubkey) (venues : List RouteVenue) :
    Result (Pubkey × List RouteVenue) :=
  if some mint ≠ stop_at ∧ venues.length < MAX_HOPS then do
    let account ← RpcAccounts.get_account_with_commitment venues.length
      (pda.pump.bonding_curve mint).1
    -- Anyone can fund a system account at a curve address.
    match account.filter fun account => account.owner = constants.pump.PROGRAM_ID with
    | none => .ok (mint, venues)
    | some account => do
      let curve ← decode_bonding_curve account.data
      let quote := resolve_quote_mint curve.quote_mint
      discover_from stop_at quote (venues ++ [curve_venue mint curve])
  else .ok (mint, venues)
termination_by MAX_HOPS - venues.length
decreasing_by
  simp only [List.length_append, List.length_singleton]
  omega

/-- The quote chain of `out_mint`, walked back to its root currency or to
    `stop_at`, as a route in buy order. -/
def discover_route (out_mint : Pubkey) (stop_at : Option Pubkey) : Result MultiHopRoute := do
  let (mint, venues) ← discover_from stop_at out_mint []
  if venues.isEmpty then
    Outcome.err (.AccountNotFound "bonding_curve" (pda.pump.bonding_curve out_mint).1)
  else .ok { in_mint := mint, out_mint, venues := venues.reverse }

end

section Build

variable [Solana] [AccountDeserialize state.pump_amm.Pool] [AccountDeserialize BondingCurve]
  [AccountDeserialize Mint] [AccountDeserialize TokenAccount] [AccountDeserialize Global]
  [AccountDeserialize FeeConfig] [AccountDeserialize state.pump_amm.GlobalConfig] [RpcClient]
  [RpcAccounts] [Fastrand] [Build]

/-- Quote and build a swap over a route. -/
def build_multi_hop_swap_for_route (user : Pubkey) (route : MultiHopRoute) (is_buy : Bool)
    (amount_in : UInt64) (slippage_bps : UInt16) : Result (Quote × List Instruction) := do
  let (in_mint, venues) := route.path is_buy
  let state ← fetch_multi_hop_quote_state in_mint venues
  let quote ← Outcome.map_err .Quote (state.quote user amount_in slippage_bps)
  let ixs ← Outcome.map_err .Quote (state.instructions user amount_in quote.min_out)
  .ok (quote, ixs)

/-- Discover the route from its root currency, then quote and build. -/
def build_multi_hop_swap (user out_mint : Pubkey) (is_buy : Bool) (amount_in : UInt64)
    (slippage_bps : UInt16) : Result (Quote × List Instruction) := do
  let route ← discover_route out_mint none
  build_multi_hop_swap_for_route user route is_buy amount_in slippage_bps

/-- `build_multi_hop_swap` from `in_mint` instead of the root currency. -/
def build_multi_hop_swap_from (user in_mint out_mint : Pubkey) (is_buy : Bool) (amount_in : UInt64)
    (slippage_bps : UInt16) : Result (Quote × List Instruction) := do
  let route ← discover_route out_mint (some in_mint)
  if route.in_mint ≠ in_mint then Outcome.err (.Quote .MultiHopDiscontinuousPath)
  else build_multi_hop_swap_for_route user route is_buy amount_in slippage_bps

end Build

section Walk

variable [Solana]

/-- The account at a mint's curve address, when pump owns it. -/
def Snapshot.curve_account (snapshot : Snapshot) (mint : Pubkey) : Option Account :=
  (snapshot (pda.pump.bonding_curve mint).1).filter fun account =>
    account.owner = constants.pump.PROGRAM_ID

variable [AccountDeserialize BondingCurve]

/-- A hop of the quote chain: a mint, the curve it has, and the mint that curve
    is quoted in. -/
def Snapshot.Quotes (snapshot : Snapshot) (hop : Pubkey × BondingCurve) (mint quote : Pubkey) :
    Prop :=
  mint = hop.1 ∧
    (∃ account, snapshot.curve_account hop.1 = some account ∧
      decode_bonding_curve account.data = .ok hop.2) ∧
    quote = resolve_quote_mint hop.2.quote_mint

/-- A mint has one curve, quoted in one mint. -/
theorem Snapshot.Quotes.unique {snapshot : Snapshot} (hop hop' : Pubkey × BondingCurve)
    (mint quote quote' : Pubkey) (h : snapshot.Quotes hop mint quote)
    (h' : snapshot.Quotes hop' mint quote') : hop = hop' ∧ quote = quote' := by
  obtain ⟨rfl, ⟨account, haccount, hdecode⟩, rfl⟩ := h
  obtain ⟨hmint, ⟨account', haccount', hdecode'⟩, rfl⟩ := h'
  rw [← hmint, haccount] at haccount'
  cases haccount'
  have hcurve : hop.2 = hop'.2 := Except.ok.inj (hdecode.symm.trans hdecode')
  exact ⟨Prod.ext hmint hcurve, by rw [hcurve]⟩

/-- Why the walk ends at a mint after some hops. -/
def Snapshot.Exits (snapshot : Snapshot) (stop_at : Option Pubkey) (mint : Pubkey) (hops : Nat) :
    Prop :=
  some mint = stop_at ∨ hops = MAX_HOPS ∨ snapshot.curve_account mint = none

/-- The hops of a walk from a mint to `in_mint`, `start` hops in: it follows the
    quote chain, past no mint it should stop at, until an exit. -/
structure Snapshot.Walk (snapshot : Snapshot) (stop_at : Option Pubkey) (start : Nat)
    (mint in_mint : Pubkey) (hops : List (Pubkey × BondingCurve)) : Prop where
  chain : Chain snapshot.Quotes mint hops in_mint
  length_le : start + hops.length ≤ MAX_HOPS
  past : ∀ hop ∈ hops, some hop.1 ≠ stop_at
  exits : snapshot.Exits stop_at in_mint (start + hops.length)

variable {snapshot : Snapshot} {stop_at : Option Pubkey} {start : Nat} {mint in_mint : Pubkey}
  {hops : List (Pubkey × BondingCurve)}

omit [AccountDeserialize BondingCurve] in
/-- At a curve, short of the cap and not told to stop, the walk goes on. -/
theorem Snapshot.not_exits {account : Account} (hopen : some mint ≠ stop_at)
    (hroom : start < MAX_HOPS) (haccount : snapshot.curve_account mint = some account) :
    ¬ snapshot.Exits stop_at mint start := by
  intro hexit
  cases hexit with
  | inl hstop => exact hopen hstop
  | inr hexit =>
    cases hexit with
    | inl hcap => exact hroom.ne hcap
    | inr hnone => simp [hnone] at haccount

/-- No walk goes on past an exit. -/
theorem Snapshot.walk_exit_iff (hexit : snapshot.Exits stop_at mint start)
    (hroom : start ≤ MAX_HOPS) :
    snapshot.Walk stop_at start mint in_mint hops ↔ hops = [] ∧ in_mint = mint := by
  constructor
  · intro hwalk
    cases hwalk.chain with
    | nil => exact ⟨rfl, rfl⟩
    | cons head tail =>
      obtain ⟨hmint, ⟨account, haccount, -⟩, -⟩ := head
      have hlength := hwalk.length_le
      rw [List.length_cons] at hlength
      have hpast := hwalk.past _ List.mem_cons_self
      rw [← hmint] at haccount hpast
      exact absurd hexit (Snapshot.not_exits hpast (by omega) haccount)
  · rintro ⟨rfl, rfl⟩
    exact ⟨.nil, hroom, by simp, hexit⟩

/-- A walk takes the hop there is. -/
theorem Snapshot.walk_hop_iff {curve : BondingCurve} {quote : Pubkey}
    (hquotes : snapshot.Quotes (mint, curve) mint quote) (hopen : some mint ≠ stop_at)
    (hroom : start < MAX_HOPS) :
    snapshot.Walk stop_at start mint in_mint hops ↔
      ∃ rest, hops = (mint, curve) :: rest ∧ snapshot.Walk stop_at (start + 1) quote in_mint rest := by
  have hlength : ∀ rest : List (Pubkey × BondingCurve),
      start + ((mint, curve) :: rest).length = start + 1 + rest.length := by
    intro rest
    rw [List.length_cons]
    omega
  constructor
  · intro hwalk
    cases hwalk.chain with
    | nil =>
      obtain ⟨-, ⟨account, haccount, -⟩, -⟩ := hquotes
      exact absurd hwalk.exits (Snapshot.not_exits hopen hroom haccount)
    | cons head tail =>
      obtain ⟨rfl, rfl⟩ := Snapshot.Quotes.unique _ _ _ _ _ hquotes head
      refine ⟨_, rfl, tail, ?_, ?_, ?_⟩
      · rw [← hlength]
        exact hwalk.length_le
      · intro hop hmem
        exact hwalk.past hop (List.mem_cons_of_mem _ hmem)
      · rw [← hlength]
        exact hwalk.exits
  · rintro ⟨rest, rfl, hwalk⟩
    refine ⟨.cons hquotes hwalk.chain, ?_, ?_, ?_⟩
    · rw [hlength]
      exact hwalk.length_le
    · intro hop hmem
      cases hmem with
      | head => exact hopen
      | tail _ hmem => exact hwalk.past hop hmem
    · rw [hlength]
      exact hwalk.exits

/-- Nothing walks past an account that does not decode, and nothing stops at
    it. -/
theorem Snapshot.not_walk_of_decode_error {account : Account} {fault : Fault PumpClientError}
    (hopen : some mint ≠ stop_at) (hroom : start < MAX_HOPS)
    (haccount : snapshot.curve_account mint = some account)
    (hdecode : decode_bonding_curve account.data = .error fault) :
    ¬ snapshot.Walk stop_at start mint in_mint hops := by
  intro hwalk
  cases hwalk.chain with
  | nil => exact Snapshot.not_exits hopen hroom haccount hwalk.exits
  | cons head tail =>
    obtain ⟨hmint, ⟨account', haccount', hdecode'⟩, -⟩ := head
    rw [← hmint, haccount] at haccount'
    cases haccount'
    rw [hdecode] at hdecode'
    cases hdecode'

variable [RpcAccounts]

/-- What the loop returns is a walk, its venues after those found before. -/
theorem discover_from_ok_iff
    (hsnapshot : ∀ request address, RpcAccounts.get_account_with_commitment request address =
      .ok (snapshot address))
    {venues venues' : List RouteVenue} (hroom : venues.length ≤ MAX_HOPS) :
    discover_from stop_at mint venues = .ok (in_mint, venues') ↔
      ∃ hops, snapshot.Walk stop_at venues.length mint in_mint hops ∧
        venues' = venues ++ hops.map fun hop => curve_venue hop.1 hop.2 := by
  have exit : ∀ {mint : Pubkey} {venues : List RouteVenue},
      snapshot.Exits stop_at mint venues.length → venues.length ≤ MAX_HOPS →
      ((.ok (mint, venues) : Result (Pubkey × List RouteVenue)) = .ok (in_mint, venues') ↔
        ∃ hops, snapshot.Walk stop_at venues.length mint in_mint hops ∧
          venues' = venues ++ hops.map fun hop => curve_venue hop.1 hop.2) := by
    intro mint venues hexit hroom
    simp only [Snapshot.walk_exit_iff hexit hroom]
    simp [eq_comm]
  obtain ⟨left, hleft⟩ := Nat.exists_eq_add_of_le hroom
  induction left generalizing mint venues with
  | zero =>
    have hcap : ¬ (some mint ≠ stop_at ∧ venues.length < MAX_HOPS) := by omega
    rw [discover_from, if_neg hcap]
    exact exit (.inr (.inl hleft.symm)) hroom
  | succ left ih =>
    by_cases hstop : some mint = stop_at
    · rw [discover_from, if_neg (by simp [hstop])]
      exact exit (.inl hstop) hroom
    · have hopen : some mint ≠ stop_at ∧ venues.length < MAX_HOPS := ⟨hstop, by omega⟩
      have hread : (snapshot (pda.pump.bonding_curve mint).1).filter
          (fun account => account.owner = constants.pump.PROGRAM_ID) =
          snapshot.curve_account mint := rfl
      rw [discover_from, if_pos hopen, hsnapshot, Outcome.ok_bind, hread]
      cases haccount : snapshot.curve_account mint with
      | none => exact exit (.inr (.inr haccount)) hroom
      | some account =>
        dsimp only
        cases hdecode : decode_bonding_curve account.data with
        | error fault =>
          constructor
          · intro h
            cases h
          · rintro ⟨hops, hwalk, -⟩
            exact absurd hwalk (Snapshot.not_walk_of_decode_error hstop hopen.2 haccount hdecode)
        | ok curve =>
          have hquotes : snapshot.Quotes (mint, curve) mint (resolve_quote_mint curve.quote_mint) :=
            ⟨rfl, ⟨account, haccount, hdecode⟩, rfl⟩
          have hlength : (venues ++ [curve_venue mint curve]).length = venues.length + 1 := by simp
          rw [Outcome.ok_bind]
          refine (ih (by omega) (by omega)).trans ?_
          rw [hlength]
          simp only [Snapshot.walk_hop_iff hquotes hstop hopen.2]
          constructor
          · rintro ⟨rest, hwalk, rfl⟩
            exact ⟨_, ⟨rest, rfl, hwalk⟩, by simp⟩
          · rintro ⟨_, ⟨rest, rfl, hwalk⟩, rfl⟩
            exact ⟨rest, hwalk, by simp⟩

/-- The walk of `discover_route` ends whatever each of its requests is answered. -/
theorem discover_from_neverPanics
    (hrpc : ∀ request address,
      (RpcAccounts.get_account_with_commitment request address).NeverPanics)
    (stop_at : Option Pubkey) (mint : Pubkey) {venues : List RouteVenue}
    (hroom : venues.length ≤ MAX_HOPS) : (discover_from stop_at mint venues).NeverPanics := by
  obtain ⟨left, hleft⟩ := Nat.exists_eq_add_of_le hroom
  induction left generalizing mint venues with
  | zero =>
    rw [discover_from, if_neg (by omega)]
    exact Outcome.neverPanics_ok _
  | succ left ih =>
    rw [discover_from]
    apply Outcome.NeverPanics.ite
    · intro _
      apply (hrpc _ _).bind
      intro account _
      cases account.filter fun account => account.owner = constants.pump.PROGRAM_ID with
      | none => exact Outcome.neverPanics_ok _
      | some account =>
        apply Outcome.NeverPanics.bind (Outcome.neverPanics_ok_or _ _)
        intro curve _
        have hlength : (venues ++ [curve_venue mint curve]).length = venues.length + 1 := by simp
        exact ih _ (by omega) (by omega)
    · intro _
      exact Outcome.neverPanics_ok _

/-- On any chain the call returns, with a route or an error. -/
theorem discover_route_neverPanics
    (hrpc : ∀ request address,
      (RpcAccounts.get_account_with_commitment request address).NeverPanics)
    (out_mint : Pubkey) (stop_at : Option Pubkey) :
    (discover_route out_mint stop_at).NeverPanics := by
  apply (discover_from_neverPanics hrpc stop_at out_mint (Nat.zero_le _)).bind
  rintro ⟨mint, venues⟩ _
  apply Outcome.NeverPanics.ite
  · intro _
    exact Outcome.neverPanics_err _
  · intro _
    exact Outcome.neverPanics_ok _

omit [Solana] [AccountDeserialize BondingCurve] in
/-- A cluster read at one snapshot answers every request. -/
theorem snapshot_neverPanics
    (hsnapshot : ∀ request address, RpcAccounts.get_account_with_commitment request address =
      .ok (snapshot address)) (request : Nat) (address : Pubkey) :
    (RpcAccounts.get_account_with_commitment request address).NeverPanics :=
  hsnapshot request address ▸ Outcome.neverPanics_ok _

theorem discover_route_ok_iff
    (hsnapshot : ∀ request address, RpcAccounts.get_account_with_commitment request address =
      .ok (snapshot address))
    {out_mint : Pubkey} {route : MultiHopRoute} :
    discover_route out_mint stop_at = .ok route ↔ route.out_mint = out_mint ∧
      ∃ hops, hops ≠ [] ∧ snapshot.Walk stop_at 0 out_mint route.in_mint hops ∧
        route.venues = (hops.map fun hop => curve_venue hop.1 hop.2).reverse := by
  have hroom : ([] : List RouteVenue).length ≤ MAX_HOPS := Nat.zero_le _
  simp only [discover_route, Outcome.bind_eq_ok_iff, Prod.exists,
    discover_from_ok_iff hsnapshot hroom, List.length_nil, List.nil_append]
  constructor
  · rintro ⟨in_mint, venues, ⟨hops, hwalk, rfl⟩, h⟩
    cases hops with
    | nil => simp at h
    | cons hop hops =>
      rw [List.map_cons, List.isEmpty_cons, if_neg Bool.false_ne_true] at h
      cases h
      exact ⟨rfl, hop :: hops, List.cons_ne_nil _ _, hwalk, rfl⟩
  · rintro ⟨rfl, hops, hne, hwalk, hvenues⟩
    refine ⟨route.in_mint, _, ⟨hops, hwalk, rfl⟩, ?_⟩
    have hmap : (hops.map fun hop => curve_venue hop.1 hop.2).isEmpty = false := by simpa using hne
    rw [hmap, if_neg Bool.false_ne_true, ← hvenues]

end Walk

end pump_rust_client.async_client
