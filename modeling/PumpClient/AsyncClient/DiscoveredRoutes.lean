import PumpClient.AccountWrapper
import PumpClient.AsyncClient.Discovery

open machine

namespace pump_rust_client.async_client

open state state.pump_amm math math.amm math.bonding_curve sdk sdk.PumpSdk errors accounts

/-- The mints of a hop of the quote chain, with no accounts. -/
def curve_hop (hop : Pubkey × BondingCurve) : MultiHopHop where
  base_mint := hop.1
  quote_mint := resolve_quote_mint hop.2.quote_mint
  venue := Pubkey.default
  base_vault := Pubkey.default
  quote_vault := Pubkey.default

section

variable [Solana] [AccountDeserialize BondingCurve] {snapshot : Snapshot} {stop_at : Option Pubkey}
  {out_mint in_mint : Pubkey} {hops : List (Pubkey × BondingCurve)}

/-- A venue of a route and the curve it was read from. -/
def Snapshot.ReadFrom (snapshot : Snapshot) (venue : RouteVenue) (hop : Pubkey × BondingCurve) :
    Prop :=
  (∃ account, snapshot.curve_account hop.1 = some account ∧
    decode_bonding_curve account.data = .ok hop.2) ∧
    venue = curve_venue hop.1 hop.2

/-- The quote chain read backwards is a buy route. -/
theorem quote_chain_route (hchain : Chain snapshot.Quotes out_mint hops in_mint) (hne : hops ≠ []) :
    multi_hop_route in_mint (hops.reverse.map curve_hop) = .ok (true, out_mint) := by
  rw [multi_hop_route_ok_iff]
  constructor
  · simpa using hne
  · rw [Chain.map_iff]
    apply (Chain.reverse_iff.mp hchain).imp
    rintro hop - quote mint ⟨hmint, -, hquote⟩
    exact ⟨hquote, hmint⟩

theorem quote_chain_read (hchain : Chain snapshot.Quotes out_mint hops in_mint) :
    List.Forall₂ snapshot.ReadFrom (hops.map fun hop => curve_venue hop.1 hop.2) hops := by
  rw [List.forall₂_map_left_iff, List.forall₂_same]
  intro hop hmem
  obtain ⟨_, _, -, haccount, -⟩ := hchain.exists_step_of_mem hmem
  exact ⟨haccount, rfl⟩

/-- A walk comes to every mint of the quote chain that it does not stop short
    of. -/
theorem Snapshot.Walk.length_le_of_chain {start : Nat} {s : Pubkey} {hops' : List (Pubkey × BondingCurve)}
    (hwalk : snapshot.Walk (some s) start out_mint in_mint hops)
    (hchain : Chain snapshot.Quotes out_mint hops' s) : hops.length ≤ hops'.length := by
  by_contra hshort
  obtain ⟨rest, rfl, hrest⟩ := hchain.exists_rest Snapshot.Quotes.unique hwalk.chain
    (Nat.le_of_not_le hshort)
  cases hrest with
  | nil => simp at hshort
  | cons head tail =>
    apply hwalk.past _ (List.mem_append_right _ List.mem_cons_self)
    rw [← head.1]

/-- A stop on the quote chain, within the hops a walk takes, is where it ends. -/
theorem Snapshot.Walk.in_mint_eq_stop {s : Pubkey} {hops' : List (Pubkey × BondingCurve)}
    (hwalk : snapshot.Walk (some s) 0 out_mint in_mint hops)
    (hchain : Chain snapshot.Quotes out_mint hops' s) (hlength : hops'.length ≤ MAX_HOPS) :
    in_mint = s := by
  obtain ⟨rest, rfl, hrest⟩ := hwalk.chain.exists_rest Snapshot.Quotes.unique hchain
    (hwalk.length_le_of_chain hchain)
  cases hrest with
  | nil => rfl
  | cons head tail =>
    obtain ⟨hmint, ⟨account, haccount, -⟩, -⟩ := head
    rw [← hmint] at haccount
    rw [List.length_append, List.length_cons] at hlength
    by_contra hopen
    exact Snapshot.not_exits (fun hstop => hopen (Option.some.inj hstop)) (by omega) haccount
      hwalk.exits

variable [RpcAccounts]

/-- A discovered route is connected, trades in one direction each way, and
    starts where it was told to stop if the quote chain comes by in time. -/
theorem discovered_routes_connected
    (hsnapshot : ∀ request address, RpcAccounts.get_account_with_commitment request address =
      .ok (snapshot address))
    (hself : ∀ hop mint quote, snapshot.Quotes hop mint quote → quote ≠ mint)
    (out_mint : Pubkey) (stop_at : Option Pubkey) :
    (discover_route out_mint stop_at).NeverPanics ∧
    ∀ route, discover_route out_mint stop_at = .ok route →
      (1 ≤ route.venues.length ∧ route.venues.length ≤ 8) ∧
      (∃ hops, List.Forall₂ snapshot.ReadFrom (route.path true).2 hops ∧
        List.Forall₂ snapshot.ReadFrom (route.path false).2 hops.reverse ∧
        multi_hop_route (route.path true).1 (hops.map curve_hop) = .ok (true, out_mint) ∧
        multi_hop_route (route.path false).1 (hops.reverse.map curve_hop) =
          .ok (false, route.in_mint)) ∧
      ∀ s, stop_at = some s →
        (∃ hops, Chain snapshot.Quotes out_mint hops s ∧ 1 ≤ hops.length ∧ hops.length ≤ 8) →
        route.in_mint = s ∧
        (∃ hops, Chain snapshot.Quotes out_mint hops s ∧ hops.length = route.venues.length) ∧
        ∀ hops, Chain snapshot.Quotes out_mint hops s → route.venues.length ≤ hops.length := by
  constructor
  · exact discover_route_neverPanics (snapshot_neverPanics hsnapshot) out_mint stop_at
  · intro route h
    obtain ⟨hout, hops, hne, hwalk, hvenues⟩ := (discover_route_ok_iff hsnapshot).mp h
    have hlength : route.venues.length = hops.length := by rw [hvenues]; simp
    have hcap := hwalk.length_le
    rw [Nat.zero_add, ← hlength] at hcap
    have hread := quote_chain_read hwalk.chain
    have hbuy := quote_chain_route hwalk.chain hne
    refine ⟨⟨hlength ▸ List.length_pos_iff.mpr hne, hcap⟩, ⟨hops.reverse, ?_, ?_, hbuy, ?_⟩, ?_⟩
    · change List.Forall₂ _ route.venues _
      rw [hvenues]
      exact List.forall₂_reverse_iff.mpr hread
    · change List.Forall₂ _ route.venues.reverse _
      rw [hvenues, List.reverse_reverse, List.reverse_reverse]
      exact hread
    · have hmints : ∀ hop ∈ hops.reverse.map curve_hop, hop.base_mint ≠ hop.quote_mint := by
        intro hop hmem
        obtain ⟨curve, hcurve, rfl⟩ := List.mem_map.mp hmem
        obtain ⟨mint, quote, hquotes⟩ := hwalk.chain.exists_step_of_mem (List.mem_reverse.mp hcurve)
        have hdiffer := hself _ _ _ hquotes
        rw [hquotes.1, hquotes.2.2] at hdiffer
        exact hdiffer.symm
      rw [List.map_reverse]
      change multi_hop_route route.out_mint _ = _
      rw [hout]
      exact (multi_hop_route_reverse_iff hmints).mp hbuy
    · rintro s rfl ⟨hops', hchain, -, hwithin⟩
      have hstop : route.in_mint = s := hwalk.in_mint_eq_stop hchain hwithin
      refine ⟨hstop, ⟨hops, hstop ▸ hwalk.chain, hlength.symm⟩, ?_⟩
      intro hops' hchain
      rw [hlength]
      exact hwalk.length_le_of_chain hchain

end

section Root

variable [Solana] [AccountDeserialize state.pump_amm.Pool] [AccountDeserialize BondingCurve]
  [AccountDeserialize Mint] [AccountDeserialize TokenAccount] [AccountDeserialize Global]
  [AccountDeserialize FeeConfig] [AccountDeserialize state.pump_amm.GlobalConfig] [RpcClient]
  [RpcAccounts] [Fastrand]

omit [RpcAccounts] in
theorem fetch_multi_hop_quote_state_in_mint {in_mint : Pubkey} {venues : List RouteVenue}
    {st : MultiHopQuoteState} (h : fetch_multi_hop_quote_state in_mint venues = .ok st) :
    st.in_mint = in_mint := by
  simp only [fetch_multi_hop_quote_state, Outcome.bind_eq_ok_iff] at h
  obtain ⟨_, -, _, -, _, -, _, -, _, -, _, -, _, -, _, -, _, -, _, -, _, -, _, -, _, -, _, -, _, -, _,
    -, _, -, h⟩ := h
  cases h
  rfl

variable [Build]

omit [RpcAccounts] in
/-- What a swap spends is the mint its path starts from. -/
theorem build_multi_hop_swap_for_route_spends {user : Pubkey} {route : MultiHopRoute} {is_buy : Bool}
    {amount_in : UInt64} {slippage_bps : UInt16} {result : Quote × List Instruction}
    (h : build_multi_hop_swap_for_route user route is_buy amount_in slippage_bps = .ok result) :
    ∃ st, fetch_multi_hop_quote_state (route.path is_buy).1 (route.path is_buy).2 = .ok st ∧
      st.in_mint = (route.path is_buy).1 ∧ st.quote user amount_in slippage_bps = .ok result.1 := by
  simp only [build_multi_hop_swap_for_route, Outcome.bind_eq_ok_iff, Outcome.map_err_eq_ok_iff] at h
  obtain ⟨st, hfetch, quote, hquote, ixs, -, hresult⟩ := h
  cases hresult
  exact ⟨st, hfetch, fetch_multi_hop_quote_state_in_mint hfetch, hquote⟩

/-- A buy spends the mint its route starts from. -/
theorem build_multi_hop_swap_spends {user out_mint : Pubkey} {amount_in : UInt64}
    {slippage_bps : UInt16} {result : Quote × List Instruction}
    (h : build_multi_hop_swap user out_mint true amount_in slippage_bps = .ok result) :
    ∃ route st, discover_route out_mint none = .ok route ∧
      fetch_multi_hop_quote_state route.in_mint route.venues = .ok st ∧ st.in_mint = route.in_mint ∧
      st.quote user amount_in slippage_bps = .ok result.1 := by
  obtain ⟨route, hroute, hbuild⟩ := Outcome.bind_eq_ok_iff.mp h
  obtain ⟨st, hst⟩ := build_multi_hop_swap_for_route_spends hbuild
  exact ⟨route, st, hroute, hst⟩

/-- The walk ends at a root currency exactly where the chain of curves is no
    longer than it walks. -/
theorem discovered_root_iff {snapshot : Snapshot}
    (hsnapshot : ∀ request address, RpcAccounts.get_account_with_commitment request address =
      .ok (snapshot address)) (out_mint : Pubkey) :
    ((∀ route, discover_route out_mint none = .ok route →
        snapshot.curve_account route.in_mint = none) ∧
      ∀ user amount_in slippage_bps result,
        build_multi_hop_swap user out_mint true amount_in slippage_bps = .ok result →
        ∃ route st, discover_route out_mint none = .ok route ∧
          fetch_multi_hop_quote_state route.in_mint route.venues = .ok st ∧
          st.in_mint = route.in_mint ∧ st.quote user amount_in slippage_bps = .ok result.1 ∧
          snapshot.curve_account st.in_mint = none) ↔
    ∀ hops mint, Chain snapshot.Quotes out_mint hops mint → hops.length = 8 →
      snapshot.curve_account mint = none := by
  constructor
  · rintro ⟨hroot, -⟩ hops mint hchain hlength
    have hne : hops ≠ [] := List.ne_nil_of_length_pos (by omega)
    apply hroot ⟨mint, out_mint, (hops.map fun hop => curve_venue hop.1 hop.2).reverse⟩
    apply (discover_route_ok_iff hsnapshot).mpr
    refine ⟨rfl, hops, hne, ⟨hchain, ?_, by simp, .inr (.inl ?_)⟩, rfl⟩
    · rw [hlength]
      exact Nat.le_refl 8
    · rw [hlength]
      rfl
  · intro hends
    have hroot : ∀ route, discover_route out_mint none = .ok route →
        snapshot.curve_account route.in_mint = none := by
      intro route h
      obtain ⟨-, hops, -, hwalk, -⟩ := (discover_route_ok_iff hsnapshot).mp h
      cases hwalk.exits with
      | inl hstop => cases hstop
      | inr hexit =>
        cases hexit with
        | inl hcap => exact hends hops _ hwalk.chain (by rwa [Nat.zero_add] at hcap)
        | inr hnone => exact hnone
    refine ⟨hroot, ?_⟩
    intro user amount_in slippage_bps result h
    obtain ⟨route, st, hroute, hfetch, hin, hquote⟩ := build_multi_hop_swap_spends h
    exact ⟨route, st, hroute, hfetch, hin, hquote, hin ▸ hroot route hroute⟩

end Root

/-- An account type read through its wrapper. -/
abbrev wrapped (T : Type) [IdlAccount T] : AccountDeserialize T where
  try_deserialize data := (AccountWrapper.try_deserialize data).toOption.map Prod.fst

theorem wrapped_try_deserialize {T : Type} [IdlAccount T] [FixedLayout T] (account : T) :
    (wrapped T).try_deserialize (IdlAccount.DISCRIMINATOR T ++ FixedLayout.layout.encode account) =
      some account := by
  obtain ⟨rest, hread, -⟩ := AccountWrapper.deserialize_padded_serialize_fixed account []
  rw [List.append_nil] at hread
  exact congrArg (fun outcome => (Except.toOption outcome).map Prod.fst) hread

section Coins

def coin (k : Nat) : Pubkey := ⟨BitVec.ofNat 256 k⟩

theorem coin_toNat {k : Nat} (hk : k ≤ 9) : (coin k).bytes.toNat = k := by
  rw [coin, BitVec.toNat_ofNat]
  omega

theorem coin_injective {k k' : Nat} (hk : k ≤ 9) (hk' : k' ≤ 9) (h : coin k = coin k') : k = k' := by
  rw [← coin_toNat hk, ← coin_toNat hk', h]

/-- Each coin is quoted in the one before, the first in SOL. -/
def coinCurve (k : Nat) : BondingCurve := { launchCurve with quote_mint := coin (k - 1) }

/-- Curve addresses that no two mints share. -/
abbrev coinAddresses : Solana where
  find_program_address
    | [_, .key mint], _ => (⟨~~~mint.bytes⟩, 255)
    | _, _ => (Pubkey.default, 255)

/-- A cluster of nine coins with open curves. -/
def coinSnapshot : Snapshot := fun address =>
  let k := (~~~address.bytes).toNat
  if 1 ≤ k ∧ k ≤ 9 then
    some ⟨IdlAccount.DISCRIMINATOR BondingCurve ++ FixedLayout.layout.encode (coinCurve k),
      constants.pump.PROGRAM_ID⟩
  else none

abbrev coinCluster : RpcAccounts where
  get_account_with_commitment _ address := .ok (coinSnapshot address)

theorem coinSnapshot_curve_account {k : Nat} (hcoin : 1 ≤ k ∧ k ≤ 9) :
    @Snapshot.curve_account coinAddresses coinSnapshot (coin k) =
      some ⟨IdlAccount.DISCRIMINATOR BondingCurve ++ FixedLayout.layout.encode (coinCurve k),
        constants.pump.PROGRAM_ID⟩ := by
  have hk : (~~~(~~~(coin k).bytes)).toNat = k := by
    rw [BitVec.not_not, coin, BitVec.toNat_ofNat]
    omega
  have hread : coinSnapshot ⟨~~~(coin k).bytes⟩ = some
      ⟨IdlAccount.DISCRIMINATOR BondingCurve ++ FixedLayout.layout.encode (coinCurve k),
        constants.pump.PROGRAM_ID⟩ := by
    simp only [coinSnapshot, hk]
    exact if_pos hcoin
  change (coinSnapshot ⟨~~~(coin k).bytes⟩).filter _ = _
  rw [hread]
  exact Option.filter_some_pos (decide_eq_true rfl)

theorem coinSnapshot_quotes {k : Nat} (hcoin : 1 ≤ k ∧ k ≤ 9) :
    letI : Solana := coinAddresses
    letI : AccountDeserialize BondingCurve := wrapped BondingCurve
    coinSnapshot.Quotes (coin k, coinCurve k) (coin k) (resolve_quote_mint (coin (k - 1))) := by
  let _ : Solana := coinAddresses
  let _ : AccountDeserialize BondingCurve := wrapped BondingCurve
  have hread := wrapped_try_deserialize (coinCurve k)
  refine ⟨rfl, ⟨_, coinSnapshot_curve_account hcoin, ?_⟩, rfl⟩
  rw [decode_bonding_curve, decode]
  exact Outcome.ok_or_eq_ok_iff.mpr hread

theorem resolve_coin {k : Nat} (hcoin : 1 ≤ k ∧ k ≤ 9) : resolve_quote_mint (coin k) = coin k := by
  have hne : coin k ≠ Pubkey.default := by
    intro h
    have hzero : k = 0 := coin_injective hcoin.2 (by decide) h
    omega
  exact if_neg hne

/-- The quote chain of a coin, down to another. -/
theorem coinSnapshot_chain {n m : Nat} (hm : 1 ≤ m) (hn : n + m ≤ 9) :
    letI : Solana := coinAddresses
    letI : AccountDeserialize BondingCurve := wrapped BondingCurve
    ∃ hops, hops.length = n ∧ Chain coinSnapshot.Quotes (coin (n + m)) hops (coin m) := by
  let _ : Solana := coinAddresses
  let _ : AccountDeserialize BondingCurve := wrapped BondingCurve
  induction n with
  | zero => exact ⟨[], rfl, by rw [Nat.zero_add]; exact .nil⟩
  | succ n ih =>
    obtain ⟨hops, hlength, hchain⟩ := ih (by omega)
    have hquotes := coinSnapshot_quotes (k := n + 1 + m) (by omega)
    have hprevious : n + 1 + m - 1 = n + m := by omega
    rw [hprevious, resolve_coin (by omega)] at hquotes
    exact ⟨_ :: hops, by rw [List.length_cons, hlength], .cons hquotes hchain⟩

/-- The chain has no other hops. -/
theorem coinSnapshot_quotes_inv {hop : Pubkey × BondingCurve} {mint quote : Pubkey}
    (h : @Snapshot.Quotes coinAddresses (wrapped BondingCurve) coinSnapshot hop mint quote) :
    ∃ k, (1 ≤ k ∧ k ≤ 9) ∧ mint = coin k ∧ quote = resolve_quote_mint (coin (k - 1)) := by
  let _ : Solana := coinAddresses
  let _ : AccountDeserialize BondingCurve := wrapped BondingCurve
  obtain ⟨account, haccount, -⟩ := h.2.1
  have hread : coinSnapshot ⟨~~~hop.1.bytes⟩ = some account := Option.eq_some_of_filter_eq_some haccount
  simp only [coinSnapshot, BitVec.not_not] at hread
  by_cases hcoin : 1 ≤ hop.1.bytes.toNat ∧ hop.1.bytes.toNat ≤ 9
  · have hmint : mint = coin hop.1.bytes.toNat := by
      rw [h.1, coin, BitVec.ofNat_toNat, BitVec.setWidth_eq]
    refine ⟨_, hcoin, hmint, ?_⟩
    exact (Snapshot.Quotes.unique _ _ _ _ _ h (hmint ▸ coinSnapshot_quotes hcoin)).2
  · rw [if_neg hcoin] at hread
    cases hread

theorem coinSnapshot_quotes_ne {hop : Pubkey × BondingCurve} {mint quote : Pubkey}
    (h : @Snapshot.Quotes coinAddresses (wrapped BondingCurve) coinSnapshot hop mint quote) :
    quote ≠ mint := by
  obtain ⟨k, hcoin, rfl, rfl⟩ := coinSnapshot_quotes_inv h
  by_cases hfirst : k = 1
  · subst hfirst
    decide
  · rw [resolve_coin (by omega)]
    intro hsame
    have hprevious : k - 1 = k := coin_injective (by omega) hcoin.2 hsame
    omega

theorem discover_ninth_coin :
    letI : Solana := coinAddresses
    letI : AccountDeserialize BondingCurve := wrapped BondingCurve
    letI : RpcAccounts := coinCluster
    ∃ route, discover_route (coin 9) none = .ok route ∧ route.in_mint = coin 1 := by
  let _ : Solana := coinAddresses
  let _ : AccountDeserialize BondingCurve := wrapped BondingCurve
  let _ : RpcAccounts := coinCluster
  obtain ⟨hops, hlength, hchain⟩ := coinSnapshot_chain (n := 8) (m := 1) (by decide) (by decide)
  have hne : hops ≠ [] := List.ne_nil_of_length_pos (by omega)
  refine ⟨⟨coin 1, coin 9, (hops.map fun hop => curve_venue hop.1 hop.2).reverse⟩, ?_, rfl⟩
  apply (discover_route_ok_iff fun _ _ => rfl).mpr
  refine ⟨rfl, hops, hne, ⟨hchain, ?_, by simp, .inr (.inl ?_)⟩, rfl⟩
  · rw [hlength]
    exact Nat.le_refl 8
  · rw [hlength]
    rfl

/-- The ninth coin's route starts at the first coin, not at SOL. -/
theorem discovered_route_cut_short :
    letI : Solana := coinAddresses
    letI : AccountDeserialize BondingCurve := wrapped BondingCurve
    letI : RpcAccounts := coinCluster
    ∃ route, discover_route (coin 9) none = .ok route ∧ route.in_mint = coin 1 ∧
      (coinSnapshot.curve_account route.in_mint).isSome := by
  obtain ⟨route, hroute, hin⟩ := discover_ninth_coin
  refine ⟨route, hroute, hin, ?_⟩
  rw [hin, coinSnapshot_curve_account (by decide)]
  rfl

/-- The first coin is one hop from SOL, which has no curve. -/
theorem coinSnapshot_first_chain {hops : List (Pubkey × BondingCurve)} {mint : Pubkey}
    (h : @Chain _ _ (@Snapshot.Quotes coinAddresses (wrapped BondingCurve) coinSnapshot) (coin 1) hops
      mint) : hops.length ≤ 1 := by
  cases h with
  | nil => exact Nat.zero_le _
  | cons head tail =>
    obtain ⟨k, hcoin, hmint, rfl⟩ := coinSnapshot_quotes_inv head
    obtain rfl : 1 = k := coin_injective (by decide) hcoin.2 hmint
    cases tail with
    | nil => exact Nat.le_refl _
    | cons head' _ =>
      obtain ⟨k', hcoin', hmint', -⟩ := coinSnapshot_quotes_inv head'
      have hlarge : 9 < constants.NATIVE_MINT.bytes.toNat := by decide
      have hsmall := coin_toNat hcoin'.2
      rw [← hmint'] at hsmall
      exact absurd (hsmall.trans_le hcoin'.2) (Nat.not_le.mpr hlarge)

theorem discover_first_coin :
    letI : Solana := coinAddresses
    letI : AccountDeserialize BondingCurve := wrapped BondingCurve
    letI : RpcAccounts := coinCluster
    ∃ route, discover_route (coin 1) none = .ok route := by
  let _ : Solana := coinAddresses
  let _ : AccountDeserialize BondingCurve := wrapped BondingCurve
  let _ : RpcAccounts := coinCluster
  have hchain : Chain coinSnapshot.Quotes (coin 1) [(coin 1, coinCurve 1)] constants.NATIVE_MINT :=
    .cons (coinSnapshot_quotes (by decide)) .nil
  refine ⟨⟨constants.NATIVE_MINT, coin 1, [curve_venue (coin 1) (coinCurve 1)]⟩, ?_⟩
  apply (discover_route_ok_iff fun _ _ => rfl).mpr
  have hnone : coinSnapshot ⟨~~~constants.NATIVE_MINT.bytes⟩ = none := by
    rw [coinSnapshot, BitVec.not_not]
    exact if_neg (by decide)
  have hroot : coinSnapshot.curve_account constants.NATIVE_MINT = none := by
    change (coinSnapshot ⟨~~~constants.NATIVE_MINT.bytes⟩).filter _ = none
    rw [hnone]
    rfl
  exact ⟨rfl, _, List.cons_ne_nil _ _, ⟨hchain, by decide, by simp, .inr (.inr hroot)⟩, rfl⟩

/-- The first coin's route starts at SOL. -/
theorem discovered_root_iff_first_coin :
    letI : Solana := coinAddresses
    letI : AccountDeserialize BondingCurve := wrapped BondingCurve
    letI : RpcAccounts := coinCluster
    ∃ route, discover_route (coin 1) none = .ok route ∧
      coinSnapshot.curve_account route.in_mint = none := by
  let _ : Solana := coinAddresses
  let _ : AccountDeserialize state.pump_amm.Pool := wrapped state.pump_amm.Pool
  let _ : AccountDeserialize BondingCurve := wrapped BondingCurve
  let _ : AccountDeserialize Mint := ⟨fun _ => none⟩
  let _ : AccountDeserialize TokenAccount := ⟨fun _ => none⟩
  let _ : AccountDeserialize Global := wrapped Global
  let _ : AccountDeserialize FeeConfig := ⟨fun _ => none⟩
  let _ : AccountDeserialize state.pump_amm.GlobalConfig := wrapped state.pump_amm.GlobalConfig
  let _ : RpcClient := ⟨fun _ keys => .ok (keys.map coinSnapshot)⟩
  let _ : RpcAccounts := coinCluster
  let _ : Fastrand := ⟨fun _ h => ⟨0, h⟩⟩
  let _ : Build := ⟨true⟩
  obtain ⟨route, hroute⟩ := discover_first_coin
  refine ⟨route, hroute, ((discovered_root_iff (fun _ _ => rfl) (coin 1)).mpr ?_).1 route hroute⟩
  intro hops mint hchain hlength
  have hshort := coinSnapshot_first_chain hchain
  omega

/-- The ninth coin's route connects, both ways. -/
theorem discovered_routes_connected_ninth_coin :
    letI : Solana := coinAddresses
    ∃ hops : List (Pubkey × BondingCurve), 1 ≤ hops.length ∧ hops.length ≤ 8 ∧
      multi_hop_route (coin 1) (hops.map curve_hop) = .ok (true, coin 9) ∧
      multi_hop_route (coin 9) (hops.reverse.map curve_hop) = .ok (false, coin 1) := by
  let _ : Solana := coinAddresses
  let _ : AccountDeserialize BondingCurve := wrapped BondingCurve
  let _ : RpcAccounts := coinCluster
  obtain ⟨route, hroute, hin⟩ := discover_ninth_coin
  have hout : route.out_mint = coin 9 := ((discover_route_ok_iff fun _ _ => rfl).mp hroute).1
  obtain ⟨-, hconnected⟩ := discovered_routes_connected (fun _ _ => rfl)
    (fun _ _ _ hquotes => coinSnapshot_quotes_ne hquotes) (coin 9) none
  obtain ⟨⟨hpos, hcap⟩, ⟨hops, hread, -, hbuy, hsell⟩, -⟩ := hconnected route hroute
  have hlength : route.venues.length = hops.length := hread.length_eq
  refine ⟨hops, hlength ▸ hpos, hlength ▸ hcap, ?_, ?_⟩
  · rw [← hin]
    exact hbuy
  · rw [← hin, ← hout]
    exact hsell

/-- A cluster with one coin on a curve, quoted in SOL, which has none. -/
def oneCoinSnapshot : Snapshot := fun address =>
  if address = ⟨~~~11⟩ then some ⟨[], constants.pump.PROGRAM_ID⟩ else launchSnapshot address

end Coins

end pump_rust_client.async_client
