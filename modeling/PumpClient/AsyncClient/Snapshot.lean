import PumpClient.AsyncClient.Buyback

open machine

namespace pump_rust_client.async_client

open state state.pump_amm math math.amm math.bonding_curve sdk sdk.PumpSdk errors accounts

/-- The accounts of the cluster at one moment. -/
abbrev Snapshot := Pubkey → Option Account

/-- The account at `key`, or `AccountNotFound`. -/
def Snapshot.account (snapshot : Snapshot) (name : String) (key : Pubkey) : Result Account :=
  Outcome.ok_or (snapshot key) (.AccountNotFound name key)

/-- An account fetched for the key at a cursor is the account at that key. -/
theorem required_snapshot (snapshot : Snapshot) {keys rest : List Pubkey} {i : Nat} {key : Pubkey}
    (h : keys.drop i = key :: rest) (name : String) :
    required (keys.map snapshot) keys i name = snapshot.account name key := by
  have hkey : keys[i]? = some key := by
    have hhead : (keys.drop i)[0]? = some key := by rw [h]; rfl
    rwa [List.getElem?_drop, Nat.add_zero] at hhead
  rw [required, List.getElem?_map, hkey, Snapshot.account]
  cases hread : snapshot key with
  | none => simp [hread]
  | some account => simp [hread]

theorem drop_next {keys rest : List Pubkey} {i : Nat} {key : Pubkey}
    (h : keys.drop i = key :: rest) : keys.drop (i + 1) = rest := by
  rw [← List.drop_drop, h, List.drop_one, List.tail_cons]

/-- Every mint named stands with the owner of its account. -/
def TokenPrograms.Named (snapshot : Snapshot) (token_programs : TokenPrograms) : Prop :=
  ∀ mint token_program, (mint, token_program) ∈ token_programs →
    ∃ account, snapshot mint = some account ∧ account.owner = token_program

/-- The program looked up for a mint is the owner of its account, whichever of
    its entries counts. -/
theorem TokenPrograms.Named.lookup {snapshot : Snapshot} {token_programs : TokenPrograms}
    (hnamed : token_programs.Named snapshot) {mint : Pubkey}
    (hmem : mint ∈ token_programs.map Prod.fst) :
    ∃ account, snapshot mint = some account ∧ token_programs.lookup mint = some account.owner := by
  induction token_programs with
  | nil => simp at hmem
  | cons entry token_programs ih =>
    obtain ⟨key, token_program⟩ := entry
    rw [List.lookup_cons]
    by_cases hkey : mint = key
    · subst hkey
      obtain ⟨account, haccount, rfl⟩ := hnamed mint token_program List.mem_cons_self
      exact ⟨account, haccount, by simp⟩
    · have hrest : mint ∈ token_programs.map Prod.fst := by simpa [hkey] using hmem
      obtain ⟨account, haccount, hlookup⟩ := ih
        (fun mint token_program hentry => hnamed mint token_program (List.mem_cons_of_mem _ hentry))
        hrest
      have hbeq : (mint == key) = false := beq_false_of_ne hkey
      rw [hbeq]
      exact ⟨account, haccount, hlookup⟩

theorem TokenPrograms.Named.append {snapshot : Snapshot} {token_programs token_programs' : TokenPrograms}
    (h : token_programs.Named snapshot) (h' : token_programs'.Named snapshot) :
    TokenPrograms.Named snapshot (token_programs ++ token_programs') := by
  intro mint token_program hentry
  cases List.mem_append.mp hentry with
  | inl hentry => exact h mint token_program hentry
  | inr hentry => exact h' mint token_program hentry

theorem TokenPrograms.Named.flatMap {α : Type} {snapshot : Snapshot} {f : α → TokenPrograms}
    {l : List α} (h : ∀ a ∈ l, (f a).Named snapshot) :
    TokenPrograms.Named snapshot (l.flatMap f) := by
  intro mint token_program hentry
  obtain ⟨a, ha, hentry⟩ := List.mem_flatMap.mp hentry
  exact h a ha mint token_program hentry

theorem Snapshot.account_eq_ok_iff {snapshot : Snapshot} {name : String} {key : Pubkey}
    {account : Account} : snapshot.account name key = .ok account ↔ snapshot key = some account :=
  Outcome.ok_or_eq_ok_iff

/-- The token programs the first round names. -/
def VenueState.token_programs : VenueState → TokenPrograms
  | .Pool _ => []
  | .Curve mint _ _ base_token_program => [(mint, base_token_program)]

/-- Both ends of a route are mints of its venues. -/
theorem route_ends_mints {in_mint out_mint : Pubkey} {states : List VenueState} {is_buy : Bool}
    (hroute : multi_hop_route in_mint (states.map VenueState.hop) = .ok (is_buy, out_mint)) :
    (∃ state ∈ states, in_mint = state.mints.1 ∨ in_mint = state.mints.2) ∧
      ∃ state ∈ states, out_mint = state.mints.1 ∨ out_mint = state.mints.2 := by
  obtain ⟨hne, hchain⟩ := multi_hop_route_ok_iff.mp hroute
  obtain ⟨first, next, hfirst, htakes⟩ := hchain.exists_head hne
  obtain ⟨last, before, hlast, hgives⟩ := hchain.exists_last hne
  constructor
  · obtain ⟨state, hmem, rfl⟩ := List.mem_map.mp (List.mem_of_getElem? hfirst)
    refine ⟨state, hmem, ?_⟩
    cases is_buy with
    | true => exact .inr htakes.1
    | false => exact .inl htakes.2.1
  · obtain ⟨state, hmem, rfl⟩ := List.mem_map.mp (List.mem_of_getElem? hlast)
    refine ⟨state, hmem, ?_⟩
    cases is_buy with
    | true => exact .inl hgives.2
    | false => exact .inr hgives.2.2

section

variable [AccountDeserialize state.pump_amm.Pool] [AccountDeserialize BondingCurve]
  [AccountDeserialize Mint] [Solana]

/-- A venue read by its own keys. -/
def RouteVenue.read (snapshot : Snapshot) : RouteVenue → Result VenueState
  | .Pool pool => do
    .ok (.Pool (← decode_pool (← snapshot.account "pool" pool).data))
  | .Curve mint => do
    let curve ←
      decode_bonding_curve (← snapshot.account "bonding_curve" (pda.pump.bonding_curve mint).1).data
    let (supply, base_token_program) ← mint_info (← snapshot.account "mint" mint)
    .ok (.Curve mint curve supply base_token_program)

variable {snapshot : Snapshot}

/-- The cursor of the first round walks the keys the venues pushed: every
    account it reads for a venue is the one at that venue's own key. -/
theorem venue_states_eq_read {keys : List Pubkey} {venues : List RouteVenue} {i : Nat}
    {token_programs : TokenPrograms} (hkeys : keys.drop i = venues.flatMap RouteVenue.keys) :
    venue_states (required (keys.map snapshot) keys) i venues token_programs = (do
      let states ← venues.mapM (RouteVenue.read snapshot)
      .ok (states, states.reverse.flatMap VenueState.token_programs ++ token_programs)) := by
  induction venues generalizing i token_programs with
  | nil => rfl
  | cons venue venues ih =>
    rw [List.flatMap_cons] at hkeys
    cases venue with
    | Pool pool =>
      have hrest := drop_next hkeys
      rw [venue_states, required_snapshot snapshot hkeys, List.mapM_cons, RouteVenue.read]
      simp only [bind_assoc, Outcome.ok_bind]
      refine bind_congr fun account => bind_congr fun pool => ?_
      rw [ih hrest]
      cases venues.mapM (RouteVenue.read snapshot) with
      | error => rfl
      | ok states => simp [VenueState.token_programs]
    | Curve mint =>
      have hmint := drop_next hkeys
      have hrest := drop_next hmint
      rw [venue_states, required_snapshot snapshot hkeys, required_snapshot snapshot hmint,
        List.mapM_cons, RouteVenue.read]
      simp only [bind_assoc, Outcome.ok_bind]
      refine bind_congr fun account => bind_congr fun curve => bind_congr fun mint_account =>
        bind_congr fun info => ?_
      rw [ih hrest]
      cases venues.mapM (RouteVenue.read snapshot) with
      | error => rfl
      | ok states => simp [VenueState.token_programs]

end

section

variable [AccountDeserialize Mint] [AccountDeserialize TokenAccount] [Solana]

/-- A hop read by its venue's own keys, with the token programs it names. -/
def VenueState.read (snapshot : Snapshot) : VenueState → Result (HopState × TokenPrograms)
  | .Pool pool => do
    let (base_mint_supply, base_token_program) ←
      mint_info (← snapshot.account "base_mint" pool.base_mint)
    let quote_token_program := (← snapshot.account "quote_mint" pool.quote_mint).owner
    let base_reserve ←
      token_amount (← snapshot.account "pool_base_token_account" pool.pool_base_token_account)
    let quote_vault_balance ←
      token_amount (← snapshot.account "pool_quote_token_account" pool.pool_quote_token_account)
    .ok (.Pool pool base_reserve quote_vault_balance base_mint_supply,
      [(pool.quote_mint, quote_token_program), (pool.base_mint, base_token_program)])
  | .Curve mint curve mint_supply base_token_program => do
    let quote_mint := resolve_quote_mint curve.quote_mint
    let quote_token_program := (← snapshot.account "quote_mint" quote_mint).owner
    let base_ata_amount ← token_amount (← snapshot.account "associated_bonding_curve"
      (pda.associated_token (pda.pump.bonding_curve mint).1 base_token_program mint).1)
    .ok (.Curve mint curve base_token_program quote_token_program mint_supply base_ata_amount,
      [(quote_mint, quote_token_program)])

variable {snapshot : Snapshot}

/-- The cursor of the second round walks the keys the first round's states
    pushed: every account it reads for a hop is the one at that hop's own key. -/
theorem hop_states_eq_read {keys : List Pubkey} {states : List VenueState} {i : Nat}
    {token_programs : TokenPrograms} (hkeys : keys.drop i = states.flatMap VenueState.keys) :
    hop_states (required (keys.map snapshot) keys) i states token_programs = (do
      let reads ← states.mapM (VenueState.read snapshot)
      .ok (reads.map Prod.fst, reads.reverse.flatMap Prod.snd ++ token_programs)) := by
  induction states generalizing i token_programs with
  | nil => rfl
  | cons venue states ih =>
    rw [List.flatMap_cons] at hkeys
    cases venue with
    | Pool pool =>
      have hquote_vault := drop_next hkeys
      have hbase_mint := drop_next hquote_vault
      have hquote_mint := drop_next hbase_mint
      have hrest := drop_next hquote_mint
      rw [hop_states, required_snapshot snapshot hkeys, required_snapshot snapshot hquote_vault,
        required_snapshot snapshot hbase_mint, required_snapshot snapshot hquote_mint,
        List.mapM_cons, VenueState.read]
      simp only [bind_assoc, Outcome.ok_bind]
      refine bind_congr fun base_mint => bind_congr fun info => bind_congr fun quote_mint =>
        bind_congr fun base_account => bind_congr fun base_reserve =>
          bind_congr fun quote_account => bind_congr fun quote_vault_balance => ?_
      rw [ih hrest]
      cases states.mapM (VenueState.read snapshot) with
      | error => rfl
      | ok reads => simp
    | Curve mint curve mint_supply base_token_program =>
      have hquote_mint := drop_next hkeys
      have hrest := drop_next hquote_mint
      rw [hop_states, required_snapshot snapshot hkeys, required_snapshot snapshot hquote_mint,
        List.mapM_cons, VenueState.read]
      simp only [bind_assoc, Outcome.ok_bind]
      refine bind_congr fun quote_mint => bind_congr fun base_account =>
        bind_congr fun base_ata_amount => ?_
      rw [ih hrest]
      cases states.mapM (VenueState.read snapshot) with
      | error => rfl
      | ok reads => simp

theorem VenueState.read_ok {state : VenueState} {hop : HopState} {token_programs : TokenPrograms}
    (h : state.read snapshot = .ok (hop, token_programs)) :
    hop.Extends state ∧ token_programs.Named snapshot ∧
      ∀ mint, mint = state.mints.1 ∨ mint = state.mints.2 →
        mint ∈ (token_programs ++ state.token_programs).map Prod.fst := by
  cases state with
  | Pool pool =>
    simp only [VenueState.read, mint_info, Outcome.bind_eq_ok_iff, Snapshot.account_eq_ok_iff] at h
    obtain ⟨base_mint, hbase, _, ⟨_, -, hinfo⟩, quote_mint, hquote, _, -, _, -, _, -, _, -, h⟩ := h
    cases hinfo
    cases h
    refine ⟨rfl, ?_, ?_⟩
    · intro mint token_program hentry
      simp only [List.mem_cons, List.not_mem_nil, or_false, Prod.mk.injEq] at hentry
      cases hentry with
      | inl hentry => exact ⟨quote_mint, hentry.1 ▸ hquote, hentry.2.symm⟩
      | inr hentry => exact ⟨base_mint, hentry.1 ▸ hbase, hentry.2.symm⟩
    · intro mint hmint
      simpa [VenueState.mints, VenueState.token_programs] using hmint.symm
  | Curve mint curve mint_supply base_token_program =>
    simp only [VenueState.read, Outcome.bind_eq_ok_iff, Snapshot.account_eq_ok_iff] at h
    obtain ⟨quote_mint, hquote, _, -, _, -, h⟩ := h
    cases h
    refine ⟨⟨rfl, rfl, rfl, rfl⟩, ?_, ?_⟩
    · intro mint token_program hentry
      simp only [List.mem_cons, List.not_mem_nil, or_false, Prod.mk.injEq] at hentry
      exact ⟨quote_mint, hentry.1 ▸ hquote, hentry.2.symm⟩
    · intro mint hmint
      simpa [VenueState.mints, VenueState.token_programs] using hmint.symm

end

section

variable [AccountDeserialize state.pump_amm.Pool] [AccountDeserialize BondingCurve]
  [AccountDeserialize Mint] [Solana] {snapshot : Snapshot}

theorem RouteVenue.read_ok {venue : RouteVenue} {state : VenueState}
    (h : venue.read snapshot = .ok state) :
    state.Reads venue ∧ state.token_programs.Named snapshot := by
  cases venue with
  | Pool pool =>
    simp only [RouteVenue.read, Outcome.bind_eq_ok_iff] at h
    obtain ⟨_, -, _, -, h⟩ := h
    cases h
    exact ⟨trivial, fun _ _ hentry => absurd hentry (List.not_mem_nil)⟩
  | Curve mint =>
    simp only [RouteVenue.read, mint_info, Outcome.bind_eq_ok_iff, Snapshot.account_eq_ok_iff] at h
    obtain ⟨_, -, _, -, account, haccount, _, ⟨_, -, hinfo⟩, h⟩ := h
    cases hinfo
    cases h
    refine ⟨rfl, ?_⟩
    intro mint token_program hentry
    simp only [VenueState.token_programs, List.mem_cons, List.not_mem_nil, or_false,
      Prod.mk.injEq] at hentry
    exact ⟨account, hentry.1 ▸ haccount, hentry.2.symm⟩

variable [AccountDeserialize TokenAccount]

/-- The two rounds name every mint of the route, and name it rightly. -/
theorem rounds_named {venues : List RouteVenue} {states : List VenueState}
    {reads : List (HopState × TokenPrograms)}
    (hstates : venues.mapM (RouteVenue.read snapshot) = .ok states)
    (hreads : states.mapM (VenueState.read snapshot) = .ok reads) {token_programs : TokenPrograms}
    (hprograms : token_programs = reads.reverse.flatMap Prod.snd ++
      (states.reverse.flatMap VenueState.token_programs ++ [])) :
    token_programs.Named snapshot ∧ ∀ state ∈ states, ∀ mint,
      mint = state.mints.1 ∨ mint = state.mints.2 → mint ∈ token_programs.map Prod.fst := by
  rw [List.append_nil] at hprograms
  subst hprograms
  constructor
  · apply TokenPrograms.Named.append
    · apply TokenPrograms.Named.flatMap
      intro read hmem
      obtain ⟨state, -, hread⟩ := Outcome.mem_of_mapM_ok hreads (List.mem_reverse.mp hmem)
      exact (VenueState.read_ok hread).2.1
    · apply TokenPrograms.Named.flatMap
      intro state hmem
      obtain ⟨venue, -, hread⟩ := Outcome.mem_of_mapM_ok hstates (List.mem_reverse.mp hmem)
      exact (RouteVenue.read_ok hread).2
  · intro state hmem mint hmint
    obtain ⟨⟨hop, programs⟩, hread_mem, hread⟩ := Outcome.mapM_ok_of_mem hreads hmem
    have hentry := (VenueState.read_ok hread).2.2 mint hmint
    rw [List.map_append, List.mem_append] at hentry ⊢
    apply hentry.imp
    · intro hin
      rw [List.map_flatMap, List.mem_flatMap]
      exact ⟨_, List.mem_reverse.mpr hread_mem, hin⟩
    · intro hin
      rw [List.map_flatMap, List.mem_flatMap]
      exact ⟨_, List.mem_reverse.mpr hmem, hin⟩

/-- Both end mints of a route that reads are there. -/
theorem route_ends_read {in_mint out_mint : Pubkey} {venues : List RouteVenue}
    {states : List VenueState} {reads : List (HopState × TokenPrograms)} {is_buy : Bool}
    (hstates : venues.mapM (RouteVenue.read snapshot) = .ok states)
    (hroute : multi_hop_route in_mint (states.map VenueState.hop) = .ok (is_buy, out_mint))
    (hreads : states.mapM (VenueState.read snapshot) = .ok reads) {token_programs : TokenPrograms}
    (hprograms : token_programs = reads.reverse.flatMap Prod.snd ++
      (states.reverse.flatMap VenueState.token_programs ++ [])) :
    (∃ account, snapshot in_mint = some account ∧
        token_programs.lookup in_mint = some account.owner) ∧
      ∃ account, snapshot out_mint = some account ∧
        token_programs.lookup out_mint = some account.owner := by
  obtain ⟨hnamed, hmints⟩ := rounds_named hstates hreads hprograms
  obtain ⟨⟨first, hfirst, hin⟩, last, hlast, hout⟩ := route_ends_mints hroute
  exact ⟨hnamed.lookup (hmints first hfirst in_mint hin),
    hnamed.lookup (hmints last hlast out_mint hout)⟩

variable [AccountDeserialize Global] [AccountDeserialize FeeConfig]
  [AccountDeserialize state.pump_amm.GlobalConfig] [Fastrand]

/-- A route's state with every account read by its own key. -/
def keyed_multi_hop_quote_state (snapshot : Snapshot) (in_mint : Pubkey)
    (venues : List RouteVenue) : Result MultiHopQuoteState := do
  let global ← decode_global (← snapshot.account "global" pda.pump.global.1).data
  let pump_fee_config ←
    decode_fee_config (← snapshot.account "fee_config" pda.pump.fee_config.1).data
  let global_config ←
    decode_global_config (← snapshot.account "amm_global_config" pda.pump_amm.global_config.1).data
  let amm_fee_config ←
    decode_fee_config (← snapshot.account "amm_fee_config" pda.pump_amm.fee_config.1).data
  let states ← venues.mapM (RouteVenue.read snapshot)
  let (is_buy, out_mint) ← Outcome.map_err .Quote
    (multi_hop_route in_mint (states.map VenueState.hop))
  let reads ← states.mapM (VenueState.read snapshot)
  let (recipient, config) ← buyback_recipient venues is_buy global global_config
  let in_token_program := (← snapshot.account "mint" in_mint).owner
  let out_token_program := (← snapshot.account "mint" out_mint).owner
  let buyback_fee_recipient ←
    Outcome.ok_or recipient (.AccountNotFound "buyback_fee_recipient" config)
  .ok {
    in_token_program
    out_token_program
    buyback_fee_recipient
    in_mint
    out_mint
    global
    pump_fee_config
    global_config
    amm_fee_config
    hops := reads.map Prod.fst }

variable [RpcClient]

/-- The two fetches, walked by their cursors, read every account by its own
    key. -/
theorem fetch_multi_hop_quote_state_eq_keyed
    (hsnapshot : ∀ request keys, RpcClient.get_multiple_accounts request keys =
      .ok (keys.map snapshot)) (in_mint : Pubkey) (venues : List RouteVenue) :
    fetch_multi_hop_quote_state in_mint venues =
      keyed_multi_hop_quote_state snapshot in_mint venues := by
  rw [fetch_multi_hop_quote_state, keyed_multi_hop_quote_state]
  simp only [hsnapshot, Outcome.ok_bind]
  generalize hkeys : [pda.pump.global.1, pda.pump.fee_config.1, pda.pump_amm.global_config.1,
    pda.pump_amm.fee_config.1] ++ venues.flatMap RouteVenue.keys = keys
  have hglobal : keys.drop 0 = pda.pump.global.1 :: pda.pump.fee_config.1 ::
      pda.pump_amm.global_config.1 :: pda.pump_amm.fee_config.1 ::
        venues.flatMap RouteVenue.keys := hkeys.symm
  have hfee_config := drop_next hglobal
  have hglobal_config := drop_next hfee_config
  have hamm_fee_config := drop_next hglobal_config
  have hvenues := drop_next hamm_fee_config
  rw [required_snapshot snapshot hglobal, required_snapshot snapshot hfee_config,
    required_snapshot snapshot hglobal_config, required_snapshot snapshot hamm_fee_config,
    venue_states_eq_read hvenues]
  refine bind_congr fun _ => bind_congr fun global => bind_congr fun _ =>
    bind_congr fun pump_fee_config => bind_congr fun _ => bind_congr fun global_config =>
      bind_congr fun _ => bind_congr fun amm_fee_config => ?_
  cases hstates : venues.mapM (RouteVenue.read snapshot) with
  | error => rfl
  | ok states =>
    simp only [Outcome.ok_bind]
    cases hroute : multi_hop_route in_mint (states.map VenueState.hop) with
    | error e => cases e <;> rfl
    | ok route =>
      obtain ⟨is_buy, out_mint⟩ := route
      simp only [Outcome.map_err, Outcome.ok_bind]
      rw [hop_states_eq_read (List.drop_zero)]
      cases hreads : states.mapM (VenueState.read snapshot) with
      | error => rfl
      | ok reads =>
        simp only [Outcome.ok_bind]
        obtain ⟨⟨in_account, hin, hin_program⟩, out_account, hout, hout_program⟩ :=
          route_ends_read hstates hroute hreads rfl
        rw [hin_program, hout_program, Snapshot.account, Snapshot.account, hin, hout]
        rfl

/-- Every account a fetch asks for is there and decodes. -/
structure Snapshot.Answers (snapshot : Snapshot) (venues : List RouteVenue) (global : Global)
    (pump_fee_config : FeeConfig) (global_config : state.pump_amm.GlobalConfig)
    (amm_fee_config : FeeConfig) (states : List VenueState)
    (reads : List (HopState × TokenPrograms)) : Prop where
  global : ∃ account, snapshot pda.pump.global.1 = some account ∧
    decode_global account.data = .ok global
  pump_fee_config : ∃ account, snapshot pda.pump.fee_config.1 = some account ∧
    decode_fee_config account.data = .ok pump_fee_config
  global_config : ∃ account, snapshot pda.pump_amm.global_config.1 = some account ∧
    decode_global_config account.data = .ok global_config
  amm_fee_config : ∃ account, snapshot pda.pump_amm.fee_config.1 = some account ∧
    decode_fee_config account.data = .ok amm_fee_config
  venues : venues.mapM (RouteVenue.read snapshot) = .ok states
  hops : states.mapM (VenueState.read snapshot) = .ok reads

omit [RpcClient] [Fastrand] in
/-- Each hop is its own venue's, of the same kind. -/
theorem Snapshot.Answers.hops_of_venues {venues : List RouteVenue} {global : Global}
    {pump_fee_config amm_fee_config : FeeConfig} {global_config : state.pump_amm.GlobalConfig}
    {states : List VenueState} {reads : List (HopState × TokenPrograms)}
    (h : snapshot.Answers venues global pump_fee_config global_config amm_fee_config states reads) :
    List.Forall₂ (fun venue hop => ∃ state token_programs, venue.read snapshot = .ok state ∧
      state.read snapshot = .ok (hop, token_programs) ∧ state.Reads venue ∧
      HopState.Extends state hop) venues (reads.map Prod.fst) := by
  have hvenues := Outcome.mapM_eq_ok_iff.mp h.venues
  have hhops := Outcome.mapM_eq_ok_iff.mp h.hops
  clear h
  rw [List.forall₂_map_right_iff]
  induction hvenues generalizing reads with
  | nil =>
    cases hhops
    exact .nil
  | cons hvenue _ ih =>
    cases hhops with
    | cons hhop hhops =>
      exact .cons ⟨_, _, hvenue, hhop, (RouteVenue.read_ok hvenue).1, (VenueState.read_ok hhop).1⟩
        (ih hhops)

omit [AccountDeserialize state.pump_amm.Pool] [AccountDeserialize BondingCurve]
  [AccountDeserialize Mint] [AccountDeserialize TokenAccount] [AccountDeserialize Global]
  [AccountDeserialize FeeConfig] [AccountDeserialize state.pump_amm.GlobalConfig] [RpcClient] in
/-- A route with a venue has a leg to pick the recipient by. -/
theorem buyback_recipient_ok {venues : List RouteVenue} (hne : 0 < venues.length) (is_buy : Bool)
    (global : Global) (global_config : state.pump_amm.GlobalConfig) :
    ∃ recipient config,
      buyback_recipient venues is_buy global global_config = .ok (recipient, config) := by
  obtain ⟨venue, hvenue⟩ : ∃ venue, venues[user_leg is_buy venues.length]? = some venue :=
    ⟨_, List.getElem?_eq_getElem (user_leg_lt is_buy hne)⟩
  rw [buyback_recipient, ← user_leg, hvenue]
  cases venue with
  | Pool => exact ⟨_, _, rfl⟩
  | Curve => exact ⟨_, _, rfl⟩

/-- A fetch takes every account from the key pushed for it, hop by hop, and the
    token programs of both ends from their mints. -/
theorem fetched_accounts_attributed
    (hsnapshot : ∀ request keys, RpcClient.get_multiple_accounts request keys =
      .ok (keys.map snapshot)) (in_mint : Pubkey) (venues : List RouteVenue) :
    fetch_multi_hop_quote_state in_mint venues =
      keyed_multi_hop_quote_state snapshot in_mint venues ∧
    ∀ global pump_fee_config global_config amm_fee_config states reads,
      snapshot.Answers venues global pump_fee_config global_config amm_fee_config states reads →
      List.Forall₂ (fun venue hop => ∃ state token_programs, venue.read snapshot = .ok state ∧
        state.read snapshot = .ok (hop, token_programs) ∧ state.Reads venue ∧
        HopState.Extends state hop) venues (reads.map Prod.fst) ∧
      ∀ is_buy out_mint,
        multi_hop_route in_mint (states.map VenueState.hop) = .ok (is_buy, out_mint) →
        ∃ in_account out_account recipient config, snapshot in_mint = some in_account ∧
          snapshot out_mint = some out_account ∧
          buyback_recipient venues is_buy global global_config = .ok (recipient, config) ∧
          fetch_multi_hop_quote_state in_mint venues = (do
            let buyback_fee_recipient ←
              Outcome.ok_or recipient (.AccountNotFound "buyback_fee_recipient" config)
            .ok {
              in_token_program := in_account.owner
              out_token_program := out_account.owner
              buyback_fee_recipient
              in_mint
              out_mint
              global
              pump_fee_config
              global_config
              amm_fee_config
              hops := reads.map Prod.fst }) := by
  have hkeyed := fetch_multi_hop_quote_state_eq_keyed hsnapshot in_mint venues
  refine ⟨hkeyed, ?_⟩
  intro global pump_fee_config global_config amm_fee_config states reads hanswers
  refine ⟨hanswers.hops_of_venues, ?_⟩
  intro is_buy out_mint hroute
  obtain ⟨⟨in_account, hin, -⟩, out_account, hout, -⟩ :=
    route_ends_read hanswers.venues hroute hanswers.hops rfl
  have hlength := (Outcome.mapM_eq_ok_iff.mp hanswers.venues).length_eq
  have hne := (multi_hop_route_ok_iff.mp hroute).1
  rw [ne_eq, List.map_eq_nil_iff, ← ne_eq, ← List.length_pos_iff, ← hlength] at hne
  obtain ⟨recipient, config, hrecipient⟩ :=
    buyback_recipient_ok hne is_buy global global_config
  refine ⟨in_account, out_account, recipient, config, hin, hout, hrecipient, ?_⟩
  obtain ⟨_, hglobal, hglobal_decode⟩ := hanswers.global
  obtain ⟨_, hfee_config, hfee_config_decode⟩ := hanswers.pump_fee_config
  obtain ⟨_, hglobal_config, hglobal_config_decode⟩ := hanswers.global_config
  obtain ⟨_, hamm_fee_config, hamm_fee_config_decode⟩ := hanswers.amm_fee_config
  rw [hkeyed, keyed_multi_hop_quote_state]
  simp only [Snapshot.account_eq_ok_iff.mpr hglobal, Snapshot.account_eq_ok_iff.mpr hfee_config,
    Snapshot.account_eq_ok_iff.mpr hglobal_config, Snapshot.account_eq_ok_iff.mpr hamm_fee_config,
    Snapshot.account_eq_ok_iff.mpr hin, Snapshot.account_eq_ok_iff.mpr hout, hglobal_decode,
    hfee_config_decode, hglobal_config_decode, hamm_fee_config_decode, hanswers.venues,
    hanswers.hops, hroute, hrecipient, Outcome.map_err, Outcome.ok_bind]

end

/-- A snapshot with an account everywhere; the launched coin is a Token-2022
    one. -/
def launchSnapshot : Snapshot := fun key =>
  some ⟨[], if key = ⟨11⟩ then constants.SPL_TOKEN_2022_PROGRAM_ID
    else constants.SPL_TOKEN_PROGRAM_ID⟩

/-- The launched coin's route: its quote off a curve, then the coin out of its
    pool. -/
theorem fetched_accounts_attributed_launch :
    ∃ st : MultiHopQuoteState, st.in_token_program = constants.SPL_TOKEN_PROGRAM_ID ∧
      st.out_token_program = constants.SPL_TOKEN_2022_PROGRAM_ID ∧ ∃ state,
        List.Forall₂ (fun state hop => HopState.Extends state hop) [.Curve ⟨20⟩ launchCurve
          1_000_000_000_000_000 constants.SPL_TOKEN_PROGRAM_ID, .Pool state] st.hops := by
  let _ : Solana := graduatedPoolAuthority
  let _ : AccountDeserialize state.pump_amm.Pool :=
    ⟨fun _ => some { graduatedPool with quote_mint := ⟨20⟩ }⟩
  let _ : AccountDeserialize BondingCurve := ⟨fun _ => some launchCurve⟩
  let _ : AccountDeserialize Mint := ⟨fun _ => some ⟨1_000_000_000_000_000⟩⟩
  let _ : AccountDeserialize TokenAccount := ⟨fun _ => some ⟨1_000_000_000_000_000⟩⟩
  let _ : AccountDeserialize Global := ⟨fun _ =>
    some { launchGlobal with buyback_fee_recipients := Vector.replicate 8 ⟨31⟩ }⟩
  let _ : AccountDeserialize FeeConfig := ⟨fun _ => some launchFees⟩
  let _ : AccountDeserialize state.pump_amm.GlobalConfig := ⟨fun _ =>
    some { GlobalConfig.default with buyback_fee_recipients := Vector.replicate 8 ⟨32⟩ }⟩
  let _ : RpcClient := ⟨fun _ keys => .ok (keys.map launchSnapshot)⟩
  let _ : Fastrand := ⟨fun _ h => ⟨0, h⟩⟩
  obtain ⟨-, hattributed⟩ := fetched_accounts_attributed (fun _ _ => rfl) constants.NATIVE_MINT
    [.Curve ⟨20⟩, .Pool ⟨40⟩]
  obtain ⟨hhops, hends⟩ := hattributed _ _ _ _ _ _
    ⟨⟨_, rfl, rfl⟩, ⟨_, rfl, rfl⟩, ⟨_, rfl, rfl⟩, ⟨_, rfl, rfl⟩, rfl, rfl⟩
  obtain ⟨_, _, _, _, hin, hout, hrecipient, hfetch⟩ := hends true ⟨11⟩ rfl
  cases hin
  cases hout
  cases hrecipient
  obtain ⟨st, hst⟩ : ∃ st, fetch_multi_hop_quote_state constants.NATIVE_MINT
      [.Curve ⟨20⟩, .Pool ⟨40⟩] = .ok st := ⟨_, hfetch⟩
  refine ⟨st, ?_⟩
  cases hfetch.symm.trans hst
  exact ⟨rfl, rfl, _, .cons ⟨rfl, rfl, rfl, rfl⟩ (.cons rfl .nil)⟩

end pump_rust_client.async_client
