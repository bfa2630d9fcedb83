import PumpClient.AsyncClient.Buyback
import PumpClient.AsyncClient.CurveQuote
import PumpClient.AsyncClient.DiscoveredRoutes
import PumpClient.AsyncClient.PumpQuoteCreate
import PumpClient.Sdk.Totality

open machine

namespace pump_rust_client.async_client

open state state.pump_amm math math.amm math.bonding_curve sdk sdk.PumpSdk errors accounts Outcome

theorem decode_neverPanics (T : Type) [AccountDeserialize T] (data : List UInt8) :
    NeverPanics (decode T data) := neverPanics_ok_or _ _

theorem token_amount_neverPanics [AccountDeserialize TokenAccount] (account : Account) :
    NeverPanics (token_amount account) := by
  apply (decode_neverPanics TokenAccount account.data).bind
  intro token_account _
  exact neverPanics_ok _

theorem mint_info_neverPanics [AccountDeserialize Mint] (account : Account) :
    NeverPanics (mint_info account) := by
  apply (decode_neverPanics Mint account.data).bind
  intro mint _
  exact neverPanics_ok _

section Rounds

variable [Solana] [AccountDeserialize Mint] {need : Nat → String → Result Account}

/-- The first round's cursor never leaves what was asked for the venues. -/
theorem venue_states_neverPanics [AccountDeserialize Pool] [AccountDeserialize BondingCurve]
    {venues : List RouteVenue} {i : Nat} (token_programs : TokenPrograms)
    (hneed : ∀ j < i + (venues.flatMap RouteVenue.keys).length, ∀ name, NeverPanics (need j name)) :
    NeverPanics (venue_states need i venues token_programs) := by
  induction venues generalizing i token_programs with
  | nil => exact neverPanics_ok _
  | cons venue venues ih =>
    cases venue with
    | Pool pool =>
      simp only [List.flatMap_cons, RouteVenue.keys, List.length_append, List.length_singleton]
        at hneed
      apply (hneed i (by omega) _).bind
      intro account _
      apply (decode_neverPanics Pool account.data).bind
      intro pool _
      refine (ih _ fun j hj => hneed j (by omega)).bind fun states _ => neverPanics_ok _
    | Curve mint =>
      simp only [List.flatMap_cons, RouteVenue.keys, List.length_append, List.length_cons,
        List.length_nil] at hneed
      apply (hneed i (by omega) _).bind
      intro account _
      apply (decode_neverPanics BondingCurve account.data).bind
      intro curve _
      apply (hneed (i + 1) (by omega) _).bind
      intro account _
      apply (mint_info_neverPanics account).bind
      intro info _
      refine (ih _ fun j hj => hneed j (by omega)).bind fun states _ => neverPanics_ok _

/-- Nor does the second round's. -/
theorem hop_states_neverPanics [AccountDeserialize TokenAccount] {states : List VenueState} {i : Nat}
    (token_programs : TokenPrograms)
    (hneed : ∀ j < i + (states.flatMap VenueState.keys).length, ∀ name, NeverPanics (need j name)) :
    NeverPanics (hop_states need i states token_programs) := by
  induction states generalizing i token_programs with
  | nil => exact neverPanics_ok _
  | cons state states ih =>
    cases state with
    | Pool pool =>
      simp only [List.flatMap_cons, VenueState.keys, List.length_append, List.length_cons,
        List.length_nil] at hneed
      apply (hneed (i + 2) (by omega) _).bind
      intro account _
      apply (mint_info_neverPanics account).bind
      intro info _
      apply (hneed (i + 3) (by omega) _).bind
      intro account _
      apply (hneed i (by omega) _).bind
      intro account _
      apply (token_amount_neverPanics account).bind
      intro base_reserve _
      apply (hneed (i + 1) (by omega) _).bind
      intro account _
      apply (token_amount_neverPanics account).bind
      intro quote_vault_balance _
      refine (ih _ fun j hj => hneed j (by omega)).bind fun hops _ => neverPanics_ok _
    | Curve mint curve supply base_token_program =>
      simp only [List.flatMap_cons, VenueState.keys, List.length_append, List.length_cons,
        List.length_nil] at hneed
      apply (hneed (i + 1) (by omega) _).bind
      intro account _
      apply (hneed i (by omega) _).bind
      intro account _
      apply (token_amount_neverPanics account).bind
      intro base_ata_amount _
      refine (ih _ fun j hj => hneed j (by omega)).bind fun hops _ => neverPanics_ok _

end Rounds

/-- A cluster that answers a batched request with one entry a key, if it answers
    it. What the entries hold may change from one request to the next. -/
structure AnswersKeys [RpcClient] : Prop where
  neverPanics : ∀ request keys, NeverPanics (RpcClient.get_multiple_accounts request keys)
  length_eq : ∀ request keys accounts,
    RpcClient.get_multiple_accounts request keys = .ok accounts → accounts.length = keys.length

/-- Reading an account that was asked for finds it, or says which is missing. -/
theorem AnswersKeys.required_neverPanics [RpcClient] (hrpc : AnswersKeys) {request n : Nat}
    {keys : List Pubkey} {accounts : List (Option Account)}
    (h : RpcClient.get_multiple_accounts request keys = .ok accounts) (hn : keys.length = n) :
    ∀ i < n, ∀ name, NeverPanics (required accounts keys i name) := by
  intro i hi name
  have hkey : i < keys.length := hn ▸ hi
  have haccount : i < accounts.length := (hrpc.length_eq _ _ _ h).symm ▸ hkey
  rw [required, List.getElem?_eq_getElem haccount]
  cases accounts[i] with
  | none =>
    rw [List.getElem?_eq_getElem hkey]
    exact neverPanics_err _
  | some account => exact neverPanics_ok account

theorem optional_amount_neverPanics [AccountDeserialize TokenAccount]
    {accounts : List (Option Account)} {i : Nat} (hi : i < accounts.length) :
    NeverPanics (optional_amount accounts i) := by
  rw [optional_amount, List.getElem?_eq_getElem hi]
  cases accounts[i] with
  | none => exact neverPanics_ok _
  | some account => exact token_amount_neverPanics account

section QuotePool

variable [RpcClient]

theorem fetch_quote_pool_neverPanics [AccountDeserialize Pool] (hrpc : AnswersKeys) (pool_key : Pubkey)
    (quote_curve : BondingCurve) : NeverPanics (fetch_quote_pool pool_key quote_curve) := by
  apply NeverPanics.ite
  · intro _
    apply (hrpc.neverPanics _ _).bind
    intro accounts _
    cases accounts.getLast?.join with
    | none => exact neverPanics_ok _
    | some account =>
      apply (decode_neverPanics Pool account.data).bind
      intro pool _
      exact neverPanics_ok _
  · intro _
    exact neverPanics_ok _

theorem fetch_quote_vaults_neverPanics [AccountDeserialize TokenAccount] (hrpc : AnswersKeys)
    (pool : Option Pool) : NeverPanics (fetch_quote_vaults pool) := by
  cases pool with
  | none => exact neverPanics_ok _
  | some pool =>
    apply (hrpc.neverPanics _ _).bind
    intro accounts haccounts
    have hneed := hrpc.required_neverPanics haccounts (n := 2) rfl
    apply (hneed 0 (by decide) _).bind
    intro account _
    apply (token_amount_neverPanics account).bind
    intro base _
    apply (hneed 1 (by decide) _).bind
    intro account _
    apply (token_amount_neverPanics account).bind
    intro quote _
    exact neverPanics_ok _

end QuotePool

section Calls

variable [Solana] [AccountDeserialize BondingCurve] [AccountDeserialize Global]
  [AccountDeserialize Mint] [AccountDeserialize TokenAccount] [RpcClient]

theorem fetch_pump_quote_create_neverPanics [AccountDeserialize QuoteControl]
    [AccountDeserialize Pool] (hrpc : AnswersKeys) (quote_mint : Pubkey) :
    NeverPanics (fetch_pump_quote_create quote_mint) := by
  unfold fetch_pump_quote_create
  apply (hrpc.neverPanics _ _).bind
  intro accounts haccounts
  have hneed := hrpc.required_neverPanics haccounts (n := 4) rfl
  apply (hneed 0 (by decide) _).bind
  intro account _
  apply (decode_neverPanics Global account.data).bind
  intro global _
  apply (hneed 1 (by decide) _).bind
  intro account _
  apply (decode_neverPanics QuoteControl account.data).bind
  intro quote_control _
  apply (hneed 2 (by decide) _).bind
  intro account _
  apply (decode_neverPanics BondingCurve account.data).bind
  intro quote_curve _
  apply (hneed 3 (by decide) _).bind
  intro account _
  apply (mint_info_neverPanics account).bind
  rintro ⟨supply, quote_token_program⟩ _
  apply (fetch_quote_pool_neverPanics hrpc _ _).bind
  intro pool _
  apply (fetch_quote_vaults_neverPanics hrpc pool).bind
  intro vaults _
  apply (pump_quote_neverPanics _ _ _ _).map_err.bind
  rintro ⟨virtual_quote_reserves, depth⟩ _
  exact neverPanics_ok _

variable [AccountDeserialize FeeConfig] [Fastrand]

theorem fetch_curve_quote_state_neverPanics (hrpc : AnswersKeys) (mint : Pubkey) :
    NeverPanics (fetch_curve_quote_state mint) := by
  unfold fetch_curve_quote_state
  apply (hrpc.neverPanics _ _).bind
  intro accounts haccounts
  have hneed := hrpc.required_neverPanics haccounts (n := 4) rfl
  dsimp only
  apply (hneed 2 (by decide) _).bind
  intro account _
  apply (decode_neverPanics BondingCurve account.data).bind
  intro bonding_curve _
  apply (hneed 3 (by decide) _).bind
  intro account _
  apply (mint_info_neverPanics account).bind
  rintro ⟨mint_supply, base_token_program⟩ _
  apply (hrpc.neverPanics _ _).bind
  intro more hmore
  apply (hrpc.required_neverPanics hmore (n := 2) rfl 0 (by decide) _).bind
  intro account _
  have hata : 1 < more.length := by simp [hrpc.length_eq _ _ _ hmore]
  apply (optional_amount_neverPanics hata).bind
  intro base_ata_amount _
  apply (hneed 0 (by decide) _).bind
  intro account _
  apply (decode_neverPanics Global account.data).bind
  intro global _
  apply (neverPanics_ok_or _ _).bind
  intro buyback_fee_recipient _
  apply (hneed 1 (by decide) _).bind
  intro account _
  apply (decode_neverPanics FeeConfig account.data).bind
  intro fee_config _
  exact neverPanics_ok _

theorem build_buy_exact_quote_in_v3_neverPanics [Build] (hrpc : AnswersKeys) (user mint : Pubkey)
    (spendable_quote_in : UInt64) (slippage_bps : UInt16) :
    NeverPanics (build_buy_exact_quote_in_v3 user mint spendable_quote_in slippage_bps) := by
  apply (fetch_curve_quote_state_neverPanics hrpc mint).bind
  intro state _
  refine NeverPanics.bind (NeverPanics.map_err ?_) fun _ _ => neverPanics_ok _
  exact (buy_v3_token_amount_neverPanics _).bind fun _ _ => neverPanics_ok _

theorem build_sell_v3_neverPanics [Build] (hrpc : AnswersKeys) (user mint : Pubkey)
    (amount : UInt64) (slippage_bps : UInt16) : NeverPanics (build_sell_v3 user mint amount slippage_bps) := by
  apply (fetch_curve_quote_state_neverPanics hrpc mint).bind
  intro state _
  exact sell_quote_bonding_curve_neverPanics.map_err.bind fun _ _ => neverPanics_ok _

variable [AccountDeserialize Pool] [AccountDeserialize GlobalConfig]

theorem fetch_multi_hop_quote_state_neverPanics (hrpc : AnswersKeys) (in_mint : Pubkey)
    (venues : List RouteVenue) : NeverPanics (fetch_multi_hop_quote_state in_mint venues) := by
  unfold fetch_multi_hop_quote_state
  apply (hrpc.neverPanics _ _).bind
  intro accounts haccounts
  have hneed := hrpc.required_neverPanics haccounts
    (n := 4 + (venues.flatMap RouteVenue.keys).length) List.length_append
  dsimp only
  apply (hneed 0 (by omega) _).bind
  intro account _
  apply (decode_neverPanics Global account.data).bind
  intro global _
  apply (hneed 1 (by omega) _).bind
  intro account _
  apply (decode_neverPanics FeeConfig account.data).bind
  intro pump_fee_config _
  apply (hneed 2 (by omega) _).bind
  intro account _
  apply (decode_neverPanics GlobalConfig account.data).bind
  intro global_config _
  apply (hneed 3 (by omega) _).bind
  intro account _
  apply (decode_neverPanics FeeConfig account.data).bind
  intro amm_fee_config _
  apply (venue_states_neverPanics [] hneed).bind
  rintro ⟨states, token_programs⟩ hstates
  apply (multi_hop_route_neverPanics _ _).map_err.bind
  rintro ⟨is_buy, out_mint⟩ hroute
  apply (hrpc.neverPanics _ _).bind
  intro accounts haccounts
  have hneed := hrpc.required_neverPanics haccounts
    (n := 0 + (states.flatMap VenueState.keys).length) (Nat.zero_add _).symm
  dsimp only
  apply (hop_states_neverPanics token_programs hneed).bind
  rintro ⟨hops, token_programs⟩ _
  have hlength := (venue_states_ok hstates).length_eq
  have hvenues : venues.length ≠ 0 := by
    obtain ⟨hne, -⟩ := multi_hop_route_ok_iff.mp (map_err_eq_ok_iff.mp hroute)
    simpa [hlength] using hne
  -- a route with a venue has one on its protocol leg
  obtain ⟨recipient, config, hrecipient⟩ :=
    buyback_recipient_ok (Nat.pos_of_ne_zero hvenues) is_buy global global_config
  rw [hrecipient, ok_bind]
  apply (neverPanics_ok_or _ _).bind
  intro in_token_program _
  apply (neverPanics_ok_or _ _).bind
  intro out_token_program _
  apply (neverPanics_ok_or _ _).bind
  intro buyback_fee_recipient _
  exact neverPanics_ok _

variable [Build]

/-- A build of a swap panics only on a state with a curve that has no token
    reserves. -/
theorem build_multi_hop_swap_for_route_neverPanics (hrpc : AnswersKeys) (user : Pubkey)
    (route : MultiHopRoute) (is_buy : Bool) (amount_in : UInt64) (slippage_bps : UInt16)
    (hreserves : ∀ state, fetch_multi_hop_quote_state (route.path is_buy).1 (route.path is_buy).2 =
      .ok state → ∀ hop ∈ state.route_hops, hop.HasReserves) :
    NeverPanics (build_multi_hop_swap_for_route user route is_buy amount_in slippage_bps) := by
  apply (fetch_multi_hop_quote_state_neverPanics hrpc _ _).bind
  intro state hstate
  apply (quote_multi_hop_swap_neverPanics _ _ _ _ _ _ (hreserves state hstate) _ _).map_err.bind
  intro quote _
  apply (multi_hop_swap_instructions_neverPanics _ _ _ _ _ _ _ _).map_err.bind
  intro ixs _
  exact neverPanics_ok _

/-- The client's calls return or say why not, whatever the accounts hold and
    however they change between two requests: every fetch, every discovery, the
    v3 builds of a sell and of an exact-in buy, and the build of a swap unless it
    was handed a curve without token reserves. -/
theorem client_calls_return [AccountDeserialize QuoteControl] [RpcAccounts] (hrpc : AnswersKeys)
    (haccounts : ∀ request address,
      NeverPanics (RpcAccounts.get_account_with_commitment request address)) :
    (∀ out_mint stop_at, NeverPanics (discover_route out_mint stop_at)) ∧
    (∀ in_mint venues, NeverPanics (fetch_multi_hop_quote_state in_mint venues)) ∧
    (∀ mint, NeverPanics (fetch_curve_quote_state mint)) ∧
    (∀ quote_mint, NeverPanics (fetch_pump_quote_create quote_mint)) ∧
    (∀ user mint amount slippage_bps,
      NeverPanics (build_buy_exact_quote_in_v3 user mint amount slippage_bps) ∧
        NeverPanics (build_sell_v3 user mint amount slippage_bps)) ∧
    ∀ user out_mint is_buy amount_in slippage_bps,
      (∀ route state, discover_route out_mint none = .ok route →
        fetch_multi_hop_quote_state (route.path is_buy).1 (route.path is_buy).2 = .ok state →
          ∀ hop ∈ state.route_hops, hop.HasReserves) →
      NeverPanics (build_multi_hop_swap user out_mint is_buy amount_in slippage_bps) := by
  refine ⟨discover_route_neverPanics haccounts, fetch_multi_hop_quote_state_neverPanics hrpc,
    fetch_curve_quote_state_neverPanics hrpc, fetch_pump_quote_create_neverPanics hrpc, ?_, ?_⟩
  · intro user mint amount slippage_bps
    exact ⟨build_buy_exact_quote_in_v3_neverPanics hrpc user mint amount slippage_bps,
      build_sell_v3_neverPanics hrpc user mint amount slippage_bps⟩
  · intro user out_mint is_buy amount_in slippage_bps hreserves
    apply (discover_route_neverPanics haccounts out_mint none).bind
    intro route hroute
    exact build_multi_hop_swap_for_route_neverPanics hrpc user route is_buy amount_in slippage_bps
      fun state => hreserves route state hroute

end Calls

/-- One SOL for the one coin: the build of the swap goes through. -/
theorem client_calls_return_one_coin :
    letI : Build := ⟨true⟩
    letI : Solana := coinAddresses
    letI : AccountDeserialize Pool := ⟨fun _ => some graduatedPool⟩
    letI : AccountDeserialize BondingCurve := ⟨fun _ => some launchCurve⟩
    letI : AccountDeserialize Mint := ⟨fun _ => some ⟨1_000_000_000_000_000⟩⟩
    letI : AccountDeserialize TokenAccount := ⟨fun _ => some ⟨1_000_000_000_000_000⟩⟩
    letI : AccountDeserialize Global := ⟨fun _ =>
      some { launchGlobal with buyback_fee_recipients := Vector.replicate 8 ⟨31⟩ }⟩
    letI : AccountDeserialize FeeConfig := ⟨fun _ => some launchFees⟩
    letI : AccountDeserialize GlobalConfig := ⟨fun _ => some GlobalConfig.default⟩
    letI : RpcAccounts := ⟨fun _ address => .ok (oneCoinSnapshot address)⟩
    letI : RpcClient := ⟨fun _ keys => .ok (keys.map oneCoinSnapshot)⟩
    letI : Fastrand := ⟨fun _ h => ⟨0, h⟩⟩
    NeverPanics (build_multi_hop_swap ⟨1⟩ ⟨11⟩ true 1_000_000_000 100) ∧
      ∃ built, build_multi_hop_swap ⟨1⟩ ⟨11⟩ true 1_000_000_000 100 = .ok built := by
  let _ : Build := ⟨true⟩
  let _ : Solana := coinAddresses
  let _ : AccountDeserialize Pool := ⟨fun _ => some graduatedPool⟩
  let _ : AccountDeserialize BondingCurve := ⟨fun _ => some launchCurve⟩
  let _ : AccountDeserialize Mint := ⟨fun _ => some ⟨1_000_000_000_000_000⟩⟩
  let _ : AccountDeserialize TokenAccount := ⟨fun _ => some ⟨1_000_000_000_000_000⟩⟩
  let _ : AccountDeserialize Global := ⟨fun _ =>
    some { launchGlobal with buyback_fee_recipients := Vector.replicate 8 ⟨31⟩ }⟩
  let _ : AccountDeserialize FeeConfig := ⟨fun _ => some launchFees⟩
  let _ : AccountDeserialize GlobalConfig := ⟨fun _ => some GlobalConfig.default⟩
  let _ : AccountDeserialize QuoteControl := ⟨fun _ => none⟩
  let _ : RpcAccounts := ⟨fun _ address => .ok (oneCoinSnapshot address)⟩
  let _ : RpcClient := ⟨fun _ keys => .ok (keys.map oneCoinSnapshot)⟩
  let _ : Fastrand := ⟨fun _ h => ⟨0, h⟩⟩
  have hrpc : AnswersKeys := by
    constructor
    · intro request keys
      exact neverPanics_ok _
    · rintro request keys accounts ⟨⟩
      simp
  have hcurve : oneCoinSnapshot.curve_account ⟨11⟩ = some ⟨[], constants.pump.PROGRAM_ID⟩ := rfl
  have hroot : oneCoinSnapshot.curve_account constants.NATIVE_MINT = none := rfl
  have hquotes : oneCoinSnapshot.Quotes (⟨11⟩, launchCurve) ⟨11⟩ constants.NATIVE_MINT :=
    ⟨rfl, ⟨_, hcurve, rfl⟩, rfl⟩
  have hroute : discover_route ⟨11⟩ none = .ok ⟨constants.NATIVE_MINT, ⟨11⟩, [.Curve ⟨11⟩]⟩ :=
    (discover_route_ok_iff fun _ _ => rfl).mpr ⟨rfl, [(⟨11⟩, launchCurve)], List.cons_ne_nil _ _,
      ⟨.cons hquotes .nil, by decide, by simp, .inr (.inr hroot)⟩, rfl⟩
  have hreserves : ∀ state, fetch_multi_hop_quote_state constants.NATIVE_MINT [.Curve ⟨11⟩] =
      .ok state → ∀ hop ∈ state.route_hops, hop.HasReserves := by
    have hcheck : (fetch_multi_hop_quote_state constants.NATIVE_MINT [.Curve ⟨11⟩]).toOption.all
        (fun state => state.route_hops.all (decide ·.HasReserves)) = true := by decide +kernel
    intro state hstate
    rw [hstate] at hcheck
    simpa using List.all_eq_true.mp hcheck
  obtain ⟨-, -, -, -, -, hbuild⟩ := client_calls_return hrpc fun _ _ => neverPanics_ok _
  refine ⟨hbuild ⟨1⟩ ⟨11⟩ true 1_000_000_000 100 ?_, ?_⟩
  · intro route state hroute' hstate
    obtain rfl := Except.ok.inj (hroute.symm.trans hroute')
    exact hreserves state hstate
  · have hbuilt : ∃ built, build_multi_hop_swap_for_route ⟨1⟩
        ⟨constants.NATIVE_MINT, ⟨11⟩, [.Curve ⟨11⟩]⟩ true 1_000_000_000 100 = .ok built :=
      exists_ok_of_toOption (by decide +kernel)
    rw [build_multi_hop_swap, hroute, ok_bind]
    exact hbuilt

end pump_rust_client.async_client
