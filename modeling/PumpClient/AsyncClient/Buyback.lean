import PumpClient.AsyncClient
import PumpClient.Math.Amm.Reserves
import PumpClient.Math.BondingCurve.Quoters
import PumpClient.Sdk.Routes

open machine

namespace pump_rust_client.async_client

open state state.pump_amm math math.amm math.bonding_curve sdk sdk.PumpSdk errors accounts

section Recipients

theorem dedupe_sorted_subset {keys : List Pubkey} {key : Pubkey} (h : key ∈ dedupe_sorted keys) :
    key ∈ keys := by
  have hsorted := (List.destutter_sublist (· ≠ ·) _).subset h
  exact (List.perm_insertionSort _ keys).subset hsorted

variable [Fastrand]

theorem pick_random_pubkey_mem {candidates : List Pubkey} {key : Pubkey}
    (h : pick_random_pubkey candidates = some key) : key ∈ candidates := by
  unfold pick_random_pubkey at h
  split at h
  · cases h
    exact List.get_mem _ _
  · simp at h

/-- A random choice is one of the listed wallets. -/
theorem pick_listed {listed : List Pubkey} {key : Pubkey}
    (h : pick_random_pubkey (dedupe_sorted (listed.filter (· ≠ Pubkey.default))) = some key) :
    key ∈ listed ∧ key ≠ Pubkey.default := by
  simpa using dedupe_sorted_subset (pick_random_pubkey_mem h)

end Recipients

/-- The first round reads each venue as what it is. -/
def VenueState.Reads : RouteVenue → VenueState → Prop
  | .Pool _, .Pool _ => True
  | .Curve mint, .Curve mint' _ _ _ => mint = mint'
  | _, _ => False

/-- The second round keeps what the first one read. -/
def HopState.Extends : VenueState → HopState → Prop
  | .Pool pool, .Pool pool' _ _ _ => pool = pool'
  | .Curve mint curve supply program, .Curve mint' curve' program' _ supply' _ =>
    mint = mint' ∧ curve = curve' ∧ supply = supply' ∧ program = program'
  | _, _ => False

theorem HopState.Extends.mints [Solana] {state : VenueState} {hop : HopState}
    (h : hop.Extends state) :
    state.hop.base_mint = hop.as_route_hop.accounts.base_mint ∧
      state.hop.quote_mint = hop.as_route_hop.accounts.quote_mint := by
  cases state with
  | Pool pool =>
    cases hop with
    | Pool => cases h; exact ⟨rfl, rfl⟩
    | Curve => cases h
  | Curve mint curve supply program =>
    cases hop with
    | Pool => cases h
    | Curve => obtain ⟨rfl, rfl, rfl, rfl⟩ := h; exact ⟨rfl, rfl⟩

/-- The wallets the config of a hop's program lists for the buyback slice. -/
def HopState.buyback_fee_recipients (st : MultiHopQuoteState) : HopState → List Pubkey
  | .Pool _ _ _ _ => st.global_config.buyback_fee_recipients.toList
  | .Curve _ _ _ _ _ _ => st.global.buyback_fee_recipients.toList

/-- The venue the recipient is picked by is the hop's own. -/
theorem buyback_recipient_listed [Solana] [Fastrand] {venues : List RouteVenue} {is_buy : Bool}
    {st : MultiHopQuoteState} {key config : Pubkey} {venue : RouteVenue} {state : VenueState}
    {hop : HopState} (hvenue : venues[user_leg is_buy venues.length]? = some venue)
    (hread : state.Reads venue) (hextend : hop.Extends state)
    (h : buyback_recipient venues is_buy st.global st.global_config = .ok (some key, config)) :
    key ∈ hop.buyback_fee_recipients st ∧ key ≠ Pubkey.default := by
  rw [buyback_recipient, ← user_leg, hvenue] at h
  cases venue with
  | Pool address =>
    cases state with
    | Pool pool =>
      cases hop with
      | Pool => exact pick_listed (congrArg Prod.fst (Except.ok.inj h))
      | Curve => cases hextend
    | Curve => cases hread
  | Curve mint =>
    cases state with
    | Pool => cases hread
    | Curve =>
      cases hop with
      | Pool => cases hextend
      | Curve => exact pick_listed (congrArg Prod.fst (Except.ok.inj h))

section Fetch

variable [AccountDeserialize Mint]

theorem venue_states_ok [AccountDeserialize Pool] [AccountDeserialize BondingCurve]
    {need : Nat → String → Result Account} {i : Nat} {venues : List RouteVenue}
    {token_programs token_programs' : TokenPrograms} {states : List VenueState}
    (h : venue_states need i venues token_programs = .ok (states, token_programs')) :
    List.Forall₂ VenueState.Reads venues states := by
  induction venues generalizing i token_programs states with
  | nil =>
    cases h
    exact .nil
  | cons venue venues ih =>
    cases venue with
    | Pool pool =>
      simp only [venue_states, Outcome.bind_eq_ok_iff] at h
      obtain ⟨_, -, _, -, _, hrest, h⟩ := h
      cases h
      exact .cons trivial (ih hrest)
    | Curve mint =>
      simp only [venue_states, Outcome.bind_eq_ok_iff] at h
      obtain ⟨_, -, _, -, _, -, _, -, _, hrest, h⟩ := h
      cases h
      exact .cons rfl (ih hrest)

theorem hop_states_ok [AccountDeserialize TokenAccount]
    {need : Nat → String → Result Account} {i : Nat} {states : List VenueState}
    {token_programs token_programs' : TokenPrograms} {hops : List HopState}
    (h : hop_states need i states token_programs = .ok (hops, token_programs')) :
    List.Forall₂ (fun state hop => HopState.Extends state hop) states hops := by
  induction states generalizing i token_programs hops with
  | nil =>
    cases h
    exact .nil
  | cons state states ih =>
    cases state with
    | Pool pool =>
      simp only [hop_states, Outcome.bind_eq_ok_iff] at h
      obtain ⟨_, -, _, -, _, -, _, -, _, -, _, -, _, -, _, hrest, h⟩ := h
      cases h
      exact .cons rfl (ih hrest)
    | Curve mint curve supply program =>
      simp only [hop_states, Outcome.bind_eq_ok_iff] at h
      obtain ⟨_, -, _, -, _, -, _, hrest, h⟩ := h
      cases h
      exact .cons ⟨rfl, rfl, rfl, rfl⟩ (ih hrest)

variable [AccountDeserialize Pool] [AccountDeserialize BondingCurve]
  [AccountDeserialize TokenAccount] [AccountDeserialize Global] [AccountDeserialize FeeConfig]
  [AccountDeserialize GlobalConfig] [Solana] [RpcClient] [Fastrand]

/-- What a fetched state was read from. -/
theorem fetch_multi_hop_quote_state_ok {in_mint : Pubkey} {venues : List RouteVenue}
    {st : MultiHopQuoteState} (h : fetch_multi_hop_quote_state in_mint venues = .ok st) :
    ∃ states is_buy config,
      List.Forall₂ VenueState.Reads venues states ∧
      List.Forall₂ HopState.Extends states st.hops ∧
      multi_hop_route in_mint (states.map VenueState.hop) = .ok (is_buy, st.out_mint) ∧
      buyback_recipient venues is_buy st.global st.global_config =
        .ok (some st.buyback_fee_recipient, config) := by
  simp only [fetch_multi_hop_quote_state, Outcome.bind_eq_ok_iff, Outcome.ok_or_eq_ok_iff] at h
  obtain ⟨_, -, _, -, global, -, _, -, _, -, _, -, global_config, -, _, -, _, -, ⟨states, _⟩, hstates,
    ⟨is_buy, out_mint⟩, hroute, _, -, ⟨hops, _⟩, hhops, ⟨recipient, config⟩, hrecipient, _, -, _, -,
    _, hsome, h⟩ := h
  obtain rfl : recipient = some _ := hsome
  cases h
  exact ⟨states, is_buy, config, venue_states_ok hstates, hop_states_ok hhops,
    Outcome.map_err_eq_ok_iff.mp hroute, hrecipient⟩

/-- The recipient is listed by the config of the user's leg. -/
theorem fetch_recipient_listed {in_mint : Pubkey} {venues : List RouteVenue}
    {st : MultiHopQuoteState} (h : fetch_multi_hop_quote_state in_mint venues = .ok st) :
    ∃ is_buy hop,
      multi_hop_route in_mint (st.route_hops.map RouteHop.accounts) = .ok (is_buy, st.out_mint) ∧
      st.hops[user_leg is_buy st.hops.length]? = some hop ∧
      st.buyback_fee_recipient ∈ hop.buyback_fee_recipients st ∧
      st.buyback_fee_recipient ≠ Pubkey.default := by
  obtain ⟨states, is_buy, config, hreads, hextends, hroute, hrecipient⟩ :=
    fetch_multi_hop_quote_state_ok h
  have hkeys : List.Forall₂ (fun hop hop' : MultiHopHop => hop.base_mint = hop'.base_mint ∧
      hop.quote_mint = hop'.quote_mint) (states.map VenueState.hop)
      (st.route_hops.map RouteHop.accounts) := by
    simp only [MultiHopQuoteState.route_hops, List.forall₂_map_left_iff, List.forall₂_map_right_iff]
    exact hextends.imp fun _ _ => HopState.Extends.mints
  have hne : 0 < states.length := by
    have hroute_ne := (multi_hop_route_ok_iff.mp hroute).1
    rwa [ne_eq, List.map_eq_nil_iff, ← ne_eq, ← List.length_pos_iff] at hroute_ne
  have hstates_len := hreads.length_eq
  have hhops_len := hextends.length_eq
  have hleg := user_leg_lt is_buy hne
  have hvenue_leg : user_leg is_buy states.length < venues.length := by omega
  have hhop_leg : user_leg is_buy states.length < st.hops.length := by omega
  refine ⟨is_buy, st.hops.get ⟨_, hhop_leg⟩, (multi_hop_route_congr hkeys).symm.trans hroute, ?_,
    buyback_recipient_listed ?_ (hreads.get hvenue_leg hleg) (hextends.get hleg hhop_leg) hrecipient⟩
  · have hsame : user_leg is_buy st.hops.length = user_leg is_buy states.length := by rw [hhops_len]
    rw [hsame]
    exact List.getElem?_eq_getElem hhop_leg
  · have hsame : user_leg is_buy venues.length = user_leg is_buy states.length := by rw [hstates_len]
    rw [hsame]
    exact List.getElem?_eq_getElem hvenue_leg

/-- Reversing a route reverses its meaning and its fee legs. Each end of it
    charges its own fees, and the buyback slice goes with the protocol fee: it
    is paid in that hop's quote mint, to a wallet its venue's config lists. -/
theorem reversed_route_mirrors :
    (∀ (in_mint out_mint : Pubkey) (hops : List MultiHopHop),
      (∀ hop ∈ hops, hop.base_mint ≠ hop.quote_mint) →
      (multi_hop_route in_mint hops = .ok (true, out_mint) ↔
        multi_hop_route out_mint hops.reverse = .ok (false, in_mint))) ∧
    (∀ hops index, index < hops →
      HopFees.for_hop true index hops = HopFees.for_hop false (hops - 1 - index) hops) ∧
    (∀ is_buy hops, 1 ≤ hops → ∃ leg far, OnlyLeg HopFees.protocol is_buy hops leg ∧
      OnlyLeg HopFees.creator is_buy hops far ∧ OnlyLeg HopFees.lp is_buy hops far) ∧
    (∀ in_mint out_mint hops is_buy, multi_hop_route in_mint hops = .ok (is_buy, out_mint) →
      ∃ far hop, OnlyLeg HopFees.creator is_buy hops.length far ∧
        OnlyLeg HopFees.lp is_buy hops.length far ∧ hops[far]? = some hop ∧
        hop.base_mint = if is_buy then out_mint else in_mint) ∧
    (∀ user in_mint in_token_program out_token_program hops recipient amount_in min_amount_out ix,
      multi_hop_swap_instruction user in_mint in_token_program out_token_program hops recipient
        amount_in min_amount_out = .ok ix →
      ∃ is_buy out_mint leg hop, multi_hop_route in_mint hops = .ok (is_buy, out_mint) ∧
        OnlyLeg HopFees.protocol is_buy hops.length leg ∧ hops[leg]? = some hop ∧
        ix.accounts[6]? = some (AccountMeta.new (pda.associated_token recipient
          (if is_buy then in_token_program else out_token_program) hop.quote_mint).1 false)) ∧
    ∀ in_mint venues st, fetch_multi_hop_quote_state in_mint venues = .ok st →
      ∃ is_buy leg hop,
        multi_hop_route in_mint (st.route_hops.map RouteHop.accounts) = .ok (is_buy, st.out_mint) ∧
        OnlyLeg HopFees.protocol is_buy st.hops.length leg ∧ st.hops[leg]? = some hop ∧
        st.buyback_fee_recipient ∈ hop.buyback_fee_recipients st ∧
        st.buyback_fee_recipient ≠ Pubkey.default := by
  have hops_pos : ∀ {in_mint out_mint hops is_buy},
      multi_hop_route in_mint hops = .ok (is_buy, out_mint) → 0 < hops.length := by
    intro in_mint out_mint hops is_buy hroute
    exact List.length_pos_iff.mpr (multi_hop_route_ok_iff.mp hroute).1
  refine ⟨fun in_mint out_mint hops hne => multi_hop_route_reverse_iff hne,
    fun hops index hindex => for_hop_reverse hindex,
    fun is_buy hops hpos => ⟨user_leg is_buy hops, user_leg (!is_buy) hops,
      onlyLeg_protocol is_buy hpos, onlyLeg_creator is_buy hpos, onlyLeg_lp is_buy hpos⟩, ?_, ?_, ?_⟩
  · intro in_mint out_mint hops is_buy hroute
    obtain ⟨-, hop, hfar, hbase⟩ := multi_hop_route_ends hroute
    have hpos := hops_pos hroute
    exact ⟨_, hop, onlyLeg_creator is_buy hpos, onlyLeg_lp is_buy hpos, hfar, hbase⟩
  · intro user in_mint in_token_program out_token_program hops recipient amount_in min_amount_out ix h
    obtain ⟨is_buy, out_mint, hop, hroute, hleg, haccount⟩ := multi_hop_swap_instruction_buyback h
    exact ⟨is_buy, out_mint, _, hop, hroute, onlyLeg_protocol is_buy (hops_pos hroute), hleg, haccount⟩
  · intro in_mint venues st h
    obtain ⟨is_buy, hop, hroute, hleg, hlisted⟩ := fetch_recipient_listed h
    have hpos := hops_pos hroute
    rw [List.length_map, MultiHopQuoteState.route_hops, List.length_map] at hpos
    exact ⟨is_buy, _, hop, hroute, onlyLeg_protocol is_buy hpos, hleg, hlisted⟩

end Fetch

/-- A cluster that has every account asked for. -/
abbrev launchCluster : RpcClient where
  get_multiple_accounts _ keys := .ok (keys.map fun _ => some ⟨[], constants.SPL_TOKEN_PROGRAM_ID⟩)

/-- A coin in a pool quoted in a coin that is quoted in SOL. -/
def launchPath : List MultiHopHop :=
  [⟨⟨20⟩, constants.NATIVE_MINT, ⟨1⟩, ⟨2⟩, ⟨3⟩⟩, ⟨⟨11⟩, ⟨20⟩, ⟨4⟩, ⟨5⟩, ⟨6⟩⟩]

/-- The launch path back, its fee legs, and the state fetched for it. -/
theorem reversed_route_mirrors_launch :
    letI : Solana := graduatedPoolAuthority
    multi_hop_route ⟨11⟩ launchPath.reverse = .ok (false, constants.NATIVE_MINT) ∧
    HopFees.for_hop true 0 2 = HopFees.for_hop false 1 2 ∧
    (∃ leg far, OnlyLeg HopFees.protocol true 2 leg ∧ OnlyLeg HopFees.creator true 2 far ∧
      OnlyLeg HopFees.lp true 2 far) ∧
    (∃ far hop, OnlyLeg HopFees.creator true 2 far ∧ OnlyLeg HopFees.lp true 2 far ∧
      launchPath[far]? = some hop ∧ hop.base_mint = ⟨11⟩) ∧
    (∃ ix : Instruction, ∃ is_buy leg hop, OnlyLeg HopFees.protocol is_buy 2 leg ∧
      launchPath[leg]? = some hop ∧ ix.accounts[6]? = some (AccountMeta.new
        (pda.associated_token ⟨31⟩ (if is_buy then constants.SPL_TOKEN_PROGRAM_ID
          else constants.SPL_TOKEN_2022_PROGRAM_ID) hop.quote_mint).1 false)) ∧
    ∃ st : MultiHopQuoteState, ∃ is_buy leg hop, OnlyLeg HopFees.protocol is_buy st.hops.length leg ∧
      st.hops[leg]? = some hop ∧ st.buyback_fee_recipient ∈ hop.buyback_fee_recipients st := by
  let _ : Solana := graduatedPoolAuthority
  let _ : AccountDeserialize Pool := ⟨fun _ => some { graduatedPool with quote_mint := ⟨20⟩ }⟩
  let _ : AccountDeserialize BondingCurve := ⟨fun _ => some launchCurve⟩
  let _ : AccountDeserialize Mint := ⟨fun _ => some ⟨1_000_000_000_000_000⟩⟩
  let _ : AccountDeserialize TokenAccount := ⟨fun _ => some ⟨1_000_000_000_000_000⟩⟩
  let _ : AccountDeserialize Global := ⟨fun _ =>
    some { launchGlobal with buyback_fee_recipients := Vector.replicate 8 ⟨31⟩ }⟩
  let _ : AccountDeserialize FeeConfig := ⟨fun _ => some launchFees⟩
  let _ : AccountDeserialize GlobalConfig := ⟨fun _ =>
    some { GlobalConfig.default with buyback_fee_recipients := Vector.replicate 8 ⟨32⟩ }⟩
  let _ : RpcClient := launchCluster
  let _ : Fastrand := ⟨fun _ h => ⟨0, h⟩⟩
  obtain ⟨hreverse, hfor_hop, honly, hfar, hinstruction, hfetch⟩ := reversed_route_mirrors
  have hroute : multi_hop_route constants.NATIVE_MINT launchPath = .ok (true, ⟨11⟩) := by decide
  obtain ⟨ix, hix⟩ : ∃ ix, multi_hop_swap_instruction ⟨1⟩ constants.NATIVE_MINT
      constants.SPL_TOKEN_PROGRAM_ID constants.SPL_TOKEN_2022_PROGRAM_ID launchPath ⟨31⟩ 1_000_000_000
      1 = .ok ix := ⟨_, rfl⟩
  obtain ⟨st, hst⟩ : ∃ st, fetch_multi_hop_quote_state constants.NATIVE_MINT
      [.Curve ⟨20⟩, .Pool ⟨40⟩] = .ok st := ⟨_, rfl⟩
  obtain ⟨is_buy, out_mint, leg, hop, -, hleg⟩ := hinstruction _ _ _ _ _ _ _ _ ix hix
  obtain ⟨is_buy', leg', hop', -, honly', hhop', hlisted, -⟩ := hfetch _ _ st hst
  exact ⟨(hreverse _ _ launchPath (by decide)).mp hroute, hfor_hop 2 0 (by decide),
    honly true 2 (by decide), hfar _ _ _ _ hroute, ⟨ix, is_buy, leg, hop, hleg⟩,
    st, is_buy', leg', hop', honly', hhop', hlisted⟩

end pump_rust_client.async_client
