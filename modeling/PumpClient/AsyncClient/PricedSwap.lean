import PumpClient.AsyncClient.Buildable
import PumpClient.AsyncClient.Discovery

open machine

namespace pump_rust_client.sdk.PumpSdk

/-- The last instruction of a built swap is the swap, its two amounts in its data. -/
theorem multi_hop_swap_instructions_ok [Solana]
    {user in_mint in_token_program out_token_program buyback_fee_recipient : Pubkey}
    {hops : List MultiHopHop} {amount_in min_amount_out : UInt64} {ixs : List Instruction}
    (h : multi_hop_swap_instructions user in_mint in_token_program out_token_program hops
      buyback_fee_recipient amount_in min_amount_out = .ok ixs) :
    ∃ swap out_mint, ixs.getLast? = some swap ∧
      swap.CarriesRoute user in_mint in_token_program out_mint out_token_program hops ∧
      swap.data =
        [43, 100, 73, 19, 233, 246, 111, 148] ++ le_bytes amount_in ++ le_bytes min_amount_out := by
  obtain ⟨swap, hswap, h⟩ := Outcome.bind_eq_ok_iff.mp h
  obtain ⟨⟨is_buy, out_mint⟩, hroute, h⟩ := Outcome.bind_eq_ok_iff.mp h
  obtain ⟨starts, -, h⟩ := Outcome.bind_eq_ok_iff.mp h
  cases h
  have hamounts : ¬ (amount_in = 0 ∨ min_amount_out = 0) := by
    intro hzero
    rw [multi_hop_swap_instruction, if_pos hzero] at hswap
    cases hswap
  obtain ⟨hin, hout⟩ := not_or.mp hamounts
  obtain ⟨swap', hswap', hcarries⟩ := multi_hop_swap_instruction_carries user in_token_program
    out_token_program buyback_fee_recipient hin hout hroute
  obtain rfl : swap = swap' := Except.ok.inj (hswap.symm.trans hswap')
  refine ⟨swap, out_mint, ?_, hcarries, ?_⟩
  · rw [List.getLast?_append]
    rfl
  · rw [multi_hop_swap_instruction, if_neg hamounts, hroute] at hswap
    cases hswap
    rfl

end pump_rust_client.sdk.PumpSdk

namespace pump_rust_client.async_client

open state state.pump_amm math math.amm math.bonding_curve sdk sdk.PumpSdk errors accounts

/-- The account at `key` is there and reads as `value`. -/
def Snapshot.Holds {α : Type} (snapshot : Snapshot) (key : Pubkey) (read : Account → Result α)
    (value : α) : Prop :=
  ∃ account, snapshot key = some account ∧ read account = .ok value

section

variable [Solana] [AccountDeserialize Pool] [AccountDeserialize BondingCurve]
  [AccountDeserialize Mint] [AccountDeserialize TokenAccount]

/-- A hop priced on the very accounts its group in a swap lists: the venue, and
    the mint of a curve, as they were before the route was known, the vaults and
    the other mints as they were after. A pool is read at `key` and listed there. -/
inductive PricedAt (before after : Snapshot) : RouteVenue → HopState → List Pubkey → Prop
  | pool {key : Pubkey} {pool : Pool} {base_reserve quote_vault_balance base_mint_supply : UInt64}
      {base_token_program : Pubkey}
      (hpool : before.Holds key (decode_pool ·.data) pool)
      (hbase : after.Holds pool.pool_base_token_account token_amount base_reserve)
      (hquote : after.Holds pool.pool_quote_token_account token_amount quote_vault_balance)
      (hsupply : after.Holds pool.base_mint mint_info (base_mint_supply, base_token_program)) :
      PricedAt before after (.Pool key)
        (.Pool pool base_reserve quote_vault_balance base_mint_supply)
        [pool.base_mint, pool.quote_mint, key, pool.pool_base_token_account,
          pool.pool_quote_token_account]
  | curve {mint venue quote_mint base_vault : Pubkey} {curve : BondingCurve}
      {base_token_program quote_token_program : Pubkey} {mint_supply base_ata_amount : UInt64}
      (hvenue : venue = (pda.pump.bonding_curve mint).1)
      (hquote_mint : quote_mint = resolve_quote_mint curve.quote_mint)
      (hbase_vault : base_vault = (pda.associated_token venue base_token_program mint).1)
      (hcurve : before.Holds venue (decode_bonding_curve ·.data) curve)
      (hmint : before.Holds mint mint_info (mint_supply, base_token_program))
      (hbase : after.Holds base_vault token_amount base_ata_amount)
      (hquote : after.Holds quote_mint (.ok ·.owner) quote_token_program) :
      PricedAt before after (.Curve mint)
        (.Curve mint curve base_token_program quote_token_program mint_supply base_ata_amount)
        [mint, quote_mint, venue, base_vault,
          (pda.associated_token venue quote_token_program quote_mint).1]

variable {before after : Snapshot}

/-- A venue whose pool, if it is one, lies at the address of its seeds, as every
    pool is created. -/
def PoolAtHome (before : Snapshot) : RouteVenue → Prop
  | .Pool key => ∀ pool, before.Holds key (decode_pool ·.data) pool → pool_address pool = key
  | .Curve _ => True

theorem pricedAt_of_reads {venue : RouteVenue} {state : VenueState} {hop : HopState}
    {token_programs : TokenPrograms} (hhome : PoolAtHome before venue) (hvenue : venue.read before = .ok state)
    (hhop : state.read after = .ok (hop, token_programs)) :
    PricedAt before after venue hop (hop.as_route_hop.accounts.metas.map AccountMeta.pubkey) := by
  cases venue with
  | Pool key =>
    simp only [RouteVenue.read, Outcome.bind_eq_ok_iff, Snapshot.account_eq_ok_iff] at hvenue
    obtain ⟨account, haccount, pool, hpool, hvenue⟩ := hvenue
    cases hvenue
    simp only [VenueState.read, Outcome.bind_eq_ok_iff, Snapshot.account_eq_ok_iff] at hhop
    obtain ⟨base_mint, hbase_mint, ⟨supply, base_token_program⟩, hsupply, quote_mint, hquote_mint,
      base_vault, hbase_vault, base, hbase, quote_vault, hquote_vault, quote, hquote, hhop⟩ := hhop
    cases hhop
    have hpriced := PricedAt.pool ⟨account, haccount, hpool⟩ ⟨base_vault, hbase_vault, hbase⟩
      ⟨quote_vault, hquote_vault, hquote⟩ ⟨base_mint, hbase_mint, hsupply⟩
    have hkey := hhome pool ⟨account, haccount, hpool⟩
    rwa [← hkey] at hpriced ⊢
  | Curve mint =>
    simp only [RouteVenue.read, Outcome.bind_eq_ok_iff, Snapshot.account_eq_ok_iff] at hvenue
    obtain ⟨account, haccount, curve, hcurve, mint_account, hmint, ⟨supply, base_token_program⟩,
      hinfo, hvenue⟩ := hvenue
    cases hvenue
    simp only [VenueState.read, Outcome.bind_eq_ok_iff, Snapshot.account_eq_ok_iff] at hhop
    obtain ⟨quote_mint, hquote_mint, base_vault, hbase_vault, amount, hamount, hhop⟩ := hhop
    cases hhop
    exact .curve rfl rfl rfl ⟨account, haccount, hcurve⟩ ⟨mint_account, hmint, hinfo⟩
      ⟨base_vault, hbase_vault, hamount⟩ ⟨quote_mint, hquote_mint, rfl⟩

variable [AccountDeserialize Global] [AccountDeserialize FeeConfig] [AccountDeserialize GlobalConfig]
  [Fastrand] [RpcClient]

/-- A state read in two rounds, each venue by its own keys. -/
structure MultiHopQuoteState.ReadFrom (before after : Snapshot) (in_mint : Pubkey)
    (venues : List RouteVenue) (state : MultiHopQuoteState) : Prop where
  in_mint_eq : state.in_mint = in_mint
  global : before.Holds pda.pump.global.1 (decode_global ·.data) state.global
  pump_fee_config :
    before.Holds pda.pump.fee_config.1 (decode_fee_config ·.data) state.pump_fee_config
  global_config :
    before.Holds pda.pump_amm.global_config.1 (decode_global_config ·.data) state.global_config
  amm_fee_config :
    before.Holds pda.pump_amm.fee_config.1 (decode_fee_config ·.data) state.amm_fee_config
  hops : ∃ states reads, venues.mapM (RouteVenue.read before) = .ok states ∧
    states.mapM (VenueState.read after) = .ok reads ∧ state.hops = reads.map Prod.fst

/-- Whatever happens between the two rounds, a fetched state is read by its
    keys. -/
theorem fetch_multi_hop_quote_state_reads
    (hbefore : ∀ keys, RpcClient.get_multiple_accounts 0 keys = .ok (keys.map before))
    (hafter : ∀ keys, RpcClient.get_multiple_accounts 1 keys = .ok (keys.map after))
    {in_mint : Pubkey} {venues : List RouteVenue} {state : MultiHopQuoteState}
    (h : fetch_multi_hop_quote_state in_mint venues = .ok state) :
    state.ReadFrom before after in_mint venues := by
  rw [fetch_multi_hop_quote_state] at h
  simp only [hbefore, hafter, Outcome.ok_bind] at h
  generalize hkeys : [pda.pump.global.1, pda.pump.fee_config.1, pda.pump_amm.global_config.1,
    pda.pump_amm.fee_config.1] ++ venues.flatMap RouteVenue.keys = keys at h
  have hglobal : keys.drop 0 = pda.pump.global.1 :: pda.pump.fee_config.1 ::
      pda.pump_amm.global_config.1 :: pda.pump_amm.fee_config.1 ::
        venues.flatMap RouteVenue.keys := hkeys.symm
  have hfee_config := drop_next hglobal
  have hglobal_config := drop_next hfee_config
  have hamm_fee_config := drop_next hglobal_config
  have hvenues := drop_next hamm_fee_config
  rw [required_snapshot before hglobal, required_snapshot before hfee_config,
    required_snapshot before hglobal_config, required_snapshot before hamm_fee_config,
    venue_states_eq_read hvenues] at h
  simp only [Outcome.bind_eq_ok_iff, Snapshot.account_eq_ok_iff] at h
  obtain ⟨_, hglobal, global, hglobal_decode, _, hfee, fee_config, hfee_decode, _, hglobal_config,
    global_config, hglobal_config_decode, _, hamm_fee, amm_fee_config, hamm_fee_decode, _, ⟨states,
    hstates, hrounds⟩, route, hroute, hrest⟩ := h
  cases hrounds
  obtain ⟨⟨hops, token_programs⟩, hhops, hrest⟩ := hrest
  rw [hop_states_eq_read (List.drop_zero)] at hhops
  obtain ⟨reads, hreads, hhops⟩ := Outcome.bind_eq_ok_iff.mp hhops
  cases hhops
  obtain ⟨_, -, _, -, _, -, _, -, hrest⟩ := hrest
  cases hrest
  exact ⟨rfl, ⟨_, hglobal, hglobal_decode⟩, ⟨_, hfee, hfee_decode⟩,
    ⟨_, hglobal_config, hglobal_config_decode⟩, ⟨_, hamm_fee, hamm_fee_decode⟩,
    states, reads, hstates, hreads, rfl⟩

omit [AccountDeserialize Global] [AccountDeserialize FeeConfig] [AccountDeserialize GlobalConfig]
  [Fastrand] [RpcClient] in
/-- Each venue of a read state is priced on the accounts of its group. -/
theorem pricedAt_of_rounds {venues : List RouteVenue} {states : List VenueState}
    {reads : List (HopState × TokenPrograms)} {index : Nat} {venue : RouteVenue}
    (hhome : PoolAtHome before venue) (hstates : venues.mapM (RouteVenue.read before) = .ok states)
    (hreads : states.mapM (VenueState.read after) = .ok reads) (hvenue : venues[index]? = some venue) :
    ∃ hop, (reads.map Prod.fst)[index]? = some hop ∧
      PricedAt before after venue hop (hop.as_route_hop.accounts.metas.map AccountMeta.pubkey) := by
  have hvenues := Outcome.mapM_eq_ok_iff.mp hstates
  have hhops := Outcome.mapM_eq_ok_iff.mp hreads
  clear hstates hreads
  induction hvenues generalizing reads index with
  | nil => simp at hvenue
  | cons hread _ ih =>
    cases hhops with
    | @cons _ read _ _ hhop hhops =>
      cases index with
      | zero =>
        obtain rfl := by simpa using hvenue
        exact ⟨read.1, rfl, pricedAt_of_reads hhome hread hhop⟩
      | succ index =>
        rw [List.getElem?_cons_succ] at hvenue
        obtain ⟨hop, hat, hpriced⟩ := ih hvenue hhops
        exact ⟨hop, hat, hpriced⟩

/-- A swap is signed for what it was quoted on, however the chain moves while it
    is built. The quote is that of a state read once, the swap asks for that
    quote's bound, and each group of accounts it lists is the one whose venue,
    vaults and mints priced its hop: a pool's, as long as that lies at the address of
    its seeds. -/
theorem built_swap_lists_priced [Build]
    (hbefore : ∀ keys, RpcClient.get_multiple_accounts 0 keys = .ok (keys.map before))
    (hafter : ∀ keys, RpcClient.get_multiple_accounts 1 keys = .ok (keys.map after))
    {user : Pubkey} {route : MultiHopRoute} {is_buy : Bool} {amount_in : UInt64}
    {slippage_bps : UInt16} {quote : Quote} {ixs : List Instruction}
    (h : build_multi_hop_swap_for_route user route is_buy amount_in slippage_bps = .ok (quote, ixs)) :
    ∃ (state : MultiHopQuoteState) (swap : Instruction),
      state.ReadFrom before after (route.path is_buy).1 (route.path is_buy).2 ∧
      state.quote user amount_in slippage_bps = .ok quote ∧ ixs.getLast? = some swap ∧
      swap.data =
        [43, 100, 73, 19, 233, 246, 111, 148] ++ le_bytes amount_in ++ le_bytes quote.min_out ∧
      ∀ index venue, (route.path is_buy).2[index]? = some venue → PoolAtHome before venue →
        ∃ hop, state.hops[index]? = some hop ∧ PricedAt before after venue hop
          (((swap.accounts.drop (16 + 5 * index)).take 5).map AccountMeta.pubkey) := by
  obtain ⟨state, hstate, h⟩ := Outcome.bind_eq_ok_iff.mp h
  obtain ⟨quote', hquote, h⟩ := Outcome.bind_eq_ok_iff.mp h
  obtain ⟨ixs', hixs, h⟩ := Outcome.bind_eq_ok_iff.mp h
  cases h
  have hread := fetch_multi_hop_quote_state_reads hbefore hafter hstate
  obtain ⟨states, reads, hstates, hreads, hhops⟩ := hread.hops
  obtain ⟨swap, out_mint, hlast, hcarries, hdata⟩ :=
    multi_hop_swap_instructions_ok (Outcome.map_err_eq_ok_iff.mp hixs)
  refine ⟨state, swap, hread, Outcome.map_err_eq_ok_iff.mp hquote, hlast, hdata, ?_⟩
  intro index venue hvenue hhome
  obtain ⟨hop, hhop, hpriced⟩ := pricedAt_of_rounds hhome hstates hreads hvenue
  rw [← hhops] at hhop
  refine ⟨hop, hhop, ?_⟩
  rw [hcarries.group index hop.as_route_hop.accounts (by
    simp [MultiHopQuoteState.route_hops, hhop])]
  exact hpriced

end

/-- The launch accounts, each written to. -/
def writtenSnapshot : Snapshot := fun key =>
  (launchSnapshot key).map fun account => { account with data := [0] }

/-- The address of the pool behind the second hop. -/
def poolKey : Pubkey := ⟨0xe91f1a5ed3e92dd3c011414baecabed477083285d5861bfb3618ad6394981f0c⟩

/-- One SOL through the launch route, every account written to between the two
    rounds. -/
theorem built_swap_lists_priced_written :
    letI : Solana := graduatedPoolAuthority
    letI : AccountDeserialize Pool := ⟨fun _ => some { graduatedPool with quote_mint := ⟨20⟩ }⟩
    letI : AccountDeserialize BondingCurve := ⟨fun _ => some launchCurve⟩
    letI : AccountDeserialize Mint := ⟨fun _ => some ⟨1_000_000_000_000_000⟩⟩
    letI : AccountDeserialize TokenAccount := ⟨fun data => some ⟨1_000_000_000_000 + data.length.toUInt64⟩⟩
    ∃ (quote : Quote) (swap : Instruction),
      swap.data = [43, 100, 73, 19, 233, 246, 111, 148] ++ le_bytes 1_000_000_000 ++
        le_bytes quote.min_out ∧
      ∃ hop, PricedAt launchSnapshot writtenSnapshot (.Pool poolKey) hop
        (((swap.accounts.drop 21).take 5).map AccountMeta.pubkey) := by
  let _ : Build := ⟨true⟩
  let _ : Solana := graduatedPoolAuthority
  let _ : AccountDeserialize Pool := ⟨fun _ => some { graduatedPool with quote_mint := ⟨20⟩ }⟩
  let _ : AccountDeserialize BondingCurve := ⟨fun _ => some launchCurve⟩
  let _ : AccountDeserialize Mint := ⟨fun _ => some ⟨1_000_000_000_000_000⟩⟩
  let _ : AccountDeserialize TokenAccount := ⟨fun data => some ⟨1_000_000_000_000 + data.length.toUInt64⟩⟩
  let _ : AccountDeserialize Global := ⟨fun _ =>
    some { launchGlobal with buyback_fee_recipients := Vector.replicate 8 ⟨31⟩ }⟩
  let _ : AccountDeserialize FeeConfig := ⟨fun _ => some launchFees⟩
  let _ : AccountDeserialize GlobalConfig := ⟨fun _ =>
    some { GlobalConfig.default with buyback_fee_recipients := Vector.replicate 8 ⟨32⟩ }⟩
  let _ : Fastrand := ⟨fun _ h => ⟨0, h⟩⟩
  let _ : RpcClient := ⟨fun request keys =>
    .ok (keys.map (if request = 0 then launchSnapshot else writtenSnapshot))⟩
  have hhome : PoolAtHome launchSnapshot (.Pool poolKey) := fun _ _ => rfl
  have hbuilt : ∃ built, build_multi_hop_swap_for_route ⟨1⟩
      ⟨constants.NATIVE_MINT, ⟨11⟩, [.Curve ⟨20⟩, .Pool poolKey]⟩ true 1_000_000_000 100 = .ok built :=
    Outcome.exists_ok_of_toOption (by decide +kernel)
  obtain ⟨⟨quote, ixs⟩, hbuilt⟩ := hbuilt
  obtain ⟨state, swap, -, -, -, hdata, hgroups⟩ :=
    built_swap_lists_priced (fun _ => rfl) (fun _ => rfl) hbuilt
  obtain ⟨hop, -, hpriced⟩ := hgroups 1 (.Pool poolKey) rfl hhome
  exact ⟨quote, swap, hdata, hop, hpriced⟩

end pump_rust_client.async_client
