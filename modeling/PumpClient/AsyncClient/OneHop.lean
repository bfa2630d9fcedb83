import PumpClient.AsyncClient.CurveBuilds

open machine

namespace pump_rust_client.sdk

theorem V3Trade.getLast_with_user_atas [Solana] (self : V3Trade) (include_base : Bool)
    (trade : Instruction) : (self.with_user_atas include_base trade).getLast? = some trade := by
  simp [V3Trade.with_user_atas]

namespace PumpSdk

theorem max_one_ne_zero (min_out : UInt64) : max min_out 1 ≠ 0 := by
  rw [U64.ne_zero_iff, U64.toNat_max]
  exact lt_of_lt_of_le Nat.one_pos (le_max_right _ _)

/-- One hop from its quote is a buy of its base, and from its base a sell. -/
theorem multi_hop_route_one (hop : MultiHopHop) (hne : hop.base_mint ≠ hop.quote_mint)
    (is_buy : Bool) :
    multi_hop_route (if is_buy then hop.quote_mint else hop.base_mint) [hop] =
      .ok (is_buy, if is_buy then hop.base_mint else hop.quote_mint) := by
  cases is_buy with
  | true => simp [multi_hop_route, multi_hop_step]
  | false => simp [multi_hop_route, multi_hop_step, hne]

end PumpSdk

end pump_rust_client.sdk

namespace pump_rust_client.async_client

open state math math.utils math.amm math.bonding_curve sdk sdk.PumpSdk errors accounts

namespace CurveQuoteState

/-- The route of a coin's curve alone. -/
def route (st : CurveQuoteState) : MultiHopRoute where
  in_mint := st.quote_mint
  out_mint := st.mint
  venues := [.Curve st.mint]

theorem path_route (st : CurveQuoteState) (is_buy : Bool) :
    st.route.path is_buy = (if is_buy then st.quote_mint else st.mint, st.route.venues) := by
  cases is_buy with
  | true => rfl
  | false => rfl

def hop (st : CurveQuoteState) : HopState :=
  .Curve st.mint st.bonding_curve st.base_token_program st.quote_token_program st.mint_supply
    st.base_ata_amount

/-- What a fetch of that route gives. -/
def one_hop (st : CurveQuoteState) (is_buy : Bool) (global_config : state.pump_amm.GlobalConfig)
    (amm_fee_config : FeeConfig) : MultiHopQuoteState where
  in_mint := if is_buy then st.quote_mint else st.mint
  in_token_program := if is_buy then st.quote_token_program else st.base_token_program
  out_mint := if is_buy then st.mint else st.quote_mint
  out_token_program := if is_buy then st.base_token_program else st.quote_token_program
  buyback_fee_recipient := st.buyback_fee_recipient
  global := st.global
  pump_fee_config := st.fee_config
  global_config
  amm_fee_config
  hops := [st.hop]

variable [AccountDeserialize state.pump_amm.Pool] [AccountDeserialize BondingCurve]
  [AccountDeserialize Mint] [AccountDeserialize TokenAccount] [AccountDeserialize Global]
  [AccountDeserialize FeeConfig] [AccountDeserialize state.pump_amm.GlobalConfig] [Solana]
  [Fastrand]

/-- A coin `multi_hop_swap` takes: on an open curve of its own, with the accounts
    a route asks for and a direct trade does not. -/
structure Routable (snapshot : Snapshot) (st : CurveQuoteState)
    (global_config : state.pump_amm.GlobalConfig) (amm_fee_config : FeeConfig) : Prop where
  mint_ne : st.mint ≠ st.quote_mint
  incomplete : st.bonding_curve.complete = false
  not_mayhem : st.bonding_curve.is_mayhem_mode = false
  not_cashback : st.bonding_curve.is_cashback_coin = false
  reserves : 0 < st.bonding_curve.virtual_token_reserves
  base_ata : ∃ account, snapshot st.base_ata = some account
  global_config : ∃ account, snapshot pda.pump_amm.global_config.1 = some account ∧
    decode_global_config account.data = .ok global_config
  amm_fee_config : ∃ account, snapshot pda.pump_amm.fee_config.1 = some account ∧
    decode_fee_config account.data = .ok amm_fee_config

variable {snapshot : Snapshot} {mint : Pubkey} {st : CurveQuoteState}
  {global_config : state.pump_amm.GlobalConfig} {amm_fee_config : FeeConfig}

section

variable [RpcClient]

/-- The route's two fetches read what the direct trade's do. -/
theorem fetch_one_hop
    (hsnapshot : ∀ request keys, RpcClient.get_multiple_accounts request keys =
      .ok (keys.map snapshot))
    (hst : st.ReadFrom snapshot mint) (hroutable : st.Routable snapshot global_config amm_fee_config)
    (is_buy : Bool) :
    fetch_multi_hop_quote_state (if is_buy then st.quote_mint else st.mint) st.route.venues =
      .ok (st.one_hop is_buy global_config amm_fee_config) := by
  obtain rfl := hst.mint_eq
  obtain ⟨_, hglobal, hglobal_decode⟩ := hst.global
  obtain ⟨_, hfee, hfee_decode⟩ := hst.fee_config
  obtain ⟨_, hcurve, hcurve_decode⟩ := hst.bonding_curve
  obtain ⟨mint_account, hmint, hinfo⟩ := hst.mint
  obtain ⟨quote_account, hquote, howner⟩ := hst.quote_token_program
  obtain ⟨ata_account, hata⟩ := hroutable.base_ata
  obtain ⟨_, hamm_global, hamm_global_decode⟩ := hroutable.global_config
  obtain ⟨_, hamm_fee, hamm_fee_decode⟩ := hroutable.amm_fee_config
  have hamount : token_amount ata_account = .ok st.base_ata_amount := by
    have := hst.base_ata_amount
    rwa [hata] at this
  have hprogram : mint_account.owner = st.base_token_program := by
    obtain ⟨_, -, hinfo⟩ := Outcome.bind_eq_ok_iff.mp hinfo
    exact congrArg Prod.snd (Except.ok.inj hinfo)
  let state := VenueState.Curve st.mint st.bonding_curve st.mint_supply st.base_token_program
  have hread : RouteVenue.read snapshot (.Curve st.mint) = .ok state := by
    simp only [RouteVenue.read, Snapshot.account_eq_ok_iff.mpr hcurve, Outcome.ok_bind, hcurve_decode,
      Snapshot.account_eq_ok_iff.mpr hmint, hinfo]
    rfl
  have hreads : st.route.venues.mapM (RouteVenue.read snapshot) = .ok [state] :=
    Outcome.mapM_eq_ok_iff.mpr (.cons hread .nil)
  have hhop : state.read snapshot = .ok (st.hop, [(st.quote_mint, st.quote_token_program)]) := by
    rw [hst.quote_mint_eq] at hquote
    simp only [state, VenueState.read, Snapshot.account_eq_ok_iff.mpr hquote, Outcome.ok_bind]
    rw [← base_ata, Snapshot.account_eq_ok_iff.mpr hata, Outcome.ok_bind, hamount, Outcome.ok_bind,
      howner, ← hst.quote_mint_eq]
    rfl
  have hhops : [state].mapM (VenueState.read snapshot) =
      .ok [(st.hop, [(st.quote_mint, st.quote_token_program)])] :=
    Outcome.mapM_eq_ok_iff.mpr (.cons hhop .nil)
  have hroute : multi_hop_route (if is_buy then st.quote_mint else st.mint)
      ([state].map VenueState.hop) = .ok (is_buy, if is_buy then st.mint else st.quote_mint) := by
    have hne := hroutable.mint_ne
    rw [hst.quote_mint_eq] at hne ⊢
    exact multi_hop_route_one state.hop hne is_buy
  have hrecipient : buyback_recipient st.route.venues is_buy st.global global_config =
      .ok (some st.buyback_fee_recipient, pda.pump.global.1) := by
    rw [← hst.recipient]
    cases is_buy with
    | true => rfl
    | false => rfl
  rw [fetch_multi_hop_quote_state_eq_keyed hsnapshot, keyed_multi_hop_quote_state]
  simp only [Snapshot.account_eq_ok_iff.mpr hglobal, Snapshot.account_eq_ok_iff.mpr hfee,
    Snapshot.account_eq_ok_iff.mpr hamm_global, Snapshot.account_eq_ok_iff.mpr hamm_fee,
    hglobal_decode, hfee_decode, hamm_global_decode, hamm_fee_decode, Outcome.ok_bind, hreads, hroute,
    Outcome.map_err, hhops, hrecipient, Outcome.ok_or_some]
  cases is_buy with
  | true =>
    simp only [if_true, Snapshot.account_eq_ok_iff.mpr hquote, Snapshot.account_eq_ok_iff.mpr hmint,
      Outcome.ok_bind, howner, hprogram]
    rfl
  | false =>
    simp only [Bool.false_eq_true, if_false, Snapshot.account_eq_ok_iff.mpr hquote,
      Snapshot.account_eq_ok_iff.mpr hmint, Outcome.ok_bind, howner, hprogram]
    rfl

end

variable [Build]

omit [AccountDeserialize state.pump_amm.Pool] [AccountDeserialize state.pump_amm.GlobalConfig] in
/-- The one leg of the route charges every fee. -/
theorem quote_one_hop (hst : st.ReadFrom snapshot mint) (hne : st.mint ≠ st.quote_mint)
    (is_buy : Bool) (user : Pubkey) (amount : UInt64) (slippage_bps : UInt16) :
    (st.one_hop is_buy global_config amm_fee_config).quote user amount slippage_bps =
      if amount = 0 then Outcome.err .ZeroAmount
      else multi_hop_curve_hop st.global st.fee_config st.bonding_curve st.mint_supply
          st.base_ata_amount user is_buy amount 3 >>= fun out => .ok {
        amount := out
        min_out := max (sub_slippage out slippage_bps) 1
        input_amount_used := amount
        max_input := amount } := by
  have hroute : multi_hop_route (if is_buy then st.quote_mint else st.mint)
      [st.hop.as_route_hop.accounts] = .ok (is_buy, if is_buy then st.mint else st.quote_mint) := by
    rw [hst.quote_mint_eq] at hne ⊢
    exact multi_hop_route_one st.hop.as_route_hop.accounts hne is_buy
  have hflags : (HopFees.for_hop is_buy 0 1).curve_flags = 3 := by
    cases is_buy with
    | true => rfl
    | false => rfl
  have hloop : [st.hop.as_route_hop].zipIdx.foldlM (quote_hop st.global st.fee_config global_config
      amm_fee_config user is_buy 1) amount = multi_hop_curve_hop st.global st.fee_config
        st.bonding_curve st.mint_supply st.base_ata_amount user is_buy amount 3 := by
    simp only [List.zipIdx_cons, List.zipIdx_nil, List.foldlM_cons, List.foldlM_nil, bind_pure]
    rw [← hflags]
    rfl
  change quote_multi_hop_swap st.global st.fee_config global_config amm_fee_config user
    (if is_buy then st.quote_mint else st.mint) [st.hop.as_route_hop] amount slippage_bps = _
  rw [quote_multi_hop_swap]
  simp only [List.map_cons, List.map_nil, List.length_singleton, hroute, Outcome.ok_bind, hloop]

section Builds

variable [RpcClient] {user : Pubkey} {amount : UInt64} {slippage_bps : UInt16} {quote : Quote}
  {ixs : List Instruction}

/-- A swap built over the route is the hop's quote with a bound of at least
    one. -/
theorem build_one_hop_ok_iff
    (hsnapshot : ∀ request keys, RpcClient.get_multiple_accounts request keys =
      .ok (keys.map snapshot))
    (hst : st.ReadFrom snapshot mint) (hroutable : st.Routable snapshot global_config amm_fee_config)
    {is_buy : Bool} :
    build_multi_hop_swap_for_route user st.route is_buy amount slippage_bps = .ok (quote, ixs) ↔
      amount ≠ 0 ∧ (∃ out, multi_hop_curve_hop st.global st.fee_config st.bonding_curve st.mint_supply
          st.base_ata_amount user is_buy amount 3 = .ok out ∧
        quote = ⟨out, max (sub_slippage out slippage_bps) 1, amount, amount⟩) ∧
      (st.one_hop is_buy global_config amm_fee_config).instructions user amount quote.min_out =
        .ok ixs := by
  rw [build_multi_hop_swap_for_route, path_route]
  dsimp only
  rw [fetch_one_hop hsnapshot hst hroutable, Outcome.ok_bind,
    quote_one_hop hst hroutable.mint_ne is_buy user amount slippage_bps]
  simp only [Outcome.bind_eq_ok_iff, Outcome.map_err_eq_ok_iff]
  by_cases hzero : amount = 0
  · simp [hzero]
  · simp only [if_neg hzero, Outcome.bind_eq_ok_iff, Except.ok.injEq, Prod.mk.injEq]
    constructor
    · rintro ⟨_, ⟨out, hout, rfl⟩, _, hixs, rfl, rfl⟩
      exact ⟨hzero, ⟨out, hout, rfl⟩, hixs⟩
    · rintro ⟨-, ⟨out, hout, rfl⟩, hixs⟩
      exact ⟨_, ⟨out, hout, rfl⟩, _, hixs, rfl, rfl⟩

omit [AccountDeserialize state.pump_amm.Pool] [AccountDeserialize state.pump_amm.GlobalConfig]
  [Build] [RpcClient] in
/-- The swap over the route is built for every bound of at least one. -/
theorem instructions_one_hop (hst : st.ReadFrom snapshot mint) (hne : st.mint ≠ st.quote_mint)
    (is_buy : Bool) (user : Pubkey) {min_amount_out : UInt64} (hin : amount ≠ 0)
    (hout : min_amount_out ≠ 0) :
    ∃ creates swap, (st.one_hop is_buy global_config amm_fee_config).instructions user amount
        min_amount_out = .ok (creates ++ [swap]) ∧
      ∃ in_mint in_token_program out_mint out_token_program, swap.CarriesRoute user in_mint
        in_token_program out_mint out_token_program [st.hop.as_route_hop.accounts] := by
  have hroute : multi_hop_route (if is_buy then st.quote_mint else st.mint)
      [st.hop.as_route_hop.accounts] = .ok (is_buy, if is_buy then st.mint else st.quote_mint) := by
    rw [hst.quote_mint_eq] at hne ⊢
    exact multi_hop_route_one st.hop.as_route_hop.accounts hne is_buy
  obtain ⟨creates, swap, hbuilt, hcarries⟩ := multi_hop_swap_instructions_carries user
    (if is_buy then st.quote_token_program else st.base_token_program)
    (if is_buy then st.base_token_program else st.quote_token_program) st.buyback_fee_recipient hin
    hout hroute
  exact ⟨creates, swap, hbuilt, _, _, _, _, hcarries⟩

omit [AccountDeserialize state.pump_amm.Pool] [AccountDeserialize state.pump_amm.GlobalConfig]
  [Build] [RpcClient] in
/-- The curve and its two vaults, which a v3 trade lists from its sixth account
    on, are what a swap over the route lists of its one hop. -/
theorem venue_accounts (hst : st.ReadFrom snapshot mint) {swap : Instruction}
    {in_mint in_token_program out_mint out_token_program : Pubkey}
    (hcarries : swap.CarriesRoute user in_mint in_token_program out_mint out_token_program
      [st.hop.as_route_hop.accounts]) (recipient : Pubkey) (data : List UInt8) :
    (swap.accounts.drop 18).take 3 =
      (((V3Trade.new st.mint st.quote_mint st.base_token_program st.quote_token_program user
        recipient).instruction data).accounts.drop 5).take 3 := by
  have hgroup := hcarries.group 0 _ rfl
  have hdrop : (swap.accounts.drop 18).take 3 = ((swap.accounts.drop 16).take 5).drop 2 := by
    rw [List.drop_take, List.drop_drop]
  have hresolve : resolve_quote_mint st.quote_mint = resolve_quote_mint st.bonding_curve.quote_mint := by
    rw [hst.quote_mint_eq]
    exact resolve_quote_mint_idem _
  rw [hdrop, hgroup]
  change _ = [AccountMeta.new (pda.pump.bonding_curve st.mint).1 false,
    AccountMeta.new (pda.associated_token (pda.pump.bonding_curve st.mint).1 st.base_token_program
      st.mint).1 false,
    AccountMeta.new (pda.associated_token (pda.pump.bonding_curve st.mint).1 st.quote_token_program
      (resolve_quote_mint st.quote_mint)).1 false]
  rw [hresolve]
  rfl

/-- A one-hop route over an open curve builds what the direct v3 trade builds,
    from the same accounts. A sell is built over the route exactly when the
    direct one is and pays something, with the same quote but a bound of at least
    one, and on the same curve and vaults. A buy over the route gives no less
    than the direct one. -/
theorem one_hop_builds_like_v3
    (hsnapshot : ∀ request keys, RpcClient.get_multiple_accounts request keys =
      .ok (keys.map snapshot))
    (hst : st.ReadFrom snapshot mint) (hroutable : st.Routable snapshot global_config amm_fee_config)
    (user : Pubkey) (amount : UInt64) (slippage_bps : UInt16) :
    (∀ route_quote,
      (∃ ixs, build_multi_hop_swap_for_route user st.route false amount slippage_bps =
          .ok (route_quote, ixs)) ↔
        ∃ quote ixs, build_sell_v3 user mint amount slippage_bps = .ok (quote, ixs) ∧
          0 < quote.amount ∧ route_quote = { quote with min_out := max quote.min_out 1 }) ∧
    (∀ quote ixs route_quote route_ixs,
      build_buy_exact_quote_in_v3 user mint amount slippage_bps = .ok (quote, ixs) →
      build_multi_hop_swap_for_route user st.route true amount slippage_bps =
        .ok (route_quote, route_ixs) → quote.amount ≤ route_quote.amount) ∧
    ∀ is_buy quote ixs route_quote route_ixs,
      (if is_buy then build_buy_exact_quote_in_v3 user mint amount slippage_bps
        else build_sell_v3 user mint amount slippage_bps) = .ok (quote, ixs) →
      build_multi_hop_swap_for_route user st.route is_buy amount slippage_bps =
        .ok (route_quote, route_ixs) →
      ∃ trade swap, ixs.getLast? = some trade ∧ route_ixs.getLast? = some swap ∧
        (swap.accounts.drop 18).take 3 = (trade.accounts.drop 5).take 3 := by
  refine ⟨?_, ?_, ?_⟩
  · intro route_quote
    simp only [build_one_hop_ok_iff hsnapshot hst hroutable, build_sell_v3_ok_iff hsnapshot hst]
    constructor
    · rintro ⟨ixs, -, ⟨out, hout, rfl⟩, -⟩
      obtain ⟨hsell, hpos⟩ := (curve_sell_hop_iff hroutable.incomplete hroutable.not_mayhem
        hroutable.not_cashback hroutable.reserves).mp hout
      exact ⟨_, _, ⟨⟨out, hsell, rfl⟩, rfl⟩, hpos, rfl⟩
    · rintro ⟨_, _, ⟨⟨out, hsell, rfl⟩, -⟩, hpos, rfl⟩
      have hhop : multi_hop_curve_hop st.global st.fee_config st.bonding_curve st.mint_supply
          st.base_ata_amount user false amount 3 = .ok out :=
        (curve_sell_hop_iff hroutable.incomplete hroutable.not_mayhem hroutable.not_cashback
          hroutable.reserves).mpr ⟨hsell, hpos⟩
      have hamount : amount ≠ 0 := by
        rintro rfl
        rw [sell_sol_amount_from_token_amount, if_pos (.inl rfl)] at hsell
        cases hsell
        exact absurd hpos (UInt64.lt_irrefl 0)
      obtain ⟨creates, swap, hixs, -⟩ := instructions_one_hop hst hroutable.mint_ne false user hamount
        (max_one_ne_zero (sub_slippage out slippage_bps))
      exact ⟨_, hamount, ⟨out, hhop, rfl⟩, hixs⟩
  · intro quote ixs route_quote route_ixs hdirect hroute
    obtain ⟨⟨tokens, charged, htokens, rfl⟩, -⟩ :=
      (build_buy_exact_quote_in_v3_ok_iff hsnapshot hst).mp hdirect
    obtain ⟨-, ⟨out, hout, rfl⟩, -⟩ := (build_one_hop_ok_iff hsnapshot hst hroutable).mp hroute
    exact (curve_buy_hop_of_direct hroutable.reserves hout htokens).1
  · intro is_buy quote ixs route_quote route_ixs hdirect hroute
    obtain ⟨hamount, ⟨out, -, rfl⟩, hixs⟩ := (build_one_hop_ok_iff hsnapshot hst hroutable).mp hroute
    obtain ⟨creates, swap, hbuilt, _, _, _, _, hcarries⟩ := instructions_one_hop hst hroutable.mint_ne
      is_buy user hamount (max_one_ne_zero (sub_slippage out slippage_bps))
    cases hixs.symm.trans hbuilt
    have hlast : (creates ++ [swap]).getLast? = some swap := by simp
    cases is_buy with
    | true =>
      obtain ⟨-, rfl⟩ := (build_buy_exact_quote_in_v3_ok_iff hsnapshot hst).mp hdirect
      exact ⟨_, swap, V3Trade.getLast_with_user_atas _ _ _, hlast,
        venue_accounts hst hcarries _ _⟩
    | false =>
      obtain ⟨-, rfl⟩ := (build_sell_v3_ok_iff hsnapshot hst).mp hdirect
      exact ⟨_, swap, V3Trade.getLast_with_user_atas _ _ _, hlast,
        venue_accounts hst hcarries _ _⟩

end Builds

end CurveQuoteState

/-- A sell of the launched coin that the direct trade builds, and so the
    route. -/
theorem one_hop_builds_like_v3_launch :
    letI : Build := ⟨true⟩
    letI : Solana := graduatedPoolAuthority
    letI : AccountDeserialize state.pump_amm.Pool := ⟨fun _ => some graduatedPool⟩
    letI : AccountDeserialize BondingCurve := ⟨fun _ => some launchCurve⟩
    letI : AccountDeserialize Mint := ⟨fun _ => some ⟨1_000_000_000_000_000⟩⟩
    letI : AccountDeserialize TokenAccount := ⟨fun _ => some ⟨1_000_000_000_000_000⟩⟩
    letI : AccountDeserialize Global := ⟨fun _ => some launchQuoteState.global⟩
    letI : AccountDeserialize FeeConfig := ⟨fun _ => some launchFees⟩
    letI : AccountDeserialize state.pump_amm.GlobalConfig := ⟨fun _ => some .default⟩
    letI : RpcClient := ⟨fun _ keys => .ok (keys.map launchSnapshot)⟩
    letI : Fastrand := ⟨fun _ h => ⟨0, h⟩⟩
    ∃ ixs, build_multi_hop_swap_for_route ⟨1⟩ launchQuoteState.route false 1_000_000_000_000 100 =
      .ok (⟨27_513_965, 27_238_825, 1_000_000_000_000, 1_000_000_000_000⟩, ixs) := by
  let _ : Build := ⟨true⟩
  let _ : Solana := graduatedPoolAuthority
  let _ : AccountDeserialize state.pump_amm.Pool := ⟨fun _ => some graduatedPool⟩
  let _ : AccountDeserialize BondingCurve := ⟨fun _ => some launchCurve⟩
  let _ : AccountDeserialize Mint := ⟨fun _ => some ⟨1_000_000_000_000_000⟩⟩
  let _ : AccountDeserialize TokenAccount := ⟨fun _ => some ⟨1_000_000_000_000_000⟩⟩
  let _ : AccountDeserialize Global := ⟨fun _ => some launchQuoteState.global⟩
  let _ : AccountDeserialize FeeConfig := ⟨fun _ => some launchFees⟩
  let _ : AccountDeserialize state.pump_amm.GlobalConfig := ⟨fun _ => some .default⟩
  let _ : RpcClient := ⟨fun _ keys => .ok (keys.map launchSnapshot)⟩
  let _ : Fastrand := ⟨fun _ h => ⟨0, h⟩⟩
  have hst : launchQuoteState.ReadFrom launchSnapshot ⟨11⟩ := ⟨rfl, rfl, ⟨_, rfl, rfl⟩,
    ⟨_, rfl, rfl⟩, ⟨_, rfl, rfl⟩, ⟨_, rfl, rfl⟩, ⟨_, rfl, rfl⟩, rfl, rfl⟩
  have hroutable : launchQuoteState.Routable launchSnapshot .default launchFees :=
    ⟨by decide, rfl, rfl, rfl, by decide, ⟨_, rfl⟩, ⟨_, rfl, rfl⟩, ⟨_, rfl, rfl⟩⟩
  obtain ⟨hsell, -⟩ := CurveQuoteState.one_hop_builds_like_v3 (fun _ _ => rfl) hst hroutable ⟨1⟩
    1_000_000_000_000 100
  have hdirect : sell_sol_amount_from_token_amount launchQuoteState.global launchFees launchCurve
      1_000_000_000_000_000 1_000_000_000_000 = .ok 27_513_965 := by decide +kernel
  refine (hsell _).mpr ⟨_, _, (CurveQuoteState.build_sell_v3_ok_iff (fun _ _ => rfl) hst).mpr
    ⟨⟨_, hdirect, rfl⟩, rfl⟩, ?_, ?_⟩
  · decide
  · decide

end pump_rust_client.async_client
