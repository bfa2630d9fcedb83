import PumpClient.Math.Amm.Trades
import PumpClient.Math.BondingCurve.Hop
import PumpClient.Math.BondingCurve.Quoters
import PumpClient.Sdk.Routes

open machine exchange

namespace pump_rust_client.sdk

open state state.pump_amm math math.utils math.fees math.amm math.bonding_curve

section

variable [Build]

/-- Selling what a curve hop bought, or part of it, into the same curve returns
    less than the hop spent. -/
theorem curve_hop_round_trip {global : Global} {fee_config : FeeConfig}
    {bonding_curve : BondingCurve} {mint_supply base_ata_amount : UInt64} {user user' : Pubkey}
    {flags flags' : UInt8} {amount out sold back : UInt64}
    (hvt : 0 < bonding_curve.virtual_token_reserves)
    (hbuy : multi_hop_curve_hop global fee_config bonding_curve mint_supply base_ata_amount user true
      amount flags = .ok out) (hinside : out ≤ bonding_curve.real_token_reserves)
    (hsold : sold.toNat ≤ out.toNat)
    (hsell : multi_hop_curve_hop global fee_config bonding_curve mint_supply base_ata_amount user'
      false sold flags' = .ok back) : back.toNat < amount.toNat := by
  have hvt_nat := U64.pos_iff.mp hvt
  obtain ⟨rates, venue⟩ := multi_hop_curve_hop_venue hsell
  obtain ⟨hpaid, hpos⟩ := (venue.sell_ok_iff hvt_nat rfl).mp hsell
  have hgross : 0 < swapOut sold.toNat bonding_curve.virtual_token_reserves.toNat
      bonding_curve.virtual_quote_reserves.toNat := by omega
  have hvq : 0 < bonding_curve.virtual_quote_reserves.toNat :=
    hgross.trans_le (swapOut_le _ _ _)
  obtain ⟨net, hnet, hout⟩ := multi_hop_curve_hop_buy_le hvq hinside hbuy
  have hback := swapOut_back_lt hout hsold hgross
  omega

variable [Solana]

/-- Selling what a pool hop bought, or part of it, into the same pool returns
    less than the hop spent. -/
theorem pool_hop_round_trip {global_config : GlobalConfig} {fee_config : FeeConfig} {pool : Pool}
    {base_reserve quote_vault_balance base_mint_supply : UInt64} {legs legs' : HopFees}
    {amount out sold back : UInt64}
    (hbuy : multi_hop_pool_hop global_config fee_config pool base_reserve quote_vault_balance
      base_mint_supply true amount legs = .ok out)
    (hsold : sold.toNat ≤ out.toNat)
    (hsell : multi_hop_pool_hop global_config fee_config pool base_reserve quote_vault_balance
      base_mint_supply false sold legs' = .ok back) : back.toNat < amount.toNat := by
  obtain ⟨hopen, real_quote, quote_reserve, rates, venue⟩ := multi_hop_pool_hop_venue hbuy
  obtain ⟨hopen', real_quote', quote_reserve', rates', venue'⟩ := multi_hop_pool_hop_venue hsell
  -- both directions read one vault
  obtain rfl : quote_reserve = quote_reserve' :=
    Except.ok.inj (venue.effective.symm.trans venue'.effective)
  obtain ⟨hfees, -, hback⟩ := (venue'.sell_ok_iff hopen' rfl).mp hsell
  have hbase := U64.toNat_lt base_reserve
  have hquote := U64.toNat_lt quote_reserve
  have hgross := swapOut_le sold.toNat base_reserve.toNat quote_reserve.toNat
  have hbought := swapOut_le ((schedule rates).wholeNet amount.toNat - 1) quote_reserve.toNat
    base_reserve.toNat
  have hwhole := FeeSchedule.wholeNet_le (s := schedule rates) amount.toNat
  rw [venue.buy_eq hopen] at hbuy
  split at hbuy
  · simp at hbuy
  cases hbuy
  rw [U64.toNat_cast_of_lt (by omega)] at hsold
  have hlt := swapOut_back_lt le_rfl hsold (by omega)
  rw [hback, U64.toNat_cast_of_lt (by omega)]
  omega

/-- A curve hop has tokens to price, as every pool hop that quotes has. -/
def RouteHop.HasTokens : RouteHop → Prop
  | .Pool _ _ _ _ => True
  | .Curve _ bonding_curve _ _ _ _ => 0 < bonding_curve.virtual_token_reserves

/-- What a hop gives is on sale: a curve does not sell into its pool-to-be. -/
def RouteHop.StaysInside (out : UInt64) : RouteHop → Prop
  | .Pool _ _ _ _ => True
  | .Curve _ bonding_curve _ _ _ _ => out ≤ bonding_curve.real_token_reserves

namespace PumpSdk

variable {global : Global} {pump_fee_config : FeeConfig} {global_config : GlobalConfig}
  {amm_fee_config : FeeConfig} {user user' : Pubkey}

theorem hop_round_trip {hop : RouteHop} {index index' hops hops' : Nat}
    {amount out sold back : UInt64} (htokens : hop.HasTokens)
    (hbuy : quote_hop global pump_fee_config global_config amm_fee_config user true hops amount
      (hop, index) = .ok out) (hinside : hop.StaysInside out) (hsold : sold.toNat ≤ out.toNat)
    (hsell : quote_hop global pump_fee_config global_config amm_fee_config user' false hops' sold
      (hop, index') = .ok back) : back.toNat < amount.toNat := by
  cases hop with
  | Pool => exact pool_hop_round_trip hbuy hsold hsell
  | Curve => exact curve_hop_round_trip htokens hbuy hinside hsold hsell

/-- A quote is the chain of its hops. -/
theorem quote_multi_hop_swap_chain {in_mint out_mint : Pubkey} {hops : List RouteHop} {is_buy : Bool}
    {amount_in : UInt64} {slippage_bps : UInt16} {quote : Quote}
    (hroute : multi_hop_route in_mint (hops.map RouteHop.accounts) = .ok (is_buy, out_mint))
    (h : quote_multi_hop_swap global pump_fee_config global_config amm_fee_config user in_mint hops
      amount_in slippage_bps = .ok quote) :
    Chain (fun hop amount out => quote_hop global pump_fee_config global_config amm_fee_config user
      is_buy hops.length amount hop = .ok out) amount_in hops.zipIdx quote.amount := by
  unfold quote_multi_hop_swap at h
  split at h
  · simp at h
  dsimp only at h
  rw [hroute, Outcome.ok_bind] at h
  obtain ⟨amount, hloop, h⟩ := Outcome.bind_eq_ok_iff.mp h
  cases h
  exact Chain.foldlM_eq_ok_iff.mp hloop

/-- No riskless round trip: whatever a buy route gives, the reversed route on
    the same state returns less than went in. -/
theorem no_riskless_round_trip (global : Global) (pump_fee_config : FeeConfig)
    (global_config : GlobalConfig) (amm_fee_config : FeeConfig) (user : Pubkey)
    {in_mint out_mint : Pubkey} {hops : List RouteHop} {amount : UInt64}
    {slippage_bps slippage_bps' : UInt16} {quote quote' : Quote}
    (hroute : multi_hop_route in_mint (hops.map RouteHop.accounts) = .ok (true, out_mint))
    (hmints : ∀ hop ∈ hops, hop.accounts.base_mint ≠ hop.accounts.quote_mint)
    (htokens : ∀ hop ∈ hops, hop.HasTokens)
    (hinside : ∀ index hop before after, hops[index]? = some hop →
      (hops.zipIdx.take index).foldlM (quote_hop global pump_fee_config global_config amm_fee_config
        user true hops.length) amount = .ok before →
      quote_hop global pump_fee_config global_config amm_fee_config user true hops.length before
        (hop, index) = .ok after → hop.StaysInside after)
    (hbuy : quote_multi_hop_swap global pump_fee_config global_config amm_fee_config user in_mint hops
      amount slippage_bps = .ok quote)
    (hsell : quote_multi_hop_swap global pump_fee_config global_config amm_fee_config user out_mint
      hops.reverse quote.amount slippage_bps' = .ok quote') : quote'.amount < amount := by
  have hmints_keys : ∀ key ∈ hops.map RouteHop.accounts, key.base_mint ≠ key.quote_mint := by
    intro key hkey
    obtain ⟨hop, hmem, rfl⟩ := List.mem_map.mp hkey
    exact hmints hop hmem
  have hback_route := (multi_hop_route_reverse_iff hmints_keys).mp hroute
  rw [← List.map_reverse] at hback_route
  have hout := quote_multi_hop_swap_chain hroute hbuy
  have hback := quote_multi_hop_swap_chain hback_route hsell
  have hstays : Chain (fun hop before after => quote_hop global pump_fee_config global_config
      amm_fee_config user true hops.length before hop = .ok after ∧ hop.1.StaysInside after) amount
      hops.zipIdx quote.amount := by
    apply hout.and_of_visited_zipIdx
    intro index hop hat before after hbefore
    exact hinside index hop before after hat (Chain.foldlM_eq_ok_iff.mpr hbefore)
  have hlose := Chain.round_trip_lt UInt64.toNat ?_ hstays.of_zipIdx le_rfl hback.of_zipIdx
  · apply UInt64.lt_iff_toNat_lt.mpr
    apply hlose.2
    rintro rfl
    simp [multi_hop_route] at hroute
  · rintro hop hmem before after sold back ⟨index, hstep, hstay⟩ hsold ⟨index', hstep'⟩
    exact hop_round_trip (htokens hop hmem) hstep hstay hsold hstep'

end PumpSdk

end

/-- A coin quoted in SOL on its launch curve, and a coin quoted in that one in
    its pool. -/
def launchRoute : List RouteHop := [
  .Curve ⟨20⟩ launchCurve constants.SPL_TOKEN_PROGRAM_ID constants.SPL_TOKEN_PROGRAM_ID 0
    1_000_000_000_000_000,
  .Pool { graduatedPool with quote_mint := ⟨20⟩ } 206_900_000_000_000 85_000_000_000_000 0]

/-- One SOL through the launch route and back. -/
theorem PumpSdk.no_riskless_round_trip_launch : (512_170_503 : UInt64) < 1_000_000_000 := by
  let _ : Build := ⟨true⟩
  let _ : Solana := graduatedPoolAuthority
  have hroute : multi_hop_route constants.NATIVE_MINT (launchRoute.map RouteHop.accounts) =
    .ok (true, ⟨11⟩) := by decide +kernel
  have hbuy : quote_multi_hop_swap Global.default launchFees GlobalConfig.default launchFees ⟨1⟩
    constants.NATIVE_MINT launchRoute 1_000_000_000 100 =
    .ok ⟨59_251_508_376_768, 58_658_993_293_000, 1_000_000_000, 1_000_000_000⟩ := by decide +kernel
  have hsell : quote_multi_hop_swap Global.default launchFees GlobalConfig.default launchFees ⟨1⟩ ⟨11⟩
    launchRoute.reverse 59_251_508_376_768 100 =
    .ok ⟨512_170_503, 507_048_797, 59_251_508_376_768, 59_251_508_376_768⟩ := by decide +kernel
  refine no_riskless_round_trip Global.default launchFees GlobalConfig.default launchFees ⟨1⟩ hroute
    (by decide) ?_ ?_ hbuy hsell
  · intro hop hmem
    rcases List.mem_pair.mp hmem with rfl | rfl
    · exact (by decide : 0 < launchCurve.virtual_token_reserves)
    · trivial
  · intro index hop before after hat hbefore hstep
    match index with
    | 0 =>
      cases hat
      cases hbefore
      have hgives : quote_hop Global.default launchFees GlobalConfig.default launchFees ⟨1⟩ true 2
        1_000_000_000 (launchRoute.head (by decide), 0) = .ok 34_281_150_096_027 := by decide +kernel
      cases hgives.symm.trans hstep
      exact (by decide : 34_281_150_096_027 ≤ launchCurve.real_token_reserves)
    | 1 =>
      cases hat
      trivial
    | index + 2 => simp [launchRoute] at hat

end pump_rust_client.sdk
