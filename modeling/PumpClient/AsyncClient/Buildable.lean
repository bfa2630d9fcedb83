import PumpClient.AsyncClient
import PumpClient.Sdk.RoundTrip

open machine exchange

namespace pump_rust_client.sdk

open state math PumpSdk

/-- In a list of groups of one size, each group stands at its own offset. -/
private theorem flatMap_group {α β : Type} {f : α → List β} {n : Nat}
    (hf : ∀ a, (f a).length = n) {l : List α} {index : Nat} {a : α} (hat : l[index]? = some a) :
    ((l.flatMap f).drop (n * index)).take n = f a := by
  induction l generalizing index with
  | nil => simp at hat
  | cons b l ih =>
    rw [List.flatMap_cons]
    cases index with
    | zero =>
      obtain rfl : b = a := by simpa using hat
      rw [Nat.mul_zero, List.drop_zero, List.take_append_of_le_length (hf b).ge, ← hf b,
        List.take_length]
    | succ index =>
      have hskip : n * (index + 1) = (f b).length + n * index := by rw [hf b, Nat.mul_succ, Nat.add_comm]
      rw [hskip, List.drop_append, List.drop_eq_nil_of_le (by omega), Nat.add_sub_cancel_left,
        List.nil_append]
      exact ih (by simpa using hat)

theorem MultiHopHop.metas_length [Solana] (hop : MultiHopHop) : hop.metas.length = 5 := rfl

/-- A swap's accounts: the fixed ones, with the user's in and out token
    accounts among them, then a group for each hop of the route in its order. -/
structure Instruction.CarriesRoute [Solana] (swap : Instruction)
    (user in_mint in_token_program out_mint out_token_program : Pubkey) (hops : List MultiHopHop) :
    Prop where
  user_in : swap.accounts[1]? =
    some (AccountMeta.new (pda.associated_token user in_token_program in_mint).1 false)
  user_out : swap.accounts[2]? =
    some (AccountMeta.new (pda.associated_token user out_token_program out_mint).1 false)
  length : swap.accounts.length = 16 + 5 * hops.length
  group : ∀ index hop, hops[index]? = some hop →
    (swap.accounts.drop (16 + 5 * index)).take 5 = hop.metas

namespace PumpSdk

variable [Solana] {in_mint out_mint : Pubkey} {hops : List MultiHopHop}
  {amount_in min_amount_out : UInt64} {is_buy : Bool}

/-- A swap of something for something is built for every route that connects. -/
theorem multi_hop_swap_instruction_carries
    (user in_token_program out_token_program buyback_fee_recipient : Pubkey)
    (hin : amount_in ≠ 0) (hout : min_amount_out ≠ 0)
    (hroute : multi_hop_route in_mint hops = .ok (is_buy, out_mint)) :
    ∃ swap, multi_hop_swap_instruction user in_mint in_token_program out_token_program hops
        buyback_fee_recipient amount_in min_amount_out = .ok swap ∧
      swap.CarriesRoute user in_mint in_token_program out_mint out_token_program hops := by
  unfold multi_hop_swap_instruction
  rw [if_neg (not_or.mpr ⟨hin, hout⟩), hroute, Outcome.ok_bind]
  refine ⟨_, rfl, rfl, rfl, ?_, ?_⟩
  · simp only [List.length_append, List.length_cons, List.length_nil, List.length_flatMap,
      MultiHopHop.metas_length, List.map_const', List.sum_replicate, smul_eq_mul]
    omega
  · intro index hop hat
    dsimp only
    rw [← List.drop_drop]
    exact flatMap_group MultiHopHop.metas_length hat

/-- The creates in front of a swap never fail where the swap does not. -/
theorem multi_hop_swap_instructions_carries
    (user in_token_program out_token_program buyback_fee_recipient : Pubkey)
    (hin : amount_in ≠ 0) (hout : min_amount_out ≠ 0)
    (hroute : multi_hop_route in_mint hops = .ok (is_buy, out_mint)) :
    ∃ creates swap, multi_hop_swap_instructions user in_mint in_token_program out_token_program hops
        buyback_fee_recipient amount_in min_amount_out = .ok (creates ++ [swap]) ∧
      swap.CarriesRoute user in_mint in_token_program out_mint out_token_program hops := by
  obtain ⟨swap, hswap, hcarries⟩ := multi_hop_swap_instruction_carries user in_token_program
    out_token_program buyback_fee_recipient hin hout hroute
  -- a route that connects has a first hop to look at
  obtain ⟨hop, hfirst⟩ : ∃ hop, hops[0]? = some hop := by
    cases hops with
    | nil => simp [multi_hop_route] at hroute
    | cons hop hops => exact ⟨hop, rfl⟩
  unfold multi_hop_swap_instructions
  rw [hswap, Outcome.ok_bind, hroute, Outcome.ok_bind, hfirst]
  dsimp only
  split
  · rw [Outcome.ok_bind]
    exact ⟨_, swap, congrArg Except.ok (List.append_cons _ _ _), hcarries⟩
  · rw [Outcome.ok_bind]
    exact ⟨_, swap, congrArg Except.ok (List.append_cons _ _ _), hcarries⟩

end PumpSdk

end pump_rust_client.sdk

namespace pump_rust_client.async_client

open state state.pump_amm math math.amm math.bonding_curve sdk sdk.PumpSdk

/-- A quoted route is buildable at its own bound: the bound is at least one and
    at most the quote, nothing along the route is zero, and the swap carries the
    whole route. -/
theorem quoted_route_buildable [Build] [Solana] (st : MultiHopQuoteState) (user : Pubkey)
    (amount_in : UInt64) (slippage_bps : UInt16) {quote : Quote}
    (h : st.quote user amount_in slippage_bps = .ok quote) :
    1 ≤ quote.min_out.toNat ∧ quote.min_out ≤ quote.amount ∧
    ∃ is_buy out_mint,
      multi_hop_route st.in_mint (st.route_hops.map RouteHop.accounts) = .ok (is_buy, out_mint) ∧
      (∀ index, ∃ amount, (st.route_hops.zipIdx.take index).foldlM (quote_hop st.global
        st.pump_fee_config st.global_config st.amm_fee_config user is_buy st.route_hops.length)
        amount_in = .ok amount ∧ 1 ≤ amount.toNat) ∧
      ∃ creates swap, st.instructions user amount_in quote.min_out = .ok (creates ++ [swap]) ∧
        swap.CarriesRoute user st.in_mint st.in_token_program out_mint st.out_token_program
          (st.route_hops.map RouteHop.accounts) := by
  unfold MultiHopQuoteState.quote quote_multi_hop_swap at h
  split at h
  · simp at h
  next hin =>
  obtain ⟨⟨is_buy, out_mint⟩, hroute, h⟩ := Outcome.bind_eq_ok_iff.mp h
  obtain ⟨amount, hloop, h⟩ := Outcome.bind_eq_ok_iff.mp h
  cases h
  have hin_pos := U64.ne_zero_iff.mp hin
  have hchain := Chain.foldlM_eq_ok_iff.mp hloop
  obtain ⟨hmin_pos, hmin_le⟩ :=
    utils.max_sub_slippage_bounds slippage_bps (quote_hops_pos hin_pos hchain)
  refine ⟨hmin_pos, UInt64.le_iff_toNat_le.mpr hmin_le, is_buy, out_mint, hroute, ?_,
    multi_hop_swap_instructions_carries user st.in_token_program st.out_token_program
      st.buyback_fee_recipient hin (U64.ne_zero_iff.mpr hmin_pos) hroute⟩
  intro index
  rw [← List.take_append_drop index st.route_hops.zipIdx, Chain.append_iff] at hchain
  obtain ⟨reached, hprefix, -⟩ := hchain
  exact ⟨reached, Chain.foldlM_eq_ok_iff.mpr hprefix, quote_hops_pos hin_pos hprefix⟩

/-- The state of the launch route. -/
def launchState : MultiHopQuoteState where
  in_mint := constants.NATIVE_MINT
  in_token_program := constants.SPL_TOKEN_PROGRAM_ID
  out_mint := ⟨11⟩
  out_token_program := constants.SPL_TOKEN_2022_PROGRAM_ID
  buyback_fee_recipient := ⟨31⟩
  global := Global.default
  pump_fee_config := launchFees
  global_config := GlobalConfig.default
  amm_fee_config := launchFees
  hops := [
    .Curve ⟨20⟩ launchCurve constants.SPL_TOKEN_PROGRAM_ID constants.SPL_TOKEN_PROGRAM_ID 0
      1_000_000_000_000_000,
    .Pool { graduatedPool with quote_mint := ⟨20⟩ } 206_900_000_000_000 85_000_000_000_000 0]

/-- One SOL through the launch route, built at a bound of one percent. -/
theorem quoted_route_buildable_launch :
    letI : Build := ⟨true⟩
    letI : Solana := graduatedPoolAuthority
    1 ≤ (58_658_993_293_000 : UInt64).toNat ∧ (58_658_993_293_000 : UInt64) ≤ 59_251_508_376_768 ∧
    ∃ is_buy out_mint,
      multi_hop_route constants.NATIVE_MINT (launchState.route_hops.map RouteHop.accounts) =
        .ok (is_buy, out_mint) ∧
      ∃ creates swap, launchState.instructions ⟨1⟩ 1_000_000_000 58_658_993_293_000 =
          .ok (creates ++ [swap]) ∧
        swap.CarriesRoute ⟨1⟩ constants.NATIVE_MINT constants.SPL_TOKEN_PROGRAM_ID out_mint
          constants.SPL_TOKEN_2022_PROGRAM_ID (launchState.route_hops.map RouteHop.accounts) := by
  let _ : Build := ⟨true⟩
  let _ : Solana := graduatedPoolAuthority
  have hquote : launchState.quote ⟨1⟩ 1_000_000_000 100 =
    .ok ⟨59_251_508_376_768, 58_658_993_293_000, 1_000_000_000, 1_000_000_000⟩ := by decide +kernel
  obtain ⟨hpos, hle, is_buy, out_mint, hroute, -, hbuilt⟩ :=
    quoted_route_buildable launchState ⟨1⟩ 1_000_000_000 100 hquote
  exact ⟨hpos, hle, is_buy, out_mint, hroute, hbuilt⟩

end pump_rust_client.async_client
