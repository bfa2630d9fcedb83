import PumpClient.Borsh.Canonical
import PumpClient.Sdk.PoolTrades
import PumpClient.Sdk.Preludes

open machine borsh

namespace pump_rust_client.sdk

open state state.pump_amm math token

/-- The trade instructions of the two programs that the SDK builds. -/
inductive TradeKind where
  | buy | sell
  | buy_v2 | buy_exact_quote_in_v2 | sell_v2
  | buy_v3 | buy_exact_quote_in_v3 | sell_v3
  | amm_buy | amm_sell
  | amm_buy_v2 | amm_buy_exact_quote_in_v2 | amm_sell_v2
  | multi_hop_swap
  deriving DecidableEq

namespace TradeKind

def all : List TradeKind :=
  [buy, sell, buy_v2, buy_exact_quote_in_v2, sell_v2, buy_v3, buy_exact_quote_in_v3, sell_v3, amm_buy,
    amm_sell, amm_buy_v2, amm_buy_exact_quote_in_v2, amm_sell_v2, multi_hop_swap]

def program_id : TradeKind → Pubkey
  | buy | sell | buy_v2 | buy_exact_quote_in_v2 | sell_v2 | buy_v3 | buy_exact_quote_in_v3 | sell_v3 =>
    constants.pump.PROGRAM_ID
  | amm_buy | amm_sell | amm_buy_v2 | amm_buy_exact_quote_in_v2 | amm_sell_v2 | multi_hop_swap =>
    constants.pump_amm.PROGRAM_ID

/-- The discriminators of the IDLs. The two programs share some. -/
def discriminator : TradeKind → List UInt8
  | buy | amm_buy => [102, 6, 61, 18, 1, 218, 235, 234]
  | sell | amm_sell => [51, 230, 133, 164, 1, 127, 131, 173]
  | buy_v2 | amm_buy_v2 => [184, 23, 238, 97, 103, 197, 211, 61]
  | buy_exact_quote_in_v2 | amm_buy_exact_quote_in_v2 => [194, 171, 28, 70, 104, 77, 91, 47]
  | sell_v2 | amm_sell_v2 => [93, 246, 130, 60, 231, 233, 64, 178]
  | buy_v3 => [7, 5, 29, 196, 245, 23, 101, 80]
  | buy_exact_quote_in_v3 => [225, 247, 80, 30, 213, 179, 132, 136]
  | sell_v3 => [28, 146, 222, 119, 38, 196, 105, 213]
  | multi_hop_swap => [43, 100, 73, 19, 233, 246, 111, 148]

/-- The options behind the two amounts, volume tracking and partial fill, all
    on. -/
def options : TradeKind → List UInt8
  | buy => [1, 1]
  | buy_v2 | buy_exact_quote_in_v2 | buy_v3 | buy_exact_quote_in_v3 | amm_buy => [1]
  | sell | sell_v2 | sell_v3 | amm_sell | amm_buy_v2 | amm_buy_exact_quote_in_v2 | amm_sell_v2
  | multi_hop_swap => []

@[simp] theorem length_discriminator (kind : TradeKind) : kind.discriminator.length = 8 := by
  cases kind <;> rfl

/-- A program tells its trades apart by their discriminators. -/
theorem find_kind (kind : TradeKind) :
    (all.find? fun k => k.program_id = kind.program_id ∧ k.discriminator = kind.discriminator) =
      some kind := by
  cases kind <;> decide

end TradeKind

/-- What a trade instruction asks its program for. -/
structure TradeRequest where
  kind : TradeKind
  amount : UInt64
  threshold : UInt64
  deriving DecidableEq

def TradeRequest.data (self : TradeRequest) : List UInt8 :=
  self.kind.discriminator ++ Codec.u64.encode self.amount ++ Codec.u64.encode self.threshold ++
    self.kind.options

namespace Instruction

/-- The trade an instruction asks for, as its program reads it. -/
def read_request (self : Instruction) : Option TradeRequest := do
  let kind ← TradeKind.all.find? fun kind =>
    kind.program_id = self.program_id ∧ kind.discriminator = self.data.take 8
  let (amount, rest) ← Codec.u64.read (self.data.drop 8)
  let (threshold, rest) ← Codec.u64.read rest
  if rest = kind.options then some { kind, amount, threshold } else none

/-- The keys an instruction must be signed for. -/
def signers (self : Instruction) : List Pubkey :=
  (self.accounts.filter AccountMeta.is_signer).map AccountMeta.pubkey

/-- A program reads the request that was written. -/
theorem read_request_eq_some_iff {self : Instruction} {request : TradeRequest} :
    self.read_request = some request ↔
      self.program_id = request.kind.program_id ∧ self.data = request.data := by
  simp only [read_request, Option.bind_eq_bind, Option.bind_eq_some_iff]
  constructor
  · rintro ⟨kind, hkind, ⟨amount, rest⟩, hamount, ⟨threshold, options⟩, hthreshold, h⟩
    split at h
    · rename_i hoptions
      cases h
      have hfound := List.find?_some hkind
      obtain ⟨hprogram, hdiscriminator⟩ := of_decide_eq_true hfound
      refine ⟨hprogram.symm, ?_⟩
      rw [← List.take_append_drop 8 self.data, ← hdiscriminator,
        Codec.u64_canonical _ _ _ hamount]
      dsimp only at hthreshold hoptions ⊢
      rw [Codec.u64_canonical _ _ _ hthreshold, hoptions]
      simp only [TradeRequest.data, List.append_assoc]
    · cases h
  · rintro ⟨hprogram, hdata⟩
    have htake : self.data.take 8 = request.kind.discriminator := by
      rw [hdata, TradeRequest.data, List.append_assoc, List.append_assoc]
      exact List.take_left' request.kind.length_discriminator
    have hdrop : self.data.drop 8 = Codec.u64.encode request.amount ++
        (Codec.u64.encode request.threshold ++ request.kind.options) := by
      rw [hdata, TradeRequest.data, List.append_assoc, List.append_assoc]
      exact List.drop_left' request.kind.length_discriminator
    refine ⟨request.kind, ?_, (request.amount, _), ?_, (request.threshold, request.kind.options),
      Codec.u64.read_encode _ _, if_pos rfl⟩
    · rw [hprogram, htake]
      exact request.kind.find_kind
    · rw [hdrop]
      exact Codec.u64.read_encode _ _

theorem not_isTrade {self : Instruction} (program_id : Pubkey) (h : self.program_id = program_id)
    (hprogram : program_id ≠ constants.pump.PROGRAM_ID ∧
      program_id ≠ constants.pump_amm.PROGRAM_ID) : ¬ self.IsTrade := by
  rw [IsTrade, h]
  exact not_or.mpr hprogram

theorem read_request_eq_none {self : Instruction} (h : ¬ self.IsTrade) : self.read_request = none := by
  cases hrequest : self.read_request with
  | none => rfl
  | some request =>
    obtain ⟨hprogram, -⟩ := read_request_eq_some_iff.mp hrequest
    refine absurd ?_ h
    rw [IsTrade, hprogram]
    cases request.kind <;> simp [TradeKind.program_id]

end Instruction

/-- The bytes of an amount, one shift at a time. -/
theorem le_bytes_eq (n : UInt64) : PumpSdk.le_bytes n = Codec.u64.encode n := by
  change _ = leBytes 8 n.toNat
  rw [leBytes_eq_map, PumpSdk.le_bytes]
  apply List.map_congr_left
  intro i hi
  have hshift : (UInt64.ofNat (8 * i)).toNat % 64 = 8 * i := by
    have hlt : i < 8 := List.mem_range.mp hi
    rw [UInt64.toNat_ofNat']
    omega
  apply UInt8.toNat_inj.mp
  rw [UInt64.toNat_toUInt8, UInt64.toNat_shiftRight, hshift, UInt8.toNat_ofNat',
    Nat.shiftRight_eq_div_pow, Nat.pow_mul]

section Trades

variable [Solana]

/-- What may stand around a trade: an idempotent create that the user pays for,
    a wrap into the user's own wSOL account, and the closing of that account. -/
inductive Around (user : Pubkey) (lamports : UInt64) : Instruction → Prop
  | create (wallet mint token_program : Pubkey) :
      Around user lamports
        (PumpSdk.create_associated_token_account_idempotent user wallet mint token_program)
  | wrap {ix : Instruction} (hwrap : ix ∈ wrap_sol_instructions user lamports) :
      Around user lamports ix
  | unwrap : Around user lamports (unwrap_sol_instruction user)

section

variable {user : Pubkey} {lamports : UInt64} {ix : Instruction}

theorem Around.not_trade (h : Around user lamports ix) : ¬ ix.IsTrade := by
  cases h with
  | create => exact Instruction.not_isTrade constants.SPL_ATA_PROGRAM_ID rfl (by decide)
  | wrap hwrap =>
    simp only [wrap_sol_instructions, List.mem_cons, List.not_mem_nil, or_false] at hwrap
    rcases hwrap with rfl | rfl
    · exact Instruction.not_isTrade constants.SYSTEM_PROGRAM_ID rfl (by decide)
    · exact Instruction.not_isTrade constants.SPL_TOKEN_PROGRAM_ID rfl (by decide)
  | unwrap => exact Instruction.not_isTrade constants.SPL_TOKEN_PROGRAM_ID rfl (by decide)

theorem Around.signed (h : Around user lamports ix) : ∀ key ∈ ix.signers, key = user := by
  cases h with
  | create => simp [Instruction.signers, PumpSdk.create_associated_token_account_idempotent,
      AccountMeta.new, AccountMeta.new_readonly]
  | wrap hwrap =>
    simp only [wrap_sol_instructions, List.mem_cons, List.not_mem_nil, or_false] at hwrap
    rcases hwrap with rfl | rfl <;> simp [Instruction.signers, AccountMeta.new]
  | unwrap => simp [Instruction.signers, unwrap_sol_instruction, AccountMeta.new,
      AccountMeta.new_readonly]

end

/-- A list that asks for one trade: the request and nothing else, for no
    signature but the user's, and whatever else is in it stands around it. -/
structure Requests (user : Pubkey) (request : TradeRequest) (ixs : List Instruction) : Prop where
  requests : ixs.filterMap Instruction.read_request = [request]
  signed : ∀ ix ∈ ixs, ∀ key ∈ ix.signers, key = user
  around : ∀ ix ∈ ixs, ix.read_request = none → Around user request.threshold ix

theorem Requests.of_around {user : Pubkey} {request : TradeRequest} {before after : List Instruction}
    {trade : Instruction} (hbefore : ∀ ix ∈ before, Around user request.threshold ix)
    (hafter : ∀ ix ∈ after, Around user request.threshold ix)
    (hrequest : trade.program_id = request.kind.program_id ∧ trade.data = request.data)
    (hsigned : ∀ key ∈ trade.signers, key = user) :
    Requests user request (before ++ trade :: after) := by
  have hnone : ∀ ixs : List Instruction, (∀ ix ∈ ixs, Around user request.threshold ix) →
      ixs.filterMap Instruction.read_request = [] := by
    intro ixs h
    apply List.filterMap_eq_nil_iff.mpr
    intro ix hix
    exact Instruction.read_request_eq_none (h ix hix).not_trade
  have hsome := Instruction.read_request_eq_some_iff.mpr hrequest
  constructor
  · rw [List.filterMap_append, hnone before hbefore, List.nil_append, List.filterMap_cons_some hsome,
      hnone after hafter]
  · intro ix hix
    rcases List.mem_append.mp hix with hix | hix
    · exact (hbefore ix hix).signed
    · cases hix with
      | head => exact hsigned
      | tail _ hix => exact (hafter ix hix).signed
  · intro ix hix hread
    rcases List.mem_append.mp hix with hix | hix
    · exact hbefore ix hix
    · cases hix with
      | head =>
        rw [hsome] at hread
        cases hread
      | tail _ hix => exact hafter ix hix

namespace TradeCall

def user : TradeCall → Pubkey
  | .buy_v2 _ _ _ _ user .. | .buy_exact_quote_in_v2 _ _ _ _ user .. | .sell_v2 _ _ _ _ user .. => user
  | .buy_v3 _ _ _ _ user .. | .buy_exact_quote_in_v3 _ _ _ _ user .. | .sell_v3 _ _ _ _ user .. => user
  | .trade_tx_with_venue params => params.user
  | .trade_tx params => params.user
  | .multi_hop_swap user .. => user

/-- The trade a curve takes, and the one its pool takes. -/
def venue_kind (migrated is_buy : Bool) : TradeKind :=
  match migrated, is_buy with
  | false, true => .buy_v2
  | false, false => .sell_v2
  | true, true => .amm_buy
  | true, false => .amm_sell

/-- What a call is for. -/
def request : TradeCall → TradeRequest
  | .buy_v2 _ _ _ _ _ amount max_quote_tokens => ⟨.buy_v2, amount, max_quote_tokens⟩
  | .buy_exact_quote_in_v2 _ _ _ _ _ spendable_quote_in min_tokens_out =>
    ⟨.buy_exact_quote_in_v2, spendable_quote_in, min_tokens_out⟩
  | .sell_v2 _ _ _ _ _ amount min_sol_output => ⟨.sell_v2, amount, min_sol_output⟩
  | .buy_v3 _ _ _ _ _ _ amount max_quote_cost => ⟨.buy_v3, amount, max_quote_cost⟩
  | .buy_exact_quote_in_v3 _ _ _ _ _ _ spendable_quote_in min_tokens_out =>
    ⟨.buy_exact_quote_in_v3, spendable_quote_in, min_tokens_out⟩
  | .sell_v3 _ _ _ _ _ _ amount min_quote_out => ⟨.sell_v3, amount, min_quote_out⟩
  | .trade_tx_with_venue params =>
    ⟨venue_kind (match params.venue with | .BondingCurve .. => false | .Amm .. => true) params.is_buy,
      params.base_amount, params.sol_amount_threshold⟩
  | .trade_tx params =>
    ⟨venue_kind params.bonding_curve.complete params.is_buy, params.base_amount,
      params.sol_amount_threshold⟩
  | .multi_hop_swap _ _ _ _ _ _ amount_in min_amount_out =>
    ⟨.multi_hop_swap, amount_in, min_amount_out⟩

end TradeCall

section

variable {user : Pubkey} {lamports : UInt64}

theorem around_of_created {c : Prop} [Decidable c] {ixs : List Instruction}
    (h : ∀ ix ∈ ixs, Around user lamports ix) :
    ∀ ix ∈ if c then ixs else [], Around user lamports ix := by
  split
  · exact h
  · simp

theorem around_cons {ix : Instruction} {ixs : List Instruction} (hix : Around user lamports ix)
    (hixs : ∀ ix ∈ ixs, Around user lamports ix) : ∀ i ∈ ix :: ixs, Around user lamports i :=
  List.forall_mem_cons.mpr ⟨hix, hixs⟩

theorem around_append {before after : List Instruction}
    (hbefore : ∀ ix ∈ before, Around user lamports ix)
    (hafter : ∀ ix ∈ after, Around user lamports ix) :
    ∀ ix ∈ before ++ after, Around user lamports ix :=
  List.forall_mem_append.mpr ⟨hbefore, hafter⟩

theorem user_trade_atas_around {base_mint : Pubkey} {bonding_curve : BondingCurve}
    {base_token_program quote_token_program : Pubkey} {include_base : Bool} :
    ∀ ix ∈ PumpSdk.user_trade_atas user base_mint bonding_curve base_token_program
      quote_token_program include_base, Around user lamports ix := by
  apply around_append
  · exact around_of_created (around_cons (.create ..) (by simp))
  · apply around_of_created
    apply around_append
    · exact around_cons (.create ..) (around_cons (.create ..) (around_cons (.create ..) (by simp)))
    · exact around_of_created (around_cons (.create ..) (by simp))

/-- A trade of a curve by v2. -/
theorem v2_asks {base_mint quote_token_program fee_recipient buyback_fee_recipient : Pubkey}
    {global_volume_accumulator : List AccountMeta} {a : V2TradeAccounts} {request : TradeRequest}
    {before : List Instruction} {trade : Instruction}
    (hbefore : ∀ ix ∈ before, Around user request.threshold ix)
    (hrequest : trade.program_id = request.kind.program_id ∧ trade.data = request.data)
    (haccounts : trade.accounts = PumpSdk.v2_trade_metas base_mint quote_token_program user
      fee_recipient buyback_fee_recipient global_volume_accumulator a)
    (hvolume : global_volume_accumulator.filter AccountMeta.is_signer = []) :
    Requests user request (before ++ [trade]) := by
  apply Requests.of_around hbefore (by simp) hrequest
  simp [Instruction.signers, haccounts, PumpSdk.v2_trade_metas, AccountMeta.new,
    AccountMeta.new_readonly, hvolume]

theorem with_user_atas_asks (trade : V3Trade) (request : TradeRequest) {include_base : Bool}
    {data : List UInt8} (hprogram : request.kind.program_id = constants.pump.PROGRAM_ID)
    (hdata : data = request.data) :
    Requests trade.user request (trade.with_user_atas include_base (trade.instruction data)) := by
  refine Requests.of_around ?_ (by simp) ⟨hprogram.symm, hdata⟩ ?_
  · apply around_append
    · exact around_of_created (around_cons (.create ..) (by simp))
    · exact around_of_created (around_cons (.create ..) (around_cons (.create ..) (by simp)))
  · simp [Instruction.signers, V3Trade.instruction, V3Trade.accounts, AccountMeta.new,
      AccountMeta.new_readonly]

end

/-- The AMM's buy and sell, whatever recipients were drawn. -/
theorem buy_amm_asks {pool base_mint quote_mint base_token_program quote_token_program user
    coin_creator protocol_fee_recipient buyback_fee_recipient : Pubkey} {is_cashback_coin : Bool}
    {base_amount_out max_quote_amount_in : UInt64} {before after : List Instruction}
    (hbefore : ∀ ix ∈ before, Around user max_quote_amount_in ix)
    (hafter : ∀ ix ∈ after, Around user max_quote_amount_in ix) :
    Requests user ⟨.amm_buy, base_amount_out, max_quote_amount_in⟩
      (before ++ PumpSdk.buy_amm_instruction_with_recipients pool base_mint quote_mint
        base_token_program quote_token_program user coin_creator protocol_fee_recipient
        buyback_fee_recipient is_cashback_coin base_amount_out max_quote_amount_in :: after) := by
  refine Requests.of_around hbefore hafter ⟨rfl, rfl⟩ ?_
  rw [Instruction.signers, PumpSdk.buy_amm_instruction_with_recipients]
  split_ifs <;> simp [PumpSdk.amm_trade_metas, AccountMeta.new, AccountMeta.new_readonly]

theorem sell_amm_asks {pool base_mint quote_mint base_token_program quote_token_program user
    coin_creator protocol_fee_recipient buyback_fee_recipient : Pubkey} {is_cashback_coin : Bool}
    {base_amount_in min_quote_amount_out : UInt64} {before after : List Instruction}
    (hbefore : ∀ ix ∈ before, Around user min_quote_amount_out ix)
    (hafter : ∀ ix ∈ after, Around user min_quote_amount_out ix) :
    Requests user ⟨.amm_sell, base_amount_in, min_quote_amount_out⟩
      (before ++ PumpSdk.sell_amm_instruction_with_recipients pool base_mint quote_mint
        base_token_program quote_token_program user coin_creator protocol_fee_recipient
        buyback_fee_recipient is_cashback_coin base_amount_in min_quote_amount_out :: after) := by
  refine Requests.of_around hbefore hafter ⟨rfl, (List.append_nil _).symm⟩ ?_
  rw [Instruction.signers, PumpSdk.sell_amm_instruction_with_recipients]
  split_ifs <;> simp [PumpSdk.amm_trade_metas, AccountMeta.new, AccountMeta.new_readonly]

theorem amm_v2_asks {pool_state : Pool} {base_token_program quote_token_program user
    buyback_fee_recipient : Pubkey} {data : List UInt8} {request : TradeRequest}
    {before : List Instruction} (hbefore : ∀ ix ∈ before, Around user request.threshold ix)
    (hprogram : request.kind.program_id = constants.pump_amm.PROGRAM_ID)
    (hdata : data = request.data) :
    Requests user request (before ++ [PumpSdk.amm_v2_instruction pool_state base_token_program
      quote_token_program user buyback_fee_recipient data]) := by
  refine Requests.of_around hbefore (by simp) ⟨hprogram.symm, hdata⟩ ?_
  simp [Instruction.signers, PumpSdk.amm_v2_instruction, AccountMeta.new, AccountMeta.new_readonly]

section

variable {user : Pubkey}

theorem multi_hop_swap_asks {in_mint in_token_program out_token_program buyback_fee_recipient : Pubkey}
    {hops : List MultiHopHop} {amount_in min_amount_out : UInt64} {ixs : List Instruction}
    (h : PumpSdk.multi_hop_swap_instructions user in_mint in_token_program out_token_program hops
      buyback_fee_recipient amount_in min_amount_out = .ok ixs) :
    Requests user ⟨.multi_hop_swap, amount_in, min_amount_out⟩ ixs := by
  obtain ⟨swap, hswap, h⟩ := Outcome.bind_eq_ok_iff.mp h
  obtain ⟨⟨is_buy, out_mint⟩, hroute, h⟩ := Outcome.bind_eq_ok_iff.mp h
  obtain ⟨starts_on_sol_curve, -, h⟩ := Outcome.bind_eq_ok_iff.mp h
  rw [PumpSdk.multi_hop_swap_instruction] at hswap
  split at hswap
  · cases hswap
  rw [hroute, Outcome.ok_bind] at hswap
  cases hswap
  cases h
  rw [List.append_cons]
  refine Requests.of_around ?_ (by simp) ⟨rfl, ?_⟩ ?_
  · refine around_append (around_append ?_ (around_of_created ?_)) ?_
    all_goals exact around_cons (.create ..) (by simp)
  · simp [TradeRequest.data, TradeKind.discriminator, TradeKind.options, le_bytes_eq]
  · have hhops : (hops.flatMap MultiHopHop.metas).filter AccountMeta.is_signer = [] := by
      rw [List.filter_eq_nil_iff]
      intro account haccount
      obtain ⟨hop, -, hhop⟩ := List.mem_flatMap.mp haccount
      simp only [MultiHopHop.metas, List.mem_cons, List.not_mem_nil, or_false] at hhop
      rcases hhop with rfl | rfl | rfl | rfl | rfl <;> simp [AccountMeta.new, AccountMeta.new_readonly]
    simp [Instruction.signers, AccountMeta.new, AccountMeta.new_readonly, hhops]

end

section Calls

variable [PumpSdk.Draws] [Assertions]

theorem trade_tx_with_venue_asks {params : TradeTxWithVenueParams} {ixs : List Instruction}
    (h : (PumpSdk.trade_tx_instructions_with_venue params : QuoteResult _) = .ok (some ixs)) :
    Requests params.user (TradeCall.trade_tx_with_venue params).request ixs := by
  rw [PumpSdk.trade_tx_instructions_with_venue] at h
  rw [TradeCall.request]
  cases hvenue : params.venue with
  | BondingCurve global bonding_curve =>
    rw [hvenue] at h
    dsimp only at h
    rw [Except.ok.injEq] at h
    cases hbuy : params.is_buy with
    | true =>
      rw [if_pos hbuy] at h
      obtain ⟨⟨fee_recipient, buyback_fee_recipient⟩, -, h⟩ := Option.bind_eq_some_iff.mp h
      cases h
      exact v2_asks user_trade_atas_around ⟨rfl, rfl⟩ rfl rfl
    | false =>
      rw [if_neg (by simp [hbuy])] at h
      obtain ⟨⟨fee_recipient, buyback_fee_recipient⟩, -, h⟩ := Option.bind_eq_some_iff.mp h
      cases h
      exact v2_asks user_trade_atas_around ⟨rfl, (List.append_nil _).symm⟩ rfl rfl
  | Amm pool amm_global pool_state =>
    rw [hvenue] at h
    dsimp only at h
    split at h
    · cases h
    rw [Except.ok.injEq] at h
    obtain ⟨⟨protocol_fee_recipient, buyback_fee_recipient⟩, -, h⟩ := Option.bind_eq_some_iff.mp h
    rw [Option.some_inj] at h
    subst h
    have hunwrap := around_of_created (c := pool_state.quote_mint = constants.NATIVE_MINT)
      (around_cons (.unwrap : Around params.user params.sol_amount_threshold _)
        (List.forall_mem_nil _))
    cases hbuy : params.is_buy with
    | true =>
      rw [if_pos rfl, List.append_assoc, List.singleton_append]
      refine buy_amm_asks (around_append ?_ (around_of_created fun ix => .wrap)) hunwrap
      exact around_cons (.create ..) (around_cons (.create ..) (by simp))
    | false =>
      have hcreate := around_cons
        (.create params.user pool_state.quote_mint params.quote_token_program :
          Around params.user params.sol_amount_threshold _) (List.forall_mem_nil _)
      rw [if_neg (by simp)]
      exact sell_amm_asks hcreate hunwrap

/-- The venue of a trade is the one its curve's `complete` selects. -/
theorem trade_tx_asks {params : TradeTxParams} {ixs : List Instruction}
    (h : (PumpSdk.trade_tx_instructions params : QuoteResult _) = .ok (some ixs)) :
    Requests params.user (TradeCall.trade_tx params).request ixs := by
  rw [PumpSdk.trade_tx_instructions] at h
  cases hvenue : PumpSdk.trade_tx_venue params with
  | none =>
    rw [hvenue] at h
    cases h
  | some venue =>
    rw [hvenue] at h
    have hasks := trade_tx_with_venue_asks h
    rw [PumpSdk.trade_tx_venue] at hvenue
    by_cases hcomplete : params.bonding_curve.complete
    · rw [if_pos hcomplete] at hvenue
      obtain ⟨p, -, hvenue⟩ := Option.bind_eq_some_iff.mp hvenue
      cases hvenue
      rw [TradeCall.request, hcomplete]
      exact hasks
    · rw [if_neg hcomplete] at hvenue
      cases hvenue
      rw [TradeCall.request, Bool.eq_false_iff.mpr hcomplete]
      exact hasks

theorem call_asks {call : TradeCall} {ixs : List Instruction}
    (h : call.instructions = .ok (some ixs)) : Requests call.user call.request ixs := by
  cases call with
  | buy_v2 global bonding_curve base_mint quote_token_program user amount max_quote_tokens =>
    rw [TradeCall.instructions, Except.ok.injEq] at h
    obtain ⟨⟨fee_recipient, buyback_fee_recipient⟩, -, h⟩ := Option.bind_eq_some_iff.mp h
    cases h
    exact v2_asks user_trade_atas_around ⟨rfl, rfl⟩ rfl rfl
  | buy_exact_quote_in_v2 global bonding_curve base_mint quote_token_program user spendable_quote_in
      min_tokens_out =>
    rw [TradeCall.instructions, Except.ok.injEq] at h
    obtain ⟨⟨fee_recipient, buyback_fee_recipient⟩, -, h⟩ := Option.bind_eq_some_iff.mp h
    cases h
    exact v2_asks user_trade_atas_around ⟨rfl, rfl⟩ rfl rfl
  | sell_v2 global bonding_curve base_mint quote_token_program user amount min_sol_output =>
    rw [TradeCall.instructions, Except.ok.injEq] at h
    obtain ⟨⟨fee_recipient, buyback_fee_recipient⟩, -, h⟩ := Option.bind_eq_some_iff.mp h
    cases h
    exact v2_asks user_trade_atas_around ⟨rfl, (List.append_nil _).symm⟩ rfl rfl
  | buy_v3 base_mint quote_mint base_token_program quote_token_program user buyback_fee_recipient
      amount max_quote_cost =>
    cases h
    exact with_user_atas_asks (.new base_mint quote_mint base_token_program quote_token_program user
      buyback_fee_recipient) ⟨.buy_v3, amount, max_quote_cost⟩ rfl rfl
  | buy_exact_quote_in_v3 base_mint quote_mint base_token_program quote_token_program user
      buyback_fee_recipient spendable_quote_in min_tokens_out =>
    cases h
    exact with_user_atas_asks (.new base_mint quote_mint base_token_program quote_token_program user
      buyback_fee_recipient) ⟨.buy_exact_quote_in_v3, spendable_quote_in, min_tokens_out⟩ rfl rfl
  | sell_v3 base_mint quote_mint base_token_program quote_token_program user buyback_fee_recipient
      amount min_quote_out =>
    cases h
    exact with_user_atas_asks (.new base_mint quote_mint base_token_program quote_token_program user
      buyback_fee_recipient) ⟨.sell_v3, amount, min_quote_out⟩ rfl (List.append_nil _).symm
  | trade_tx_with_venue params => exact trade_tx_with_venue_asks h
  | trade_tx params => exact trade_tx_asks h
  | multi_hop_swap user in_mint in_token_program out_token_program hops buyback_fee_recipient amount_in
      min_amount_out =>
    obtain ⟨built, hbuilt, h⟩ := Outcome.bind_eq_ok_iff.mp h
    cases h
    exact multi_hop_swap_asks hbuilt

end Calls

/-- A call of one of the SDK's trade builders. -/
inductive TradeBuilder where
  | call (trade : TradeCall)
  | buy (mint user creator fee_recipient buyback_fee_recipient : Pubkey)
      (amount max_sol_cost : UInt64) (token_program : Pubkey)
  | sell (mint user creator fee_recipient buyback_fee_recipient : Pubkey)
      (amount min_sol_output : UInt64) (token_program : Pubkey) (is_cashback_coin : Bool)
  | buy_amm (pool : Pubkey) (amm_global : GlobalConfig) (pool_state : Pool)
      (base_token_program quote_token_program user : Pubkey)
      (base_amount_out max_quote_amount_in : UInt64)
  | sell_amm (pool : Pubkey) (amm_global : GlobalConfig) (pool_state : Pool)
      (base_token_program quote_token_program user : Pubkey)
      (base_amount_in min_quote_amount_out : UInt64)
  | buy_amm_v2 (pool_state : Pool)
      (base_token_program quote_token_program user buyback_fee_recipient : Pubkey)
      (base_amount_out max_quote_amount_in : UInt64)
  | buy_exact_quote_in_amm_v2 (pool_state : Pool)
      (base_token_program quote_token_program user buyback_fee_recipient : Pubkey)
      (spendable_quote_in min_base_amount_out : UInt64)
  | sell_amm_v2 (pool_state : Pool)
      (base_token_program quote_token_program user buyback_fee_recipient : Pubkey)
      (base_amount_in min_quote_amount_out : UInt64)

namespace TradeBuilder

def user : TradeBuilder → Pubkey
  | .call trade => trade.user
  | buy _ user .. | sell _ user .. => user
  | buy_amm _ _ _ _ _ user .. | sell_amm _ _ _ _ _ user .. => user
  | buy_amm_v2 _ _ _ user .. | buy_exact_quote_in_amm_v2 _ _ _ user .. | sell_amm_v2 _ _ _ user .. =>
    user

/-- What a builder is called for. -/
def request : TradeBuilder → TradeRequest
  | .call trade => trade.request
  | buy _ _ _ _ _ amount max_sol_cost _ => ⟨.buy, amount, max_sol_cost⟩
  | sell _ _ _ _ _ amount min_sol_output _ _ => ⟨.sell, amount, min_sol_output⟩
  | buy_amm _ _ _ _ _ _ base_amount_out max_quote_amount_in =>
    ⟨.amm_buy, base_amount_out, max_quote_amount_in⟩
  | sell_amm _ _ _ _ _ _ base_amount_in min_quote_amount_out =>
    ⟨.amm_sell, base_amount_in, min_quote_amount_out⟩
  | buy_amm_v2 _ _ _ _ _ base_amount_out max_quote_amount_in =>
    ⟨.amm_buy_v2, base_amount_out, max_quote_amount_in⟩
  | buy_exact_quote_in_amm_v2 _ _ _ _ _ spendable_quote_in min_base_amount_out =>
    ⟨.amm_buy_exact_quote_in_v2, spendable_quote_in, min_base_amount_out⟩
  | sell_amm_v2 _ _ _ _ _ base_amount_in min_quote_amount_out =>
    ⟨.amm_sell_v2, base_amount_in, min_quote_amount_out⟩

variable [PumpSdk.Draws] [Assertions]

/-- What the builder returns. -/
def instructions : TradeBuilder → QuoteResult (Option (List Instruction))
  | .call trade => trade.instructions
  | buy mint user creator fee_recipient buyback_fee_recipient amount max_sol_cost token_program =>
    .ok (some [PumpSdk.buy_instruction mint user creator fee_recipient buyback_fee_recipient amount
      max_sol_cost token_program])
  | sell mint user creator fee_recipient buyback_fee_recipient amount min_sol_output token_program
      is_cashback_coin =>
    .ok (some [PumpSdk.sell_instruction mint user creator fee_recipient buyback_fee_recipient amount
      min_sol_output token_program is_cashback_coin])
  | buy_amm pool amm_global pool_state base_token_program quote_token_program user base_amount_out
      max_quote_amount_in =>
    .ok (PumpSdk.buy_amm_instructions pool amm_global pool_state base_token_program
      quote_token_program user base_amount_out max_quote_amount_in)
  | sell_amm pool amm_global pool_state base_token_program quote_token_program user base_amount_in
      min_quote_amount_out =>
    .ok (PumpSdk.sell_amm_instructions pool amm_global pool_state base_token_program
      quote_token_program user base_amount_in min_quote_amount_out)
  | buy_amm_v2 pool_state base_token_program quote_token_program user buyback_fee_recipient
      base_amount_out max_quote_amount_in =>
    .ok (some (PumpSdk.buy_amm_v2_instructions pool_state base_token_program quote_token_program user
      buyback_fee_recipient base_amount_out max_quote_amount_in))
  | buy_exact_quote_in_amm_v2 pool_state base_token_program quote_token_program user
      buyback_fee_recipient spendable_quote_in min_base_amount_out =>
    .ok (some [PumpSdk.buy_exact_quote_in_amm_v2_instruction pool_state base_token_program
      quote_token_program user buyback_fee_recipient spendable_quote_in min_base_amount_out])
  | sell_amm_v2 pool_state base_token_program quote_token_program user buyback_fee_recipient
      base_amount_in min_quote_amount_out =>
    .ok (some (PumpSdk.sell_amm_v2_instructions pool_state base_token_program quote_token_program user
      buyback_fee_recipient base_amount_in min_quote_amount_out))

end TradeBuilder

variable [PumpSdk.Draws] [Assertions]

end Trades

end pump_rust_client.sdk
