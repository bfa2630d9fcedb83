import Mathlib.Logic.Equiv.Basic
import PumpClient.Sdk.TradeTx
import PumpClient.Sdk.PumpV3

open machine

namespace pump_rust_client.sdk

open state state.pump_amm math token

namespace Instruction

def keys (self : Instruction) : List Pubkey := self.accounts.map AccountMeta.pubkey

/-- The account an idempotent create creates. -/
def created (self : Instruction) : Option Pubkey :=
  if self.program_id = constants.SPL_ATA_PROGRAM_ID ∧ self.data = [1] then self.keys[1]? else none

/-- An instruction of one of the two trading programs. -/
def IsTrade (self : Instruction) : Prop :=
  self.program_id = constants.pump.PROGRAM_ID ∨ self.program_id = constants.pump_amm.PROGRAM_ID

instance (self : Instruction) : Decidable self.IsTrade := inferInstanceAs (Decidable (_ ∨ _))

theorem created_eq_none {self : Instruction} (h : self.program_id ≠ constants.SPL_ATA_PROGRAM_ID) :
    self.created = none :=
  if_neg fun hcreate => h hcreate.1

theorem IsTrade.created_eq_none {self : Instruction} (h : self.IsTrade) : self.created = none := by
  apply Instruction.created_eq_none
  rcases h with h | h <;> rw [h] <;> decide

end Instruction

/-- Every account an idempotent create creates is one of a trade after it. -/
def CreatesUsed : List Instruction → Prop
  | [] => True
  | ix :: ixs =>
    (∀ account ∈ ix.created, ∃ trade ∈ ixs, trade.IsTrade ∧ account ∈ trade.keys) ∧ CreatesUsed ixs

instance CreatesUsed.decidable : DecidablePred CreatesUsed
  | [] => .isTrue trivial
  | _ :: ixs => @instDecidableAnd _ _ inferInstance (CreatesUsed.decidable ixs)

theorem createsUsed_of_created_eq_none {ixs : List Instruction}
    (h : ∀ ix ∈ ixs, ix.created = none) : CreatesUsed ixs := by
  induction ixs with
  | nil => trivial
  | cons ix ixs ih =>
    obtain ⟨hix, hixs⟩ := List.forall_mem_cons.mp h
    refine ⟨fun account haccount => ?_, ih hixs⟩
    rw [hix] at haccount
    cases haccount

/-- A prelude is used when its one trade lists all that it creates. -/
theorem createsUsed_append (prelude : List Instruction) {rest : List Instruction}
    {trade : Instruction} (htrade : trade.IsTrade) (hrest : ∀ ix ∈ rest, ix.created = none)
    (hkeys : ∀ ix ∈ prelude, ∀ account ∈ ix.created, account ∈ trade.keys) :
    CreatesUsed (prelude ++ trade :: rest) := by
  induction prelude with
  | nil =>
    exact createsUsed_of_created_eq_none (List.forall_mem_cons.mpr ⟨htrade.created_eq_none, hrest⟩)
  | cons ix prelude ih =>
    obtain ⟨hix, hprelude⟩ := List.forall_mem_cons.mp hkeys
    have hmem : trade ∈ prelude ++ trade :: rest := List.mem_append_right _ List.mem_cons_self
    exact ⟨fun account haccount => ⟨trade, hmem, htrade, hix account haccount⟩, ih hprelude⟩

/-- What the creator-side create of a v2 prelude creates: the create after the
    user's quote ATA. -/
def creator_side_created (is_buy : Bool) (ixs : List Instruction) : Option Pubkey :=
  ixs[if is_buy then 2 else 1]?.bind Instruction.created

/-- The `associated_creator_vault` account of a v2 trade. -/
def associated_creator_vault (trade : Instruction) : Option Pubkey := trade.keys[17]?

/-- Every create is of an account the trade uses, and the creator-side create
    of a v2 prelude is of the trade's `associated_creator_vault`. -/
structure PreludeUsed (v2_direction : Option Bool) (ixs : List Instruction) : Prop where
  used : CreatesUsed ixs
  creator_side : ∀ is_buy ∈ v2_direction, ∀ account ∈ creator_side_created is_buy ixs,
    ∃ trade ∈ ixs.getLast?, associated_creator_vault trade = some account

/-- A prelude outside v2 has nothing to check but its creates. -/
theorem preludeUsed_none_iff {ixs : List Instruction} : PreludeUsed none ixs ↔ CreatesUsed ixs :=
  ⟨PreludeUsed.used, fun h => ⟨h, by simp⟩⟩

section

variable [Solana]

/-- The ATA derivation keeps two owners apart. -/
def AtaInjective : Prop :=
  ∀ token_program mint,
    Function.Injective fun owner => (pda.associated_token owner token_program mint).1

@[simp] theorem created_create (funding wallet mint token_program : Pubkey) :
    (PumpSdk.create_associated_token_account_idempotent funding wallet mint token_program).created =
      some (pda.associated_token wallet token_program mint).1 := rfl

theorem eq_of_mem_created {funding wallet mint token_program account : Pubkey}
    (h : account ∈ (PumpSdk.create_associated_token_account_idempotent funding wallet mint
      token_program).created) : account = (pda.associated_token wallet token_program mint).1 := by
  rw [created_create, Option.mem_some_iff] at h
  exact h.symm

/-- A create behind a condition. -/
theorem eq_of_mem_created_ite {c : Prop} [Decidable c] {ix : Instruction}
    {funding wallet mint token_program account : Pubkey}
    (hix : ix ∈ if c then [PumpSdk.create_associated_token_account_idempotent funding wallet mint
      token_program] else []) (haccount : account ∈ ix.created) :
    account = (pda.associated_token wallet token_program mint).1 := by
  split at hix
  · rw [List.mem_singleton] at hix
    subst hix
    exact eq_of_mem_created haccount
  · cases hix

/-- A call of a builder that puts idempotent creates before a trade. -/
inductive TradeCall where
  | buy_v2 (global : Global) (bonding_curve : BondingCurve)
      (base_mint quote_token_program user : Pubkey) (amount max_quote_tokens : UInt64)
  | buy_exact_quote_in_v2 (global : Global) (bonding_curve : BondingCurve)
      (base_mint quote_token_program user : Pubkey) (spendable_quote_in min_tokens_out : UInt64)
  | sell_v2 (global : Global) (bonding_curve : BondingCurve)
      (base_mint quote_token_program user : Pubkey) (amount min_sol_output : UInt64)
  | buy_v3 (base_mint quote_mint base_token_program quote_token_program user
      buyback_fee_recipient : Pubkey) (amount max_quote_cost : UInt64)
  | buy_exact_quote_in_v3 (base_mint quote_mint base_token_program quote_token_program user
      buyback_fee_recipient : Pubkey) (spendable_quote_in min_tokens_out : UInt64)
  | sell_v3 (base_mint quote_mint base_token_program quote_token_program user
      buyback_fee_recipient : Pubkey) (amount min_quote_out : UInt64)
  | trade_tx_with_venue (params : TradeTxWithVenueParams)
  | trade_tx (params : TradeTxParams)
  | multi_hop_swap (user in_mint in_token_program out_token_program : Pubkey)
      (hops : List MultiHopHop) (buyback_fee_recipient : Pubkey) (amount_in min_amount_out : UInt64)

namespace TradeCall

section

variable [PumpSdk.Draws] [Assertions]

/-- What the builder returns. -/
def instructions : TradeCall → QuoteResult (Option (List Instruction))
  | .buy_v2 global bonding_curve base_mint quote_token_program user amount max_quote_tokens =>
    .ok (PumpSdk.buy_v2_instructions global bonding_curve base_mint quote_token_program user amount
      max_quote_tokens)
  | .buy_exact_quote_in_v2 global bonding_curve base_mint quote_token_program user
      spendable_quote_in min_tokens_out =>
    .ok (PumpSdk.buy_exact_quote_in_v2_instructions global bonding_curve base_mint
      quote_token_program user spendable_quote_in min_tokens_out)
  | .sell_v2 global bonding_curve base_mint quote_token_program user amount min_sol_output =>
    .ok (PumpSdk.sell_v2_instructions global bonding_curve base_mint quote_token_program user amount
      min_sol_output)
  | .buy_v3 base_mint quote_mint base_token_program quote_token_program user buyback_fee_recipient
      amount max_quote_cost =>
    .ok (some (PumpSdk.buy_v3_instructions base_mint quote_mint base_token_program
      quote_token_program user buyback_fee_recipient amount max_quote_cost))
  | .buy_exact_quote_in_v3 base_mint quote_mint base_token_program quote_token_program user
      buyback_fee_recipient spendable_quote_in min_tokens_out =>
    .ok (some (PumpSdk.buy_exact_quote_in_v3_instructions base_mint quote_mint base_token_program
      quote_token_program user buyback_fee_recipient spendable_quote_in min_tokens_out))
  | .sell_v3 base_mint quote_mint base_token_program quote_token_program user buyback_fee_recipient
      amount min_quote_out =>
    .ok (some (PumpSdk.sell_v3_instructions base_mint quote_mint base_token_program
      quote_token_program user buyback_fee_recipient amount min_quote_out))
  | .trade_tx_with_venue params => PumpSdk.trade_tx_instructions_with_venue params
  | .trade_tx params => PumpSdk.trade_tx_instructions params
  | .multi_hop_swap user in_mint in_token_program out_token_program hops buyback_fee_recipient
      amount_in min_amount_out => do
    let ixs ← PumpSdk.multi_hop_swap_instructions user in_mint in_token_program out_token_program hops
      buyback_fee_recipient amount_in min_amount_out
    .ok (some ixs)

end

/-- The direction and the curve of a call that trades by v2. -/
def v2_trade : TradeCall → Option (Bool × BondingCurve)
  | .buy_v2 _ bonding_curve .. | .buy_exact_quote_in_v2 _ bonding_curve .. =>
    some (true, bonding_curve)
  | .sell_v2 _ bonding_curve .. => some (false, bonding_curve)
  | .trade_tx_with_venue params =>
    match params.venue with
    | .BondingCurve _ bonding_curve => some (params.is_buy, bonding_curve)
    | .Amm .. => none
  | .trade_tx params =>
    if params.bonding_curve.complete then none else some (params.is_buy, params.bonding_curve)
  | _ => none

end TradeCall

/-- A curve whose trades move a token other than SOL. -/
def TokenQuoted (bonding_curve : BondingCurve) : Prop :=
  bonding_curve.quote_mint ≠ Pubkey.default ∧ bonding_curve.quote_mint ≠ constants.NATIVE_MINT

instance : DecidablePred TokenQuoted := fun _ => inferInstanceAs (Decidable (_ ∧ _))

/-- The creator of a curve that trades a token is its own vault. -/
def CreatorIsVault (bonding_curve : BondingCurve) : Prop :=
  TokenQuoted bonding_curve →
    (pda.pump.creator_vault bonding_curve.creator).1 = bonding_curve.creator

/-- A call by v2 is checked on its curve. -/
theorem forall_v2_trade_iff {call : TradeCall} {is_buy : Bool} {bonding_curve : BondingCurve}
    (h : call.v2_trade = some (is_buy, bonding_curve)) :
    (∀ is_buy bonding_curve, call.v2_trade = some (is_buy, bonding_curve) →
      CreatorIsVault bonding_curve) ↔ CreatorIsVault bonding_curve := by
  rw [h]
  exact ⟨fun hall => hall is_buy bonding_curve rfl, fun hvault _ _ heq => by cases heq; exact hvault⟩

/-- A trade of a curve by one of the three v2 instructions. -/
structure IsV2Trade (bonding_curve : BondingCurve) (base_mint quote_token_program user : Pubkey)
    (trade : Instruction) : Prop where
  program_id : trade.program_id = constants.pump.PROGRAM_ID
  accounts : ∃ fee_recipient buyback_fee_recipient global_volume_accumulator,
    trade.accounts = PumpSdk.v2_trade_metas base_mint quote_token_program user fee_recipient
      buyback_fee_recipient global_volume_accumulator
      (V2TradeAccounts.derive base_mint bonding_curve.quote_mint quote_token_program user
        bonding_curve.creator fee_recipient buyback_fee_recipient)

section V2

variable {bonding_curve : BondingCurve} {base_mint quote_token_program user : Pubkey}
  {include_base : Bool} {trade : Instruction}

namespace IsV2Trade

theorem associated_base_user
    (htrade : IsV2Trade bonding_curve base_mint quote_token_program user trade) :
    (pda.associated_token user constants.SPL_TOKEN_2022_PROGRAM_ID base_mint).1 ∈ trade.keys := by
  obtain ⟨fee_recipient, buyback_fee_recipient, volume, haccounts⟩ := htrade.accounts
  simp [Instruction.keys, haccounts, PumpSdk.v2_trade_metas, V2TradeAccounts.derive,
    AccountMeta.new]

/-- The quote ATAs of the user, the curve and the user's volume accumulator. -/
theorem associated_quote (htoken : TokenQuoted bonding_curve)
    (htrade : IsV2Trade bonding_curve base_mint quote_token_program user trade) :
    ∀ wallet ∈ [user, (pda.pump.bonding_curve base_mint).1,
      (pda.pump.user_volume_accumulator user).1],
      (pda.associated_token wallet quote_token_program bonding_curve.quote_mint).1 ∈
        trade.keys := by
  obtain ⟨fee_recipient, buyback_fee_recipient, volume, haccounts⟩ := htrade.accounts
  simp [Instruction.keys, haccounts, PumpSdk.v2_trade_metas, V2TradeAccounts.derive,
    AccountMeta.new, htoken.1]

theorem associated_creator_vault_eq (htoken : TokenQuoted bonding_curve)
    (htrade : IsV2Trade bonding_curve base_mint quote_token_program user trade) :
    associated_creator_vault trade =
      some (pda.associated_token (pda.pump.creator_vault bonding_curve.creator).1
        quote_token_program bonding_curve.quote_mint).1 := by
  obtain ⟨fee_recipient, buyback_fee_recipient, volume, haccounts⟩ := htrade.accounts
  simp [associated_creator_vault, Instruction.keys, haccounts, PumpSdk.v2_trade_metas,
    V2TradeAccounts.derive, AccountMeta.new, htoken.1]

end IsV2Trade

/-- All that a v2 prelude creates is in the trade's accounts but the ATA of the
    creator's wallet. -/
theorem user_trade_atas_created {ix : Instruction} {account : Pubkey}
    (htrade : IsV2Trade bonding_curve base_mint quote_token_program user trade)
    (hix : ix ∈ PumpSdk.user_trade_atas user base_mint bonding_curve
      constants.SPL_TOKEN_2022_PROGRAM_ID quote_token_program include_base)
    (haccount : account ∈ ix.created) :
    account ∈ trade.keys ∨
      TokenQuoted bonding_curve ∧ account = (pda.associated_token bonding_curve.creator
        quote_token_program bonding_curve.quote_mint).1 := by
  rw [PumpSdk.user_trade_atas] at hix
  rcases List.mem_append.mp hix with hbase | hquote
  · left
    rw [eq_of_mem_created_ite hbase haccount]
    exact htrade.associated_base_user
  · split at hquote
    · rename_i htoken
      have hkeys := htrade.associated_quote htoken
      rcases List.mem_append.mp hquote with hquote | hcashback
      · simp only [List.mem_cons, List.not_mem_nil, or_false] at hquote
        rcases hquote with rfl | rfl | rfl <;> rw [eq_of_mem_created haccount]
        · exact .inl (hkeys user (by simp))
        · exact .inr ⟨htoken, rfl⟩
        · exact .inl (hkeys _ (by simp))
      · left
        rw [eq_of_mem_created_ite hcashback haccount]
        exact hkeys _ (by simp)
    · cases hquote

/-- The creator-side create is of the ATA of the creator's wallet. -/
theorem creator_side_created_of_tokenQuoted (htoken : TokenQuoted bonding_curve) :
    creator_side_created include_base (PumpSdk.user_trade_atas user base_mint bonding_curve
        constants.SPL_TOKEN_2022_PROGRAM_ID quote_token_program include_base ++ [trade]) =
      some (pda.associated_token bonding_curve.creator quote_token_program
        bonding_curve.quote_mint).1 := by
  unfold TokenQuoted at htoken
  cases include_base <;> simp [creator_side_created, PumpSdk.user_trade_atas, htoken]

theorem creator_side_created_of_not_tokenQuoted (htoken : ¬ TokenQuoted bonding_curve) :
    creator_side_created include_base (PumpSdk.user_trade_atas user base_mint bonding_curve
      constants.SPL_TOKEN_2022_PROGRAM_ID quote_token_program include_base ++ [trade]) = none := by
  unfold TokenQuoted at htoken
  cases include_base <;> simp [creator_side_created, PumpSdk.user_trade_atas, htoken]

/-- A v2 prelude is used exactly when it creates no quote ATA or the creator is
    its own vault. -/
theorem v2_prelude_used_iff (ata_injective : AtaInjective)
    (htrade : IsV2Trade bonding_curve base_mint quote_token_program user trade) :
    PreludeUsed (some include_base) (PumpSdk.user_trade_atas user base_mint bonding_curve
        constants.SPL_TOKEN_2022_PROGRAM_ID quote_token_program include_base ++ [trade]) ↔
      CreatorIsVault bonding_curve := by
  constructor
  · intro hused htoken
    obtain ⟨last, hlast, hcreated⟩ := hused.creator_side include_base rfl _
      (creator_side_created_of_tokenQuoted htoken)
    rw [List.getLast?_concat, Option.mem_some_iff] at hlast
    subst hlast
    rw [htrade.associated_creator_vault_eq htoken, Option.some_inj] at hcreated
    exact ata_injective _ _ hcreated
  · intro hcreator
    refine ⟨createsUsed_append _ (.inl htrade.program_id) (by simp) ?_, ?_⟩
    · intro ix hix account haccount
      rcases user_trade_atas_created htrade hix haccount with hmem | ⟨htoken, rfl⟩
      · exact hmem
      · rw [← hcreator htoken]
        exact List.mem_of_getElem? (htrade.associated_creator_vault_eq htoken)
    · intro is_buy hbuy account haccount
      rw [Option.mem_some_iff] at hbuy
      subst hbuy
      by_cases htoken : TokenQuoted bonding_curve
      · rw [creator_side_created_of_tokenQuoted htoken, Option.mem_some_iff] at haccount
        subst haccount
        refine ⟨trade, List.getLast?_concat, ?_⟩
        rw [htrade.associated_creator_vault_eq htoken, hcreator htoken]
      · rw [creator_side_created_of_not_tokenQuoted htoken] at haccount
        cases haccount

end V2

section Builders

variable [PumpSdk.Draws] {global : Global} {bonding_curve : BondingCurve}
  {base_mint quote_token_program user : Pubkey}
  {ixs : List Instruction}

theorem buy_v2_used_iff (ata_injective : AtaInjective) {amount max_quote_tokens : UInt64}
    (h : PumpSdk.buy_v2_instructions global bonding_curve base_mint quote_token_program user amount
      max_quote_tokens = some ixs) :
    PreludeUsed (some true) ixs ↔ CreatorIsVault bonding_curve := by
  obtain ⟨⟨fee_recipient, buyback_fee_recipient⟩, -, h⟩ := Option.bind_eq_some_iff.mp h
  cases h
  exact v2_prelude_used_iff ata_injective ⟨rfl, _, _, _, rfl⟩

theorem buy_exact_quote_in_v2_used_iff (ata_injective : AtaInjective)
    {spendable_quote_in min_tokens_out : UInt64}
    (h : PumpSdk.buy_exact_quote_in_v2_instructions global bonding_curve base_mint
      quote_token_program user spendable_quote_in min_tokens_out = some ixs) :
    PreludeUsed (some true) ixs ↔ CreatorIsVault bonding_curve := by
  obtain ⟨⟨fee_recipient, buyback_fee_recipient⟩, -, h⟩ := Option.bind_eq_some_iff.mp h
  cases h
  exact v2_prelude_used_iff ata_injective ⟨rfl, _, _, _, rfl⟩

theorem sell_v2_used_iff (ata_injective : AtaInjective) {amount min_sol_output : UInt64}
    (h : PumpSdk.sell_v2_instructions global bonding_curve base_mint quote_token_program user amount
      min_sol_output = some ixs) :
    PreludeUsed (some false) ixs ↔ CreatorIsVault bonding_curve := by
  obtain ⟨⟨fee_recipient, buyback_fee_recipient⟩, -, h⟩ := Option.bind_eq_some_iff.mp h
  cases h
  exact v2_prelude_used_iff ata_injective ⟨rfl, _, _, _, rfl⟩

end Builders

/-- What a v3 prelude creates, the trade lists: the buyback recipient's ATA is
    its `buyback_fee_recipient` account on a token quote. -/
theorem V3Trade.with_user_atas_used (self : V3Trade) (include_base : Bool) (data : List UInt8) :
    CreatesUsed (self.with_user_atas include_base (self.instruction data)) := by
  refine createsUsed_append _ (.inl rfl) (by simp) ?_
  intro ix hix account haccount
  rw [V3Trade.instruction, Instruction.keys]
  rcases List.mem_append.mp hix with hbase | hquote
  · rw [eq_of_mem_created_ite hbase haccount]
    simp [V3Trade.accounts, AccountMeta.new]
  · split at hquote
    · rename_i htoken
      simp only [List.mem_cons, List.not_mem_nil, or_false] at hquote
      rcases hquote with rfl | rfl <;> rw [eq_of_mem_created haccount] <;>
        simp [V3Trade.accounts, AccountMeta.new, htoken]
    · cases hquote

theorem wrap_sol_created {user : Pubkey} {lamports : UInt64} {ix : Instruction}
    (hix : ix ∈ wrap_sol_instructions user lamports) : ix.created = none := by
  simp only [wrap_sol_instructions, List.mem_cons, List.not_mem_nil, or_false] at hix
  rcases hix with rfl | rfl
  · exact Instruction.created_eq_none
      (by decide : constants.SYSTEM_PROGRAM_ID ≠ constants.SPL_ATA_PROGRAM_ID)
  · exact Instruction.created_eq_none
      (by decide : constants.SPL_TOKEN_PROGRAM_ID ≠ constants.SPL_ATA_PROGRAM_ID)

theorem unwrap_sol_created (user : Pubkey) : (unwrap_sol_instruction user).created = none :=
  Instruction.created_eq_none
    (by decide : constants.SPL_TOKEN_PROGRAM_ID ≠ constants.SPL_ATA_PROGRAM_ID)

section Amm

variable [PumpSdk.Draws] [Assertions] {ε : Type}

/-- The AMM preludes create the user's ATAs, which the trades list. -/
theorem amm_prelude_used {params : TradeTxWithVenueParams} {pool : Pubkey}
    {amm_global : GlobalConfig} {pool_state : Pool} {ixs : List Instruction}
    (hvenue : params.venue = .Amm pool amm_global pool_state)
    (h : (PumpSdk.trade_tx_instructions_with_venue params : Outcome ε _) = .ok (some ixs)) :
    CreatesUsed ixs := by
  rw [PumpSdk.trade_tx_instructions_with_venue, hvenue] at h
  dsimp only at h
  split at h
  · cases h
  · rw [Except.ok.injEq] at h
    obtain ⟨⟨protocol_fee_recipient, buyback_fee_recipient⟩, -, h⟩ := Option.bind_eq_some_iff.mp h
    rw [Option.some_inj] at h
    subst h
    have hunwrap : ∀ ix ∈ (if pool_state.quote_mint = constants.NATIVE_MINT then
        [unwrap_sol_instruction params.user] else []), ix.created = none := by
      intro ix hix
      split at hix
      · rw [List.mem_singleton] at hix
        subst hix
        exact unwrap_sol_created params.user
      · cases hix
    split
    · rw [List.append_assoc, List.singleton_append]
      refine createsUsed_append _ (.inr rfl) hunwrap ?_
      intro ix hix account haccount
      rcases List.mem_append.mp hix with huser | hwrap
      · simp only [List.mem_cons, List.not_mem_nil, or_false] at huser
        rcases huser with rfl | rfl <;> rw [eq_of_mem_created haccount] <;>
          simp [Instruction.keys, PumpSdk.buy_amm_instruction_with_recipients,
            PumpSdk.amm_trade_metas, AmmTradeAccounts.derive, AccountMeta.new]
      · split at hwrap
        · rw [wrap_sol_created hwrap] at haccount
          cases haccount
        · cases hwrap
    · refine createsUsed_append [_] (.inr rfl) hunwrap ?_
      intro ix hix account haccount
      rw [List.mem_singleton] at hix
      subst hix
      rw [eq_of_mem_created haccount]
      simp [Instruction.keys, PumpSdk.sell_amm_instruction_with_recipients,
        PumpSdk.amm_trade_metas, AmmTradeAccounts.derive, AccountMeta.new]

end Amm

/-- What a multi-hop prelude creates, the swap lists among its first accounts. -/
theorem multi_hop_prelude_used
    {user in_mint in_token_program out_token_program buyback_fee_recipient : Pubkey}
    {hops : List MultiHopHop} {amount_in min_amount_out : UInt64} {ixs : List Instruction}
    (h : PumpSdk.multi_hop_swap_instructions user in_mint in_token_program out_token_program hops
      buyback_fee_recipient amount_in min_amount_out = .ok ixs) : CreatesUsed ixs := by
  obtain ⟨swap, hswap, h⟩ := Outcome.bind_eq_ok_iff.mp h
  obtain ⟨⟨is_buy, out_mint⟩, hroute, h⟩ := Outcome.bind_eq_ok_iff.mp h
  obtain ⟨starts_on_sol_curve, -, h⟩ := Outcome.bind_eq_ok_iff.mp h
  rw [PumpSdk.multi_hop_swap_instruction] at hswap
  split at hswap
  · cases hswap
  rw [hroute, Outcome.ok_bind] at hswap
  cases hswap
  cases h
  rw [List.append_cons]
  refine createsUsed_append _ (.inr rfl) (by simp) ?_
  intro ix hix account haccount
  simp only [List.mem_append, List.mem_singleton] at hix
  rcases hix with (rfl | hwsol) | rfl
  · rw [eq_of_mem_created haccount]
    simp [Instruction.keys, AccountMeta.new]
  · rw [eq_of_mem_created_ite hwsol haccount]
    simp [Instruction.keys, AccountMeta.new]
  · rw [eq_of_mem_created haccount]
    simp [Instruction.keys, AccountMeta.new]

section Calls

variable [PumpSdk.Draws] [Assertions]

/-- The direction and the curve of the call a `trade_tx` call makes. -/
theorem trade_tx_eq_with_venue {params : TradeTxParams} {ixs : List Instruction}
    (h : (TradeCall.trade_tx params).instructions = .ok (some ixs)) :
    ∃ call : TradeTxWithVenueParams,
      (TradeCall.trade_tx_with_venue call).instructions = .ok (some ixs) ∧
      (TradeCall.trade_tx_with_venue call).v2_trade = (TradeCall.trade_tx params).v2_trade := by
  rw [TradeCall.instructions, PumpSdk.trade_tx_instructions] at h
  cases hvenue : PumpSdk.trade_tx_venue params with
  | none =>
    rw [hvenue] at h
    cases h
  | some venue =>
    rw [hvenue] at h
    refine ⟨_, h, ?_⟩
    rw [PumpSdk.trade_tx_venue] at hvenue
    by_cases hcomplete : params.bonding_curve.complete
    · rw [if_pos hcomplete] at hvenue
      obtain ⟨p, -, hvenue⟩ := Option.bind_eq_some_iff.mp hvenue
      cases hvenue
      simp [TradeCall.v2_trade, hcomplete]
    · rw [if_neg hcomplete] at hvenue
      cases hvenue
      simp [TradeCall.v2_trade, hcomplete]

theorem trade_tx_with_venue_used_iff (ata_injective : AtaInjective)
    {params : TradeTxWithVenueParams} {ixs : List Instruction}
    (h : (TradeCall.trade_tx_with_venue params).instructions = .ok (some ixs)) :
    PreludeUsed ((TradeCall.trade_tx_with_venue params).v2_trade.map Prod.fst) ixs ↔
      ∀ is_buy bonding_curve,
        (TradeCall.trade_tx_with_venue params).v2_trade = some (is_buy, bonding_curve) →
        CreatorIsVault bonding_curve := by
  cases hvenue : params.venue with
  | BondingCurve global bonding_curve =>
    have htrade : (TradeCall.trade_tx_with_venue params).v2_trade =
        some (params.is_buy, bonding_curve) := by
      rw [TradeCall.v2_trade, hvenue]
    rw [forall_v2_trade_iff htrade, htrade, Option.map_some]
    rw [TradeCall.instructions, PumpSdk.trade_tx_instructions_with_venue, hvenue] at h
    dsimp only at h
    rw [Except.ok.injEq] at h
    cases hbuy : params.is_buy with
    | true =>
      rw [hbuy, if_pos rfl] at h
      exact buy_v2_used_iff ata_injective h
    | false =>
      rw [hbuy, if_neg (by decide)] at h
      exact sell_v2_used_iff ata_injective h
  | Amm pool amm_global pool_state =>
    have htrade : (TradeCall.trade_tx_with_venue params).v2_trade = none := by
      rw [TradeCall.v2_trade, hvenue]
    rw [htrade, Option.map_none, preludeUsed_none_iff]
    exact iff_of_true (amm_prelude_used hvenue h) (by simp)

/-- The creates are of accounts the trade uses exactly when a v2 trade moves
    SOL or its creator is its own vault. -/
theorem preludes_used_iff (ata_injective : AtaInjective) {call : TradeCall}
    {ixs : List Instruction} (h : call.instructions = .ok (some ixs)) :
    PreludeUsed (call.v2_trade.map Prod.fst) ixs ↔
      ∀ is_buy bonding_curve, call.v2_trade = some (is_buy, bonding_curve) →
        CreatorIsVault bonding_curve := by
  cases call with
  | buy_v2 =>
    rw [forall_v2_trade_iff rfl]
    exact buy_v2_used_iff ata_injective (Except.ok.inj h)
  | buy_exact_quote_in_v2 =>
    rw [forall_v2_trade_iff rfl]
    exact buy_exact_quote_in_v2_used_iff ata_injective (Except.ok.inj h)
  | sell_v2 =>
    rw [forall_v2_trade_iff rfl]
    exact sell_v2_used_iff ata_injective (Except.ok.inj h)
  | buy_v3 | buy_exact_quote_in_v3 | sell_v3 =>
    cases h
    exact iff_of_true (preludeUsed_none_iff.mpr (V3Trade.with_user_atas_used _ _ _))
      (by simp [TradeCall.v2_trade])
  | trade_tx_with_venue params => exact trade_tx_with_venue_used_iff ata_injective h
  | trade_tx params =>
    obtain ⟨params', h', htrade⟩ := trade_tx_eq_with_venue h
    rw [← htrade]
    exact trade_tx_with_venue_used_iff ata_injective h'
  | multi_hop_swap =>
    obtain ⟨ixs', hixs, h⟩ := Outcome.bind_eq_ok_iff.mp h
    cases h
    exact iff_of_true (preludeUsed_none_iff.mpr (multi_hop_prelude_used hixs))
      (by simp [TradeCall.v2_trade])

end Calls

end

section UsdcCurve

/-- A USDC curve of the creator `15`. -/
def usdcCurve : BondingCurve :=
  { BondingCurve.default with creator := ⟨15⟩, quote_mint := constants.USDC_MINT }

/-- The recipients `3` and `5`. -/
def listedGlobal : Global :=
  { Global.default with
    fee_recipient := ⟨3⟩
    buyback_fee_recipients := Vector.replicate 8 ⟨5⟩ }

/-- The wallets a trade by the user `11` of the mint `13` names, each with its
    Token-2022 account of the mint or its SPL Token account of USDC. -/
def usdcCurveAtas : List ((Pubkey × Pubkey) × List (Pubkey × Pubkey)) := [
  ((constants.SPL_TOKEN_2022_PROGRAM_ID, ⟨13⟩), [
    (⟨0x4e23c22eb6e06aac7247a0c776f2c18d6032d2825702f541b168205ec0c3fa53⟩,
      ⟨0x2e9a061f93e1f2ef5f89826cb8d92aa874f2b1580603713909554a50f2854439⟩),
    (⟨11⟩, ⟨0xe58fb4083fe585570907553719a9812f309aca9ce59c9c757e9f84ab45012583⟩)]),
  ((constants.SPL_TOKEN_PROGRAM_ID, constants.USDC_MINT), [
    (⟨0x4e23c22eb6e06aac7247a0c776f2c18d6032d2825702f541b168205ec0c3fa53⟩,
      ⟨0x8ef791d1281e63856a3dfd46235879f5bcd76078d85e45b024338f0c7fcaaa96⟩),
    (⟨0x9d22b2dca98628a1fd25528355d2685d4c049537b065b777405428f220809d02⟩,
      ⟨0xd455611929d1fc2b3c14f070edc69ac2eba2d35fb9fbaa38887f177150aeb8fc⟩),
    (⟨0xab734566ff7ad193b8e00fceceb9a9a8e859c2f522aa18f3bb8e355077705720⟩,
      ⟨0xf1fbbff259d785ca0ae0dfa05b3f65856d7dca4e8d9c24d07c7dda8ea5d7958f⟩),
    (⟨11⟩, ⟨0x188e83597123ca4a7c8096063246ff5839e0a77d3fca8d492051d631078a68e5⟩),
    (⟨15⟩, ⟨0xd960eca535e8e9367f3181263fd4e275bcafa9d0d7bc2bd8282ff91cbfef8985⟩),
    (⟨3⟩, ⟨0xfd07fecf420ef9952f5ddf3b6575ab0a201f053f8defeeb60747c139e4896a87⟩),
    (⟨5⟩, ⟨0x2048e057c0782a1bf2e424fc7d998d2f92a0985e5e6e5d051f7aebba7efa104a⟩)])]

/-- The exchange of each of the wallets with its account. -/
def usdcCurveAta (token_program mint : Pubkey) : Equiv.Perm Pubkey :=
  ((usdcCurveAtas.lookup (token_program, mint)).getD []).foldr
    (fun wallet others => (Equiv.swap wallet.1 wallet.2).trans others) (Equiv.refl Pubkey)

/-- The addresses these trades derive. -/
abbrev usdcCurveAddresses : Solana where
  find_program_address seeds _ :=
    match seeds with
    | [.key owner, .key token_program, .key mint] => (usdcCurveAta token_program mint owner, 255)
    | seeds => ([
        ([.bytes "global"],
          (⟨0x3a865e69ee0f5480cabcf66357e4dc2f18d58d45c1ea7489fb3723d9793c72a6⟩, 255)),
        ([.bytes "bonding-curve", .key ⟨13⟩],
          (⟨0x4e23c22eb6e06aac7247a0c776f2c18d6032d2825702f541b168205ec0c3fa53⟩, 255)),
        ([.bytes "creator-vault", .key ⟨15⟩],
          (⟨0x9d22b2dca98628a1fd25528355d2685d4c049537b065b777405428f220809d02⟩, 255)),
        ([.bytes "user_volume_accumulator", .key ⟨11⟩],
          (⟨0xab734566ff7ad193b8e00fceceb9a9a8e859c2f522aa18f3bb8e355077705720⟩, 255)),
        ([.bytes "sharing-config", .key ⟨13⟩],
          (⟨0x88430023251b0bbbb1349639fc6fbb83fe31fab9909dd13c6429700e8d2861ca⟩, 255)),
        ([.bytes "fee_config", .key constants.pump.PROGRAM_ID],
          (⟨0x6f9ab4a4f1958dc0a9c94c3fb72c07995843eda485e3a24f10c69399f819940f⟩, 253)),
        ([.bytes "__event_authority"],
          (⟨0xacf136eb01fc1c4e883d23c8b5844ab59a37f66add57c5e9ac3b53e059d35c64⟩, 255))
      ].lookup seeds).getD (Pubkey.default, 255)

/-- A generator that draws the first of its candidates. -/
abbrev firstDraws : PumpSdk.Draws where
  draw _ := { usize := fun _ h => ⟨0, h⟩ }

/-- A sale of `1_000` base tokens on the USDC curve by v2. -/
def usdcSale : TradeCall :=
  .sell_v2 listedGlobal usdcCurve ⟨13⟩ constants.SPL_TOKEN_PROGRAM_ID ⟨11⟩ 1_000 1

theorem listedGlobal_recipients :
    @PumpSdk.pump_fee_recipients_pair firstDraws listedGlobal false = some (⟨3⟩, ⟨5⟩) := by
  decide +kernel

theorem usdcCurve_ata_injective : @AtaInjective usdcCurveAddresses := fun token_program mint =>
  (usdcCurveAta token_program mint).injective

/-- What the sale is built into. -/
def usdcSaleInstructions : List Instruction :=
  letI : Solana := usdcCurveAddresses
  PumpSdk.user_trade_atas ⟨11⟩ ⟨13⟩ usdcCurve constants.SPL_TOKEN_2022_PROGRAM_ID
      constants.SPL_TOKEN_PROGRAM_ID false ++
    [PumpSdk.sell_v2_instruction_with_recipients ⟨13⟩ constants.USDC_MINT
      constants.SPL_TOKEN_PROGRAM_ID ⟨11⟩ ⟨15⟩ ⟨3⟩ ⟨5⟩ 1_000 1]

theorem usdcSale_instructions {assertions : Assertions} :
    @TradeCall.instructions usdcCurveAddresses firstDraws assertions usdcSale =
      .ok (some usdcSaleInstructions) := by
  let _ : Solana := usdcCurveAddresses
  let _ : PumpSdk.Draws := firstDraws
  have hpair : PumpSdk.pump_fee_recipients_pair listedGlobal usdcCurve.is_mayhem_mode =
    some (⟨3⟩, ⟨5⟩) := listedGlobal_recipients
  rw [usdcSale, TradeCall.instructions, PumpSdk.sell_v2_instructions, hpair]
  rfl

theorem preludes_used_iff_usdcSale :
    ¬ PreludeUsed (some false) usdcSaleInstructions := by
  let _ : Solana := usdcCurveAddresses
  let _ : PumpSdk.Draws := firstDraws
  let _ : Assertions := { debug_assertions := true }
  intro hused
  have hvault := (preludes_used_iff usdcCurve_ata_injective usdcSale_instructions).mp hused false
    usdcCurve rfl (by decide)
  exact absurd hvault (by decide)

/-- The sale creates an account it does not use, the ATA of the creator's wallet,
    and not the `associated_creator_vault` it uses. -/
theorem usdcSale_prelude_unused :
    @TradeCall.instructions usdcCurveAddresses firstDraws { debug_assertions := true } usdcSale =
        .ok (some usdcSaleInstructions) ∧
      ¬ CreatesUsed usdcSaleInstructions ∧
      ¬ ∃ trade ∈ usdcSaleInstructions.getLast?,
        associated_creator_vault trade = creator_side_created false usdcSaleInstructions := by
  refine ⟨usdcSale_instructions, ?_, ?_⟩
  · decide +kernel
  · decide +kernel

end UsdcCurve

end pump_rust_client.sdk
