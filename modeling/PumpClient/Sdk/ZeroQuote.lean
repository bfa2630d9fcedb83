import PumpClient.Sdk.CreateCoin
import PumpClient.Sdk.CreatorFees
import PumpClient.Sdk.Preludes

open machine

namespace pump_rust_client.sdk

open state

/-- The arguments of a v2 trade. Its quote is the curve's. -/
structure V2Args where
  global : Global
  bonding_curve : BondingCurve
  base_mint : Pubkey
  quote_token_program : Pubkey
  user : Pubkey
  amount : UInt64
  limit : UInt64

/-- The arguments of a v3 trade but its quote. -/
structure V3Args where
  base_mint : Pubkey
  base_token_program : Pubkey
  quote_token_program : Pubkey
  user : Pubkey
  buyback_fee_recipient : Pubkey
  amount : UInt64
  limit : UInt64

/-- A builder of the pump program that takes a quote mint, with all its other
    arguments. -/
inductive QuoteBuilder where
  | create_v2_instruction (mint user : Pubkey) (name symbol uri : String)
      (creator quote_token_program : Pubkey) (mayhem_mode cashback : Bool) (creator_fee_bps : UInt64)
  | create_v2_and_buy_instruction (mint user : Pubkey) (name symbol uri : String)
      (creator quote_token_program : Pubkey) (mayhem_mode cashback : Bool) (creator_fee_bps : UInt64)
      (tokenized_agent_buyback_bps : Option UInt16) (global : Global)
      (amount max_quote_tokens : UInt64)
  | create_coin_instructions (params : CreateCoinParams)
  | buy_v2_instruction (a : V2Args)
  | buy_v2_instructions (a : V2Args)
  | buy_exact_quote_in_v2_instruction (a : V2Args)
  | buy_exact_quote_in_v2_instructions (a : V2Args)
  | sell_v2_instruction (a : V2Args)
  | sell_v2_instructions (a : V2Args)
  | buy_v3_instruction (a : V3Args)
  | buy_v3_instructions (a : V3Args)
  | buy_exact_quote_in_v3_instruction (a : V3Args)
  | buy_exact_quote_in_v3_instructions (a : V3Args)
  | sell_v3_instruction (a : V3Args)
  | sell_v3_instructions (a : V3Args)
  | sweep_creator_fee_instruction (payer base_mint creator quote_token_program : Pubkey)
  | claim_cashback_v2_instruction (user quote_token_program : Pubkey)
  | collect_creator_fee_v2_instruction (creator quote_token_program : Pubkey)
  | collect_creator_fee_v2_instructions (payer creator quote_token_program : Pubkey)
      (create_creator_ata : Bool)
  | distribute_creator_fees_v2_instruction (payer mint creator quote_token_program : Pubkey)
      (initialize_ata : Bool) (shareholders : List Pubkey)
  | distribute_creator_fees_v2_instructions (payer mint creator quote_token_program : Pubkey)
      (initialize_ata create_creator_vault_ata : Bool) (shareholders : List Pubkey)
  | migrate_v2_instruction (base_mint user withdraw_authority base_token_program
      quote_token_program : Pubkey)
  | multi_hop_curve (mint base_token_program quote_token_program : Pubkey)

/-- What a builder returns: instructions, or one hop's accounts. -/
inductive Built where
  | instructions (ixs : Outcome Empty (Option (List Instruction)))
  | hop (hop : MultiHopHop)

namespace Built

def one (ix : Instruction) : Built := instructions (.ok (some [ix]))

def many (ixs : List Instruction) : Built := instructions (.ok (some ixs))

def fallible (ix : Outcome Empty Instruction) : Built :=
  instructions (ix >>= fun ix => .ok (some [ix]))

end Built

namespace QuoteBuilder

/-- The one builder that takes the quote mint as it is. -/
def IsMigration : QuoteBuilder → Prop
  | .migrate_v2_instruction .. => True
  | _ => False

variable [Solana] [PumpSdk.Draws]

/-- What the builder makes of a quote mint. A v2 trade takes it from its
    curve. -/
def build (quote_mint : Pubkey) : QuoteBuilder → Built
  | .create_v2_instruction mint user name symbol uri creator quote_token_program mayhem_mode cashback
      creator_fee_bps =>
    .fallible (PumpSdk.create_v2_instruction mint user name symbol uri creator quote_mint
      quote_token_program mayhem_mode cashback creator_fee_bps)
  | .create_v2_and_buy_instruction mint user name symbol uri creator quote_token_program mayhem_mode
      cashback creator_fee_bps tokenized_agent_buyback_bps global amount max_quote_tokens =>
    .instructions (PumpSdk.create_v2_and_buy_instruction mint user name symbol uri creator quote_mint
      quote_token_program mayhem_mode cashback creator_fee_bps tokenized_agent_buyback_bps global
      amount max_quote_tokens)
  | .create_coin_instructions params =>
    .instructions (PumpSdk.create_coin_instructions { params with quote_mint })
  | .buy_v2_instruction a =>
    .instructions (.ok ((PumpSdk.buy_v2_instruction a.global { a.bonding_curve with quote_mint }
      a.base_mint a.quote_token_program a.user a.amount a.limit).map ([·])))
  | .buy_v2_instructions a =>
    .instructions (.ok (PumpSdk.buy_v2_instructions a.global { a.bonding_curve with quote_mint }
      a.base_mint a.quote_token_program a.user a.amount a.limit))
  | .buy_exact_quote_in_v2_instruction a =>
    .instructions (.ok ((PumpSdk.buy_exact_quote_in_v2_instruction a.global
      { a.bonding_curve with quote_mint } a.base_mint a.quote_token_program a.user a.amount
      a.limit).map ([·])))
  | .buy_exact_quote_in_v2_instructions a =>
    .instructions (.ok (PumpSdk.buy_exact_quote_in_v2_instructions a.global
      { a.bonding_curve with quote_mint } a.base_mint a.quote_token_program a.user a.amount a.limit))
  | .sell_v2_instruction a =>
    .instructions (.ok ((PumpSdk.sell_v2_instruction a.global { a.bonding_curve with quote_mint }
      a.base_mint a.quote_token_program a.user a.amount a.limit).map ([·])))
  | .sell_v2_instructions a =>
    .instructions (.ok (PumpSdk.sell_v2_instructions a.global { a.bonding_curve with quote_mint }
      a.base_mint a.quote_token_program a.user a.amount a.limit))
  | .buy_v3_instruction a =>
    .one (PumpSdk.buy_v3_instruction a.base_mint quote_mint a.base_token_program
      a.quote_token_program a.user a.buyback_fee_recipient a.amount a.limit)
  | .buy_v3_instructions a =>
    .many (PumpSdk.buy_v3_instructions a.base_mint quote_mint a.base_token_program
      a.quote_token_program a.user a.buyback_fee_recipient a.amount a.limit)
  | .buy_exact_quote_in_v3_instruction a =>
    .one (PumpSdk.buy_exact_quote_in_v3_instruction a.base_mint quote_mint a.base_token_program
      a.quote_token_program a.user a.buyback_fee_recipient a.amount a.limit)
  | .buy_exact_quote_in_v3_instructions a =>
    .many (PumpSdk.buy_exact_quote_in_v3_instructions a.base_mint quote_mint a.base_token_program
      a.quote_token_program a.user a.buyback_fee_recipient a.amount a.limit)
  | .sell_v3_instruction a =>
    .one (PumpSdk.sell_v3_instruction a.base_mint quote_mint a.base_token_program
      a.quote_token_program a.user a.buyback_fee_recipient a.amount a.limit)
  | .sell_v3_instructions a =>
    .many (PumpSdk.sell_v3_instructions a.base_mint quote_mint a.base_token_program
      a.quote_token_program a.user a.buyback_fee_recipient a.amount a.limit)
  | .sweep_creator_fee_instruction payer base_mint creator quote_token_program =>
    .one (PumpSdk.sweep_creator_fee_instruction payer base_mint creator quote_mint
      quote_token_program)
  | .claim_cashback_v2_instruction user quote_token_program =>
    .one (PumpSdk.claim_cashback_v2_instruction user quote_mint quote_token_program)
  | .collect_creator_fee_v2_instruction creator quote_token_program =>
    .one (PumpSdk.collect_creator_fee_v2_instruction creator quote_mint quote_token_program)
  | .collect_creator_fee_v2_instructions payer creator quote_token_program create_creator_ata =>
    .many (PumpSdk.collect_creator_fee_v2_instructions payer creator quote_mint quote_token_program
      create_creator_ata)
  | .distribute_creator_fees_v2_instruction payer mint creator quote_token_program initialize_ata
      shareholders =>
    .one (PumpSdk.distribute_creator_fees_v2_instruction payer mint creator quote_mint
      quote_token_program initialize_ata shareholders)
  | .distribute_creator_fees_v2_instructions payer mint creator quote_token_program initialize_ata
      create_creator_vault_ata shareholders =>
    .many (PumpSdk.distribute_creator_fees_v2_instructions payer mint creator quote_mint
      quote_token_program initialize_ata create_creator_vault_ata shareholders)
  | .migrate_v2_instruction base_mint user withdraw_authority base_token_program
      quote_token_program =>
    .fallible (PumpSdk.migrate_v2_instruction base_mint quote_mint user withdraw_authority
      base_token_program quote_token_program)
  | .multi_hop_curve mint base_token_program quote_token_program =>
    .hop (MultiHopHop.curve mint quote_mint base_token_program quote_token_program)

end QuoteBuilder

section ZeroQuote

theorem V3Trade.new_zero_quote (base_mint base_token_program quote_token_program user
    buyback_fee_recipient : Pubkey) :
    V3Trade.new base_mint Pubkey.default base_token_program quote_token_program user
        buyback_fee_recipient =
      V3Trade.new base_mint constants.NATIVE_MINT base_token_program quote_token_program user
        buyback_fee_recipient := by
  simp only [V3Trade.new, PumpSdk.resolve_quote_mint, ↓reduceIte, ite_self]

theorem PumpSdk.bonding_curve_preview_zero_quote (creator : Pubkey) (cashback mayhem_mode : Bool)
    (creator_fee_bps : UInt64) :
    bonding_curve_preview creator cashback mayhem_mode Pubkey.default creator_fee_bps =
      bonding_curve_preview creator cashback mayhem_mode constants.NATIVE_MINT creator_fee_bps := by
  simp only [bonding_curve_preview, resolve_quote_mint, ↓reduceIte, ite_self]

variable [Solana]

theorem V2TradeAccounts.derive_zero_quote (base_mint quote_token_program user creator fee_recipient
    buyback_fee_recipient : Pubkey) :
    V2TradeAccounts.derive base_mint Pubkey.default quote_token_program user creator fee_recipient
        buyback_fee_recipient =
      V2TradeAccounts.derive base_mint constants.NATIVE_MINT quote_token_program user creator
        fee_recipient buyback_fee_recipient := by
  simp only [V2TradeAccounts.derive, ↓reduceIte, ite_self]

/-- Neither key is a quote the prelude has ATAs for. -/
theorem user_trade_atas_zero_quote (user base_mint : Pubkey) (bonding_curve : BondingCurve)
    (base_token_program quote_token_program : Pubkey) (include_base : Bool) :
    PumpSdk.user_trade_atas user base_mint { bonding_curve with quote_mint := Pubkey.default }
        base_token_program quote_token_program include_base =
      PumpSdk.user_trade_atas user base_mint
        { bonding_curve with quote_mint := constants.NATIVE_MINT } base_token_program
        quote_token_program include_base := by
  simp [PumpSdk.user_trade_atas]

/-- The assertion on the layout passes, and the quote mint is account 3. -/
theorem PumpSdk.migrate_v2_instruction_quote {ε : Type} (base_mint quote_mint user withdraw_authority
    base_token_program quote_token_program : Pubkey) :
    ∃ ix, (migrate_v2_instruction base_mint quote_mint user withdraw_authority base_token_program
        quote_token_program : Outcome ε Instruction) = .ok ix ∧
      ix.accounts[3]? = some (AccountMeta.new_readonly quote_mint false) := by
  have hlayout : (migrate_v2_accounts base_mint quote_mint user withdraw_authority
      base_token_program quote_token_program).length = 27 := rfl
  rw [migrate_v2_instruction, if_neg (not_not.mpr hlayout)]
  exact ⟨_, rfl, rfl⟩

variable [PumpSdk.Draws]

namespace QuoteBuilder

/-- Every builder but the migration resolves the zero key before it derives. -/
theorem build_zero_quote {builder : QuoteBuilder} (h : ¬ builder.IsMigration) :
    builder.build Pubkey.default = builder.build constants.NATIVE_MINT := by
  cases builder with
  | migrate_v2_instruction => exact absurd trivial h
  | create_v2_instruction => simp only [build, PumpSdk.create_v2_instruction, ↓reduceIte, ite_self]
  | create_v2_and_buy_instruction | create_coin_instructions =>
    simp only [build, PumpSdk.create_v2_and_buy_instruction, PumpSdk.create_coin_instructions,
      PumpSdk.create_v2_instruction, PumpSdk.bonding_curve_preview_zero_quote, ↓reduceIte, ite_self]
  | buy_v2_instruction | buy_exact_quote_in_v2_instruction | sell_v2_instruction =>
    simp only [build, PumpSdk.buy_v2_instruction, PumpSdk.buy_exact_quote_in_v2_instruction,
      PumpSdk.sell_v2_instruction, PumpSdk.buy_v2_instruction_with_recipients,
      PumpSdk.buy_exact_quote_in_v2_instruction_with_recipients,
      PumpSdk.sell_v2_instruction_with_recipients, V2TradeAccounts.derive_zero_quote]
  | buy_v2_instructions | buy_exact_quote_in_v2_instructions | sell_v2_instructions =>
    simp only [build, PumpSdk.buy_v2_instructions, PumpSdk.buy_exact_quote_in_v2_instructions,
      PumpSdk.sell_v2_instructions, PumpSdk.buy_v2_instruction_with_recipients,
      PumpSdk.buy_exact_quote_in_v2_instruction_with_recipients,
      PumpSdk.sell_v2_instruction_with_recipients, V2TradeAccounts.derive_zero_quote,
      user_trade_atas_zero_quote]
  | buy_v3_instruction | buy_exact_quote_in_v3_instruction | sell_v3_instruction =>
    simp only [build, PumpSdk.buy_v3_instruction, PumpSdk.buy_exact_quote_in_v3_instruction,
      PumpSdk.sell_v3_instruction, V3Trade.new_zero_quote]
  | buy_v3_instructions | buy_exact_quote_in_v3_instructions | sell_v3_instructions =>
    simp only [build, PumpSdk.buy_v3_instructions, PumpSdk.buy_exact_quote_in_v3_instructions,
      PumpSdk.sell_v3_instructions, V3Trade.new_zero_quote]
  | sweep_creator_fee_instruction =>
    simp only [build, PumpSdk.sweep_creator_fee_instruction, PumpSdk.resolve_quote_mint,
      ↓reduceIte, ite_self]
  | claim_cashback_v2_instruction =>
    simp only [build, PumpSdk.claim_cashback_v2_instruction, ↓reduceIte, ite_self]
  | collect_creator_fee_v2_instruction =>
    simp only [build, PumpSdk.collect_creator_fee_v2_instruction, ↓reduceIte, ite_self]
  | collect_creator_fee_v2_instructions =>
    simp only [build, PumpSdk.collect_creator_fee_v2_instructions, ↓reduceIte, ite_self]
  | distribute_creator_fees_v2_instruction =>
    simp only [build, PumpSdk.distribute_creator_fees_v2_instruction, ↓reduceIte, ite_self]
  | distribute_creator_fees_v2_instructions =>
    simp only [build, PumpSdk.distribute_creator_fees_v2_instructions, ↓reduceIte, ite_self]
  | multi_hop_curve =>
    simp only [build, MultiHopHop.curve, PumpSdk.resolve_quote_mint, ↓reduceIte, ite_self]

/-- Two quote mints migrate by two instructions. -/
theorem build_migration_injective {builder : QuoteBuilder} (h : builder.IsMigration) :
    Function.Injective fun quote_mint => builder.build quote_mint := by
  intro quote_mint quote_mint' heq
  cases builder with
  | migrate_v2_instruction base_mint user withdraw_authority base_token_program
      quote_token_program =>
    obtain ⟨ix, hix, hquote⟩ := PumpSdk.migrate_v2_instruction_quote (ε := Empty) base_mint
      quote_mint user withdraw_authority base_token_program quote_token_program
    obtain ⟨ix', hix', hquote'⟩ := PumpSdk.migrate_v2_instruction_quote (ε := Empty) base_mint
      quote_mint' user withdraw_authority base_token_program quote_token_program
    simp only [build, Built.fallible, hix, hix', Outcome.ok_bind, Built.instructions.injEq,
      Except.ok.injEq, Option.some_inj, List.cons.injEq, and_true] at heq
    subst heq
    rw [hquote, Option.some_inj] at hquote'
    exact congrArg AccountMeta.pubkey hquote'
  | _ => exact absurd h id

/-- The zero key and wSOL build the same for every builder but the
    migration. -/
theorem zero_quote_interchangeable_iff (builder : QuoteBuilder) :
    builder.build Pubkey.default = builder.build constants.NATIVE_MINT ↔
      ¬ builder.IsMigration := by
  constructor
  · intro heq hmigration
    have hkeys : Pubkey.default = constants.NATIVE_MINT := build_migration_injective hmigration heq
    exact absurd hkeys (by decide)
  · exact build_zero_quote

end QuoteBuilder

end ZeroQuote

/-- The migration of a legacy SOL curve, whose stored quote is the zero key, is
    built for that key and not for wSOL. -/
theorem migrate_v2_zero_quote_kept :
    letI : Solana := usdcCurveAddresses
    letI : PumpSdk.Draws := firstDraws
    let migration := QuoteBuilder.migrate_v2_instruction ⟨13⟩ ⟨11⟩ ⟨3⟩
      constants.SPL_TOKEN_2022_PROGRAM_ID constants.SPL_TOKEN_PROGRAM_ID
    migration.build Pubkey.default ≠ migration.build constants.NATIVE_MINT := by
  let _ : Solana := usdcCurveAddresses
  let _ : PumpSdk.Draws := firstDraws
  intro migration heq
  have hmigration : migration.IsMigration := trivial
  have hkeys : Pubkey.default = constants.NATIVE_MINT :=
    QuoteBuilder.build_migration_injective hmigration heq
  exact absurd hkeys (by decide)

end pump_rust_client.sdk
