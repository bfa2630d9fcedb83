import PumpClient.AsyncClient.Discovery
import PumpClient.Sdk.PumpQuote
import PumpClient.Sdk.PumpV2

open machine

namespace pump_rust_client.async_client

open state state.pump_amm math math.amm sdk sdk.PumpSdk errors accounts

/-- `create_v2` inputs for a coin quoted in a pump coin. -/
structure PumpQuoteCreate where
  virtual_quote_reserves : UInt64
  depth : UInt8
  quote_token_program : Pubkey
  remaining_accounts : List AccountMeta

section

variable [Solana]

/-- Where a quote coin's pool is once it migrated. -/
def quote_pool_key (quote_mint : Pubkey) (quote_curve : BondingCurve) : Pubkey :=
  (pda.pump_amm.canonical_pool quote_mint (resolve_quote_mint quote_curve.quote_mint)).1

variable [AccountDeserialize Global] [AccountDeserialize QuoteControl]
  [AccountDeserialize BondingCurve] [AccountDeserialize Mint] [AccountDeserialize Pool]
  [AccountDeserialize TokenAccount]

section

variable [RpcClient]

/-- The pool of a completed quote coin, when it has migrated. -/
def fetch_quote_pool (pool_key : Pubkey) (quote_curve : BondingCurve) : Result (Option Pool) :=
  if quote_curve.complete then do
    let accounts ← RpcClient.get_multiple_accounts 1 [pool_key]
    match accounts.getLast?.join with
    | some account => do .ok (some (← decode_pool account.data))
    | none => .ok none
  else .ok none

/-- The vault balances of a pool. -/
def fetch_quote_vaults (pool : Option Pool) : Result (Option (UInt64 × UInt64)) :=
  match pool with
  | some pool => do
    let keys := [pool.pool_base_token_account, pool.pool_quote_token_account]
    let accounts ← RpcClient.get_multiple_accounts 2 keys
    .ok (some (← token_amount (← required accounts keys 0 "pool_base_token_account"),
      ← token_amount (← required accounts keys 1 "pool_quote_token_account")))
  | none => .ok none

/-- `create_v2` inputs for a coin quoted in pump coin `quote_mint`: the derived
    reserves and depth, the quote's token program and the remaining accounts to
    append. -/
def fetch_pump_quote_create (quote_mint : Pubkey) : Result PumpQuoteCreate := do
  let keys := [pda.pump.global.1, pda.pump.quote_control.1, (pda.pump.bonding_curve quote_mint).1,
    quote_mint]
  let accounts ← RpcClient.get_multiple_accounts 0 keys
  let global ← decode_global (← required accounts keys 0 "global").data
  let quote_control ← decode_quote_control (← required accounts keys 1 "quote_control").data
  let quote_curve ← decode_bonding_curve (← required accounts keys 2 "bonding_curve").data
  let (_, quote_token_program) ← mint_info (← required accounts keys 3 "quote_mint")
  -- Once the quote coin completes, its canonical pool (if migrated) prices it.
  let pool_key := quote_pool_key quote_mint quote_curve
  let pool ← fetch_quote_pool pool_key quote_curve
  let vaults ← fetch_quote_vaults pool
  let (virtual_quote_reserves, depth) ← Outcome.map_err .Quote
    (pump_quote_initial_virtual_quote_reserves global (some quote_control) quote_curve
      (pool.bind fun pool => vaults.map fun vaults => (pool, vaults)))
  .ok {
    virtual_quote_reserves
    depth
    quote_token_program
    remaining_accounts := create_v2_pump_quote_accounts quote_mint (pool.map fun pool => (pool_key, pool)) }

end

/-- The pool and vaults a quote coin has: none before it completes or while it
    awaits migration, and then those of its canonical pool. -/
inductive Snapshot.QuotePool (snapshot : Snapshot) (quote_mint : Pubkey) (quote_curve : BondingCurve) :
    Option (Pool × UInt64 × UInt64) → Prop
  | on_curve (h : quote_curve.complete = false) : QuotePool snapshot quote_mint quote_curve none
  | awaiting (h : quote_curve.complete = true)
      (habsent : snapshot (quote_pool_key quote_mint quote_curve) = none) :
      QuotePool snapshot quote_mint quote_curve none
  | on_pool {account base_account quote_account : Account} {pool : Pool} {base quote : UInt64}
      (h : quote_curve.complete = true)
      (haccount : snapshot (quote_pool_key quote_mint quote_curve) = some account)
      (hpool : decode_pool account.data = .ok pool)
      (hbase_account : snapshot pool.pool_base_token_account = some base_account)
      (hbase : token_amount base_account = .ok base)
      (hquote_account : snapshot pool.pool_quote_token_account = some quote_account)
      (hquote : token_amount quote_account = .ok quote) :
      QuotePool snapshot quote_mint quote_curve (some (pool, base, quote))

/-- A quote coin as the accounts have it. -/
structure Snapshot.QuoteCoin (snapshot : Snapshot) (quote_mint : Pubkey) (global : Global)
    (quote_control : QuoteControl) (quote_curve : BondingCurve) (quote_token_program : Pubkey)
    (quote_pool : Option (Pool × UInt64 × UInt64)) : Prop where
  global_at : ∃ account, snapshot pda.pump.global.1 = some account ∧
    decode_global account.data = .ok global
  quote_control_at : ∃ account, snapshot pda.pump.quote_control.1 = some account ∧
    decode_quote_control account.data = .ok quote_control
  quote_curve_at : ∃ account, snapshot (pda.pump.bonding_curve quote_mint).1 = some account ∧
    decode_bonding_curve account.data = .ok quote_curve
  mint_at : ∃ account, snapshot quote_mint = some account ∧
    ∃ supply, mint_info account = .ok (supply, quote_token_program)
  pool_at : snapshot.QuotePool quote_mint quote_curve quote_pool

variable [RpcClient] {snapshot : Snapshot} {quote_mint : Pubkey}

omit [AccountDeserialize Global] [AccountDeserialize QuoteControl]
  [AccountDeserialize BondingCurve] [AccountDeserialize Mint] in
/-- The pool fetch and the vault fetch together read the pool the coin has. -/
theorem fetch_quote_pool_ok_iff
    (hsnapshot : ∀ request keys, RpcClient.get_multiple_accounts request keys =
      .ok (keys.map snapshot))
    {quote_curve : BondingCurve} {pool : Option Pool} {vaults : Option (UInt64 × UInt64)} :
    fetch_quote_pool (quote_pool_key quote_mint quote_curve) quote_curve = .ok pool ∧
        fetch_quote_vaults pool = .ok vaults ↔
      ∃ quote_pool, snapshot.QuotePool quote_mint quote_curve quote_pool ∧
        pool = quote_pool.map Prod.fst ∧ vaults = quote_pool.map Prod.snd := by
  have hbase_key : ∀ base_key quote_key name, required ([base_key, quote_key].map snapshot)
      [base_key, quote_key] 0 name = snapshot.account name base_key := by
    intro base_key quote_key
    exact required_snapshot snapshot rfl
  have hquote_key : ∀ base_key quote_key name, required ([base_key, quote_key].map snapshot)
      [base_key, quote_key] 1 name = snapshot.account name quote_key := by
    intro base_key quote_key
    exact required_snapshot snapshot rfl
  have hlast : ([quote_pool_key quote_mint quote_curve].map snapshot).getLast?.join =
      snapshot (quote_pool_key quote_mint quote_curve) := rfl
  simp only [fetch_quote_pool, hsnapshot, Outcome.ok_bind, hlast]
  constructor
  · rintro ⟨hpool, hvaults⟩
    by_cases hcomplete : quote_curve.complete = true
    · rw [if_pos hcomplete] at hpool
      cases haccount : snapshot (quote_pool_key quote_mint quote_curve) with
      | none =>
        rw [haccount] at hpool
        cases hpool
        cases hvaults
        exact ⟨none, .awaiting hcomplete haccount, rfl, rfl⟩
      | some account =>
        rw [haccount] at hpool
        obtain ⟨pool, hdecode, hpool⟩ := Outcome.bind_eq_ok_iff.mp hpool
        cases hpool
        simp only [fetch_quote_vaults, hsnapshot, Outcome.ok_bind, hbase_key, hquote_key,
          Outcome.bind_eq_ok_iff, Snapshot.account_eq_ok_iff] at hvaults
        obtain ⟨base_account, hbase_account, base, hbase, quote_account, hquote_account, quote, hquote,
          hvaults⟩ := hvaults
        cases hvaults
        exact ⟨some (pool, base, quote), .on_pool hcomplete haccount hdecode hbase_account hbase
          hquote_account hquote, rfl, rfl⟩
    · rw [if_neg hcomplete] at hpool
      cases hpool
      cases hvaults
      exact ⟨none, .on_curve (by simpa using hcomplete), rfl, rfl⟩
  · rintro ⟨quote_pool, hread, rfl, rfl⟩
    cases hread with
    | on_curve h => simp [h, fetch_quote_vaults]
    | awaiting h habsent => simp [h, habsent, fetch_quote_vaults]
    | on_pool h haccount hpool hbase_account hbase hquote_account hquote =>
      simp only [fetch_quote_vaults, h, haccount, hpool, hsnapshot, Outcome.ok_bind, hbase_key,
        hquote_key, Snapshot.account_eq_ok_iff.mpr hbase_account,
        Snapshot.account_eq_ok_iff.mpr hquote_account, hbase, hquote, if_true, Option.map_some,
        and_self]

/-- What a fetch returns is derived from the coin the accounts have. -/
theorem fetch_pump_quote_create_ok_iff
    (hsnapshot : ∀ request keys, RpcClient.get_multiple_accounts request keys =
      .ok (keys.map snapshot))
    {create : PumpQuoteCreate} :
    fetch_pump_quote_create quote_mint = .ok create ↔
      ∃ global quote_control quote_curve quote_token_program quote_pool derived depth,
        snapshot.QuoteCoin quote_mint global quote_control quote_curve quote_token_program
          quote_pool ∧
        pump_quote_initial_virtual_quote_reserves global (some quote_control) quote_curve
          quote_pool = .ok (derived, depth) ∧
        create = ⟨derived, depth, quote_token_program, create_v2_pump_quote_accounts quote_mint
          (quote_pool.map fun pool => (quote_pool_key quote_mint quote_curve, pool.1))⟩ := by
  have hkey : ∀ {i key rest}, [pda.pump.global.1, pda.pump.quote_control.1,
      (pda.pump.bonding_curve quote_mint).1, quote_mint].drop i = key :: rest → ∀ name,
      required ([pda.pump.global.1, pda.pump.quote_control.1, (pda.pump.bonding_curve quote_mint).1,
        quote_mint].map snapshot) _ i name = snapshot.account name key :=
    fun hdrop name => required_snapshot snapshot hdrop name
  simp only [fetch_pump_quote_create, hsnapshot, Outcome.ok_bind, hkey (i := 0) rfl,
    hkey (i := 1) rfl, hkey (i := 2) rfl, hkey (i := 3) rfl, Outcome.bind_eq_ok_iff,
    Snapshot.account_eq_ok_iff, Outcome.map_err_eq_ok_iff, Except.ok.injEq, Prod.exists]
  constructor
  · rintro ⟨_, hglobal, global, hglobal_decode, _, hcontrol, quote_control, hcontrol_decode, _, hcurve,
      quote_curve, hcurve_decode, _, hmint, supply, program, hinfo, pool, hpool, vaults, hvaults,
      derived, depth, hseed, rfl⟩
    obtain ⟨quote_pool, hread, rfl, rfl⟩ := (fetch_quote_pool_ok_iff hsnapshot).mp ⟨hpool, hvaults⟩
    refine ⟨global, quote_control, quote_curve, program, quote_pool, derived, depth,
      ⟨⟨_, hglobal, hglobal_decode⟩, ⟨_, hcontrol, hcontrol_decode⟩, ⟨_, hcurve, hcurve_decode⟩,
        ⟨_, hmint, supply, hinfo⟩, hread⟩, ?_, ?_⟩
    · cases quote_pool with
      | none => exact hseed
      | some pool => exact hseed
    · rw [Option.map_map]
      rfl
  · rintro ⟨global, quote_control, quote_curve, program, quote_pool, derived, depth,
      ⟨⟨_, hglobal, hglobal_decode⟩, ⟨_, hcontrol, hcontrol_decode⟩, ⟨_, hcurve, hcurve_decode⟩,
        ⟨_, hmint, supply, hinfo⟩, hread⟩, hseed, rfl⟩
    obtain ⟨hpool, hvaults⟩ := (fetch_quote_pool_ok_iff hsnapshot).mpr ⟨quote_pool, hread, rfl, rfl⟩
    refine ⟨_, hglobal, global, hglobal_decode, _, hcontrol, quote_control, hcontrol_decode, _, hcurve,
      quote_curve, hcurve_decode, _, hmint, supply, program, hinfo, _, hpool, _, hvaults, derived, depth,
      ?_, ?_⟩
    · cases quote_pool with
      | none => exact hseed
      | some pool => exact hseed
    · rw [Option.map_map]
      rfl

omit [AccountDeserialize Global] [AccountDeserialize QuoteControl]
  [AccountDeserialize BondingCurve] [AccountDeserialize Mint] [RpcClient] in
/-- The reserves a quote coin prices a seed on are those of the venue a route
    takes through it: its curve's own, or its pool's once it migrated. -/
theorem Snapshot.QuotePool.reserves {quote_curve : BondingCurve}
    {quote_pool : Option (Pool × UInt64 × UInt64)} {base : UInt64} {quote : Nat}
    (h : snapshot.QuotePool quote_mint quote_curve quote_pool)
    (hreserves : pump_quote_reserves quote_curve quote_pool = .ok (base, quote)) :
    (curve_venue quote_mint quote_curve = .Curve quote_mint ∧ quote_pool = none ∧
      base = quote_curve.virtual_token_reserves ∧
        quote = quote_curve.virtual_quote_reserves.toNat) ∨
    ∃ pool quote_vault,
      curve_venue quote_mint quote_curve = .Pool (quote_pool_key quote_mint quote_curve) ∧
      quote_pool = some (pool, base, quote_vault) ∧
        (quote : Int) = quote_vault.toNat + pool.virtual_quote_reserves.val := by
  unfold pump_quote_reserves at hreserves
  cases h with
  | on_curve h =>
    split at hreserves
    · cases hreserves
    · rw [if_neg (by simp [h])] at hreserves
      cases hreserves
      exact .inl ⟨by simp [curve_venue, h], rfl, rfl, rfl⟩
  | awaiting h habsent =>
    rw [if_pos h] at hreserves
    split at hreserves
    · cases hreserves
    · cases hreserves
  | @on_pool _ _ _ pool _ quote_vault h =>
    rw [if_pos h] at hreserves
    split at hreserves
    · simp only [Outcome.ok_or_some, Outcome.ok_bind, Outcome.bind_eq_ok_iff, Outcome.ok_or_eq_ok_iff,
        Option.bind_eq_some_iff, I128.checked_add_eq_some_iff, Except.ok.injEq, Prod.mk.injEq]
        at hreserves
      obtain ⟨_, ⟨sum, hsum, hquote⟩, rfl, rfl⟩ := hreserves
      have hvault : (I128.from_u64 quote_vault).val = quote_vault.toNat := rfl
      rw [U128.try_from_int_eq_some_iff] at hquote
      exact .inr ⟨pool, quote_vault, by simp [curve_venue, h, quote_pool_key], rfl,
        by rw [hquote, hsum, hvault]⟩
    · cases hreserves

/-- A create lists the accounts its seed was priced on. The seed is derived from
    the quote coin the accounts have, on the reserves of the venue a route takes
    through that coin: its curve, which alone is listed, or the canonical pool it
    migrated to, which is listed with its vaults. A completed coin without that
    pool seeds nothing. -/
theorem pump_quote_create_lists_priced
    (hsnapshot : ∀ request keys, RpcClient.get_multiple_accounts request keys =
      .ok (keys.map snapshot))
    {create : PumpQuoteCreate} (h : fetch_pump_quote_create quote_mint = .ok create) :
    ∃ global quote_control quote_curve quote_pool target base quote,
      snapshot.QuoteCoin quote_mint global quote_control quote_curve create.quote_token_program
        quote_pool ∧
      PumpQuoteSeed global (some quote_control) quote_curve quote_pool create.virtual_quote_reserves
        create.depth target base quote ∧
      ((curve_venue quote_mint quote_curve = .Curve quote_mint ∧
          base = quote_curve.virtual_token_reserves ∧
          quote = quote_curve.virtual_quote_reserves.toNat ∧
          create.remaining_accounts.map AccountMeta.pubkey =
            [(pda.pump.bonding_curve quote_mint).1]) ∨
        ∃ key pool quote_vault, curve_venue quote_mint quote_curve = .Pool key ∧
          quote_pool = some (pool, base, quote_vault) ∧
          (quote : Int) = quote_vault.toNat + pool.virtual_quote_reserves.val ∧
          create.remaining_accounts.map AccountMeta.pubkey =
            [(pda.pump.bonding_curve quote_mint).1, key, pool.pool_base_token_account,
              pool.pool_quote_token_account]) := by
  obtain ⟨global, quote_control, quote_curve, quote_token_program, quote_pool, derived, depth, hcoin,
    hderived, rfl⟩ := (fetch_pump_quote_create_ok_iff hsnapshot).mp h
  obtain ⟨target, base, quote, seed⟩ := pumpQuoteSeed_of_ok hderived
  refine ⟨global, quote_control, quote_curve, quote_pool, target, base, quote, hcoin, seed, ?_⟩
  rcases hcoin.pool_at.reserves seed.reserves_eq with
    ⟨hvenue, rfl, hbase, hquote⟩ | ⟨pool, quote_vault, hvenue, rfl, hquote⟩
  · exact .inl ⟨hvenue, hbase, hquote, rfl⟩
  · exact .inr ⟨_, pool, quote_vault, hvenue, rfl, hquote, rfl⟩

end

/-- A coin quoted in a coin at launch: priced on that coin's curve, which is
    listed. -/
theorem pump_quote_create_lists_priced_launch :
    letI : Solana := graduatedPoolAuthority
    ∃ create : PumpQuoteCreate, create.virtual_quote_reserves = 279_899_999_999_307 ∧
      create.depth = 1 ∧
      create.remaining_accounts.map AccountMeta.pubkey = [(pda.pump.bonding_curve ⟨11⟩).1] ∧
      ∃ global quote_control quote_curve quote_pool target,
        PumpQuoteSeed global (some quote_control) quote_curve quote_pool
          create.virtual_quote_reserves create.depth target 1_073_000_000_000_000 30_000_000_000 := by
  let _ : Solana := graduatedPoolAuthority
  let _ : AccountDeserialize Pool := ⟨fun _ => some graduatedPool⟩
  let _ : AccountDeserialize BondingCurve :=
    ⟨fun _ => some (quoteCurve 1_073_000_000_000_000 30_000_000_000)⟩
  let _ : AccountDeserialize Mint := ⟨fun _ => some ⟨1_000_000_000_000_000⟩⟩
  let _ : AccountDeserialize TokenAccount := ⟨fun _ => some ⟨1_000_000_000_000_000⟩⟩
  let _ : AccountDeserialize Global := ⟨fun _ => some nestingGlobal⟩
  let _ : AccountDeserialize QuoteControl := ⟨fun _ =>
    some ⟨Pubkey.default, Pubkey.default, Vector.replicate 32 0, []⟩⟩
  let _ : RpcClient := ⟨fun _ keys => .ok (keys.map launchSnapshot)⟩
  have hseed : pump_quote_initial_virtual_quote_reserves nestingGlobal
      (some ⟨Pubkey.default, Pubkey.default, Vector.replicate 32 0, []⟩)
      (quoteCurve 1_073_000_000_000_000 30_000_000_000) none = .ok (279_899_999_999_307, 1) := by
    decide +kernel
  have hcoin : launchSnapshot.QuoteCoin ⟨11⟩ nestingGlobal
      ⟨Pubkey.default, Pubkey.default, Vector.replicate 32 0, []⟩
      (quoteCurve 1_073_000_000_000_000 30_000_000_000) constants.SPL_TOKEN_2022_PROGRAM_ID none :=
    ⟨⟨_, rfl, rfl⟩, ⟨_, rfl, rfl⟩, ⟨_, rfl, rfl⟩, ⟨_, rfl, _, rfl⟩, .on_curve rfl⟩
  have hcreate := (fetch_pump_quote_create_ok_iff (fun _ _ => rfl)).mpr
    ⟨_, _, _, _, _, _, _, hcoin, hseed, rfl⟩
  obtain ⟨global, quote_control, quote_curve, quote_pool, target, base, quote, hpriced, seed, hlisted⟩ :=
    pump_quote_create_lists_priced (fun _ _ => rfl) hcreate
  obtain ⟨account, -, hdecode⟩ := hpriced.quote_curve_at
  cases hdecode
  rcases hlisted with ⟨-, rfl, rfl, hlisted⟩ | ⟨key, pool, quote_vault, hvenue, -⟩
  · exact ⟨_, rfl, rfl, hlisted, global, quote_control, _, quote_pool, target, seed⟩
  · cases hvenue

end pump_rust_client.async_client
