import PumpClient.Borsh.Layout
import PumpClient.State

open machine borsh

namespace pump_rust_client.state

/-- The 32 bytes of a key. -/
def pubkey : Codec Pubkey :=
  .ofBytes 32 (fun key => (leBytes 32 key.bytes.toNat).reverse)
    (fun bytes => ⟨BitVec.ofNat 256 (ofLeBytes bytes.reverse)⟩) Pubkey.default
    (fun _ => by rw [List.length_reverse, length_leBytes])
    (fun key => by
      rw [List.reverse_reverse, ofLeBytes_leBytes key.bytes.isLt, BitVec.ofNat_toNat,
        BitVec.setWidth_eq])
    (fun bytes h => by
      have hlength : bytes.reverse.length = 32 := List.length_reverse.trans h
      have hlt : ofLeBytes bytes.reverse < 2 ^ 256 := ofLeBytes_lt_two_pow (by omega)
      rw [BitVec.toNat_ofNat, Nat.mod_eq_of_lt hlt, ← hlength, leBytes_ofLeBytes,
        List.reverse_reverse])
    (by
      have hzero : Pubkey.default.bytes.toNat = 0 := rfl
      rw [hzero, leBytes_zero, List.reverse_replicate])

theorem cast_two_complement (a : I128) :
    I128.cast (ofLeBytes (leBytes 16 (BitVec.ofInt 128 a.val).toNat)) = a := by
  have hrange := a.range
  rw [ofLeBytes_leBytes (BitVec.ofInt 128 a.val).isLt, BitVec.toNat_ofInt]
  apply I128.ext
  simp only [I128.cast, I128.wrap]
  omega

theorem two_complement_cast (bytes : List UInt8) (h : bytes.length = 16) :
    leBytes 16 (BitVec.ofInt 128 (I128.cast (ofLeBytes bytes)).val).toNat = bytes := by
  have hlt : ofLeBytes bytes < 2 ^ 128 := ofLeBytes_lt_two_pow (by omega)
  have hvalue : (BitVec.ofInt 128 (I128.cast (ofLeBytes bytes)).val).toNat = ofLeBytes bytes := by
    rw [BitVec.toNat_ofInt]
    simp only [I128.cast, I128.wrap]
    omega
  rw [hvalue, ← h, leBytes_ofLeBytes]

theorem two_complement_zero :
    leBytes 16 (BitVec.ofInt 128 (I128.from_u64 0).val).toNat = List.replicate 16 0 :=
  leBytes_zero 16

/-- Two's complement. -/
def i128 : Codec I128 :=
  .ofBytes 16 (fun a => leBytes 16 (BitVec.ofInt 128 a.val).toNat)
    (fun bytes => I128.cast (ofLeBytes bytes)) (I128.from_u64 0) (fun _ => length_leBytes _ _)
    cast_two_complement two_complement_cast two_complement_zero

def Fees.fields : List (RecordField Fees) :=
  [⟨.u64, Fees.lp_fee_bps⟩, ⟨.u64, Fees.protocol_fee_bps⟩, ⟨.u64, Fees.creator_fee_bps⟩]

def Fees.layout : Layout Fees where
  fields := Fees.fields
  build
    | (lp_fee_bps, protocol_fee_bps, creator_fee_bps, _) =>
      { lp_fee_bps, protocol_fee_bps, creator_fee_bps }
  build_of _ := rfl
  of_build _ := rfl

def FeeTier.fields : List (RecordField FeeTier) :=
  [⟨.u128, FeeTier.market_cap_lamports_threshold⟩, ⟨Fees.layout.codec, FeeTier.fees⟩]

def FeeTier.layout : Layout FeeTier where
  fields := FeeTier.fields
  build
    | (market_cap_lamports_threshold, fees, _) =>
      { market_cap_lamports_threshold, fees }
  build_of _ := rfl
  of_build _ := rfl

def BondingCurve.fields : List (RecordField BondingCurve) :=
  [⟨.u64, BondingCurve.virtual_token_reserves⟩, ⟨.u64, BondingCurve.virtual_quote_reserves⟩,
    ⟨.u64, BondingCurve.real_token_reserves⟩, ⟨.u64, BondingCurve.real_quote_reserves⟩,
    ⟨.u64, BondingCurve.token_total_supply⟩, ⟨.bool, BondingCurve.complete⟩,
    ⟨pubkey, BondingCurve.creator⟩, ⟨.bool, BondingCurve.is_mayhem_mode⟩,
    ⟨.bool, BondingCurve.is_cashback_coin⟩, ⟨pubkey, BondingCurve.quote_mint⟩,
    ⟨.u64, BondingCurve.creator_fee_bps⟩, ⟨.bool, BondingCurve.can_edit_creator_fee⟩,
    ⟨.bool, BondingCurve.is_holder_reward⟩, ⟨.u64, BondingCurve.creator_fee⟩,
    ⟨.u64, BondingCurve.protocol_fees⟩, ⟨.u8, BondingCurve.depth⟩,
    ⟨.u64, BondingCurve.initial_virtual_quote_reserves⟩,
    ⟨.u64, BondingCurve.post_complete_base_out⟩, ⟨.u64, BondingCurve.post_complete_quote_in⟩]

def BondingCurve.layout : Layout BondingCurve where
  fields := BondingCurve.fields
  build
    | (virtual_token_reserves, virtual_quote_reserves, real_token_reserves, real_quote_reserves,
      token_total_supply, complete, creator, is_mayhem_mode, is_cashback_coin, quote_mint,
      creator_fee_bps, can_edit_creator_fee, is_holder_reward, creator_fee, protocol_fees, depth,
      initial_virtual_quote_reserves, post_complete_base_out, post_complete_quote_in, _) =>
      { virtual_token_reserves, virtual_quote_reserves, real_token_reserves, real_quote_reserves,
        token_total_supply, complete, creator, is_mayhem_mode, is_cashback_coin, quote_mint,
        creator_fee_bps, can_edit_creator_fee, is_holder_reward, creator_fee, protocol_fees, depth,
        initial_virtual_quote_reserves, post_complete_base_out, post_complete_quote_in }
  build_of _ := rfl
  of_build _ := rfl

def Global.fields : List (RecordField Global) :=
  [⟨.bool, Global.initialized⟩, ⟨pubkey, Global.authority⟩, ⟨pubkey, Global.fee_recipient⟩,
    ⟨.u64, Global.initial_virtual_token_reserves⟩, ⟨.u64, Global.initial_virtual_sol_reserves⟩,
    ⟨.u64, Global.initial_real_token_reserves⟩, ⟨.u64, Global.token_total_supply⟩,
    ⟨.u64, Global.fee_basis_points⟩, ⟨pubkey, Global.withdraw_authority⟩,
    ⟨.bool, Global.enable_migrate⟩, ⟨.u64, Global.pool_migration_fee⟩,
    ⟨.u64, Global.creator_fee_basis_points⟩, ⟨pubkey.array 7, Global.fee_recipients⟩,
    ⟨pubkey, Global.set_creator_authority⟩, ⟨pubkey, Global.admin_set_creator_authority⟩,
    ⟨.bool, Global.create_v2_enabled⟩, ⟨pubkey, Global.whitelist_pda⟩,
    ⟨pubkey, Global.reserved_fee_recipient⟩, ⟨.bool, Global.mayhem_mode_enabled⟩,
    ⟨pubkey.array 7, Global.reserved_fee_recipients⟩, ⟨.bool, Global.is_cashback_enabled⟩,
    ⟨pubkey.array 8, Global.buyback_fee_recipients⟩, ⟨.u64, Global.buyback_basis_points⟩,
    ⟨.u64, Global.initial_virtual_quote_reserves⟩, ⟨pubkey.array 1, Global.whitelisted_quote_mints⟩,
    ⟨.bool, Global.creator_fee_configurable⟩, ⟨.u64, Global.max_configurable_creator_fee_bps⟩,
    ⟨pubkey, Global.holder_reward_claim_authority⟩, ⟨.bool, Global.is_holder_reward_enabled⟩,
    ⟨.u8, Global.max_curve_depth⟩]

def Global.layout : Layout Global where
  fields := Global.fields
  build
    | (initialized, authority, fee_recipient, initial_virtual_token_reserves,
      initial_virtual_sol_reserves, initial_real_token_reserves, token_total_supply,
      fee_basis_points, withdraw_authority, enable_migrate, pool_migration_fee,
      creator_fee_basis_points, fee_recipients, set_creator_authority, admin_set_creator_authority,
      create_v2_enabled, whitelist_pda, reserved_fee_recipient, mayhem_mode_enabled,
      reserved_fee_recipients, is_cashback_enabled, buyback_fee_recipients, buyback_basis_points,
      initial_virtual_quote_reserves, whitelisted_quote_mints, creator_fee_configurable,
      max_configurable_creator_fee_bps, holder_reward_claim_authority, is_holder_reward_enabled,
      max_curve_depth, _) =>
      { initialized, authority, fee_recipient, initial_virtual_token_reserves,
        initial_virtual_sol_reserves, initial_real_token_reserves, token_total_supply,
        fee_basis_points, withdraw_authority, enable_migrate, pool_migration_fee,
        creator_fee_basis_points, fee_recipients, set_creator_authority,
        admin_set_creator_authority, create_v2_enabled, whitelist_pda, reserved_fee_recipient,
        mayhem_mode_enabled, reserved_fee_recipients, is_cashback_enabled, buyback_fee_recipients,
        buyback_basis_points, initial_virtual_quote_reserves, whitelisted_quote_mints,
        creator_fee_configurable, max_configurable_creator_fee_bps, holder_reward_claim_authority,
        is_holder_reward_enabled, max_curve_depth }
  build_of _ := rfl
  of_build _ := rfl

namespace pump_amm

def GlobalConfig.fields : List (RecordField GlobalConfig) :=
  [⟨pubkey, GlobalConfig.admin⟩, ⟨.u64, GlobalConfig.lp_fee_basis_points⟩,
    ⟨.u64, GlobalConfig.protocol_fee_basis_points⟩, ⟨.u8, GlobalConfig.disable_flags⟩,
    ⟨pubkey.array 8, GlobalConfig.protocol_fee_recipients⟩,
    ⟨.u64, GlobalConfig.coin_creator_fee_basis_points⟩,
    ⟨pubkey, GlobalConfig.admin_set_coin_creator_authority⟩, ⟨pubkey, GlobalConfig.whitelist_pda⟩,
    ⟨pubkey, GlobalConfig.reserved_fee_recipient⟩, ⟨.bool, GlobalConfig.mayhem_mode_enabled⟩,
    ⟨pubkey.array 7, GlobalConfig.reserved_fee_recipients⟩,
    ⟨.bool, GlobalConfig.is_cashback_enabled⟩,
    ⟨pubkey.array 8, GlobalConfig.buyback_fee_recipients⟩,
    ⟨.u64, GlobalConfig.buyback_basis_points⟩, ⟨pubkey, GlobalConfig.boost_authority⟩,
    ⟨.bool, GlobalConfig.boost_enabled⟩, ⟨.bool, GlobalConfig.creator_fee_configurable⟩,
    ⟨.u64, GlobalConfig.max_configurable_creator_fee_bps⟩]

def GlobalConfig.layout : Layout GlobalConfig where
  fields := GlobalConfig.fields
  build
    | (admin, lp_fee_basis_points, protocol_fee_basis_points, disable_flags, protocol_fee_recipients,
      coin_creator_fee_basis_points, admin_set_coin_creator_authority, whitelist_pda,
      reserved_fee_recipient, mayhem_mode_enabled, reserved_fee_recipients, is_cashback_enabled,
      buyback_fee_recipients, buyback_basis_points, boost_authority, boost_enabled,
      creator_fee_configurable, max_configurable_creator_fee_bps, _) =>
      { admin, lp_fee_basis_points, protocol_fee_basis_points, disable_flags,
        protocol_fee_recipients, coin_creator_fee_basis_points, admin_set_coin_creator_authority,
        whitelist_pda, reserved_fee_recipient, mayhem_mode_enabled, reserved_fee_recipients,
        is_cashback_enabled, buyback_fee_recipients, buyback_basis_points, boost_authority,
        boost_enabled, creator_fee_configurable, max_configurable_creator_fee_bps }
  build_of _ := rfl
  of_build _ := rfl

def Pool.fields : List (RecordField Pool) :=
  [⟨.u8, Pool.pool_bump⟩, ⟨.u16, Pool.index⟩, ⟨pubkey, Pool.creator⟩, ⟨pubkey, Pool.base_mint⟩,
    ⟨pubkey, Pool.quote_mint⟩, ⟨pubkey, Pool.lp_mint⟩, ⟨pubkey, Pool.pool_base_token_account⟩,
    ⟨pubkey, Pool.pool_quote_token_account⟩, ⟨.u64, Pool.lp_supply⟩, ⟨pubkey, Pool.coin_creator⟩,
    ⟨.bool, Pool.is_mayhem_mode⟩, ⟨.bool, Pool.is_cashback_coin⟩,
    ⟨i128, Pool.virtual_quote_reserves⟩, ⟨.u64, Pool.creator_fee_bps⟩,
    ⟨.bool, Pool.can_edit_creator_fee⟩, ⟨.bool, Pool.is_holder_reward⟩, ⟨.u64, Pool.protocol_fees⟩,
    ⟨.u64, Pool.creator_fees⟩]

def Pool.layout : Layout Pool where
  fields := Pool.fields
  build
    | (pool_bump, index, creator, base_mint, quote_mint, lp_mint, pool_base_token_account,
      pool_quote_token_account, lp_supply, coin_creator, is_mayhem_mode, is_cashback_coin,
      virtual_quote_reserves, creator_fee_bps, can_edit_creator_fee, is_holder_reward,
      protocol_fees, creator_fees, _) =>
      { pool_bump, index, creator, base_mint, quote_mint, lp_mint, pool_base_token_account,
        pool_quote_token_account, lp_supply, coin_creator, is_mayhem_mode, is_cashback_coin,
        virtual_quote_reserves, creator_fee_bps, can_edit_creator_fee, is_holder_reward,
        protocol_fees, creator_fees }
  build_of _ := rfl
  of_build _ := rfl

end pump_amm

end pump_rust_client.state
