import PumpClient.Machine.Integers

namespace pump_rust_client

/-- A 32-byte key, read as a big-endian number. -/
structure Pubkey where
  bytes : BitVec 256
  deriving DecidableEq, Repr

/-- `Pubkey::default()`, the zero key. -/
def Pubkey.default : Pubkey := ⟨0⟩

namespace constants

/-- `So11111111111111111111111111111111111111112`. -/
def NATIVE_MINT : Pubkey := ⟨0x069b8857feab8184fb687f634618c035dac439dc1aeb3b5598a0f00000000001⟩

/-- `9pan9bMn5HatX4EJdBwg9VgCa7Uz5HL8N1m5D3NdXej9`. -/
def TOKEN_2022_NATIVE_MINT : Pubkey :=
  ⟨0x830dfc9fde5fe6b8aa7c04a476e91e8ac6bb264aad90fa19c9df49d85c3e5b50⟩

/-- `EPjFWdd5AufqSSqeM2qN1xzybapC8G4wEGGkZwyTDt1v`. -/
def USDC_MINT : Pubkey := ⟨0xc6fa7af3bedbad3a3d65f36aabc97431b1bbe4c2d2f6e0e47ca60203452f5d61⟩

end constants

namespace state

structure Fees where
  lp_fee_bps : UInt64
  protocol_fee_bps : UInt64
  creator_fee_bps : UInt64
  deriving DecidableEq

structure FeeTier where
  market_cap_lamports_threshold : BitVec 128
  fees : Fees
  deriving DecidableEq

structure FeeConfig where
  bump : UInt8
  admin : Pubkey
  flat_fees : Fees
  fee_tiers : List FeeTier
  stable_fee_tiers : List FeeTier
  exotic_flat_fees : Fees

structure BondingCurve where
  virtual_token_reserves : UInt64
  virtual_quote_reserves : UInt64
  real_token_reserves : UInt64
  real_quote_reserves : UInt64
  token_total_supply : UInt64
  complete : Bool
  creator : Pubkey
  is_mayhem_mode : Bool
  is_cashback_coin : Bool
  quote_mint : Pubkey
  creator_fee_bps : UInt64
  can_edit_creator_fee : Bool
  is_holder_reward : Bool
  creator_fee : UInt64
  protocol_fees : UInt64
  depth : UInt8
  initial_virtual_quote_reserves : UInt64
  post_complete_base_out : UInt64
  post_complete_quote_in : UInt64

structure Global where
  initialized : Bool
  authority : Pubkey
  fee_recipient : Pubkey
  initial_virtual_token_reserves : UInt64
  initial_virtual_sol_reserves : UInt64
  initial_real_token_reserves : UInt64
  token_total_supply : UInt64
  fee_basis_points : UInt64
  withdraw_authority : Pubkey
  enable_migrate : Bool
  pool_migration_fee : UInt64
  creator_fee_basis_points : UInt64
  fee_recipients : Vector Pubkey 7
  set_creator_authority : Pubkey
  admin_set_creator_authority : Pubkey
  create_v2_enabled : Bool
  whitelist_pda : Pubkey
  reserved_fee_recipient : Pubkey
  mayhem_mode_enabled : Bool
  reserved_fee_recipients : Vector Pubkey 7
  is_cashback_enabled : Bool
  buyback_fee_recipients : Vector Pubkey 8
  buyback_basis_points : UInt64
  initial_virtual_quote_reserves : UInt64
  whitelisted_quote_mints : Vector Pubkey 1
  creator_fee_configurable : Bool
  max_configurable_creator_fee_bps : UInt64
  holder_reward_claim_authority : Pubkey
  is_holder_reward_enabled : Bool
  max_curve_depth : UInt8

/-- A mint the quote control admits, with the reserves its curves start on. -/
structure QuoteControlMint where
  mint : Pubkey
  initial_virtual_quote_reserves : UInt64

structure QuoteControl where
  admin : Pubkey
  reserves_admin : Pubkey
  _reserved : Vector UInt8 32
  mints : List QuoteControlMint

namespace pump_amm

structure GlobalConfig where
  admin : Pubkey
  lp_fee_basis_points : UInt64
  protocol_fee_basis_points : UInt64
  disable_flags : UInt8
  protocol_fee_recipients : Vector Pubkey 8
  coin_creator_fee_basis_points : UInt64
  admin_set_coin_creator_authority : Pubkey
  whitelist_pda : Pubkey
  reserved_fee_recipient : Pubkey
  mayhem_mode_enabled : Bool
  reserved_fee_recipients : Vector Pubkey 7
  is_cashback_enabled : Bool
  buyback_fee_recipients : Vector Pubkey 8
  buyback_basis_points : UInt64
  boost_authority : Pubkey
  boost_enabled : Bool
  creator_fee_configurable : Bool
  max_configurable_creator_fee_bps : UInt64

structure Pool where
  pool_bump : UInt8
  index : UInt16
  creator : Pubkey
  base_mint : Pubkey
  quote_mint : Pubkey
  lp_mint : Pubkey
  pool_base_token_account : Pubkey
  pool_quote_token_account : Pubkey
  lp_supply : UInt64
  coin_creator : Pubkey
  is_mayhem_mode : Bool
  is_cashback_coin : Bool
  virtual_quote_reserves : machine.I128
  creator_fee_bps : UInt64
  can_edit_creator_fee : Bool
  is_holder_reward : Bool
  protocol_fees : UInt64
  creator_fees : UInt64

end pump_amm

/-- `BondingCurve::default()`. -/
def BondingCurve.default : BondingCurve where
  virtual_token_reserves := 0
  virtual_quote_reserves := 0
  real_token_reserves := 0
  real_quote_reserves := 0
  token_total_supply := 0
  complete := false
  creator := Pubkey.default
  is_mayhem_mode := false
  is_cashback_coin := false
  quote_mint := Pubkey.default
  creator_fee_bps := 0
  can_edit_creator_fee := false
  is_holder_reward := false
  creator_fee := 0
  protocol_fees := 0
  depth := 0
  initial_virtual_quote_reserves := 0
  post_complete_base_out := 0
  post_complete_quote_in := 0

/-- `Global::default()`. -/
def Global.default : Global where
  initialized := false
  authority := Pubkey.default
  fee_recipient := Pubkey.default
  initial_virtual_token_reserves := 0
  initial_virtual_sol_reserves := 0
  initial_real_token_reserves := 0
  token_total_supply := 0
  fee_basis_points := 0
  withdraw_authority := Pubkey.default
  enable_migrate := false
  pool_migration_fee := 0
  creator_fee_basis_points := 0
  fee_recipients := Vector.replicate 7 Pubkey.default
  set_creator_authority := Pubkey.default
  admin_set_creator_authority := Pubkey.default
  create_v2_enabled := false
  whitelist_pda := Pubkey.default
  reserved_fee_recipient := Pubkey.default
  mayhem_mode_enabled := false
  reserved_fee_recipients := Vector.replicate 7 Pubkey.default
  is_cashback_enabled := false
  buyback_fee_recipients := Vector.replicate 8 Pubkey.default
  buyback_basis_points := 0
  initial_virtual_quote_reserves := 0
  whitelisted_quote_mints := Vector.replicate 1 Pubkey.default
  creator_fee_configurable := false
  max_configurable_creator_fee_bps := 0
  holder_reward_claim_authority := Pubkey.default
  is_holder_reward_enabled := false
  max_curve_depth := 0

/-- `GlobalConfig::default()`. -/
def pump_amm.GlobalConfig.default : pump_amm.GlobalConfig where
  admin := Pubkey.default
  lp_fee_basis_points := 0
  protocol_fee_basis_points := 0
  disable_flags := 0
  protocol_fee_recipients := Vector.replicate 8 Pubkey.default
  coin_creator_fee_basis_points := 0
  admin_set_coin_creator_authority := Pubkey.default
  whitelist_pda := Pubkey.default
  reserved_fee_recipient := Pubkey.default
  mayhem_mode_enabled := false
  reserved_fee_recipients := Vector.replicate 7 Pubkey.default
  is_cashback_enabled := false
  buyback_fee_recipients := Vector.replicate 8 Pubkey.default
  buyback_basis_points := 0
  boost_authority := Pubkey.default
  boost_enabled := false
  creator_fee_configurable := false
  max_configurable_creator_fee_bps := 0

/-- `Pool::default()`. -/
def pump_amm.Pool.default : pump_amm.Pool where
  pool_bump := 0
  index := 0
  creator := Pubkey.default
  base_mint := Pubkey.default
  quote_mint := Pubkey.default
  lp_mint := Pubkey.default
  pool_base_token_account := Pubkey.default
  pool_quote_token_account := Pubkey.default
  lp_supply := 0
  coin_creator := Pubkey.default
  is_mayhem_mode := false
  is_cashback_coin := false
  virtual_quote_reserves := machine.I128.from_u64 0
  creator_fee_bps := 0
  can_edit_creator_fee := false
  is_holder_reward := false
  protocol_fees := 0
  creator_fees := 0

end state

end pump_rust_client
