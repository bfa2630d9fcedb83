import PumpClient.State

namespace pump_rust_client

/-- One seed of a program-derived address. -/
inductive Seed where
  | bytes (s : String)
  | key (k : Pubkey)
  | le_bytes (n : UInt16)
  deriving DecidableEq

/-- `Pubkey::find_program_address`: the address derived from a list of seeds
    by a program, and its bump. -/
class Solana where
  find_program_address : List Seed → Pubkey → Pubkey × UInt8

namespace constants

/-- The SPL Token program. -/
def SPL_TOKEN_PROGRAM_ID : Pubkey :=
  ⟨0x06ddf6e1d765a193d9cbe146ceeb79ac1cb485ed5f5b37913a8cf5857eff00a9⟩

/-- The Token-2022 program. -/
def SPL_TOKEN_2022_PROGRAM_ID : Pubkey :=
  ⟨0x06ddf6e1ee758fde18425dbce46ccddab61afc4d83b90d27febdf928d8a18bfc⟩

/-- The associated-token-account program. -/
def SPL_ATA_PROGRAM_ID : Pubkey :=
  ⟨0x8c97258f4e2489f1bb3d1029148e0d830b5a1399daff1084048e7bd8dbe9f859⟩

/-- `pfeeUxB6jkeY1Hxd7CsFCAjcbHA9rWtchMGdZ6VojVZ`. -/
def FEE_PROGRAM_ID : Pubkey := ⟨0x0c35ffa9055a8e568da8f7bc075615274cf1c92ca41f40009c516aa414c27c70⟩

/-- The system program. -/
def SYSTEM_PROGRAM_ID : Pubkey := ⟨0⟩

/-- `MAyhSmzXzV1pTf7LsNkrNwkWKTo4ougAJ1PPg47MD4e`. -/
def MAYHEM_PROGRAM_ID : Pubkey := ⟨0x052ae5d7a7daa724a6eab0a7295491855ad4a0671660674c4e034559803d65a3⟩

/-- `SysvarRent111111111111111111111111111111111`. -/
def RENT_SYSVAR_ID : Pubkey := ⟨0x06a7d517192c5c51218cc94c3d4af17f58daee089ba1fd44e3dbd98a00000000⟩

namespace pump

/-- `6EF8rrecthR5Dkzon8Nwu78hRvfCKubJ14M5uBEwF6P`. -/
def PROGRAM_ID : Pubkey := ⟨0x0156e0f693665acf44db1568bf175baa5189cb97f5d2ff3b655d2bb6fd6d18b0⟩

def GLOBAL_SEED : String := "global"
def QUOTE_CONTROL_SEED : String := "quote-control"
def BONDING_CURVE_SEED : String := "bonding-curve"
def BONDING_CURVE_V2_SEED : String := "bonding-curve-v2"
def CREATOR_VAULT_SEED : String := "creator-vault"
def EVENT_AUTHORITY_SEED : String := "__event_authority"
def MINT_AUTHORITY_SEED : String := "mint-authority"
def POOL_AUTHORITY_SEED : String := "pool-authority"
def GLOBAL_VOLUME_ACCUMULATOR_SEED : String := "global_volume_accumulator"
def USER_VOLUME_ACCUMULATOR_SEED : String := "user_volume_accumulator"
def FEE_CONFIG_SEED : String := "fee_config"
def SHARING_CONFIG_SEED : String := "sharing-config"
def FEE_CONFIG_PROGRAM_SEED_KEY : Pubkey := PROGRAM_ID

end pump

namespace pump_amm

/-- `pAMMBay6oceH9fJKBRHGP5D4bD4sWpmSwMn52FMfXEA`. -/
def PROGRAM_ID : Pubkey := ⟨0x0c14defc825ec67694250818bb654065f4298d3156d571b4d4f8090c18e9a863⟩

def GLOBAL_CONFIG_SEED : String := "global_config"
def POOL_SEED : String := "pool"
def POOL_LP_MINT_SEED : String := "pool_lp_mint"
-- An underscore here, a hyphen in the bonding-curve program.
def CREATOR_VAULT_SEED : String := "creator_vault"
def EVENT_AUTHORITY_SEED : String := "__event_authority"
def GLOBAL_VOLUME_ACCUMULATOR_SEED : String := "global_volume_accumulator"
def USER_VOLUME_ACCUMULATOR_SEED : String := "user_volume_accumulator"
def POOL_V2_SEED : String := "pool-v2"
def FEE_CONFIG_SEED : String := "fee_config"
def FEE_CONFIG_PROGRAM_SEED_KEY : Pubkey := PROGRAM_ID
def BOOST_VAULT_AUTHORITY_SEED : String := "boost_vault"

end pump_amm

namespace pump_agent_payments

/-- `AgenTMiC2hvxGebTsgmsD4HHBa8WEcqGFf87iwRRxLo7`. -/
def PROGRAM_ID : Pubkey := ⟨0x8fe18e5987ab2aa40a6062aa3b99cfceda5d453665954371e92349750bd93736⟩

def GLOBAL_CONFIG_SEED : String := "global-config"
def TOKEN_AGENT_PAYMENTS_SEED : String := "token-agent-payments"
def EVENT_AUTHORITY_SEED : String := "__event_authority"

end pump_agent_payments

end constants

namespace pda

open Solana constants

variable [Solana]

/-- SPL associated token account PDA. -/
def associated_token (owner token_program mint : Pubkey) : Pubkey × UInt8 :=
  find_program_address [.key owner, .key token_program, .key mint] SPL_ATA_PROGRAM_ID

namespace pump

open constants.pump

def global : Pubkey × UInt8 := find_program_address [.bytes GLOBAL_SEED] PROGRAM_ID

def quote_control : Pubkey × UInt8 := find_program_address [.bytes QUOTE_CONTROL_SEED] PROGRAM_ID

def bonding_curve (mint : Pubkey) : Pubkey × UInt8 :=
  find_program_address [.bytes BONDING_CURVE_SEED, .key mint] PROGRAM_ID

/-- Remaining account on `buy` / `sell`. -/
def bonding_curve_v2 (mint : Pubkey) : Pubkey × UInt8 :=
  find_program_address [.bytes BONDING_CURVE_V2_SEED, .key mint] PROGRAM_ID

def creator_vault (creator : Pubkey) : Pubkey × UInt8 :=
  find_program_address [.bytes CREATOR_VAULT_SEED, .key creator] PROGRAM_ID

def event_authority : Pubkey × UInt8 :=
  find_program_address [.bytes EVENT_AUTHORITY_SEED] PROGRAM_ID

def mint_authority : Pubkey × UInt8 := find_program_address [.bytes MINT_AUTHORITY_SEED] PROGRAM_ID

def pool_authority (mint : Pubkey) : Pubkey × UInt8 :=
  find_program_address [.bytes POOL_AUTHORITY_SEED, .key mint] PROGRAM_ID

def global_volume_accumulator : Pubkey × UInt8 :=
  find_program_address [.bytes GLOBAL_VOLUME_ACCUMULATOR_SEED] PROGRAM_ID

def user_volume_accumulator (user : Pubkey) : Pubkey × UInt8 :=
  find_program_address [.bytes USER_VOLUME_ACCUMULATOR_SEED, .key user] PROGRAM_ID

def fee_config : Pubkey × UInt8 :=
  find_program_address [.bytes FEE_CONFIG_SEED, .key FEE_CONFIG_PROGRAM_SEED_KEY] FEE_PROGRAM_ID

/-- Per-mint fee-sharing config. -/
def sharing_config (mint : Pubkey) : Pubkey × UInt8 :=
  find_program_address [.bytes SHARING_CONFIG_SEED, .key mint] FEE_PROGRAM_ID

end pump

namespace mayhem

def PROGRAM_ID : Pubkey := MAYHEM_PROGRAM_ID
def GLOBAL_PARAMS_SEED : String := "global-params"
def SOL_VAULT_SEED : String := "sol-vault"
def MAYHEM_STATE_SEED : String := "mayhem-state"

def global_params : Pubkey × UInt8 := find_program_address [.bytes GLOBAL_PARAMS_SEED] PROGRAM_ID

def sol_vault : Pubkey × UInt8 := find_program_address [.bytes SOL_VAULT_SEED] PROGRAM_ID

def mayhem_state (mint : Pubkey) : Pubkey × UInt8 :=
  find_program_address [.bytes MAYHEM_STATE_SEED, .key mint] PROGRAM_ID

def mayhem_token_vault (mint : Pubkey) : Pubkey × UInt8 :=
  associated_token sol_vault.1 SPL_TOKEN_2022_PROGRAM_ID mint

end mayhem

namespace pump_amm

open constants.pump_amm

def global_config : Pubkey × UInt8 := find_program_address [.bytes GLOBAL_CONFIG_SEED] PROGRAM_ID

def pool (index : UInt16) (creator base_mint quote_mint : Pubkey) : Pubkey × UInt8 :=
  find_program_address
    [.bytes POOL_SEED, .le_bytes index, .key creator, .key base_mint, .key quote_mint] PROGRAM_ID

/-- The pool pump creates on migration. -/
def canonical_pool (base_mint quote_mint : Pubkey) : Pubkey × UInt8 :=
  let creator := (pump.pool_authority base_mint).1
  pool 0 creator base_mint quote_mint

def lp_mint (pool : Pubkey) : Pubkey × UInt8 :=
  find_program_address [.bytes POOL_LP_MINT_SEED, .key pool] PROGRAM_ID

def coin_creator_vault_authority (coin_creator : Pubkey) : Pubkey × UInt8 :=
  find_program_address [.bytes CREATOR_VAULT_SEED, .key coin_creator] PROGRAM_ID

def event_authority : Pubkey × UInt8 :=
  find_program_address [.bytes EVENT_AUTHORITY_SEED] PROGRAM_ID

def global_volume_accumulator : Pubkey × UInt8 :=
  find_program_address [.bytes GLOBAL_VOLUME_ACCUMULATOR_SEED] PROGRAM_ID

def user_volume_accumulator (user : Pubkey) : Pubkey × UInt8 :=
  find_program_address [.bytes USER_VOLUME_ACCUMULATOR_SEED, .key user] PROGRAM_ID

def pool_v2 (base_mint : Pubkey) : Pubkey × UInt8 :=
  find_program_address [.bytes POOL_V2_SEED, .key base_mint] PROGRAM_ID

def fee_config : Pubkey × UInt8 :=
  find_program_address [.bytes FEE_CONFIG_SEED, .key FEE_CONFIG_PROGRAM_SEED_KEY] FEE_PROGRAM_ID

def boost_vault_authority (pool : Pubkey) : Pubkey × UInt8 :=
  find_program_address [.bytes BOOST_VAULT_AUTHORITY_SEED, .key pool] PROGRAM_ID

def boost_vault (pool quote_mint quote_token_program : Pubkey) : Pubkey × UInt8 :=
  associated_token (boost_vault_authority pool).1 quote_token_program quote_mint

end pump_amm

namespace pump_agent_payments

open constants.pump_agent_payments

def global_config : Pubkey × UInt8 := find_program_address [.bytes GLOBAL_CONFIG_SEED] PROGRAM_ID

def token_agent_payments (mint : Pubkey) : Pubkey × UInt8 :=
  find_program_address [.bytes TOKEN_AGENT_PAYMENTS_SEED, .key mint] PROGRAM_ID

def event_authority : Pubkey × UInt8 :=
  find_program_address [.bytes EVENT_AUTHORITY_SEED] PROGRAM_ID

end pump_agent_payments

end pda

end pump_rust_client
