import PumpClient.Sdk.MultiHop
import PumpClient.Borsh.Codec

open borsh

namespace pump_rust_client.token

open sdk

variable [Solana]

def user_wsol_ata (user : Pubkey) : Pubkey :=
  (pda.associated_token user constants.SPL_TOKEN_PROGRAM_ID constants.NATIVE_MINT).1

/-- A system transfer to the user's wSOL account and its `sync_native`. -/
def wrap_sol_instructions (user : Pubkey) (lamports : UInt64) : List Instruction :=
  let ata := user_wsol_ata user
  [{ program_id := constants.SYSTEM_PROGRAM_ID
     accounts := [AccountMeta.new user true, AccountMeta.new ata false]
     data := Codec.u32.encode 2 ++ Codec.u64.encode lamports },
    { program_id := constants.SPL_TOKEN_PROGRAM_ID
      accounts := [AccountMeta.new ata false]
      data := [17] }]

/-- `close_account` of the user's wSOL account into the user's wallet. -/
def unwrap_sol_instruction (user : Pubkey) : Instruction where
  program_id := constants.SPL_TOKEN_PROGRAM_ID
  accounts := [
    AccountMeta.new (user_wsol_ata user) false,
    AccountMeta.new user false,
    AccountMeta.new_readonly user true]
  data := [9]

end pump_rust_client.token
