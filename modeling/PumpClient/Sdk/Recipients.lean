import Mathlib.Data.List.Destutter
import Mathlib.Data.List.Sort
import PumpClient.State

namespace pump_rust_client.sdk.PumpSdk

open state state.pump_amm

/-- The generator behind a random choice. -/
class Fastrand where
  usize (n : Nat) : 0 < n → Fin n

/-- Sorted, without repetitions. -/
def dedupe_sorted (keys : List Pubkey) : List Pubkey :=
  (keys.insertionSort fun a b => a.bytes ≤ b.bytes).destutter (· ≠ ·)

section OneDraw

variable [Fastrand]

def pick_random_pubkey (candidates : List Pubkey) : Option Pubkey :=
  if h : 0 < candidates.length then some (candidates.get (Fastrand.usize candidates.length h))
  else none

/-- Random protocol fee recipient from `Global`. -/
def fee_recipient_from_pump_global (global : Global) (is_mayhem : Bool) : Option Pubkey :=
  let (primary, pool) :=
    if is_mayhem then (global.reserved_fee_recipient, global.reserved_fee_recipients)
    else (global.fee_recipient, global.fee_recipients)
  let candidates := (if primary ≠ Pubkey.default then [primary] else []) ++
    pool.toList.filter (· ≠ Pubkey.default)
  pick_random_pubkey (dedupe_sorted candidates)

/-- Random buyback fee recipient from `Global`. -/
def buyback_fee_recipient_from_pump_global (global : Global) : Option Pubkey :=
  let candidates := global.buyback_fee_recipients.toList.filter (· ≠ Pubkey.default)
  pick_random_pubkey (dedupe_sorted candidates)

/-- Random protocol fee recipient from AMM `GlobalConfig`. -/
def protocol_fee_recipient_from_amm_global (global_config : GlobalConfig) : Option Pubkey :=
  let candidates := global_config.protocol_fee_recipients.toList.filter (· ≠ Pubkey.default)
  pick_random_pubkey (dedupe_sorted candidates)

/-- Random buyback fee recipient from AMM `GlobalConfig`. -/
def buyback_fee_recipient_from_amm_global (global_config : GlobalConfig) : Option Pubkey :=
  let candidates := global_config.buyback_fee_recipients.toList.filter (· ≠ Pubkey.default)
  pick_random_pubkey (dedupe_sorted candidates)

end OneDraw

/-- The generator at each of the draws of a call. -/
class Draws where
  draw : Nat → Fastrand

variable [Draws]

/-- `(fee_recipient, buyback_fee_recipient)` from `Global`. -/
def pump_fee_recipients_pair (global : Global) (is_mayhem : Bool) : Option (Pubkey × Pubkey) := do
  let fee_recipient ← @fee_recipient_from_pump_global (Draws.draw 0) global is_mayhem
  let buyback_fee_recipient ← @buyback_fee_recipient_from_pump_global (Draws.draw 1) global
  some (fee_recipient, buyback_fee_recipient)

/-- `(protocol_fee_recipient, buyback_fee_recipient)` from AMM `GlobalConfig`. -/
def amm_fee_recipients_pair (global_config : GlobalConfig) : Option (Pubkey × Pubkey) := do
  let protocol_fee_recipient ← @protocol_fee_recipient_from_amm_global (Draws.draw 0) global_config
  let buyback_fee_recipient ← @buyback_fee_recipient_from_amm_global (Draws.draw 1) global_config
  some (protocol_fee_recipient, buyback_fee_recipient)

end pump_rust_client.sdk.PumpSdk
