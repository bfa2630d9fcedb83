import PumpClient.Math.Amm.Reserves
import PumpClient.Math.BondingCurve.Quoters
import PumpClient.Sdk.Quotes

open machine

namespace pump_rust_client.sdk

open state state.pump_amm math math.amm

/-- A sweep of a pool's fee buckets: parts of both leave the vault that holds
    them, and the signed virtual reserve grows by as much. -/
structure Sweep (pool : Pool) (quote_vault_balance : UInt64) where
  protocol : UInt64
  creator : UInt64
  virtual_quote_reserves : I128
  protocol_le : protocol.toNat ≤ pool.protocol_fees.toNat
  creator_le : creator.toNat ≤ pool.creator_fees.toNat
  covered : protocol.toNat + creator.toNat ≤ quote_vault_balance.toNat
  virtual_eq : virtual_quote_reserves.val =
    pool.virtual_quote_reserves.val + protocol.toNat + creator.toNat

namespace Sweep

variable {pool : Pool} {quote_vault_balance : UInt64} (s : Sweep pool quote_vault_balance)

/-- The pool after the sweep. -/
def swept : Pool :=
  { pool with
    protocol_fees := pool.protocol_fees - s.protocol
    creator_fees := pool.creator_fees - s.creator
    virtual_quote_reserves := s.virtual_quote_reserves }

/-- The vault after the sweep. -/
def vault : UInt64 := quote_vault_balance - s.protocol - s.creator

theorem toNat_vault :
    s.vault.toNat + (s.protocol.toNat + s.creator.toNat) = quote_vault_balance.toNat := by
  have hcovered := s.covered
  have hprotocol : (quote_vault_balance - s.protocol).toNat =
      quote_vault_balance.toNat - s.protocol.toNat := U64.toNat_sub_of_le (by omega)
  have hvault : s.vault.toNat = (quote_vault_balance - s.protocol).toNat - s.creator.toNat :=
    U64.toNat_sub_of_le (by omega)
  omega

/-- Sweeping moves quote from the vault to the virtual reserve, so that their
    sum stays. -/
theorem effective_quote_reserve_swept :
    effective_quote_reserve s.swept s.vault = effective_quote_reserve pool quote_vault_balance := by
  apply Outcome.eq_of_ok_iff (fun _ => effective_quote_reserve_error)
    (fun _ => effective_quote_reserve_error)
  intro quote_reserve
  have hvault := s.toNat_vault
  have hvirtual : s.swept.virtual_quote_reserves.val =
      pool.virtual_quote_reserves.val + s.protocol.toNat + s.creator.toNat := s.virtual_eq
  rw [effective_quote_reserve_eq_ok_iff, effective_quote_reserve_eq_ok_iff]
  omega

/-- Sweeping lowers the vault and the buckets by as much, so that their
    difference stays. -/
theorem real_quote_reserve_swept :
    real_quote_reserve s.swept s.vault = real_quote_reserve pool quote_vault_balance := by
  apply Outcome.eq_of_ok_iff (fun _ => real_quote_reserve_error) (fun _ => real_quote_reserve_error)
  intro real_quote
  have hvault := s.toNat_vault
  have hprotocol_le := s.protocol_le
  have hcreator_le := s.creator_le
  have hprotocol : s.swept.protocol_fees.toNat = pool.protocol_fees.toNat - s.protocol.toNat :=
    U64.toNat_sub_of_le hprotocol_le
  have hcreator : s.swept.creator_fees.toNat = pool.creator_fees.toNat - s.creator.toNat :=
    U64.toNat_sub_of_le hcreator_le
  rw [real_quote_reserve_eq_ok_iff, real_quote_reserve_eq_ok_iff]
  omega

/-- The two reserves are all that pricing reads of the swept state. -/
theorem map_amm_quote_source_swept [Solana] {R : Type} (global_config : GlobalConfig)
    (fee_config : FeeConfig) (base_reserve base_mint_supply : UInt64)
    (k : AmmContext → QuoteResult R) :
    PumpSdk.map_amm_quote_source global_config fee_config
        (.Pool s.swept base_reserve s.vault base_mint_supply) k =
      PumpSdk.map_amm_quote_source global_config fee_config
        (.Pool pool base_reserve quote_vault_balance base_mint_supply) k := by
  unfold PumpSdk.map_amm_quote_source
  dsimp only
  rw [s.effective_quote_reserve_swept, s.real_quote_reserve_swept]
  rfl

/-- Nor does a hop read anything else of it. -/
theorem multi_hop_pool_hop_swept [Build] [Solana] (global_config : GlobalConfig)
    (fee_config : FeeConfig) (base_reserve base_mint_supply amount_in : UInt64) (is_buy : Bool)
    (legs : HopFees) :
    multi_hop_pool_hop global_config fee_config s.swept base_reserve s.vault base_mint_supply is_buy
        amount_in legs =
      multi_hop_pool_hop global_config fee_config pool base_reserve quote_vault_balance
        base_mint_supply is_buy amount_in legs := by
  unfold multi_hop_pool_hop
  rw [s.effective_quote_reserve_swept, s.real_quote_reserve_swept]
  rfl

end Sweep

/-- Sweeping fee buckets is invisible to pricing: every pool quote is the same
    result or the same error before and after. -/
theorem sweep_invisible [Build] [Solana] (pool : Pool) (quote_vault_balance : UInt64)
    (s : Sweep pool quote_vault_balance) (global_config : GlobalConfig) (fee_config : FeeConfig)
    (base_reserve base_mint_supply amount : UInt64) (slippage_bps : UInt16) :
    PumpSdk.buy_quote_amm_sol_in global_config fee_config
        (.Pool s.swept base_reserve s.vault base_mint_supply) amount slippage_bps =
      PumpSdk.buy_quote_amm_sol_in global_config fee_config
        (.Pool pool base_reserve quote_vault_balance base_mint_supply) amount slippage_bps ∧
    PumpSdk.buy_quote_amm_token_out global_config fee_config
        (.Pool s.swept base_reserve s.vault base_mint_supply) amount slippage_bps =
      PumpSdk.buy_quote_amm_token_out global_config fee_config
        (.Pool pool base_reserve quote_vault_balance base_mint_supply) amount slippage_bps ∧
    PumpSdk.sell_quote_amm global_config fee_config
        (.Pool s.swept base_reserve s.vault base_mint_supply) amount slippage_bps =
      PumpSdk.sell_quote_amm global_config fee_config
        (.Pool pool base_reserve quote_vault_balance base_mint_supply) amount slippage_bps ∧
    ∀ is_buy legs,
      multi_hop_pool_hop global_config fee_config s.swept base_reserve s.vault base_mint_supply
          is_buy amount legs =
        multi_hop_pool_hop global_config fee_config pool base_reserve quote_vault_balance
          base_mint_supply is_buy amount legs := by
  refine ⟨s.map_amm_quote_source_swept .., s.map_amm_quote_source_swept ..,
    s.map_amm_quote_source_swept .., ?_⟩
  intro is_buy legs
  exact s.multi_hop_pool_hop_swept ..

/-- A sweep of part of both buckets of the graduated pool leaves a sell that
    returns as it was. -/
theorem sweep_invisible_graduated :
    letI : Build := ⟨true⟩
    letI : Solana := graduatedPoolAuthority
    ∃ s : Sweep graduatedPool 85_000_000_000,
      PumpSdk.sell_quote_amm GlobalConfig.default bonding_curve.launchFees
        (.Pool s.swept 206_900_000_000_000 s.vault 0) 1_000_000_000_000 0 =
      .ok ⟨402_717_628, 402_717_628, 1_000_000_000_000, 1_000_000_000_000⟩ := by
  let _ : Build := ⟨true⟩
  let _ : Solana := graduatedPoolAuthority
  let s : Sweep graduatedPool 85_000_000_000 :=
    { protocol := 2_000
      creator := 1_000
      virtual_quote_reserves := ⟨-2_000, by decide⟩
      protocol_le := by decide
      creator_le := by decide
      covered := by decide
      virtual_eq := by decide }
  obtain ⟨-, -, hsell, -⟩ := sweep_invisible graduatedPool 85_000_000_000 s GlobalConfig.default
    bonding_curve.launchFees 206_900_000_000_000 0 1_000_000_000_000 0
  exact ⟨s, hsell.trans (by decide +kernel)⟩

end pump_rust_client.sdk
