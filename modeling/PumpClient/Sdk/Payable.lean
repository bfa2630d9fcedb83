import PumpClient.Math.Amm.Trades
import PumpClient.Math.BondingCurve.Quoters
import PumpClient.Sdk.Quotes

open machine exchange

namespace pump_rust_client.sdk

open state state.pump_amm math math.fees math.amm

/-- The trade context of a pool. -/
def poolContext (global_config : GlobalConfig) (fee_config : FeeConfig) (pool : Pool)
    (base_reserve base_mint_supply quote_reserve real_quote : UInt64) : AmmContext where
  global_config
  fee_config
  base_mint := pool.base_mint
  pool_creator := pool.creator
  coin_creator := pool.coin_creator
  quote_mint := pool.quote_mint
  creator_fee_bps := pool.creator_fee_bps
  base_reserve
  quote_reserve
  base_mint_supply := fee_tier_supply pool.is_mayhem_mode base_mint_supply
  real_quote_reserve := real_quote

/-- A quote on a pool source reads both reserves before it prices. -/
theorem map_amm_quote_source_pool_ok_iff [Solana] {R : Type} {global_config : GlobalConfig}
    {fee_config : FeeConfig} {pool : Pool}
    {base_reserve quote_vault_balance base_mint_supply : UInt64}
    {k : AmmContext → QuoteResult R} {r : R} :
    PumpSdk.map_amm_quote_source global_config fee_config
        (.Pool pool base_reserve quote_vault_balance base_mint_supply) k = .ok r ↔
      ∃ quote_reserve real_quote,
        effective_quote_reserve pool quote_vault_balance = .ok quote_reserve ∧
        real_quote_reserve pool quote_vault_balance = .ok real_quote ∧
        k (poolContext global_config fee_config pool base_reserve base_mint_supply quote_reserve
          real_quote) = .ok r := by
  simp only [PumpSdk.map_amm_quote_source, Outcome.bind_eq_ok_iff]
  constructor
  · rintro ⟨quote_reserve, heffective, real_quote, hreal, h⟩
    exact ⟨quote_reserve, real_quote, heffective, hreal, h⟩
  · rintro ⟨quote_reserve, real_quote, heffective, hreal, h⟩
    exact ⟨quote_reserve, heffective, real_quote, hreal, h⟩

/-- A sell of `amount` that pays out `payout` at `rates`. The swap on the
    effective reserve splits exactly into the payout and the three fees, and
    what leaves the pool (all but the LP fee) comes out of the vault's
    liquidity, not of its fee buckets. -/
structure PayableSell [Build] (pool : Pool) (base_reserve quote_vault_balance amount payout : UInt64)
    (rates : UInt64 × UInt64 × UInt64) (quote_reserve : UInt64) (lp protocol creator : Nat) : Prop where
  effective : (quote_reserve.toNat : Int) =
    quote_vault_balance.toNat + pool.virtual_quote_reserves.val
  lp_fee : fee_amount (quote_reserve.toNat * amount.toNat / (base_reserve.toNat + amount.toNat))
    rates.1 = .ok lp
  protocol_fee : fee_amount (quote_reserve.toNat * amount.toNat / (base_reserve.toNat + amount.toNat))
    rates.2.1 = .ok protocol
  creator_fee : fee_amount (quote_reserve.toNat * amount.toNat / (base_reserve.toNat + amount.toNat))
    rates.2.2 = .ok creator
  exact : payout.toNat + lp + protocol + creator =
    quote_reserve.toNat * amount.toNat / (base_reserve.toNat + amount.toNat)
  covered : (payout.toNat + protocol + creator : Int) ≤
    quote_vault_balance.toNat - pool.protocol_fees.toNat - pool.creator_fees.toNat

section

variable [Build] {pool : Pool} {base_reserve quote_vault_balance amount : UInt64}

/-- Both sell paths end with the same two checks, in one order or the other. -/
theorem payableSell_of_checks {real_quote quote_reserve : UInt64} {rates : UInt64 × UInt64 × UInt64}
    {gross : Nat} (hreal : real_quote_reserve pool quote_vault_balance = .ok real_quote)
    (heffective : effective_quote_reserve pool quote_vault_balance = .ok quote_reserve)
    (hgross : gross = swapOut amount.toNat base_reserve.toNat quote_reserve.toNat)
    (hfees : (schedule rates).fees gross ≤ gross)
    (hcovered : gross - (schedule rates).fee gross rates.1.toNat ≤ real_quote.toNat) :
    PayableSell pool base_reserve quote_vault_balance amount
      (U64.cast (gross - (schedule rates).fees gross)) rates quote_reserve
      ((schedule rates).fee gross rates.1.toNat) ((schedule rates).fee gross rates.2.1.toNat)
      ((schedule rates).fee gross rates.2.2.toNat) := by
  have hquote_lt := U64.toNat_lt quote_reserve
  have hle := swapOut_le amount.toNat base_reserve.toNat quote_reserve.toNat
  have hgross_lt : gross < 2 ^ 64 := by omega
  have hswap : quote_reserve.toNat * amount.toNat / (base_reserve.toNat + amount.toNat) = gross := by
    rw [hgross, swapOut, Nat.mul_comm]
  have hpayout := U64.toNat_cast_of_lt (n := gross - (schedule rates).fees gross) (by omega)
  have hsplit := schedule_fees rates gross
  have hvault := real_quote_reserve_eq_ok_iff.mp hreal
  constructor
  · exact effective_quote_reserve_eq_ok_iff.mp heffective
  · rw [hswap]
    exact fee_amount_of_lt hgross_lt _
  · rw [hswap]
    exact fee_amount_of_lt hgross_lt _
  · rw [hswap]
    exact fee_amount_of_lt hgross_lt _
  · rw [hswap, hpayout]
    omega
  · rw [hpayout]
    omega

/-- A quoted pool sell is always payable from liquidity, never from the fee
    buckets, and the payout and the charged fees add up to the swap on the
    effective reserve exactly, on both sell paths. -/
theorem pool_sell_payable [Solana] (global_config : GlobalConfig) (fee_config : FeeConfig)
    (pool : Pool) (base_reserve quote_vault_balance base_mint_supply amount : UInt64) :
    (∀ slippage_bps quote, PumpSdk.sell_quote_amm global_config fee_config
        (.Pool pool base_reserve quote_vault_balance base_mint_supply) amount slippage_bps =
        .ok quote →
      ∃ quote_reserve bps lp protocol creator,
        compute_amm_fee_bps global_config fee_config pool.base_mint pool.creator pool.quote_mint
          pool.creator_fee_bps (fee_tier_supply pool.is_mayhem_mode base_mint_supply) base_reserve
          quote_reserve = .ok bps ∧
        PayableSell pool base_reserve quote_vault_balance amount quote.amount
          (bps.lp_fee_bps, bps.protocol_fee_bps,
            if pool.coin_creator = Pubkey.default then 0 else bps.creator_fee_bps)
          quote_reserve lp protocol creator) ∧
    ∀ legs out, multi_hop_pool_hop global_config fee_config pool base_reserve quote_vault_balance
        base_mint_supply false amount legs = .ok out →
      ∃ quote_reserve bps lp protocol creator,
        compute_amm_fee_bps global_config fee_config pool.base_mint pool.creator pool.quote_mint
          pool.creator_fee_bps base_mint_supply base_reserve quote_reserve = .ok bps ∧
        PayableSell pool base_reserve quote_vault_balance amount out (hop_fee_bps pool legs bps)
          quote_reserve lp protocol creator := by
  constructor
  · intro slippage_bps quote h
    obtain ⟨quote_reserve, real_quote, heffective, hreal, h⟩ :=
      map_amm_quote_source_pool_ok_iff.mp h
    obtain ⟨res, hsell, h⟩ := Outcome.bind_eq_ok_iff.mp h
    cases h
    obtain ⟨-, -, bps, hbps, hfees, hcovered, rfl⟩ := (sell_base_input_ok_iff rfl).mp hsell
    exact ⟨quote_reserve, bps, _, _, _, hbps,
      payableSell_of_checks hreal heffective rfl hfees hcovered⟩
  · intro legs out h
    obtain ⟨hopen, real_quote, quote_reserve, rates, venue⟩ := multi_hop_pool_hop_venue h
    obtain ⟨bps, hbps, rfl⟩ := venue.charged
    obtain ⟨hfees, hcovered, rfl⟩ := (venue.sell_ok_iff hopen rfl).mp h
    exact ⟨quote_reserve, bps, _, _, _, hbps,
      payableSell_of_checks venue.real venue.effective rfl hfees.le hcovered⟩

end

/-- One sell into the graduated pool, quoted directly and as a hop. -/
theorem pool_sell_payable_graduated :
    letI : Build := ⟨true⟩
    letI : Solana := graduatedPoolAuthority
    (∃ rates quote_reserve lp protocol creator, PayableSell graduatedPool 206_900_000_000_000
      85_000_000_000 1_000_000_000_000 402_717_628 rates quote_reserve lp protocol creator) ∧
    ∃ rates quote_reserve lp protocol creator, PayableSell graduatedPool 206_900_000_000_000
      85_000_000_000 1_000_000_000_000 406_806_132 rates quote_reserve lp protocol creator := by
  let _ : Build := ⟨true⟩
  let _ : Solana := graduatedPoolAuthority
  obtain ⟨hdirect, hhop⟩ := pool_sell_payable GlobalConfig.default bonding_curve.launchFees
    graduatedPool 206_900_000_000_000 85_000_000_000 0 1_000_000_000_000
  obtain ⟨quote_reserve, bps, lp, protocol, creator, -, hsell⟩ :=
    hdirect 0 ⟨402_717_628, 402_717_628, 1_000_000_000_000, 1_000_000_000_000⟩ (by decide +kernel)
  obtain ⟨quote_reserve', bps', lp', protocol', creator', -, hsell'⟩ :=
    hhop ⟨false, true, true⟩ 406_806_132 (by decide +kernel)
  exact ⟨⟨_, quote_reserve, lp, protocol, creator, hsell⟩, _, quote_reserve', lp', protocol', creator',
    hsell'⟩

end pump_rust_client.sdk
