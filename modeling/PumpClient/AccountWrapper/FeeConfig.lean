import PumpClient.AccountWrapper
import PumpClient.Math.Fees

open machine borsh

namespace pump_rust_client

open state math.fees IdlAccount

/-- `FeeConfig::default()`. -/
def state.FeeConfig.default : FeeConfig where
  bump := 0
  admin := Pubkey.default
  flat_fees := ⟨0, 0, 0⟩
  fee_tiers := []
  stable_fee_tiers := []
  exotic_flat_fees := ⟨0, 0, 0⟩

def state.FeeConfig.serialize (self : FeeConfig) : Option (List UInt8) := do
  let fee_tiers ← FeeTier.layout.codec.encodeVec self.fee_tiers
  let stable_fee_tiers ← FeeTier.layout.codec.encodeVec self.stable_fee_tiers
  return Codec.u8.encode self.bump ++ pubkey.encode self.admin ++
    Fees.layout.encode self.flat_fees ++ fee_tiers ++ stable_fee_tiers ++
    Fees.layout.encode self.exotic_flat_fees

def state.FeeConfig.deserialize_reader : Reader FeeConfig := do
  let bump ← Codec.u8.read
  let admin ← pubkey.read
  let flat_fees ← Fees.layout.read
  let fee_tiers ← FeeTier.layout.codec.readVec
  let stable_fee_tiers ← FeeTier.layout.codec.readVec
  let exotic_flat_fees ← Fees.layout.read
  return { bump, admin, flat_fees, fee_tiers, stable_fee_tiers, exotic_flat_fees }

instance : IdlAccount FeeConfig where
  DISCRIMINATOR := [143, 52, 146, 187, 219, 123, 76, 155]
  default := FeeConfig.default
  serialize := FeeConfig.serialize
  deserialize_reader := FeeConfig.deserialize_reader

namespace AccountWrapper

theorem serialize_eq_some_iff {v : FeeConfig} {data : List UInt8} :
    v.serialize = some data ↔ ∃ fee_tiers stable_fee_tiers,
      FeeTier.layout.codec.encodeVec v.fee_tiers = some fee_tiers ∧
      FeeTier.layout.codec.encodeVec v.stable_fee_tiers = some stable_fee_tiers ∧
      data = Codec.u8.encode v.bump ++ pubkey.encode v.admin ++ Fees.layout.encode v.flat_fees ++
        fee_tiers ++ stable_fee_tiers ++ Fees.layout.encode v.exotic_flat_fees := by
  simp only [FeeConfig.serialize, bind, pure, Option.bind_eq_some_iff, Option.some.injEq]
  constructor
  · rintro ⟨fee_tiers, htiers, stable_fee_tiers, hstable, rfl⟩
    exact ⟨fee_tiers, stable_fee_tiers, htiers, hstable, rfl⟩
  · rintro ⟨fee_tiers, stable_fee_tiers, htiers, hstable, rfl⟩
    exact ⟨fee_tiers, htiers, stable_fee_tiers, hstable, rfl⟩

/-- The reader takes the tables off the front and reads the last field from
    what is left. -/
theorem deserialize_reader_tables {v : FeeConfig} {fee_tiers stable_fee_tiers : List UInt8}
    (htiers : FeeTier.layout.codec.encodeVec v.fee_tiers = some fee_tiers)
    (hstable : FeeTier.layout.codec.encodeVec v.stable_fee_tiers = some stable_fee_tiers)
    (rest : List UInt8) :
    FeeConfig.deserialize_reader (Codec.u8.encode v.bump ++ pubkey.encode v.admin ++
        Fees.layout.encode v.flat_fees ++ fee_tiers ++ stable_fee_tiers ++ rest) =
      (do
        let exotic_flat_fees ← Fees.layout.read
        return { v with exotic_flat_fees } : Reader FeeConfig) rest := by
  simp only [List.append_assoc]
  rw [FeeConfig.deserialize_reader, Reader.bind_eq (Codec.u8.read_encode v.bump _),
    Reader.bind_eq (pubkey.read_encode v.admin _),
    Reader.bind_eq (Fees.layout.read_encode v.flat_fees _),
    Reader.bind_eq (FeeTier.layout.codec.readVec_encode htiers _),
    Reader.bind_eq (FeeTier.layout.codec.readVec_encode hstable _)]

theorem default_length :
    ∃ canonical, try_serialize (default : FeeConfig) = .ok canonical ∧ canonical.length = 97 :=
  ⟨_, rfl, rfl⟩

/-- What is left of a serialized config without its last field. -/
theorem take_serialize {v : FeeConfig} {bytes : List UInt8} (h : try_serialize v = .ok bytes) :
    ∃ fee_tiers stable_fee_tiers, FeeTier.layout.codec.encodeVec v.fee_tiers = some fee_tiers ∧
      FeeTier.layout.codec.encodeVec v.stable_fee_tiers = some stable_fee_tiers ∧
      bytes.take (bytes.length - Fees.layout.width) = DISCRIMINATOR FeeConfig ++
        (Codec.u8.encode v.bump ++ pubkey.encode v.admin ++ Fees.layout.encode v.flat_fees ++
          fee_tiers ++ stable_fee_tiers) := by
  obtain ⟨data, hdata, rfl⟩ := try_serialize_eq_ok_iff.mp h
  obtain ⟨fee_tiers, stable_fee_tiers, htiers, hstable, rfl⟩ := serialize_eq_some_iff.mp hdata
  refine ⟨fee_tiers, stable_fee_tiers, htiers, hstable, ?_⟩
  rw [← List.append_assoc (DISCRIMINATOR FeeConfig)]
  generalize DISCRIMINATOR FeeConfig ++ (_ : List UInt8) = tables
  apply List.take_left'
  rw [List.length_append, Layout.length_encode, Nat.add_sub_cancel]

/-- A config without its last field is short by the tables it has. -/
theorem length_take_serialize {v : FeeConfig} {fee_tiers stable_fee_tiers : List UInt8}
    (htiers : FeeTier.layout.codec.encodeVec v.fee_tiers = some fee_tiers)
    (hstable : FeeTier.layout.codec.encodeVec v.stable_fee_tiers = some stable_fee_tiers) :
    (DISCRIMINATOR FeeConfig ++ (Codec.u8.encode v.bump ++ pubkey.encode v.admin ++
      Fees.layout.encode v.flat_fees ++ fee_tiers ++ stable_fee_tiers)).length =
      73 + 40 * (v.fee_tiers.length + v.stable_fee_tiers.length) := by
  have hwidth : FeeTier.layout.codec.width = 40 := rfl
  have hbump : (Codec.u8.encode v.bump).length = 1 := Codec.u8.length_encode _
  have hadmin : (pubkey.encode v.admin).length = 32 := pubkey.length_encode _
  have hflat : (Fees.layout.encode v.flat_fees).length = 24 := Fees.layout.length_encode _
  have hdiscriminator : (DISCRIMINATOR FeeConfig).length = 8 := rfl
  simp only [List.length_append, Codec.length_encodeVec _ htiers, Codec.length_encodeVec _ hstable,
    hwidth, hbump, hadmin, hflat, hdiscriminator]
  omega

/-- Without tables the zeros filled in are the last field. -/
theorem deserialize_without_tables {v : FeeConfig} {bytes : List UInt8}
    (h : try_serialize v = .ok bytes) (htiers : v.fee_tiers = []) (hstable : v.stable_fee_tiers = []) :
    try_deserialize (bytes.take (bytes.length - Fees.layout.width)) =
      .ok ({ v with exotic_flat_fees := ⟨0, 0, 0⟩ }, []) := by
  obtain ⟨fee_tiers, stable_fee_tiers, hencode, hencode_stable, htake⟩ := take_serialize h
  obtain ⟨canonical, hcanonical, hlength⟩ := default_length
  have hcut := length_take_serialize hencode hencode_stable
  rw [htiers, hstable, List.length_nil] at hcut
  have hzeros : List.replicate (canonical.length - 73) 0 = Fees.layout.encode ⟨0, 0, 0⟩ := by
    rw [hlength]
    rfl
  rw [htake]
  apply deserialize_padded_of_length_lt hcanonical (by omega)
  rw [hcut, hzeros, List.append_assoc, try_deserialize_append, try_deserialize_unchecked_append]
  have hread : IdlAccount.deserialize_reader (T := FeeConfig) _ = _ :=
    deserialize_reader_tables hencode hencode_stable (Fees.layout.encode ⟨0, 0, 0⟩)
  have hzero := Fees.layout.read_encode ⟨0, 0, 0⟩ []
  rw [List.append_nil] at hzero
  rw [hread, Reader.bind_eq hzero]
  rfl

/-- With a tier the config is long enough, and its last field is missing. -/
theorem deserialize_with_tables {v : FeeConfig} {bytes : List UInt8}
    (h : try_serialize v = .ok bytes) (htables : 0 < v.fee_tiers.length + v.stable_fee_tiers.length) :
    try_deserialize (T := FeeConfig) (bytes.take (bytes.length - Fees.layout.width)) =
      Outcome.err .AccountDidNotDeserialize := by
  obtain ⟨fee_tiers, stable_fee_tiers, hencode, hencode_stable, htake⟩ := take_serialize h
  obtain ⟨canonical, hcanonical, hlength⟩ := default_length
  have hcut := length_take_serialize hencode hencode_stable
  have hread := deserialize_reader_tables hencode hencode_stable []
  rw [List.append_nil] at hread
  have hnone : IdlAccount.deserialize_reader (T := FeeConfig) (Codec.u8.encode v.bump ++
      pubkey.encode v.admin ++ Fees.layout.encode v.flat_fees ++ fee_tiers ++ stable_fee_tiers) =
      none := hread.trans (Reader.bind_eq_none rfl)
  rw [htake, try_deserialize, deserialize_padded_of_length_le hcanonical _ (by omega),
    try_deserialize_append, try_deserialize_unchecked_append, hnone]
  rfl

/-- A config without its last field decodes to itself with that field zero, and
    other quotes then pay its flat fees. -/
def DecodesWithoutExotic (v : FeeConfig) (bytes : List UInt8) : Prop :=
  ∃ decoded rest,
    try_deserialize (bytes.take (bytes.length - Fees.layout.width)) = .ok (decoded, rest) ∧
    decoded = { v with exotic_flat_fees := ⟨0, 0, 0⟩ } ∧
    ∀ market_cap quote_mint, is_sol_like_quote_mint quote_mint = false →
      quote_mint ≠ constants.USDC_MINT →
      fees_for_quote_mint decoded true market_cap quote_mint = .ok v.flat_fees

/-- Only a config with no tier at all is shorter than the default one, and so
    filled up. -/
theorem fee_config_without_exotic_iff (v : FeeConfig) (bytes : List UInt8)
    (h : try_serialize v = .ok bytes) :
    DecodesWithoutExotic v bytes ↔ v.fee_tiers = [] ∧ v.stable_fee_tiers = [] := by
  constructor
  · rintro ⟨decoded, rest, hdecode, -⟩
    by_contra htables
    have hpos : 0 < v.fee_tiers.length + v.stable_fee_tiers.length := by
      rw [← List.length_eq_zero_iff, ← List.length_eq_zero_iff] at htables
      omega
    rw [deserialize_with_tables h hpos] at hdecode
    exact Outcome.err_ne_ok _ _ hdecode
  · rintro ⟨htiers, hstable⟩
    refine ⟨_, _, deserialize_without_tables h htiers hstable, rfl, ?_⟩
    intro market_cap quote_mint hsol husdc
    rw [fees_for_quote_mint, if_neg (by decide), if_neg (by simp [hsol]), if_neg husdc]
    exact if_pos ⟨rfl, rfl, rfl⟩

/-- The default config, which has no tier. -/
theorem fee_config_without_exotic_default :
    ∃ bytes, try_serialize (default : FeeConfig) = .ok bytes ∧
      DecodesWithoutExotic default bytes := by
  obtain ⟨bytes, hbytes, -⟩ := default_length
  exact ⟨bytes, hbytes, (fee_config_without_exotic_iff _ bytes hbytes).mpr ⟨rfl, rfl⟩⟩

/-- A config whose tables fill the 4073 bytes of an account from before the
    last field. -/
def fullTables : FeeConfig where
  bump := 250
  admin := Pubkey.default
  flat_fees := ⟨25, 5, 0⟩
  fee_tiers := List.replicate 50 ⟨0, ⟨20, 100, 30⟩⟩
  stable_fee_tiers := List.replicate 50 ⟨0, ⟨20, 100, 30⟩⟩
  exotic_flat_fees := ⟨0, 0, 0⟩

/-- Such an account does not decode. -/
theorem full_tables_not_decoded : ∃ bytes, try_serialize fullTables = .ok bytes ∧
    (bytes.take (bytes.length - Fees.layout.width)).length = 4073 ∧
    ¬ DecodesWithoutExotic fullTables bytes := by
  obtain ⟨bytes, hbytes⟩ : ∃ bytes, try_serialize fullTables = .ok bytes := ⟨_, rfl⟩
  obtain ⟨fee_tiers, stable_fee_tiers, hencode, hencode_stable, htake⟩ := take_serialize hbytes
  refine ⟨bytes, hbytes, ?_, ?_⟩
  · rw [htake, length_take_serialize hencode hencode_stable]
    rfl
  · rintro ⟨decoded, rest, hdecode, -⟩
    rw [deserialize_with_tables hbytes (by decide)] at hdecode
    exact Outcome.err_ne_ok _ _ hdecode

end AccountWrapper

end pump_rust_client
