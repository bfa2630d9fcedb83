import PumpClient.AccountWrapper.FeeConfig
import PumpClient.Borsh.Canonical

open machine borsh

namespace pump_rust_client

open state state.pump_amm IdlAccount

namespace state

theorem pubkey_canonical : pubkey.Canonical := Codec.ofBytes_canonical _ _ _ _

theorem i128_canonical : i128.Canonical := Codec.ofBytes_canonical _ _ _ _

theorem Fees.canonical : ∀ field ∈ Fees.layout.fields, field.codec.Canonical := by
  simp [Fees.layout, Fees.fields, Codec.u64_canonical]

theorem FeeTier.canonical : ∀ field ∈ FeeTier.layout.fields, field.codec.Canonical := by
  simp [FeeTier.layout, FeeTier.fields, Codec.u128_canonical, Layout.codec_canonical Fees.canonical]

theorem BondingCurve.canonical : ∀ field ∈ BondingCurve.layout.fields, field.codec.Canonical := by
  simp [BondingCurve.layout, BondingCurve.fields, Codec.u64_canonical, Codec.u8_canonical,
    Codec.bool_canonical, pubkey_canonical]

theorem Global.canonical : ∀ field ∈ Global.layout.fields, field.codec.Canonical := by
  simp [Global.layout, Global.fields, Codec.u64_canonical, Codec.u8_canonical, Codec.bool_canonical,
    pubkey_canonical, Codec.array_canonical]

theorem GlobalConfig.canonical :
    ∀ field ∈ GlobalConfig.layout.fields, field.codec.Canonical := by
  simp [GlobalConfig.layout, GlobalConfig.fields, Codec.u64_canonical, Codec.u8_canonical,
    Codec.bool_canonical, pubkey_canonical, Codec.array_canonical]

theorem Pool.canonical : ∀ field ∈ Pool.layout.fields, field.codec.Canonical := by
  simp [Pool.layout, Pool.fields, Codec.u64_canonical, Codec.u16_canonical, Codec.u8_canonical,
    Codec.bool_canonical, pubkey_canonical, i128_canonical]

end state

namespace AccountWrapper

/-- An account type whose reader takes up exactly what its writer put down. -/
structure ReadsBack (T : Type) [IdlAccount T] : Prop where
  default_serialized : ∃ canonical, try_serialize (default : T) = .ok canonical
  read : ∀ (account : T) data rest, serialize account = some data →
    deserialize_reader (data ++ rest) = some (account, rest)
  canonical : ∀ (account : T) bytes rest, deserialize_reader bytes = some (account, rest) →
    ∃ data, serialize account = some data ∧ bytes = data ++ rest

theorem readsBack_fixed {T : Type} [IdlAccount T] [FixedLayout T]
    (hfields : ∀ field ∈ (FixedLayout.layout (T := T)).fields, field.codec.Canonical) :
    ReadsBack T where
  default_serialized := ⟨_, try_serialize_fixed IdlAccount.default⟩
  read account data rest h := by
    rw [FixedLayout.serialize_eq, Option.some_inj] at h
    rw [← h, FixedLayout.deserialize_reader_eq]
    exact FixedLayout.layout.read_encode account rest
  canonical account bytes rest h := by
    rw [FixedLayout.deserialize_reader_eq] at h
    exact ⟨_, FixedLayout.serialize_eq account, Layout.read_canonical hfields h⟩

theorem readsBack_fee_config : ReadsBack FeeConfig where
  default_serialized := default_length.imp fun _ h => h.1
  read v data rest h := by
    obtain ⟨fee_tiers, stable_fee_tiers, htiers, hstable, rfl⟩ := serialize_eq_some_iff.mp h
    have hread : FeeConfig.deserialize_reader _ = _ := deserialize_reader_tables htiers hstable
      (Fees.layout.encode v.exotic_flat_fees ++ rest)
    rw [← List.append_assoc] at hread
    exact hread.trans (Reader.bind_eq (Fees.layout.read_encode v.exotic_flat_fees rest))
  canonical v bytes rest h := by
    change FeeConfig.deserialize_reader bytes = _ at h
    obtain ⟨bump, after, hbump, h⟩ := Reader.bind_eq_some_iff.mp h
    obtain ⟨admin, after', hadmin, h⟩ := Reader.bind_eq_some_iff.mp h
    obtain ⟨flat_fees, after'', hflat, h⟩ := Reader.bind_eq_some_iff.mp h
    obtain ⟨tiers, after''', htiers, h⟩ := Reader.bind_eq_some_iff.mp h
    obtain ⟨stable, after'''', hstable, h⟩ := Reader.bind_eq_some_iff.mp h
    obtain ⟨exotic, rest, hexotic, h⟩ := Reader.bind_eq_some_iff.mp h
    cases h
    have htier := Layout.codec_canonical FeeTier.canonical
    obtain ⟨fee_tiers, hencode, hafter⟩ := Codec.readVec_canonical htier htiers
    obtain ⟨stable_fee_tiers, hencode', hafter'⟩ := Codec.readVec_canonical htier hstable
    refine ⟨_, serialize_eq_some_iff.mpr ⟨fee_tiers, stable_fee_tiers, hencode, hencode', rfl⟩, ?_⟩
    rw [Codec.u8_canonical _ _ _ hbump, pubkey_canonical _ _ _ hadmin,
      Layout.read_canonical Fees.canonical hflat, hafter, hafter',
      Layout.read_canonical Fees.canonical hexotic]
    simp only [List.append_assoc]

/-- A buffer filled up with zeros to the size of the default account. -/
def padded (T : Type) [IdlAccount T] (buf : List UInt8) : List UInt8 :=
  match try_serialize (default : T) with
  | .ok canonical => buf ++ List.replicate (canonical.length - buf.length) 0
  | .error _ => buf

section

variable {T : Type} [IdlAccount T] {buf : List UInt8}

theorem padded_eq {canonical : List UInt8} (h : try_serialize (default : T) = .ok canonical) :
    padded T buf = buf ++ List.replicate (canonical.length - buf.length) 0 := by
  rw [padded, h]

/-- The wrapper reads the padded buffer. -/
theorem try_deserialize_padded (hT : ReadsBack T) (buf : List UInt8) :
    Prod.fst <$> (try_deserialize buf : Outcome ErrorCode (T × List UInt8)) =
      Prod.fst <$> (IdlAccount.try_deserialize (padded T buf) :
        Outcome ErrorCode (T × List UInt8)) := by
  obtain ⟨canonical, hcanonical⟩ := hT.default_serialized
  rw [padded_eq hcanonical]
  by_cases hlong : canonical.length ≤ buf.length
  · rw [try_deserialize, deserialize_padded_of_length_le hcanonical _ hlong,
      Nat.sub_eq_zero_of_le hlong, List.replicate_zero, List.append_nil]
  · rw [try_deserialize, deserialize_padded, hcanonical, Outcome.ok_bind]
    dsimp only
    rw [if_neg hlong]
    cases IdlAccount.try_deserialize (T := T)
        (buf ++ List.replicate (canonical.length - buf.length) 0) with
    | ok => rfl
    | error => rfl

/-- Behind the discriminator the reader decides. -/
theorem try_deserialize_behind (hT : ReadsBack T) {data : List UInt8}
    (h : padded T buf = DISCRIMINATOR T ++ data) :
    Prod.fst <$> (try_deserialize buf : Outcome ErrorCode (T × List UInt8)) =
      Outcome.ok_or (Prod.fst <$> deserialize_reader (T := T) data)
        ErrorCode.AccountDidNotDeserialize := by
  rw [try_deserialize_padded hT, h, try_deserialize_append, try_deserialize_unchecked_append]
  cases deserialize_reader (T := T) data with
  | none => rfl
  | some => rfl

/-- Without it the buffer is refused. -/
theorem try_deserialize_mismatch (hT : ReadsBack T) (h : ¬ DISCRIMINATOR T <+: padded T buf) :
    (try_deserialize buf : Outcome ErrorCode (T × List UInt8)) =
      Outcome.err .AccountDiscriminatorMismatch := by
  obtain ⟨canonical, hcanonical⟩ := hT.default_serialized
  obtain ⟨data, -, hlength⟩ := try_serialize_eq_ok_iff.mp hcanonical
  have hroom : ¬ (padded T buf).length < (DISCRIMINATOR T).length := by
    rw [padded_eq hcanonical, hlength]
    simp only [List.length_append, List.length_replicate]
    omega
  have hread : (IdlAccount.try_deserialize (padded T buf) : Outcome ErrorCode (T × List UInt8)) =
      Outcome.err .AccountDiscriminatorMismatch := by
    rw [IdlAccount.try_deserialize, if_neg hroom, if_pos]
    rwa [List.prefix_iff_eq_take] at h
  have hpadded := try_deserialize_padded hT buf
  rw [hread] at hpadded
  cases hwrapped : (try_deserialize buf : Outcome ErrorCode (T × List UInt8)) with
  | ok =>
    rw [hwrapped] at hpadded
    cases hpadded
  | error =>
    rw [hwrapped] at hpadded
    cases hpadded
    rfl

end

/-- A buffer is read as the account whose bytes it starts with, zeros filled in
    up to the size of the default account. Where it starts with none, it is
    refused for its discriminator or for what is behind it. -/
structure ReadsWellFormed (T : Type) [IdlAccount T] (buf : List UInt8) : Prop where
  accepted : ∀ (account : T) rest, try_deserialize buf = .ok (account, rest) →
    ∃ bytes, try_serialize account = .ok bytes ∧ bytes <+: padded T buf
  accepts : ∀ (account : T) bytes, try_serialize account = .ok bytes → bytes <+: padded T buf →
    ∃ rest, try_deserialize buf = .ok (account, rest)
  refused : ∀ fault,
    (try_deserialize buf : Outcome ErrorCode (T × List UInt8)) = .error fault →
      fault = .error (if DISCRIMINATOR T <+: padded T buf then .AccountDidNotDeserialize
        else .AccountDiscriminatorMismatch)

section

variable {T : Type} [IdlAccount T] {buf : List UInt8}

/-- A buffer starts with an account where the reader finds it behind the
    discriminator. -/
theorem starts_with_iff (hT : ReadsBack T) {data : List UInt8}
    (h : padded T buf = DISCRIMINATOR T ++ data) (account : T) :
    (∃ bytes, try_serialize account = .ok bytes ∧ bytes <+: padded T buf) ↔
      ∃ rest, deserialize_reader data = some (account, rest) := by
  rw [h]
  constructor
  · rintro ⟨bytes, hbytes, rest, hrest⟩
    obtain ⟨own, hown, rfl⟩ := try_serialize_eq_ok_iff.mp hbytes
    rw [List.append_assoc, List.append_cancel_left_eq] at hrest
    exact ⟨rest, hrest ▸ hT.read account own rest hown⟩
  · rintro ⟨rest, hread⟩
    obtain ⟨own, hown, rfl⟩ := hT.canonical account data rest hread
    exact ⟨_, try_serialize_eq_ok_iff.mpr ⟨own, hown, rfl⟩, rest, List.append_assoc ..⟩

theorem ReadsBack.wellFormed (hT : ReadsBack T) (buf : List UInt8) : ReadsWellFormed T buf := by
  by_cases hprefix : DISCRIMINATOR T <+: padded T buf
  · obtain ⟨data, hdata⟩ := hprefix
    have hread := try_deserialize_behind hT hdata.symm
    constructor
    · intro account rest h
      rw [h] at hread
      obtain ⟨read, hreader, rfl⟩ := Option.map_eq_some_iff.mp (Outcome.ok_or_eq_ok_iff.mp hread.symm)
      exact (starts_with_iff hT hdata.symm read.1).mpr ⟨read.2, hreader⟩
    · intro account bytes hbytes hstarts
      obtain ⟨rest, hreader⟩ := (starts_with_iff hT hdata.symm account).mp ⟨bytes, hbytes, hstarts⟩
      rw [hreader] at hread
      cases h : (try_deserialize buf : Outcome ErrorCode (T × List UInt8)) with
      | ok read =>
        rw [h] at hread
        cases hread
        exact ⟨read.2, rfl⟩
      | error =>
        rw [h] at hread
        cases hread
    · intro fault h
      rw [h] at hread
      rw [if_pos ⟨data, hdata⟩]
      exact (Outcome.ok_or_eq_error_iff.mp hread.symm).2
  · have hmismatch := try_deserialize_mismatch hT hprefix
    constructor
    · intro account rest h
      rw [hmismatch] at h
      cases h
    · intro account bytes hbytes hstarts
      obtain ⟨own, -, rfl⟩ := try_serialize_eq_ok_iff.mp hbytes
      exact absurd ((List.prefix_append ..).trans hstarts) hprefix
    · intro fault h
      rw [hmismatch] at h
      cases h
      rw [if_neg hprefix]

end

/-- What is accepted is well formed. Each account type is read from any data as
    the one account that the data, filled up with zeros, starts with, and from no
    other data; what is refused is refused for its discriminator or for what is
    behind it, without a panic. -/
theorem accepted_accounts_well_formed (buf : List UInt8) :
    ReadsWellFormed BondingCurve buf ∧ ReadsWellFormed Pool buf ∧ ReadsWellFormed Global buf ∧
      ReadsWellFormed GlobalConfig buf ∧ ReadsWellFormed FeeConfig buf :=
  ⟨(readsBack_fixed BondingCurve.canonical).wellFormed buf,
    (readsBack_fixed Pool.canonical).wellFormed buf,
    (readsBack_fixed Global.canonical).wellFormed buf,
    (readsBack_fixed GlobalConfig.canonical).wellFormed buf, readsBack_fee_config.wellFormed buf⟩

end AccountWrapper

end pump_rust_client
