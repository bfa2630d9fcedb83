import PumpClient.Machine.Outcome
import PumpClient.State.Layout

open machine borsh

namespace pump_rust_client

open state state.pump_amm

/-- What Anchor fails with on an account. -/
inductive ErrorCode where
  | AccountDiscriminatorNotFound
  | AccountDiscriminatorMismatch
  | AccountDidNotDeserialize
  | AccountDidNotSerialize
  deriving DecidableEq

/-- An account of a program's IDL. -/
class IdlAccount (T : Type) where
  DISCRIMINATOR : List UInt8
  default : T
  serialize : T → Option (List UInt8)
  deserialize_reader : Reader T

namespace IdlAccount

variable {T : Type} [IdlAccount T]

def try_serialize (account : T) : Outcome ErrorCode (List UInt8) := do
  let data ← Outcome.ok_or (serialize account) .AccountDidNotSerialize
  .ok (DISCRIMINATOR T ++ data)

/-- The account behind the discriminator, and the buffer, which Anchor reads
    through a copy. -/
def try_deserialize_unchecked (buf : List UInt8) : Outcome ErrorCode (T × List UInt8) :=
  if buf.length < (DISCRIMINATOR T).length then Outcome.panic
  else do
    let (account, _) ← Outcome.ok_or (deserialize_reader (buf.drop (DISCRIMINATOR T).length))
      .AccountDidNotDeserialize
    .ok (account, buf)

def try_deserialize (buf : List UInt8) : Outcome ErrorCode (T × List UInt8) :=
  if buf.length < (DISCRIMINATOR T).length then Outcome.err .AccountDiscriminatorNotFound
  else if DISCRIMINATOR T ≠ buf.take (DISCRIMINATOR T).length then
    Outcome.err .AccountDiscriminatorMismatch
  else try_deserialize_unchecked buf

theorem try_deserialize_unchecked_append (data : List UInt8) :
    try_deserialize_unchecked (T := T) (DISCRIMINATOR T ++ data) = (do
      let (account, _) ←
        Outcome.ok_or (deserialize_reader (T := T) data) ErrorCode.AccountDidNotDeserialize
      .ok (account, DISCRIMINATOR T ++ data)) := by
  have hroom : ¬ (DISCRIMINATOR T ++ data).length < (DISCRIMINATOR T).length := by
    rw [List.length_append]
    omega
  rw [try_deserialize_unchecked, if_neg hroom, List.drop_left]

/-- Behind the right discriminator the two deserializers are one. -/
theorem try_deserialize_append (data : List UInt8) :
    try_deserialize (T := T) (DISCRIMINATOR T ++ data) =
      try_deserialize_unchecked (DISCRIMINATOR T ++ data) := by
  have hroom : ¬ (DISCRIMINATOR T ++ data).length < (DISCRIMINATOR T).length := by
    rw [List.length_append]
    omega
  have hsame : ¬ DISCRIMINATOR T ≠ (DISCRIMINATOR T ++ data).take (DISCRIMINATOR T).length := by
    rw [List.take_left]
    exact not_not_intro rfl
  rw [try_deserialize, if_neg hroom, if_neg hsame]

theorem try_serialize_eq_ok_iff {account : T} {bytes : List UInt8} :
    try_serialize account = .ok bytes ↔
      ∃ data, serialize account = some data ∧ bytes = DISCRIMINATOR T ++ data := by
  simp only [try_serialize, Outcome.bind_eq_ok_iff, Outcome.ok_or_eq_ok_iff, Except.ok.injEq]
  exact exists_congr fun data => and_congr_right' eq_comm

end IdlAccount

namespace AccountWrapper

open IdlAccount

variable {T : Type} [IdlAccount T]

/-- A buffer shorter than the default account is filled up with zeros. -/
def deserialize_padded (deserialize : List UInt8 → Outcome ErrorCode (T × List UInt8))
    (buf : List UInt8) : Outcome ErrorCode (T × List UInt8) := do
  let canonical ← try_serialize (default : T)
  let expected := canonical.length
  if expected ≤ buf.length then deserialize buf
  else
    let padded := buf ++ List.replicate (expected - buf.length) 0
    let (inner, _) ← deserialize padded
    .ok (inner, buf.drop buf.length)

def try_deserialize : List UInt8 → Outcome ErrorCode (T × List UInt8) :=
  deserialize_padded IdlAccount.try_deserialize

def try_deserialize_unchecked : List UInt8 → Outcome ErrorCode (T × List UInt8) :=
  deserialize_padded IdlAccount.try_deserialize_unchecked

variable {canonical : List UInt8}

theorem deserialize_padded_of_length_le (hcanonical : try_serialize (default : T) = .ok canonical)
    (deserialize : List UInt8 → Outcome ErrorCode (T × List UInt8)) {buf : List UInt8}
    (hlong : canonical.length ≤ buf.length) :
    deserialize_padded deserialize buf = deserialize buf := by
  rw [deserialize_padded, hcanonical, Outcome.ok_bind, if_pos hlong]

theorem deserialize_padded_of_length_lt (hcanonical : try_serialize (default : T) = .ok canonical)
    {deserialize : List UInt8 → Outcome ErrorCode (T × List UInt8)} {buf rest : List UInt8}
    {account : T} (hshort : buf.length < canonical.length)
    (hread : deserialize (buf ++ List.replicate (canonical.length - buf.length) 0) =
      .ok (account, rest)) : deserialize_padded deserialize buf = .ok (account, []) := by
  rw [deserialize_padded, hcanonical, Outcome.ok_bind, if_neg (Nat.not_le.mpr hshort)]
  dsimp only
  rw [hread, Outcome.ok_bind, List.drop_length]

end AccountWrapper

section Accounts

instance : IdlAccount BondingCurve where
  DISCRIMINATOR := [23, 183, 248, 55, 96, 216, 172, 96]
  default := BondingCurve.default
  serialize curve := some (BondingCurve.layout.encode curve)
  deserialize_reader := BondingCurve.layout.read

instance : IdlAccount Global where
  DISCRIMINATOR := [167, 232, 232, 177, 200, 108, 114, 127]
  default := Global.default
  serialize global := some (Global.layout.encode global)
  deserialize_reader := Global.layout.read

instance : IdlAccount GlobalConfig where
  DISCRIMINATOR := [149, 8, 156, 202, 160, 252, 176, 217]
  default := GlobalConfig.default
  serialize global_config := some (GlobalConfig.layout.encode global_config)
  deserialize_reader := GlobalConfig.layout.read

instance : IdlAccount Pool where
  DISCRIMINATOR := [241, 154, 109, 4, 17, 177, 109, 188]
  default := Pool.default
  serialize pool := some (Pool.layout.encode pool)
  deserialize_reader := Pool.layout.read

end Accounts

/-- An account of a fixed layout, whose default is all zeros. -/
class FixedLayout (T : Type) [IdlAccount T] where
  layout : Layout T
  length_discriminator : (IdlAccount.DISCRIMINATOR T).length = 8
  default_eq : IdlAccount.default = layout.zero
  serialize_eq : ∀ account : T, IdlAccount.serialize account = some (layout.encode account)
  deserialize_reader_eq : IdlAccount.deserialize_reader = layout.read

instance : FixedLayout BondingCurve where
  layout := BondingCurve.layout
  length_discriminator := rfl
  default_eq := rfl
  serialize_eq _ := rfl
  deserialize_reader_eq := rfl

instance : FixedLayout Global where
  layout := Global.layout
  length_discriminator := rfl
  default_eq := rfl
  serialize_eq _ := rfl
  deserialize_reader_eq := rfl

instance : FixedLayout GlobalConfig where
  layout := GlobalConfig.layout
  length_discriminator := rfl
  default_eq := rfl
  serialize_eq _ := rfl
  deserialize_reader_eq := rfl

instance : FixedLayout Pool where
  layout := Pool.layout
  length_discriminator := rfl
  default_eq := rfl
  serialize_eq _ := rfl
  deserialize_reader_eq := rfl

namespace AccountWrapper

open IdlAccount

section

variable {T : Type} [IdlAccount T] [FixedLayout T]

theorem try_serialize_fixed (account : T) :
    try_serialize account = .ok (DISCRIMINATOR T ++ FixedLayout.layout.encode account) :=
  try_serialize_eq_ok_iff.mpr ⟨_, FixedLayout.serialize_eq account, rfl⟩

/-- Every account of a fixed layout is as long as the default one. -/
theorem length_serialize_fixed (account : T) :
    (DISCRIMINATOR T ++ FixedLayout.layout.encode account).length =
      8 + (FixedLayout.layout (T := T)).width := by
  rw [List.length_append, FixedLayout.length_discriminator, Layout.length_encode]

/-- Both deserializers read an account back, whatever follows it. -/
theorem deserialize_serialize_fixed (account : T) (tail : List UInt8) :
    IdlAccount.try_deserialize
        (DISCRIMINATOR T ++ FixedLayout.layout.encode account ++ tail) =
      .ok (account, DISCRIMINATOR T ++ FixedLayout.layout.encode account ++ tail) ∧
    IdlAccount.try_deserialize_unchecked
        (DISCRIMINATOR T ++ FixedLayout.layout.encode account ++ tail) =
      .ok (account, DISCRIMINATOR T ++ FixedLayout.layout.encode account ++ tail) := by
  have hunchecked : IdlAccount.try_deserialize_unchecked
      (DISCRIMINATOR T ++ (FixedLayout.layout.encode account ++ tail)) =
      .ok (account, DISCRIMINATOR T ++ (FixedLayout.layout.encode account ++ tail)) := by
    rw [try_deserialize_unchecked_append, FixedLayout.deserialize_reader_eq, Layout.read_encode]
    rfl
  rw [List.append_assoc, try_deserialize_append]
  exact ⟨hunchecked, hunchecked⟩

end

/-- What a cut account decodes as: zeros stand for the bytes it lacks, field by
    field, and bytes past its end do not count. Skipping the discriminator
    check changes nothing. -/
structure DecodesZeroExtended (T : Type) [IdlAccount T] [FixedLayout T] (account : T)
    (bytes : List UInt8) : Prop where
  cut : ∀ n, 8 ≤ n → n ≤ bytes.length → ∃ account' rest,
    try_deserialize (bytes.take n) = .ok (account', rest) ∧
    try_deserialize_unchecked (bytes.take n) = .ok (account', rest) ∧
    ∀ (i : Nat) (field : RecordField T), (FixedLayout.layout (T := T)).fields[i]? = some field →
      field.Cut (8 + (FixedLayout.layout (T := T)).offset i) n account account'
  whole : ∃ rest, try_deserialize bytes = .ok (account, rest) ∧
    try_deserialize_unchecked bytes = .ok (account, rest)
  tail : ∀ tail, ∃ rest, try_deserialize (bytes ++ tail) = .ok (account, rest) ∧
    try_deserialize_unchecked (bytes ++ tail) = .ok (account, rest)

/-- A whole account is read back, whatever follows it. -/
theorem deserialize_padded_serialize_fixed {T : Type} [IdlAccount T] [FixedLayout T] (account : T)
    (tail : List UInt8) : ∃ rest,
      try_deserialize (DISCRIMINATOR T ++ FixedLayout.layout.encode account ++ tail) =
        .ok (account, rest) ∧
      try_deserialize_unchecked (DISCRIMINATOR T ++ FixedLayout.layout.encode account ++ tail) =
        .ok (account, rest) := by
  have hcanonical := try_serialize_fixed (default : T)
  have hlong : (DISCRIMINATOR T ++ FixedLayout.layout.encode (default : T)).length ≤
      (DISCRIMINATOR T ++ FixedLayout.layout.encode account ++ tail).length := by
    rw [length_serialize_fixed, List.length_append, length_serialize_fixed]
    exact Nat.le_add_right _ _
  obtain ⟨hchecked, hunchecked⟩ := deserialize_serialize_fixed account tail
  exact ⟨_, (deserialize_padded_of_length_le hcanonical _ hlong).trans hchecked,
    (deserialize_padded_of_length_le hcanonical _ hlong).trans hunchecked⟩

/-- A cut account is read as the account that zeros fill it up to. -/
theorem deserialize_padded_cut_fixed {T : Type} [IdlAccount T] [FixedLayout T]
    {account account' : T} {n : Nat} (hdiscriminator : 8 ≤ n)
    (hshort : n < (DISCRIMINATOR T ++ FixedLayout.layout.encode account).length)
    (hzeros : FixedLayout.layout.encode account' =
      zeroExtend (n - 8) (FixedLayout.layout.encode account)) :
    try_deserialize ((DISCRIMINATOR T ++ FixedLayout.layout.encode account).take n) =
      .ok (account', []) ∧
    try_deserialize_unchecked ((DISCRIMINATOR T ++ FixedLayout.layout.encode account).take n) =
      .ok (account', []) := by
  have hcanonical := try_serialize_fixed (default : T)
  have hlength := length_serialize_fixed account
  have hdefault := length_serialize_fixed (default : T)
  have hcut : (DISCRIMINATOR T ++ FixedLayout.layout.encode account).take n =
      DISCRIMINATOR T ++ (FixedLayout.layout.encode account).take (n - 8) := by
    rw [List.take_append, FixedLayout.length_discriminator,
      List.take_of_length_le (FixedLayout.length_discriminator.trans_le hdiscriminator)]
  have hbuf : ((DISCRIMINATOR T ++ FixedLayout.layout.encode account).take n).length = n :=
    List.length_take_of_le hshort.le
  have hpadded : (DISCRIMINATOR T ++ FixedLayout.layout.encode account).take n ++
      List.replicate ((DISCRIMINATOR T ++ FixedLayout.layout.encode (default : T)).length -
        ((DISCRIMINATOR T ++ FixedLayout.layout.encode account).take n).length) 0 =
      DISCRIMINATOR T ++ FixedLayout.layout.encode account' := by
    have hcount : 8 + (FixedLayout.layout (T := T)).width - n =
        (FixedLayout.layout (T := T)).width - (n - 8) := by omega
    rw [hbuf, hdefault, hcut, List.append_assoc, hzeros, zeroExtend, Layout.length_encode, hcount]
  have hlt : ((DISCRIMINATOR T ++ FixedLayout.layout.encode account).take n).length <
      (DISCRIMINATOR T ++ FixedLayout.layout.encode (default : T)).length := by omega
  obtain ⟨hchecked, hunchecked⟩ := deserialize_serialize_fixed account' []
  rw [List.append_nil, ← hpadded] at hchecked hunchecked
  exact ⟨deserialize_padded_of_length_lt hcanonical hlt hchecked,
    deserialize_padded_of_length_lt hcanonical hlt hunchecked⟩

theorem decodesZeroExtended {T : Type} [IdlAccount T] [FixedLayout T] (account : T) :
    DecodesZeroExtended T account (DISCRIMINATOR T ++ FixedLayout.layout.encode account) where
  cut n hdiscriminator hn := by
    obtain ⟨account', hzeros⟩ := FixedLayout.layout.exists_zeroExtend account (n - 8)
    have hfields : ∀ (i : Nat) (field : RecordField T),
        (FixedLayout.layout (T := T)).fields[i]? = some field →
        field.Cut (8 + (FixedLayout.layout (T := T)).offset i) n account account' := by
      intro i field hat
      apply RecordField.cut_of_zeroExtend
      rw [← Nat.sub_sub]
      exact Layout.field_zeroExtend hzeros hat
    cases hn.lt_or_eq with
    | inl hshort =>
      obtain ⟨hchecked, hunchecked⟩ := deserialize_padded_cut_fixed hdiscriminator hshort hzeros
      exact ⟨account', [], hchecked, hunchecked, hfields⟩
    | inr hwhole =>
      subst hwhole
      have hlength := length_serialize_fixed account
      have hsame : account' = account := by
        rw [zeroExtend_of_length_le (by rw [Layout.length_encode]; omega)] at hzeros
        exact FixedLayout.layout.codec.encode_injective hzeros
      obtain ⟨rest, hchecked, hunchecked⟩ := deserialize_padded_serialize_fixed account []
      rw [List.append_nil] at hchecked hunchecked
      rw [List.take_length]
      exact ⟨account, rest, hchecked, hunchecked, hsame ▸ hfields⟩
  whole := by
    obtain ⟨rest, hwhole⟩ := deserialize_padded_serialize_fixed account []
    rw [List.append_nil] at hwhole
    exact ⟨rest, hwhole⟩
  tail tail := deserialize_padded_serialize_fixed account tail

/-- The accounts of a fixed layout decode, at every length from their
    discriminator on, as if zeros followed. -/
theorem short_accounts_zero_extended :
    (∀ curve : BondingCurve, ∃ bytes, try_serialize curve = .ok bytes ∧
      DecodesZeroExtended BondingCurve curve bytes) ∧
    (∀ pool : Pool, ∃ bytes, try_serialize pool = .ok bytes ∧
      DecodesZeroExtended Pool pool bytes) ∧
    (∀ global : Global, ∃ bytes, try_serialize global = .ok bytes ∧
      DecodesZeroExtended Global global bytes) ∧
    ∀ global_config : GlobalConfig, ∃ bytes, try_serialize global_config = .ok bytes ∧
      DecodesZeroExtended GlobalConfig global_config bytes :=
  ⟨fun curve => ⟨_, try_serialize_fixed curve, decodesZeroExtended curve⟩,
    fun pool => ⟨_, try_serialize_fixed pool, decodesZeroExtended pool⟩,
    fun global => ⟨_, try_serialize_fixed global, decodesZeroExtended global⟩,
    fun global_config =>
      ⟨_, try_serialize_fixed global_config, decodesZeroExtended global_config⟩⟩

end AccountWrapper

end pump_rust_client
