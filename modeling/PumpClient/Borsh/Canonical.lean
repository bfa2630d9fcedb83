import PumpClient.Borsh.Layout

namespace borsh

/-- The bytes of a number, each on its own. -/
theorem leBytes_eq_map (width n : Nat) :
    leBytes width n = (List.range width).map fun i => UInt8.ofNat (n / 256 ^ i) := by
  induction width generalizing n with
  | zero => rfl
  | succ width ih =>
    rw [leBytes, ih, List.range_succ_eq_map, List.map_cons, List.map_map, Nat.pow_zero, Nat.div_one]
    congr 2
    funext i
    rw [Function.comp_apply, Nat.pow_succ', Nat.div_div_eq_div_mul]

/-- A reader that goes on after another read what it needs. -/
theorem Reader.bind_eq_some_iff {α β : Type} {reader : Reader α} {f : α → Reader β}
    {bytes rest : List UInt8} {b : β} :
    (reader >>= f) bytes = some (b, rest) ↔
      ∃ a middle, reader bytes = some (a, middle) ∧ f a middle = some (b, rest) := by
  change (reader bytes >>= fun read => f read.1 read.2) = some (b, rest) ↔ _
  cases reader bytes with
  | none => simp
  | some read =>
    constructor
    · intro h
      exact ⟨read.1, read.2, rfl, h⟩
    · rintro ⟨a, middle, ⟨⟩, h⟩
      exact h

namespace Codec

variable {α : Type} {codec : Codec α} {bytes rest : List UInt8}

/-- What is read is what an encoding put there: no value has two encodings. -/
def Canonical (codec : Codec α) : Prop :=
  ∀ bytes a rest, codec.read bytes = some (a, rest) → bytes = codec.encode a ++ rest

theorem ofBytes_canonical {width : Nat} {encode : α → List UInt8} {decode : List UInt8 → α} {zero : α}
    (length_encode : ∀ a, (encode a).length = width) (decode_encode : ∀ a, decode (encode a) = a)
    (encode_decode : ∀ bytes, bytes.length = width → encode (decode bytes) = bytes)
    (encode_zero : encode zero = List.replicate width 0) :
    (ofBytes width encode decode zero length_encode decode_encode encode_decode
      encode_zero).Canonical := by
  intro bytes a rest h
  change (if width ≤ bytes.length then _ else none) = _ at h
  split at h
  · rename_i hroom
    cases h
    have hlength : (bytes.take width).length = width := List.length_take_of_le hroom
    change bytes = encode (decode (bytes.take width)) ++ bytes.drop width
    rw [encode_decode _ hlength, List.take_append_drop]
  · cases h

theorem u8_canonical : u8.Canonical := ofBytes_canonical _ _ _ _

theorem u16_canonical : u16.Canonical := ofBytes_canonical _ _ _ _

theorem u32_canonical : u32.Canonical := ofBytes_canonical _ _ _ _

theorem u64_canonical : u64.Canonical := ofBytes_canonical _ _ _ _

theorem u128_canonical : u128.Canonical := ofBytes_canonical _ _ _ _

theorem bool_canonical : bool.Canonical := by
  intro bytes a rest h
  unfold bool at h
  dsimp only at h
  split at h
  · cases h
    rfl
  · cases h
    rfl
  · cases h

theorem readMany_canonical (hcodec : codec.Canonical) {count : Nat} {l : List α}
    (h : codec.readMany count bytes = some (l, rest)) :
    l.length = count ∧ bytes = l.flatMap codec.encode ++ rest := by
  induction count generalizing bytes l with
  | zero =>
    cases h
    exact ⟨rfl, rfl⟩
  | succ count ih =>
    obtain ⟨a, middle, hread, h⟩ := Reader.bind_eq_some_iff.mp h
    obtain ⟨l, middle', hmany, h⟩ := Reader.bind_eq_some_iff.mp h
    cases h
    obtain ⟨hlength, hmiddle⟩ := ih hmany
    refine ⟨by rw [List.length_cons, hlength], ?_⟩
    rw [hcodec _ _ _ hread, hmiddle, List.flatMap_cons, List.append_assoc]

theorem array_canonical (hcodec : codec.Canonical) (count : Nat) : (codec.array count).Canonical := by
  intro bytes v rest h
  obtain ⟨l, middle, hmany, h⟩ := Reader.bind_eq_some_iff.mp h
  obtain ⟨hlength, hbytes⟩ := readMany_canonical hcodec hmany
  rw [dif_pos hlength] at h
  cases h
  exact hbytes

theorem readVec_canonical (hcodec : codec.Canonical) {l : List α}
    (h : codec.readVec bytes = some (l, rest)) :
    ∃ front, codec.encodeVec l = some front ∧ bytes = front ++ rest := by
  obtain ⟨count, middle, hcount, h⟩ := Reader.bind_eq_some_iff.mp h
  obtain ⟨hlength, hmiddle⟩ := readMany_canonical hcodec h
  have hfront : u32.encode count = leBytes 4 l.length := congrArg (leBytes 4) hlength.symm
  refine ⟨leBytes 4 l.length ++ l.flatMap codec.encode, ?_, ?_⟩
  · rw [encodeVec, if_pos (hlength ▸ count.toNat_lt)]
  · rw [u32_canonical _ _ _ hcount, hfront, hmiddle, List.append_assoc]

end Codec

variable {R : Type}

theorem Tuple.read_canonical {fields : List (RecordField R)}
    (hfields : ∀ field ∈ fields, field.codec.Canonical) {bytes rest : List UInt8}
    {t : Tuple fields} (h : Tuple.read fields bytes = some (t, rest)) :
    bytes = Tuple.encode fields t ++ rest := by
  induction fields generalizing bytes with
  | nil =>
    cases h
    rfl
  | cons field fields ih =>
    obtain ⟨hfield, hfields⟩ := List.forall_mem_cons.mp hfields
    obtain ⟨a, middle, hread, h⟩ := Reader.bind_eq_some_iff.mp h
    obtain ⟨t, middle', htuple, h⟩ := Reader.bind_eq_some_iff.mp h
    cases h
    rw [hfield _ _ _ hread, ih hfields htuple, Tuple.encode, List.append_assoc]

namespace Layout

variable {layout : Layout R}

/-- A record of canonical fields is read from its own encoding only. -/
theorem read_canonical (hfields : ∀ field ∈ layout.fields, field.codec.Canonical)
    {bytes rest : List UInt8} {r : R} (h : layout.read bytes = some (r, rest)) :
    bytes = layout.encode r ++ rest := by
  rw [read, map_eq_pure_bind] at h
  obtain ⟨t, middle, htuple, h⟩ := Reader.bind_eq_some_iff.mp h
  cases h
  rw [encode_build]
  exact Tuple.read_canonical hfields htuple

theorem codec_canonical (hfields : ∀ field ∈ layout.fields, field.codec.Canonical) :
    layout.codec.Canonical := fun _ _ _ h => read_canonical hfields h

end Layout

end borsh
