import PumpClient.Borsh.Codec

namespace borsh

variable {R : Type}

/-- A field of a record, with the codec of its type. -/
structure RecordField (R : Type) : Type 1 where
  {α : Type}
  codec : Codec α
  get : R → α

namespace RecordField

def width (field : RecordField R) : Nat := field.codec.width

def encode (field : RecordField R) (r : R) : List UInt8 := field.codec.encode (field.get r)

theorem length_encode (field : RecordField R) (r : R) : (field.encode r).length = field.width :=
  field.codec.length_encode _

/-- A field after a cut `n` bytes into its record: kept, lost, or straddled,
    its leading bytes then zero-extended. -/
structure Cut (field : RecordField R) (offset n : Nat) (r r' : R) : Prop where
  kept : offset + field.width ≤ n → field.get r' = field.get r
  lost : n ≤ offset → field.get r' = field.codec.zero
  straddled : offset < n → n < offset + field.width →
    field.encode r' =
      (field.encode r).take (n - offset) ++ List.replicate (offset + field.width - n) 0

theorem cut_of_zeroExtend {field : RecordField R} {offset n : Nat} {r r' : R}
    (h : field.encode r' = zeroExtend (n - offset) (field.encode r)) : field.Cut offset n r r' where
  kept hle := by
    rw [zeroExtend_of_length_le (by rw [length_encode]; omega)] at h
    exact field.codec.encode_injective h
  lost hle := by
    have hzero : field.codec.encode field.codec.zero = List.replicate field.width 0 :=
      field.codec.encode_zero
    rw [Nat.sub_eq_zero_of_le hle, zeroExtend_zero, length_encode, ← hzero] at h
    exact field.codec.encode_injective h
  straddled hstart hend := by
    have hzeros : field.width - (n - offset) = offset + field.width - n := by omega
    rw [h, zeroExtend, length_encode, hzeros]

end RecordField

/-- The values of the fields of a record, in order. -/
def Tuple : List (RecordField R) → Type
  | [] => Unit
  | field :: fields => field.α × Tuple fields

namespace Tuple

def of (r : R) : (fields : List (RecordField R)) → Tuple fields
  | [] => ()
  | field :: fields => (field.get r, of r fields)

def encode : (fields : List (RecordField R)) → Tuple fields → List UInt8
  | [], _ => []
  | field :: fields, (a, t) => field.codec.encode a ++ encode fields t

/-- Every field in order. -/
def read : (fields : List (RecordField R)) → Reader (Tuple fields)
  | [] => pure ()
  | field :: fields => do
    let a ← field.codec.read
    let t ← read fields
    return (a, t)

def zero : (fields : List (RecordField R)) → Tuple fields
  | [] => ()
  | field :: fields => (field.codec.zero, zero fields)

theorem encode_of (r : R) (fields : List (RecordField R)) :
    encode fields (of r fields) = fields.flatMap fun field => field.encode r := by
  induction fields with
  | nil => rfl
  | cons field fields ih => rw [of, encode, ih, List.flatMap_cons]; rfl

theorem read_encode (fields : List (RecordField R)) (t : Tuple fields) (rest : List UInt8) :
    read fields (encode fields t ++ rest) = some (t, rest) := by
  induction fields with
  | nil => rfl
  | cons field fields ih =>
    obtain ⟨a, t⟩ := t
    rw [encode, List.append_assoc, read, Reader.bind_eq (field.codec.read_encode a _),
      Reader.bind_eq (ih t)]
    rfl

theorem encode_zero (fields : List (RecordField R)) :
    encode fields (zero fields) = List.replicate (fields.map RecordField.width).sum 0 := by
  induction fields with
  | nil => rfl
  | cons field fields ih =>
    rw [zero, encode, ih, field.codec.encode_zero, List.replicate_append_replicate, List.map_cons,
      List.sum_cons]
    rfl

theorem exists_zeroExtend (fields : List (RecordField R)) (t : Tuple fields) (n : Nat) :
    ∃ t', encode fields t' = zeroExtend n (encode fields t) := by
  induction fields generalizing n with
  | nil => exact ⟨(), by simp [encode, zeroExtend]⟩
  | cons field fields ih =>
    obtain ⟨a, t⟩ := t
    obtain ⟨b, hb⟩ := field.codec.exists_zeroExtend a n
    obtain ⟨t', ht'⟩ := ih t (n - (field.codec.encode a).length)
    exact ⟨(b, t'), by rw [encode, encode, zeroExtend_append, hb, ht']⟩

end Tuple

/-- A record laid out as its fields in order. -/
structure Layout (R : Type) where
  fields : List (RecordField R)
  build : Tuple fields → R
  build_of : ∀ r, build (Tuple.of r fields) = r
  of_build : ∀ t, Tuple.of (build t) fields = t

namespace Layout

variable (layout : Layout R)

def width : Nat := (layout.fields.map RecordField.width).sum

/-- Where a field starts. -/
def offset (i : Nat) : Nat := ((layout.fields.take i).map RecordField.width).sum

def encode (r : R) : List UInt8 := layout.fields.flatMap fun field => field.encode r

def read : Reader R := layout.build <$> Tuple.read layout.fields

def zero : R := layout.build (Tuple.zero layout.fields)

theorem encode_build (t : Tuple layout.fields) :
    layout.encode (layout.build t) = Tuple.encode layout.fields t := by
  rw [encode, ← Tuple.encode_of, layout.of_build]

theorem length_encode (r : R) : (layout.encode r).length = layout.width := by
  rw [encode, List.length_flatMap, width]
  simp only [RecordField.length_encode]

theorem read_encode (r : R) (rest : List UInt8) :
    layout.read (layout.encode r ++ rest) = some (r, rest) := by
  have hread := Tuple.read_encode layout.fields (Tuple.of r layout.fields) rest
  rw [Tuple.encode_of] at hread
  rw [read, map_eq_pure_bind, encode, Reader.bind_eq hread, layout.build_of]
  rfl

theorem encode_zero : layout.encode layout.zero = List.replicate layout.width 0 := by
  rw [zero, encode_build, Tuple.encode_zero, width]

/-- A record whose bytes are cut short and filled up with zeros is a record. -/
theorem exists_zeroExtend (r : R) (n : Nat) :
    ∃ r', layout.encode r' = zeroExtend n (layout.encode r) := by
  obtain ⟨t, ht⟩ := Tuple.exists_zeroExtend layout.fields (Tuple.of r layout.fields) n
  refine ⟨layout.build t, ?_⟩
  rw [encode_build, ht, Tuple.encode_of, encode]

/-- A record of fixed width as one field of another. -/
def codec : Codec R where
  width := layout.width
  encode := layout.encode
  read := layout.read
  zero := layout.zero
  length_encode := layout.length_encode
  read_encode := layout.read_encode
  encode_zero := layout.encode_zero
  exists_zeroExtend := layout.exists_zeroExtend

theorem field_zeroExtend {fields : List (RecordField R)} {r r' : R} {n : Nat}
    (h : fields.flatMap (fun field => field.encode r') =
      zeroExtend n (fields.flatMap fun field => field.encode r))
    {i : Nat} {field : RecordField R} (hat : fields[i]? = some field) :
    field.encode r' =
      zeroExtend (n - ((fields.take i).map RecordField.width).sum) (field.encode r) := by
  induction fields generalizing n i with
  | nil => simp at hat
  | cons head fields ih =>
    rw [List.flatMap_cons, List.flatMap_cons, zeroExtend_append, head.length_encode] at h
    have hlength : (head.encode r').length = (zeroExtend n (head.encode r)).length := by
      rw [length_zeroExtend, head.length_encode, head.length_encode]
    obtain ⟨hhead, hrest⟩ := List.append_inj h hlength
    cases i with
    | zero =>
      obtain rfl : head = field := by simpa using hat
      exact hhead
    | succ i =>
      rw [List.getElem?_cons_succ] at hat
      rw [ih hrest hat, List.take_succ_cons, List.map_cons, List.sum_cons, Nat.sub_sub]

/-- Every field of a cut record is cut where it stands. -/
theorem cut_of_zeroExtend {r r' : R} {n : Nat}
    (h : layout.encode r' = zeroExtend n (layout.encode r)) {i : Nat} {field : RecordField R}
    (hat : layout.fields[i]? = some field) : field.Cut (layout.offset i) n r r' :=
  RecordField.cut_of_zeroExtend (field_zeroExtend h hat)

end Layout

end borsh
