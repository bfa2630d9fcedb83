import Mathlib.Algebra.Order.BigOperators.Group.List
import Mathlib.Algebra.Order.Floor.Div

namespace borsh

/-- A reader takes what it needs off the front of a buffer. -/
abbrev Reader := StateT (List UInt8) Option

/-- The first `n` bytes, with zeros for the others. -/
def zeroExtend (n : Nat) (bytes : List UInt8) : List UInt8 :=
  bytes.take n ++ List.replicate (bytes.length - n) 0

@[simp] theorem length_zeroExtend (n : Nat) (bytes : List UInt8) :
    (zeroExtend n bytes).length = bytes.length := by
  rw [zeroExtend, List.length_append, List.length_take, List.length_replicate]
  omega

theorem zeroExtend_of_length_le {n : Nat} {bytes : List UInt8} (h : bytes.length ≤ n) :
    zeroExtend n bytes = bytes := by
  rw [zeroExtend, List.take_of_length_le h, Nat.sub_eq_zero_of_le h, List.replicate_zero,
    List.append_nil]

@[simp] theorem zeroExtend_zero (bytes : List UInt8) :
    zeroExtend 0 bytes = List.replicate bytes.length 0 := by
  rw [zeroExtend, List.take_zero, List.nil_append, Nat.sub_zero]

theorem Reader.bind_eq {α β : Type} {reader : Reader α} {f : α → Reader β} {bytes rest : List UInt8}
    {a : α} (h : reader bytes = some (a, rest)) : (reader >>= f) bytes = f a rest := by
  change (reader bytes >>= fun read => f read.1 read.2) = f a rest
  rw [h]
  rfl

theorem Reader.bind_eq_none {α β : Type} {reader : Reader α} {f : α → Reader β}
    {bytes : List UInt8} (h : reader bytes = none) : (reader >>= f) bytes = none := by
  change (reader bytes >>= fun read => f read.1 read.2) = none
  rw [h]
  rfl

/-- What a cut leaves of the second part starts where the first part ends. -/
theorem zeroExtend_append (n : Nat) (front back : List UInt8) :
    zeroExtend n (front ++ back) = zeroExtend n front ++ zeroExtend (n - front.length) back := by
  simp only [zeroExtend, List.take_append, List.length_append]
  by_cases h : n ≤ front.length
  · have hback : n - front.length = 0 := Nat.sub_eq_zero_of_le h
    have hzeros : front.length + back.length - n = front.length - n + back.length := by omega
    rw [hback, hzeros, List.take_zero, List.nil_append, List.append_nil, Nat.sub_zero,
      ← List.replicate_append_replicate, List.append_assoc]
  · have hfront : front.length - n = 0 := by omega
    have hzeros : front.length + back.length - n = back.length - (n - front.length) := by omega
    rw [hfront, hzeros, List.replicate_zero, List.append_nil, List.append_assoc]

section Bytes

/-- The `width` low bytes of a number, the lowest first. -/
def leBytes : Nat → Nat → List UInt8
  | 0, _ => []
  | width + 1, n => UInt8.ofNat n :: leBytes width (n / 256)

/-- The number that bytes spell, the lowest first. -/
def ofLeBytes : List UInt8 → Nat
  | [] => 0
  | byte :: bytes => byte.toNat + 256 * ofLeBytes bytes

@[simp] theorem length_leBytes (width n : Nat) : (leBytes width n).length = width := by
  induction width generalizing n with
  | zero => rfl
  | succ width ih => rw [leBytes, List.length_cons, ih]

theorem ofLeBytes_lt {width : Nat} {bytes : List UInt8} (h : bytes.length = width) :
    ofLeBytes bytes < 256 ^ width := by
  induction bytes generalizing width with
  | nil =>
    subst h
    exact Nat.one_pos
  | cons byte bytes ih =>
    subst h
    have hbyte := byte.toNat_lt
    have hrest := ih rfl
    rw [ofLeBytes, List.length_cons, Nat.pow_succ]
    omega

theorem ofLeBytes_lt_two_pow {bits : Nat} {bytes : List UInt8} (h : 8 * bytes.length = bits) :
    ofLeBytes bytes < 2 ^ bits := by
  rw [← h, Nat.pow_mul]
  exact ofLeBytes_lt rfl

theorem ofLeBytes_leBytes {width n : Nat} (h : n < 256 ^ width) :
    ofLeBytes (leBytes width n) = n := by
  induction width generalizing n with
  | zero => exact (Nat.lt_one_iff.mp h).symm
  | succ width ih =>
    have hrest : n / 256 < 256 ^ width := by
      rw [Nat.pow_succ] at h
      omega
    rw [leBytes, ofLeBytes, ih hrest, UInt8.toNat_ofNat']
    omega

theorem leBytes_ofLeBytes (bytes : List UInt8) :
    leBytes bytes.length (ofLeBytes bytes) = bytes := by
  induction bytes with
  | nil => rfl
  | cons byte bytes ih =>
    have hbyte := byte.toNat_lt
    have hlow : UInt8.ofNat (byte.toNat + 256 * ofLeBytes bytes) = byte := by
      apply UInt8.toNat_inj.mp
      rw [UInt8.toNat_ofNat']
      omega
    have hhigh : (byte.toNat + 256 * ofLeBytes bytes) / 256 = ofLeBytes bytes := by omega
    rw [ofLeBytes, List.length_cons, leBytes, hlow, hhigh, ih]

theorem leBytes_zero (width : Nat) : leBytes width 0 = List.replicate width 0 := by
  induction width with
  | zero => rfl
  | succ width ih => rw [leBytes, Nat.zero_div, ih, List.replicate_succ]; rfl

end Bytes

/-- The encoding of the values of a type, all of one width. A truncated
    encoding that zeros fill up again is the encoding of a value too. -/
structure Codec (α : Type) where
  width : Nat
  encode : α → List UInt8
  read : Reader α
  zero : α
  length_encode : ∀ a, (encode a).length = width
  read_encode : ∀ a rest, read (encode a ++ rest) = some (a, rest)
  encode_zero : encode zero = List.replicate width 0
  exists_zeroExtend : ∀ a n, ∃ b, encode b = zeroExtend n (encode a)

namespace Codec

variable {α : Type} (codec : Codec α)

theorem encode_injective : Function.Injective codec.encode := by
  intro a b h
  have ha := codec.read_encode a []
  rw [h, codec.read_encode b []] at ha
  simpa using ha.symm

/-- Every string of the right width spells a value. -/
def ofBytes (width : Nat) (encode : α → List UInt8) (decode : List UInt8 → α) (zero : α)
    (length_encode : ∀ a, (encode a).length = width) (decode_encode : ∀ a, decode (encode a) = a)
    (encode_decode : ∀ bytes, bytes.length = width → encode (decode bytes) = bytes)
    (encode_zero : encode zero = List.replicate width 0) : Codec α where
  width
  encode
  read := fun bytes =>
    if width ≤ bytes.length then some (decode (bytes.take width), bytes.drop width) else none
  zero
  length_encode
  read_encode := by
    intro a rest
    have hroom : width ≤ (encode a ++ rest).length := by
      rw [List.length_append, length_encode]
      exact Nat.le_add_right _ _
    rw [if_pos hroom, List.take_left' (length_encode a), List.drop_left' (length_encode a),
      decode_encode]
  encode_zero
  exists_zeroExtend a n :=
    ⟨decode (zeroExtend n (encode a)),
      encode_decode _ ((length_zeroExtend n (encode a)).trans (length_encode a))⟩

def u8 : Codec UInt8 :=
  ofBytes 1 (fun a => leBytes 1 a.toNat) (fun bytes => UInt8.ofNat (ofLeBytes bytes)) 0
    (fun _ => length_leBytes _ _)
    (fun a => by rw [ofLeBytes_leBytes a.toNat_lt, UInt8.ofNat_toNat])
    (fun bytes h => by
      rw [UInt8.toNat_ofNat_of_lt' (ofLeBytes_lt h), ← h, leBytes_ofLeBytes])
    (leBytes_zero 1)

def u16 : Codec UInt16 :=
  ofBytes 2 (fun a => leBytes 2 a.toNat) (fun bytes => UInt16.ofNat (ofLeBytes bytes)) 0
    (fun _ => length_leBytes _ _)
    (fun a => by rw [ofLeBytes_leBytes a.toNat_lt, UInt16.ofNat_toNat])
    (fun bytes h => by
      rw [UInt16.toNat_ofNat_of_lt' (ofLeBytes_lt h), ← h, leBytes_ofLeBytes])
    (leBytes_zero 2)

def u32 : Codec UInt32 :=
  ofBytes 4 (fun a => leBytes 4 a.toNat) (fun bytes => UInt32.ofNat (ofLeBytes bytes)) 0
    (fun _ => length_leBytes _ _)
    (fun a => by rw [ofLeBytes_leBytes a.toNat_lt, UInt32.ofNat_toNat])
    (fun bytes h => by
      rw [UInt32.toNat_ofNat_of_lt' (ofLeBytes_lt h), ← h, leBytes_ofLeBytes])
    (leBytes_zero 4)

def u64 : Codec UInt64 :=
  ofBytes 8 (fun a => leBytes 8 a.toNat) (fun bytes => UInt64.ofNat (ofLeBytes bytes)) 0
    (fun _ => length_leBytes _ _)
    (fun a => by rw [ofLeBytes_leBytes a.toNat_lt, UInt64.ofNat_toNat])
    (fun bytes h => by
      rw [UInt64.toNat_ofNat_of_lt' (ofLeBytes_lt h), ← h, leBytes_ofLeBytes])
    (leBytes_zero 8)

def u128 : Codec (BitVec 128) :=
  ofBytes 16 (fun a => leBytes 16 a.toNat) (fun bytes => BitVec.ofNat 128 (ofLeBytes bytes)) 0
    (fun _ => length_leBytes _ _)
    (fun a => by rw [ofLeBytes_leBytes a.isLt, BitVec.ofNat_toNat, BitVec.setWidth_eq])
    (fun bytes h => by
      have hlt : ofLeBytes bytes < 2 ^ 128 := ofLeBytes_lt_two_pow (by omega)
      rw [BitVec.toNat_ofNat, Nat.mod_eq_of_lt hlt, ← h, leBytes_ofLeBytes])
    (leBytes_zero 16)

/-- One byte, and no other than 0 and 1. -/
def bool : Codec Bool where
  width := 1
  encode a := [if a then 1 else 0]
  read
    | 0 :: rest => some (false, rest)
    | 1 :: rest => some (true, rest)
    | _ => none
  zero := false
  length_encode _ := rfl
  read_encode a rest := by cases a <;> rfl
  encode_zero := rfl
  exists_zeroExtend a n := by
    cases n with
    | zero => exact ⟨false, rfl⟩
    | succ n => exact ⟨a, (zeroExtend_of_length_le (by simp)).symm⟩

section Sequences

/-- A counted run of values, back to back. -/
def readMany : Nat → Reader (List α)
  | 0 => pure []
  | count + 1 => do
    let a ← codec.read
    let l ← readMany count
    return a :: l

theorem readMany_encode (l : List α) (rest : List UInt8) :
    codec.readMany l.length (l.flatMap codec.encode ++ rest) = some (l, rest) := by
  induction l with
  | nil => rfl
  | cons a l ih =>
    rw [List.length_cons, readMany, List.flatMap_cons, List.append_assoc,
      Reader.bind_eq (codec.read_encode a _), Reader.bind_eq ih]
    rfl

theorem length_flatMap_encode (l : List α) :
    (l.flatMap codec.encode).length = l.length * codec.width := by
  induction l with
  | nil => rw [List.flatMap_nil, List.length_nil, List.length_nil, Nat.zero_mul]
  | cons a l ih =>
    rw [List.flatMap_cons, List.length_append, codec.length_encode, ih, List.length_cons,
      Nat.succ_mul, Nat.add_comm]

theorem exists_zeroExtend_flatMap (l : List α) (n : Nat) :
    ∃ l' : List α, l'.length = l.length ∧
      l'.flatMap codec.encode = zeroExtend n (l.flatMap codec.encode) := by
  induction l generalizing n with
  | nil => exact ⟨[], rfl, by simp [zeroExtend]⟩
  | cons a l ih =>
    obtain ⟨b, hb⟩ := codec.exists_zeroExtend a n
    obtain ⟨l', hlength, hl'⟩ := ih (n - (codec.encode a).length)
    refine ⟨b :: l', by rw [List.length_cons, List.length_cons, hlength], ?_⟩
    rw [List.flatMap_cons, List.flatMap_cons, zeroExtend_append, hb, hl']

theorem flatMap_encode_zero (count : Nat) :
    (List.replicate count codec.zero).flatMap codec.encode =
      List.replicate (count * codec.width) 0 := by
  induction count with
  | zero => rw [Nat.zero_mul]; rfl
  | succ count ih =>
    rw [List.replicate_succ, List.flatMap_cons, ih, codec.encode_zero,
      List.replicate_append_replicate, Nat.succ_mul, Nat.add_comm]

/-- An array of a fixed length. -/
def array (count : Nat) : Codec (Vector α count) where
  width := count * codec.width
  encode v := v.toList.flatMap codec.encode
  read := do
    let l ← codec.readMany count
    if h : l.length = count then return ⟨⟨l⟩, h⟩ else failure
  zero := Vector.replicate count codec.zero
  length_encode v := by rw [length_flatMap_encode, Vector.length_toList]
  read_encode v rest := by
    obtain ⟨⟨l⟩, hsize⟩ := v
    have hlength : l.length = count := hsize
    have hread := codec.readMany_encode l rest
    rw [hlength] at hread
    refine (Reader.bind_eq hread).trans ?_
    rw [dif_pos hlength]
    rfl
  encode_zero := by rw [Vector.toList_replicate, flatMap_encode_zero]
  exists_zeroExtend v n := by
    obtain ⟨l, hlength, hl⟩ := codec.exists_zeroExtend_flatMap v.toList n
    exact ⟨⟨⟨l⟩, hlength.trans v.length_toList⟩, hl⟩

/-- A list with its length in front. A length past 32 bits cannot be written. -/
def encodeVec (l : List α) : Option (List UInt8) :=
  if l.length < 2 ^ 32 then some (leBytes 4 l.length ++ l.flatMap codec.encode) else none

def readVec : Reader (List α) := do
  let count ← u32.read
  codec.readMany count.toNat

theorem length_encodeVec {l : List α} {bytes : List UInt8} (h : codec.encodeVec l = some bytes) :
    bytes.length = 4 + l.length * codec.width := by
  unfold encodeVec at h
  split at h
  · cases h
    rw [List.length_append, length_leBytes, length_flatMap_encode]
  · cases h

theorem readVec_encode {l : List α} {bytes : List UInt8} (h : codec.encodeVec l = some bytes)
    (rest : List UInt8) : codec.readVec (bytes ++ rest) = some (l, rest) := by
  unfold encodeVec at h
  split at h
  · rename_i hfits
    cases h
    have hcount : (UInt32.ofNat l.length).toNat = l.length := UInt32.toNat_ofNat_of_lt' hfits
    have hread := u32.read_encode (UInt32.ofNat l.length) (l.flatMap codec.encode ++ rest)
    have hencode : u32.encode (UInt32.ofNat l.length) = leBytes 4 l.length :=
      congrArg (leBytes 4) hcount
    rw [hencode] at hread
    rw [readVec, List.append_assoc, Reader.bind_eq hread, hcount]
    exact codec.readMany_encode l rest
  · cases h

end Sequences

end Codec

end borsh
