import GameHub.NameMap
import GameHub.Text.Utf8

/-!
# Binary codecs

How values are laid out in datagrams: numbers in little-endian order and of fixed width, a byte 0 or
1 for a truth value or a missing part, a 64-bit count in front of texts, lists and maps, and a
32-bit index for one of several alternatives. A codec writes a value and reads one from the front of
a byte string; what it does not need is left.

Reading goes from front to back and stops at the first error.
-/

namespace GameHub.Wire

/-! ## Errors -/

/-- Why bytes do not hold a value. -/
inductive Error where
  | outOfBytes
  /-- The index names none of the alternatives. -/
  | unknownVariant (index : UInt32) (count : Nat)
  /-- The byte in front of a part that may be missing is neither 0 nor 1. -/
  | badTag (byte : UInt8)
  /-- The byte of a truth value is neither 0 nor 1. -/
  | badBool (byte : UInt8)
  | badText (cause : Text.Utf8.Error)
  deriving DecidableEq, Repr

/-- The wording of the cause. -/
def Error.message : Error → String
  | outOfBytes => "unexpected end of file"
  | unknownVariant index count =>
    s!"invalid value: integer `{index}`, expected variant index 0 <= i < {count}"
  | badTag byte => s!"tag for enum is not valid, found {byte}"
  | badBool byte => s!"invalid u8 while decoding bool, expected 0 or 1, found {byte}"
  | badText cause => s!"string is not valid utf8: {cause.message}"

/-! ## Reading -/

/-- Reads from the front of a byte string. -/
abbrev Reader := StateT (List UInt8) (Except Error)

/-- The first bytes, after the bytes `done`, newest first, and the rest. -/
def splitFrom (done : List UInt8) : Nat → List UInt8 → Option (List UInt8 × List UInt8)
  | 0, rest => some (done.reverse, rest)
  | _ + 1, [] => none
  | n + 1, b :: rest => splitFrom (b :: done) n rest

/-- Reads so many bytes. -/
def readBytes (n : Nat) : Reader (List UInt8) := fun bytes =>
  match splitFrom [] n bytes with
  | some (front, rest) => .ok (front, rest)
  | none => .error .outOfBytes

/-- Reads one byte. -/
def readByte : Reader UInt8 := fun
  | b :: rest => .ok (b, rest)
  | [] => .error .outOfBytes

/-- Reads so many values, after the values `done`, newest first. -/
def readMany {α : Type} (read : Reader α) (done : List α) : Nat → Reader (List α)
  | 0 => return done.reverse
  | n + 1 => do
    let a ← read
    readMany read (a :: done) n

/-! ## Numbers -/

/-- The bytes of a number, lowest first. -/
def littleEndian : (width : Nat) → Nat → List UInt8
  | 0, _ => []
  | width + 1, n => UInt8.ofNat n :: littleEndian width (n / 256)

/-- The number that bytes write, lowest first. -/
def ofLittleEndian : List UInt8 → Nat
  | [] => 0
  | b :: rest => b.toNat + 256 * ofLittleEndian rest

theorem length_littleEndian (width n : Nat) : (littleEndian width n).length = width := by
  induction width generalizing n with
  | zero => rfl
  | succ width ih => simp [littleEndian, ih]

theorem ofLittleEndian_littleEndian (width n : Nat) :
    ofLittleEndian (littleEndian width n) = n % Nat.pow 256 width := by
  induction width generalizing n with
  | zero => simp [littleEndian, ofLittleEndian, Nat.mod_one]
  | succ width ih =>
    have hpow : Nat.pow 256 (width + 1) = 256 * Nat.pow 256 width := Nat.mul_comm _ _
    rw [littleEndian, ofLittleEndian, ih, hpow, Nat.mod_mul]
    simp

/-! ## Codecs -/

/-- How a type is written and read. The size of what is written is known without writing it. -/
structure Codec (α : Type) where
  encode : α → List UInt8
  decode : Reader α
  size : α → Nat
  length_encode : ∀ a, (encode a).length = size a

namespace Codec

/-- Four bytes. -/
def u32 : Codec UInt32 where
  encode n := littleEndian 4 n.toNat
  decode := return UInt32.ofNat (ofLittleEndian (← readBytes 4))
  size _ := 4
  length_encode _ := length_littleEndian 4 _

/-- Eight bytes. -/
def u64 : Codec UInt64 where
  encode n := littleEndian 8 n.toNat
  decode := return UInt64.ofNat (ofLittleEndian (← readBytes 8))
  size _ := 8
  length_encode _ := length_littleEndian 8 _

/-- One byte, 0 or 1. -/
def bool : Codec Bool where
  encode b := [if b then 1 else 0]
  decode := do
    let byte ← readByte
    if byte = 0 then return false
    else if byte = 1 then return true
    else throw (.badBool byte)
  size _ := 1
  length_encode _ := rfl

/-- The count in front of a text, a list or a map. -/
def count : Codec Nat where
  encode n := u64.encode (UInt64.ofNat n)
  decode := return (← u64.decode).toNat
  size _ := 8
  length_encode _ := u64.length_encode _

/-- The bytes of a text after their count. -/
def text : Codec String where
  encode s :=
    let bytes := Text.Utf8.encode s
    count.encode bytes.length ++ bytes
  decode := do
    let bytes ← readBytes (← count.decode)
    match Text.Utf8.decode bytes with
    | .ok s => return s
    | .error cause => throw (.badText cause)
  size s := 8 + s.utf8ByteSize
  length_encode s := by
    rw [List.length_append, count.length_encode, Text.Utf8.length_encode]
    rfl

/-- A part that may be missing. -/
def option {α : Type} (c : Codec α) : Codec (Option α) where
  encode
    | some a => 1 :: c.encode a
    | none => [0]
  decode := do
    let tag ← readByte
    if tag = 0 then return none
    else if tag = 1 then return some (← c.decode)
    else throw (.badTag tag)
  size
    | some a => 1 + c.size a
    | none => 1
  length_encode
    | some a => by rw [List.length_cons, c.length_encode, Nat.add_comm]
    | none => rfl

/-- The values after their count. -/
def list {α : Type} (c : Codec α) : Codec (List α) where
  encode as := count.encode as.length ++ as.flatMap c.encode
  decode := do readMany c.decode [] (← count.decode)
  size as := 8 + as.foldr (c.size · + ·) 0
  length_encode as := by
    have h : (as.flatMap c.encode).length = as.foldr (c.size · + ·) 0 := by
      induction as with
      | nil => rfl
      | cons a as ih => rw [List.flatMap_cons, List.length_append, c.length_encode, ih]; rfl
    rw [List.length_append, count.length_encode, h]
    rfl

/-- One value after the other. -/
def pair {α β : Type} (a : Codec α) (b : Codec β) : Codec (α × β) where
  encode p := a.encode p.1 ++ b.encode p.2
  decode := return (← a.decode, ← b.decode)
  size p := a.size p.1 + b.size p.2
  length_encode p := by rw [List.length_append, a.length_encode, b.length_encode]

/-- The entries of a map; of two with one key the later one counts. -/
def nameMap {α : Type} (c : Codec α) : Codec (NameMap α) where
  encode m := (list (pair text c)).encode m.entries
  decode := return NameMap.ofList (← (list (pair text c)).decode)
  size m := (list (pair text c)).size m.entries
  length_encode m := (list (pair text c)).length_encode m.entries

/-- The index of one of so many alternatives. -/
def variant (alternatives : Nat) : Codec Nat where
  encode i := u32.encode (UInt32.ofNat i)
  decode := do
    let index ← u32.decode
    if index.toNat < alternatives then return index.toNat
    else throw (.unknownVariant index alternatives)
  size _ := 4
  length_encode _ := u32.length_encode _

end Codec

end GameHub.Wire
