/-!
# UTF-8

Encoding of texts as bytes, and decoding that says where and how a byte string leaves UTF-8: either
it ends inside a character, or some bytes begin no character. The second byte of a character is
restricted by the first one (`Lead`), which rules out overlong forms, surrogates, and code points
above `U+10FFFF`.
-/

namespace GameHub.Text.Utf8

/-! ## Encoding -/

/-- The bytes of a text. -/
def encode (s : String) : List UInt8 := s.toList.flatMap String.utf8EncodeChar

theorem length_encode (s : String) : (encode s).length = s.utf8ByteSize := by
  have h : (String.ofList s.toList).utf8ByteSize = (encode s).length := by
    rw [String.utf8ByteSize, String.toByteArray_ofList, List.utf8Encode, List.size_toByteArray,
      encode]
  rw [← h, String.ofList_toList]

/-! ## Decoding -/

/-- How a byte string fails to be UTF-8. -/
inductive Error where
  /-- The `length` bytes from `index` on begin no character. -/
  | invalid (length index : Nat)
  /-- The bytes end inside the character that starts at `index`. -/
  | incomplete (index : Nat)
  deriving DecidableEq, Repr

/-- What the first byte of a character says about it. -/
structure Lead where
  /-- Bytes that follow the first one. -/
  tails : Nat
  /-- The bits of the code point that the first byte holds. -/
  bits : Nat
  /-- The least second byte. -/
  low : UInt8
  /-- The greatest second byte. -/
  high : UInt8

/-- Reads a first byte. -/
def lead? (b : UInt8) : Option Lead :=
  if b < 0x80 then some ⟨0, b.toNat, 0x80, 0xBF⟩
  else if b < 0xC2 then none
  else if b < 0xE0 then some ⟨1, b.toNat - 0xC0, 0x80, 0xBF⟩
  else if b < 0xF0 then
    some ⟨2, b.toNat - 0xE0, if b = 0xE0 then 0xA0 else 0x80, if b = 0xED then 0x9F else 0xBF⟩
  else if b < 0xF5 then
    some ⟨3, b.toNat - 0xF0, if b = 0xF0 then 0x90 else 0x80, if b = 0xF4 then 0x8F else 0xBF⟩
  else none

/-- What became of the bytes after the first one. -/
inductive Tail where
  /-- The code point and the bytes after it. -/
  | code (point : Nat) (rest : List UInt8)
  /-- A byte does not continue the character after `length` good bytes. -/
  | broken (length : Nat)
  /-- There are no more bytes. -/
  | cut

/-- Reads the continuation bytes of a character of which `seen` bytes, worth `point`, are read. -/
def readTail : (tails : Nat) → (low high : UInt8) → (seen point : Nat) → List UInt8 → Tail
  | 0, _, _, _, point, rest => .code point rest
  | _ + 1, _, _, _, _, [] => .cut
  | tails + 1, low, high, seen, point, b :: rest =>
    if low ≤ b ∧ b ≤ high then
      readTail tails 0x80 0xBF (seen + 1) (64 * point + (b.toNat - 0x80)) rest
    else .broken seen

theorem length_of_readTail {tails : Nat} {low high : UInt8} {seen point : Nat}
    {bytes : List UInt8} {p : Nat} {rest : List UInt8}
    (h : readTail tails low high seen point bytes = .code p rest) :
    rest.length ≤ bytes.length := by
  fun_induction readTail tails low high seen point bytes with
  | case1 => simp_all
  | case2 => simp at h
  | case3 _ _ _ _ _ _ _ _ ih => exact Nat.le_succ_of_le (ih h)
  | case4 => simp at h

/-- Decodes from `index` on, after the characters `done`, newest first. -/
def decodeFrom (index : Nat) (done : List Char) (bytes : List UInt8) : Except Error (List Char) :=
  match bytes with
  | [] => .ok done.reverse
  | b :: tail =>
    match lead? b with
    | none => .error (.invalid 1 index)
    | some lead =>
      match h : readTail lead.tails lead.low lead.high 1 lead.bits tail with
      | .code point rest => decodeFrom (index + 1 + lead.tails) (Char.ofNat point :: done) rest
      | .broken length => .error (.invalid length index)
      | .cut => .error (.incomplete index)
termination_by bytes.length
decreasing_by exact Nat.lt_succ_of_le (length_of_readTail h)

/-- The text that the bytes encode. -/
def decode (bytes : List UInt8) : Except Error String :=
  (decodeFrom 0 [] bytes).map String.ofList

/-- The wording of a decoding error. -/
def Error.message : Error → String
  | .invalid length index => s!"invalid utf-8 sequence of {length} bytes from index {index}"
  | .incomplete index => s!"incomplete utf-8 byte sequence from index {index}"

end GameHub.Text.Utf8
