import GameHub.Text.Number

/-!
# Socket addresses

An internet address with a port. The text form is `a.b.c.d:port` for IPv4 and `[groups]:port` for
IPv6. `Address.text` writes the canonical form; `Address.ofText?` reads every form: decimal parts
without leading zeros, groups of up to four hexadecimal digits, `::` for one run of zero groups, a
dotted end, and a zone after `%`.
-/

namespace GameHub

/-- The host of an address. -/
inductive Host where
  | v4 (a b c d : UInt8)
  | v6 (groups : Vector UInt16 8) (zone : UInt32)
  deriving DecidableEq, Repr, Inhabited

/-- A host and a port. -/
structure Address where
  host : Host
  port : UInt16
  deriving DecidableEq, Repr, Inhabited

/-! ## Writing -/

namespace Host

/-- Four numbers with dots between them. -/
def dotted (a b c d : Nat) : String := s!"{a}.{b}.{c}.{d}"

/-- A group in hexadecimal. -/
def groupText (group : UInt16) : String := String.ofList (Nat.toDigits 16 group.toNat)

/-- Groups with colons between them. -/
def groupsText (groups : List UInt16) : String := ":".intercalate (groups.map groupText)

/-- The length of the run of zeros at the front. -/
def zeroRun (groups : List UInt16) : Nat := (groups.takeWhile (· = 0)).length

/-- Start and length of the first of the longest runs of zeros. -/
def longestRun (groups : List UInt16) : Nat × Nat :=
  (List.range groups.length).foldl (fun best start =>
    let length := zeroRun (groups.drop start)
    if best.2 < length then (start, length) else best) (0, 0)

/-- Eight groups. The longest run of at least two zeros is left out, and an embedded IPv4 address is
written with dots. -/
def v6Text (groups : List UInt16) : String :=
  match groups with
  | [0, 0, 0, 0, 0, 0xFFFF, high, low] =>
    "::ffff:" ++
      dotted (high.toNat / 256) (high.toNat % 256) (low.toNat / 256) (low.toNat % 256)
  | _ =>
    let (start, length) := longestRun groups
    if 1 < length then
      groupsText (groups.take start) ++ "::" ++ groupsText (groups.drop (start + length))
    else groupsText groups

/-- The host as it stands before the port. -/
def text : Host → String
  | v4 a b c d => dotted a.toNat b.toNat c.toNat d.toNat
  | v6 groups zone =>
    let zoneText := if zone = 0 then "" else s!"%{zone}"
    s!"[{v6Text groups.toList}{zoneText}]"

end Host

namespace Address

/-- The canonical text of an address. -/
def text (a : Address) : String := s!"{a.host.text}:{a.port}"

/-! ## Reading -/

/-- A reader of a part of a text: what it read, and the characters after it. -/
abbrev Reader (α : Type) := List Char → Option (α × List Char)

/-- Reads this character. -/
def readChar (expected : Char) : Reader Unit
  | c :: rest => if c = expected then some ((), rest) else none
  | [] => none

/-- Reads all digits that follow as a number below `bound`. -/
def readNumber (base bound : Nat) : Reader Nat := fun cs =>
  let digits := cs.takeWhile fun c => (Text.digit? base c).isSome
  let n := digits.foldl (fun n c => base * n + (Text.digit? base c).getD 0) 0
  if digits.isEmpty || bound ≤ n then none else some (n, cs.dropWhile fun c =>
    (Text.digit? base c).isSome)

/-- Reads an octet: up to three decimal digits, without zeros in front. -/
def readOctet : Reader UInt8 := fun cs => do
  let (n, rest) ← readNumber 10 256 cs
  let length := cs.length - rest.length
  if 3 < length || (1 < length && cs.head? = some '0') then none
  else some (UInt8.ofNat n, rest)

/-- Reads four octets with dots between them. -/
def readDotted : Reader (UInt8 × UInt8 × UInt8 × UInt8) := fun cs => do
  let (a, cs) ← readOctet cs
  let (_, cs) ← readChar '.' cs
  let (b, cs) ← readOctet cs
  let (_, cs) ← readChar '.' cs
  let (c, cs) ← readOctet cs
  let (_, cs) ← readChar '.' cs
  let (d, cs) ← readOctet cs
  return ((a, b, c, d), cs)

/-- Reads a group of up to four hexadecimal digits. -/
def readGroup : Reader UInt16 := fun cs => do
  let (n, rest) ← readNumber 16 UInt16.size cs
  if 4 < cs.length - rest.length then none else some (UInt16.ofNat n, rest)

/-- Reads what follows a colon; in front of the first part there is none. -/
def afterColon {α : Type} (isFirst : Bool) (read : Reader α) : Reader α := fun cs => do
  if isFirst then read cs else
    let (_, cs) ← readChar ':' cs
    read cs

/-- Two octets as a group. -/
def pairGroup (a b : UInt8) : UInt16 := UInt16.ofNat (256 * a.toNat + b.toNat)

/-- Reads as many groups as there are, up to `room`. The flag says that the last two were written
with dots. -/
def readGroups (isFirst : Bool) : (room : Nat) → List Char → List UInt16 × Bool × List Char
  | 0, cs => ([], false, cs)
  | room + 1, cs =>
    match if room = 0 then none else afterColon isFirst readDotted cs with
    | some ((a, b, c, d), rest) => ([pairGroup a b, pairGroup c d], true, rest)
    | none =>
      match afterColon isFirst readGroup cs with
      | some (group, rest) =>
        let (groups, isDotted, rest) := readGroups false room rest
        (group :: groups, isDotted, rest)
      | none => ([], false, cs)

/-- Reads eight groups, a run of zero groups being left out at `::`. -/
def readV6 : Reader (Vector UInt16 8) := fun cs => do
  let (front, isDotted, cs) := readGroups true 8 cs
  let (groups, cs) ←
    if front.length = 8 then some (front, cs)
    else if isDotted then none
    else do
      let (_, cs) ← readChar ':' cs
      let (_, cs) ← readChar ':' cs
      let (back, _, cs) := readGroups true (7 - front.length) cs
      some (front ++ List.replicate (8 - front.length - back.length) 0 ++ back, cs)
  if h : groups.toArray.size = 8 then some (⟨groups.toArray, h⟩, cs) else none

/-- Reads a colon and a port. -/
def readPort : Reader UInt16 := fun cs => do
  let (_, cs) ← readChar ':' cs
  let (n, cs) ← readNumber 10 UInt16.size cs
  return (UInt16.ofNat n, cs)

/-- Reads a zone, which may be missing. -/
def readZone (cs : List Char) : UInt32 × List Char :=
  match (readChar '%' cs).bind fun (_, cs) => readNumber 10 UInt32.size cs with
  | some (n, rest) => (UInt32.ofNat n, rest)
  | none => (0, cs)

/-- Reads an IPv4 address with its port. -/
def readSocketV4 : Reader Address := fun cs => do
  let ((a, b, c, d), cs) ← readDotted cs
  let (port, cs) ← readPort cs
  return (⟨.v4 a b c d, port⟩, cs)

/-- Reads an IPv6 address in brackets with its port. -/
def readSocketV6 : Reader Address := fun cs => do
  let (_, cs) ← readChar '[' cs
  let (groups, cs) ← readV6 cs
  let (zone, cs) := readZone cs
  let (_, cs) ← readChar ']' cs
  let (port, cs) ← readPort cs
  return (⟨.v6 groups zone, port⟩, cs)

/-- The address that a text writes. -/
def ofText? (s : String) : Option Address :=
  match (readSocketV4 s.toList).or (readSocketV6 s.toList) with
  | some (address, []) => some address
  | _ => none

/-- The wording for a text that writes no address. -/
def syntaxMessage : String := "invalid socket address syntax"

end Address

end GameHub
