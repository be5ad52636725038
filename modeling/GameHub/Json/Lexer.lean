import GameHub.Json.Basic
import GameHub.Text.Number

/-!
# The tokens of a JSON text

`Json.lex` cuts a text into tokens. Blanks are space, tab, line feed and carriage return. A string
may hold any character except quotes, backslashes and controls below the space; the escapes are the
eight short ones and `\u` with four hexadecimal digits. A number has no zero in front, and digits on
both sides of its point.
-/

namespace GameHub.Json

/-! ## Strings -/

/-- What one character or escape of a string literal stands for. -/
inductive StringPart where
  | char (c : Char)
  /-- Half a surrogate pair, which only an escape can write. -/
  | half (code : Nat)
  deriving DecidableEq, Repr

/-- The meaning of a code unit written as an escape. -/
def StringPart.ofCode (code : Nat) : StringPart :=
  if 0xD800 ≤ code ∧ code < 0xE000 then half code else char (Char.ofNat code)

/-- The code that four hexadecimal digits write. -/
def hexCode? (a b c d : Char) : Option Nat := do
  let a ← Text.digit? 16 a
  let b ← Text.digit? 16 b
  let c ← Text.digit? 16 c
  let d ← Text.digit? 16 d
  return ((a * 16 + b) * 16 + c) * 16 + d

/-- The character that a backslash and a letter stand for. -/
def shortEscape? : Char → Option Char
  | '"' => some '"'
  | '\\' => some '\\'
  | '/' => some '/'
  | 'b' => some '\x08'
  | 'f' => some '\x0c'
  | 'n' => some '\n'
  | 'r' => some '\r'
  | 't' => some '\t'
  | _ => none

/-- Reads a string literal after its first quote, up to its last one; `done` is newest first. -/
def readString (done : List StringPart) : List Char → Option (List StringPart × List Char)
  | [] => none
  | '"' :: rest => some (done.reverse, rest)
  | '\\' :: 'u' :: a :: b :: c :: d :: rest =>
    match hexCode? a b c d with
    | some code => readString (.ofCode code :: done) rest
    | none => none
  | '\\' :: e :: rest =>
    match shortEscape? e with
    | some c => readString (.char c :: done) rest
    | none => none
  | c :: rest => if c < ' ' then none else readString (.char c :: done) rest

/-- The text of a string literal: two halves that belong together make one character. -/
def joinHalves (done : List Char) : List StringPart → Option String
  | [] => some (String.ofList done.reverse)
  | .char c :: rest => joinHalves (c :: done) rest
  | .half high :: .half low :: rest =>
    if high < 0xDC00 ∧ 0xDC00 ≤ low then
      joinHalves (Char.ofNat (0x10000 + (high - 0xD800) * 0x400 + (low - 0xDC00)) :: done) rest
    else none
  | .half _ :: _ => none

theorem length_of_readString {done units : List StringPart} {cs rest : List Char}
    (h : readString done cs = some (units, rest)) : rest.length < cs.length := by
  fun_induction readString done cs with
  | case3 _ _ _ _ _ _ _ _ ih =>
    have := ih h
    simp only [List.length_cons]
    omega
  | case5 _ _ _ _ _ _ ih =>
    have := ih h
    simp only [List.length_cons]
    omega
  | case8 _ _ _ _ _ _ _ ih =>
    have := ih h
    simp only [List.length_cons]
    omega
  | case2 => simp_all
  | _ => simp at h

/-! ## Numbers -/

/-- The character can be part of a number. -/
def isNumberChar (c : Char) : Bool :=
  c.isDigit || c = '-' || c = '+' || c = '.' || c = 'e' || c = 'E'

/-- Digits, at least one, and what follows them. -/
def digits? (cs : List Char) : Option (List Char × List Char) :=
  let digits := cs.takeWhile Char.isDigit
  if digits.isEmpty then none else some (digits, cs.dropWhile Char.isDigit)

/-- What follows the fraction, which may be missing. -/
def skipFraction? : List Char → Option (List Char)
  | '.' :: rest => (digits? rest).map (·.2)
  | cs => some cs

/-- What follows the exponent, which may be missing. -/
def skipExponent? : List Char → Option (List Char)
  | c :: rest =>
    if c = 'e' ∨ c = 'E' then
      match rest with
      | '+' :: rest | '-' :: rest => (digits? rest).map (·.2)
      | rest => (digits? rest).map (·.2)
    else some (c :: rest)
  | [] => some []

/-- The token of a number, if the characters are one. -/
def numberToken? (literal : List Char) : Option Token := do
  let unsigned := if literal.head? = some '-' then literal.tail else literal
  let (whole, rest) ← digits? unsigned
  if whole.head? = some '0' ∧ 1 < whole.length then none
  let rest ← skipFraction? rest
  let rest ← skipExponent? rest
  if !rest.isEmpty then none
  if literal = whole then return .natural (Text.decimalFrom 0 whole)
  return .number (String.ofList literal)

/-! ## Texts -/

/-- The token of a word. -/
def wordToken? (word : List Char) : Option Token :=
  if word = ['n', 'u', 'l', 'l'] then some .null
  else if word = ['t', 'r', 'u', 'e'] then some (.bool true)
  else if word = ['f', 'a', 'l', 's', 'e'] then some (.bool false)
  else none

/-- The token that a single character is. -/
def signToken? : Char → Option Token
  | '[' => some .openArray
  | ']' => some .closeArray
  | '{' => some .openObject
  | '}' => some .closeObject
  | ',' => some .comma
  | ':' => some .colon
  | _ => none

/-- The character may stand between tokens. -/
def isSpace (c : Char) : Bool := c = ' ' || c = '\t' || c = '\n' || c = '\r'

theorem length_dropWhile_le {α : Type} (p : α → Bool) (xs : List α) :
    (xs.dropWhile p).length ≤ xs.length :=
  (List.dropWhile_sublist p).length_le

/-- The first token of a text that does not start with a space, and what follows it. -/
def token? (c : Char) (rest : List Char) : Option (Token × List Char) :=
  match signToken? c with
  | some token => some (token, rest)
  | none =>
    if c = '"' then
      (readString [] rest).map fun (units, rest) => (.string (joinHalves [] units), rest)
    else if isNumberChar c then
      (numberToken? (c :: rest.takeWhile isNumberChar)).map (·, rest.dropWhile isNumberChar)
    else (wordToken? (c :: rest.takeWhile Char.isAlpha)).map (·, rest.dropWhile Char.isAlpha)

theorem length_of_token? {c : Char} {rest rest' : List Char} {token : Token}
    (h : token? c rest = some (token, rest')) : rest'.length ≤ rest.length := by
  unfold token? at h
  split at h
  · simp_all
  · split at h
    · obtain ⟨⟨units, r⟩, hr, heq⟩ := Option.map_eq_some_iff.mp h
      have := length_of_readString hr
      simp only [Prod.mk.injEq] at heq
      exact heq.2 ▸ Nat.le_of_lt this
    · split at h
      · obtain ⟨_, _, heq⟩ := Option.map_eq_some_iff.mp h
        simp only [Prod.mk.injEq] at heq
        exact heq.2 ▸ length_dropWhile_le _ _
      · obtain ⟨_, _, heq⟩ := Option.map_eq_some_iff.mp h
        simp only [Prod.mk.injEq] at heq
        exact heq.2 ▸ length_dropWhile_le _ _

/-- Cuts a text into tokens, after the tokens `done`, newest first. -/
def lexFrom (done : List Token) (cs : List Char) : Option (List Token) :=
  match cs with
  | [] => some done.reverse
  | c :: rest =>
    if isSpace c then lexFrom done rest
    else
      match h : token? c rest with
      | some (token, rest') =>
        have : rest'.length ≤ rest.length := length_of_token? h
        lexFrom (token :: done) rest'
      | none => none
termination_by cs.length
decreasing_by
  · exact Nat.lt_succ_self _
  · exact Nat.lt_succ_of_le this

/-- The tokens of a text. -/
def lex (s : String) : Option (List Token) := lexFrom [] s.toList

end GameHub.Json
