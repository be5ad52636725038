/-!
# Numbers in text

Reading of unsigned numbers: the value of a digit, of a run of digits, and of a whole number with
an upper bound. Writing is `Nat.repr` and `Nat.toDigits`.
-/

namespace GameHub.Text

/-- The value of a digit of the base; letters of either case stand for ten and more. -/
def digit? (base : Nat) (c : Char) : Option Nat :=
  let value :=
    if '0' ≤ c ∧ c ≤ '9' then c.toNat - '0'.toNat
    else if 'a' ≤ c ∧ c ≤ 'f' then c.toNat - 'a'.toNat + 10
    else if 'A' ≤ c ∧ c ≤ 'F' then c.toNat - 'A'.toNat + 10
    else base
  if value < base then some value else none

/-- The number that a run of decimal digits writes, after a number already read. -/
def decimalFrom (n : Nat) (digits : List Char) : Nat :=
  digits.foldl (fun n c => 10 * n + (c.toNat - '0'.toNat)) n

/-- The number written in decimal digits alone, at least one of them. -/
def decimal? (digits : List Char) : Option Nat :=
  if !digits.isEmpty && digits.all Char.isDigit then some (decimalFrom 0 digits) else none

/-- A count as people write it: decimal digits after an optional plus sign, below 2³². -/
def count? (s : String) : Option UInt32 :=
  let digits := match s.toList with
    | '+' :: rest => rest
    | digits => digits
  (decimal? digits).bind fun n => if n < UInt32.size then some (UInt32.ofNat n) else none

end GameHub.Text
