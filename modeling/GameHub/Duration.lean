import GameHub.Saturating

/-!
# Durations

Spans of time with nanosecond precision, below 2⁶⁴ seconds, and points on a clock that never
runs backwards. The bound is part of the type, so only addition can fail.
-/

namespace GameHub

/-- A span of time. -/
@[ext]
structure Duration where
  nanoseconds : Nat
  lt_limit : nanoseconds < 0x10000000000000000 * 1_000_000_000
  deriving DecidableEq, Repr

namespace Duration

/-! ## Making durations -/

/-- No time at all. -/
def zero : Duration := ⟨0, by decide⟩

instance : Inhabited Duration := ⟨zero⟩

/-- Whole seconds. -/
def ofSeconds (s : UInt64) : Duration :=
  ⟨s.toNat * 1_000_000_000, by have := s.toNat_lt; omega⟩

/-- Whole milliseconds. -/
def ofMillis (ms : UInt64) : Duration :=
  ⟨ms.toNat * 1_000_000, by have := ms.toNat_lt; omega⟩

/-- A span of so many nanoseconds, if it is below the bound. -/
def ofNanos? (n : Nat) : Option Duration :=
  if h : n < 0x10000000000000000 * 1_000_000_000 then some ⟨n, h⟩ else none

/-! ## Parts -/

/-- The whole seconds. -/
def seconds (d : Duration) : UInt64 := UInt64.ofNat (d.nanoseconds / 1_000_000_000)

/-- The nanoseconds beyond the whole seconds. -/
def subsecond (d : Duration) : Nat := d.nanoseconds % 1_000_000_000

/-- The whole milliseconds, at most the greatest 64-bit word. -/
def millis (d : Duration) : UInt64 := UInt64.ofNatClamp (d.nanoseconds / 1_000_000)

/-! ## Arithmetic -/

/-- The sum, unless it reaches 2⁶⁴ seconds. -/
def add? (a b : Duration) : Option Duration := ofNanos? (a.nanoseconds + b.nanoseconds)

/-- The longer of two spans. -/
def longer (a b : Duration) : Duration := if a.nanoseconds < b.nanoseconds then b else a

theorem toNat_millis (d : Duration) :
    d.millis.toNat = min (d.nanoseconds / 1_000_000) 0xFFFFFFFFFFFFFFFF :=
  UInt64.toNat_clamp _

/-! ## Text -/

/-- A number of `scale`-ths in decimal: the whole part, and the fraction without zeros at its end.
-/
def decimalText (n scale places : Nat) : String :=
  let digits := Nat.toDigits 10 (n % scale)
  let fraction := List.replicate (places - digits.length) '0' ++ digits
  let kept := (fraction.reverse.dropWhile (· = '0')).reverse
  toString (n / scale) ++ (if kept.isEmpty then "" else "." ++ String.ofList kept)

/-- The span in the largest of the units s, ms, µs and ns of which it has at least one. -/
def text (d : Duration) : String :=
  let n := d.nanoseconds
  if 1_000_000_000 ≤ n then decimalText n 1_000_000_000 9 ++ "s"
  else if 1_000_000 ≤ n then decimalText n 1_000_000 6 ++ "ms"
  else if 1_000 ≤ n then decimalText n 1_000 3 ++ "µs"
  else toString n ++ "ns"

end Duration

/-! ## Points in time -/

/-- A reading of a clock that never runs backwards, in nanoseconds. -/
structure Instant where
  nanoseconds : Nat
  deriving DecidableEq, Repr, Inhabited

/-- More than `d` has passed from `earlier` to `now`. -/
def Instant.isPast (earlier now : Instant) (d : Duration) : Bool :=
  d.nanoseconds < now.nanoseconds - earlier.nanoseconds

end GameHub
