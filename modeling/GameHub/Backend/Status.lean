import GameHub.Saturating

/-!
# Backend status

What was last observed of a backend. A status is always replaced as a whole.
-/

namespace GameHub

namespace Backend

/-- The last observed status of a backend. -/
structure Status where
  online : Bool
  /-- Players on the backend. -/
  current : UInt32
  /-- Players that it holds at most. -/
  max : UInt32
  deriving DecidableEq, Repr, Inhabited

namespace Status

/-- Online, with so many of so many places taken. -/
def up (current max : UInt32) : Status := ⟨true, current, max⟩

/-- Offline: no players and no places. -/
def offline : Status := ⟨false, 0, 0⟩

/-- No place is left. -/
def isFull (s : Status) : Bool := s.max ≤ s.current

/-- The places that are left. -/
def freeSlots (s : Status) : UInt32 := s.max.subSat s.current

end Status

end Backend

end GameHub
