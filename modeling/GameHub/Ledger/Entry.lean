import GameHub.Rank.Basic

/-!
# Waiting players

One entry for a player in line, and the order of the line: higher ranks first, then earlier
arrivals, then earlier insertions.
-/

namespace GameHub

/-- The id of a connected player. Holding an id says nothing about the player still being there. -/
abbrev PlayerId := UInt32

/-- A player in line for a backend. -/
structure Entry where
  subject : PlayerId
  rank : Rank
  /-- When the player joined, in milliseconds. -/
  joinTime : UInt64
  /-- The id of the backend that the player wants to reach. -/
  target : String
  /-- The number of the insertion, which decides between equal ranks and join times. There are taken
  to be fewer than 2⁶⁴ insertions, so that a 64-bit word holds it. -/
  seq : Nat
  /-- The position in the heap array, kept up to date while the entry is in it. -/
  heapIndex : Nat
  deriving DecidableEq, Repr, Inhabited

namespace Entry

/-- The order of service: `lt` means that `a` is served before `b`. -/
def order (a b : Entry) : Ordering :=
  (compare b.rank a.rank).then <| (compare a.joinTime b.joinTime).then <| compare a.seq b.seq

/-- `a` is served before `b`. -/
def precedes (a b : Entry) : Bool := a.order b == .lt

/-- `a` is not served after `b`. -/
def notAfter (a b : Entry) : Bool := (a.order b).isLE

end Entry

end GameHub
