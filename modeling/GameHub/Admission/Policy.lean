import GameHub.Backend.Status
import GameHub.Rank.Basic

/-!
# Reserved places

The last free places of a backend are kept for high ranks. `Policy.capacity` says whether a rank is
let in at a status, and if not, why.
-/

namespace GameHub.Admission

/-- Which places are kept for whom. -/
structure Policy where
  /-- Places that are kept free. -/
  reservedSlots : UInt32
  /-- The lowest rank that may take them. -/
  adminThreshold : Rank
  deriving DecidableEq, Repr

instance : Inhabited Policy := ⟨⟨5, .admin⟩⟩

/-- Whether a player is let in. -/
inductive Capacity where
  /-- There is a place for the rank. -/
  | place
  | offline
  | full
  /-- Only reserved places are left, and the rank is too low for them. -/
  | reserved
  deriving DecidableEq, Repr

/-- The places that are open to every rank. -/
def Policy.openLimit (p : Policy) (status : Backend.Status) : UInt32 :=
  status.max.subSat p.reservedSlots

/-- Whether a player of the rank is let in at the status. -/
def Policy.capacity (p : Policy) (rank : Rank) (status : Backend.Status) : Capacity :=
  if !status.online then .offline
  else if status.isFull then .full
  else if p.openLimit status ≤ status.current && !rank.atLeast p.adminThreshold then .reserved
  else .place

end GameHub.Admission
