import GameHub.Backend.Status
import GameHub.Duration

/-!
# The registry of backends

The configured backends with their last observed status, in the order in which they were declared.
Records are never removed. A status is replaced as a whole by whoever observes the backend, and a
backend that stops reporting goes offline after a number of missed reports.

`get?_adjust_self` and `get?_adjust_of_ne` say that a change reaches one record only.
-/

namespace GameHub

namespace Backend

/-- A backend as it is declared. -/
structure Declaration where
  id : String
  displayName : Option String
  address : String
  icon : Option String
  deriving DecidableEq, Repr, Inhabited

/-- A backend as the hub knows it. -/
structure Record where
  id : String
  displayName : String
  /-- Where players are sent. -/
  address : String
  /-- For display only. -/
  icon : Option String
  status : Status
  /-- Reports missed in a row. -/
  failures : UInt32
  /-- When the last report came, in milliseconds. -/
  lastReport : Option UInt64
  deriving DecidableEq, Repr, Inhabited

namespace Record

/-- The record of a backend that has not been observed yet. It is shown by its id if no other name
is declared. -/
def ofDeclaration (d : Declaration) : Record where
  id := d.id
  displayName := d.displayName.getD d.id
  address := d.address
  icon := d.icon
  status := .offline
  failures := 0
  lastReport := none

/-- The backend has reported. -/
def report (r : Record) (current max : UInt32) (now : UInt64) : Record :=
  { r with status := .up current max, failures := 0, lastReport := some now }

/-- A report was missed. From the threshold on the backend is offline. -/
def miss (threshold : UInt32) (r : Record) : Record :=
  let failures := r.failures.addSat 1
  { r with
    failures
    status := if threshold ≤ failures ∧ r.status.online then .offline else r.status }

/-- The last report is longer ago than the timeout. A backend that never reported is not stale. -/
def isStale (now timeout : UInt64) (r : Record) : Bool :=
  match r.lastReport with
  | some reported => timeout < now.subSat reported
  | none => false

end Record

end Backend

open Backend

/-- The backends that the hub knows, in the order of declaration. -/
structure Registry where
  records : List Record
  /-- Missed reports in a row after which a backend is offline. -/
  threshold : UInt32
  deriving DecidableEq, Repr, Inhabited

namespace Registry

/-! ## Look-up -/

/-- The record of a backend. -/
def get? (r : Registry) (id : String) : Option Record := r.records.find? (·.id = id)

/-- The backend is known. -/
def contains (r : Registry) (id : String) : Bool := r.records.any (·.id = id)

/-- The ids in the order of declaration. -/
def ids (r : Registry) : List String := r.records.map (·.id)

/-- How many backends there are. -/
def size (r : Registry) : Nat := r.records.length

/-- There are no backends. -/
def isEmpty (r : Registry) : Bool := r.records.isEmpty

/-! ## Declaration -/

/-- No backends. A threshold of zero counts as one. -/
def empty (threshold : UInt32) : Registry := ⟨[], if threshold = 0 then 1 else threshold⟩

/-- Applies a change to the record of one backend. -/
def adjust (r : Registry) (id : String) (change : Record → Record) : Registry :=
  { r with records := r.records.map fun b => if b.id = id then change b else b }

/-- Adds a record at the end, or in the place of the one with the same id. -/
def add (r : Registry) (record : Record) : Registry :=
  if r.contains record.id then r.adjust record.id fun _ => record
  else { r with records := r.records ++ [record] }

/-- The registry of declared backends, all of them offline. -/
def ofDeclarations (declarations : List Declaration) (threshold : UInt32) : Registry :=
  declarations.foldl (fun r d => r.add (.ofDeclaration d)) (empty threshold)

/-! ## Observation

Each operation says whether the backend is known, and changes nothing if it is not. -/

/-- Replaces the status of a backend. -/
def setStatus (r : Registry) (id : String) (status : Status) : Bool × Registry :=
  (r.contains id, r.adjust id fun b => { b with status })

/-- A backend reports how full it is. -/
def report (r : Registry) (id : String) (current max : UInt32) (now : UInt64) : Bool × Registry :=
  (r.contains id, r.adjust id (·.report current max now))

/-- A report of a backend was missed. -/
def recordFailure (r : Registry) (id : String) : Bool × Registry :=
  (r.contains id, r.adjust id (·.miss r.threshold))

/-- Counts a missed report against every stale backend. The ids are those of the backends that went
offline, in the order of declaration. -/
def sweepStale (r : Registry) (now : UInt64) (timeout : Duration) : List String × Registry :=
  let stale := Record.isStale now timeout.millis
  let lost := r.records.filter fun b =>
    stale b && b.status.online && !(b.miss r.threshold).status.online
  (lost.map (·.id),
    { r with records := r.records.map fun b => if stale b then b.miss r.threshold else b })

/-! ## What a change reaches -/

theorem get?_adjust_self (r : Registry) (id : String) {change : Record → Record}
    (h : ∀ b, (change b).id = b.id) : (r.adjust id change).get? id = (r.get? id).map change := by
  simp only [get?, adjust]
  induction r.records with
  | nil => rfl
  | cons b rest ih =>
    by_cases hb : b.id = id
    · simp [hb, h]
    · simp [hb, ih]

theorem get?_adjust_of_ne (r : Registry) {id other : String} {change : Record → Record}
    (h : ∀ b, (change b).id = b.id) (hne : other ≠ id) :
    (r.adjust id change).get? other = r.get? other := by
  simp only [get?, adjust]
  induction r.records with
  | nil => rfl
  | cons b rest ih =>
    by_cases hb : b.id = id
    · simp [hb, h, Ne.symm hne, ih]
    · by_cases ho : b.id = other <;> simp [hb, ho, ih, hne]

end Registry

end GameHub
