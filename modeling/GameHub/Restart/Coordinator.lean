import GameHub.Duration
import GameHub.Restart.State
import GameHub.Text.Blank

/-!
# Restart coordination

Backends ask before they restart. One backend at a time holds the restart slot; the others wait in a
backlog and are promoted in order of arrival when the slot becomes free. A cooldown keeps one
backend from restarting twice in a short time. `sweep` drops requesters that no longer ask, and
takes the slot from a restart that never reports its end.

Every call is answered at once. To wait and ask again is up to the backend.
-/

namespace GameHub.Restart

/-- How many restarts without permission are remembered for one backend. -/
def auditLimit : Nat := 32

/-- The timings of restart coordination. -/
structure Policy where
  /-- Least time between two restarts of one backend. -/
  cooldown : Duration
  /-- Wait for each place in the backlog. -/
  backoff : Duration
  /-- A request not repeated for longer than this is dropped. -/
  queueTimeout : Duration
  /-- A restart that takes longer than this is given up. -/
  maxRestart : Duration
  deriving DecidableEq, Repr

instance : Inhabited Policy where
  default := ⟨.ofSeconds 300, .ofSeconds 30, .ofSeconds 600, .ofSeconds 300⟩

/-- Where a backend stands. -/
inductive Phase where
  | idle
  | queued
  | restarting
  deriving DecidableEq, Repr

/-- What a sweep changed. -/
structure SweepReport where
  /-- Backends dropped from the backlog. -/
  expired : List String
  /-- The backend that lost the slot. -/
  recovered : Option String
  /-- The backend that got it next. -/
  promoted : Option String
  deriving DecidableEq, Repr

/-- The sweep changed nothing. -/
def SweepReport.isEmpty (r : SweepReport) : Bool :=
  r.expired.isEmpty && r.recovered.isNone && r.promoted.isNone

/-! ## Changes of the state -/

namespace State

/-- The position of a backend in the backlog, counted from zero. -/
def backlogIndex (s : State) (server : String) : Option Nat :=
  s.backlog.findIdx? (·.server = server)

/-- The state without the backlog entry of a backend. -/
def dequeue (s : State) (server : String) : State :=
  { s with backlog := s.backlog.eraseP (·.server = server) }

/-- Gives a backend the slot. -/
def grant (s : State) (server : String) (now : UInt64) : State :=
  { s.dequeue server with holder := some server, history := s.history.insert server now }

/-- Gives a free slot to the head of the backlog, if there is one. -/
def promote (s : State) (now : UInt64) : Option String × State :=
  match s.holder, s.backlog with
  | none, next :: rest => (some next.server, { s with backlog := rest }.grant next.server now)
  | _, _ => (none, s)

/-- Frees the slot and hands it on. -/
def release (s : State) (now : UInt64) : Option String × State :=
  { s with holder := none }.promote now

/-- Remembers a restart without permission, which counts as a restart for the cooldown. -/
def audit (s : State) (server : String) (now : UInt64) : State :=
  let times := (s.unauthorized.get? server).getD [] ++ [now]
  { s with
    unauthorized := s.unauthorized.insert server (times.drop (times.length - auditLimit))
    history := s.history.insert server now }

end State

/-! ## The coordinator -/

/-- The state and the rules for changing it. -/
structure Coordinator where
  policy : Policy
  /-- If there is a roster, only its backends may restart. -/
  roster : Option (List String)
  state : State
  deriving DecidableEq, Repr

namespace Coordinator

/-- A coordinator that nobody has called yet. -/
def new (policy : Policy) (roster : Option (List String)) : Coordinator :=
  ⟨policy, roster, .initial⟩

/-- The backend is on the roster, or there is none. -/
def admits (c : Coordinator) (server : String) : Bool :=
  match c.roster with
  | some names => names.contains server
  | none => true

/-- Where a backend stands. -/
def phase (c : Coordinator) (server : String) : Phase :=
  if c.state.holder = some server then .restarting
  else if (c.state.backlogIndex server).isSome then .queued
  else .idle

/-- The last restart of a backend and the end of its cooldown, while that is still ahead. -/
def cooling (c : Coordinator) (server : String) (now : UInt64) : Option (UInt64 × UInt64) :=
  match c.state.history.get? server with
  | some last =>
    let ready := last.addSat c.policy.cooldown.millis
    if now < ready then some (last, ready) else none
  | none => none

/-- The answer to a backend at a place in the backlog, counted from zero. -/
def waitAt (c : Coordinator) (index : Nat) (now : UInt64) : Decision :=
  let position := UInt64.ofNat (index + 1)
  let holder := c.state.holder.getD ""
  .wait (now.addSat (c.policy.backoff.millis.mulSat position)) (some position)
    s!"{holder} is restarting, you are #{index + 1} in line"

/-- Puts a backend at the end of the backlog, or notes that it asked again. -/
def enqueue (c : Coordinator) (server : String) (now : UInt64) : Nat × Coordinator :=
  match c.state.backlogIndex server with
  | some index =>
    (index, { c with state.backlog := c.state.backlog.modify index (·.again now) })
  | none =>
    (c.state.backlog.length,
      { c with state.backlog := c.state.backlog ++ [.first server now] })

/-- A backend asks to restart. -/
def request (c : Coordinator) (server : String) (now : UInt64) : Decision × Coordinator :=
  if Text.allBlank server then (.deny "server name is empty", c)
  else if !c.admits server then (.deny s!"{server} is not a known server", c)
  else if c.state.holder = some server then (.allow, c)
  else match c.cooling server now with
    | some (last, ready) =>
      let ago := now.subSat last / 1000
      (.wait ready none
        s!"{server} restarted {ago}s ago, cooldown is {c.policy.cooldown.seconds}s", c)
    | none =>
      if c.state.holder.isNone then (.allow, { c with state := c.state.grant server now })
      else
        let (index, c) := c.enqueue server now
        (c.waitAt index now, c)

/-- A backend reports that its restart is over. Only the holder of the slot can. -/
def complete (c : Coordinator) (server : String) (now : UInt64) :
    Except UnexpectedCompletion Unit × Coordinator :=
  if c.state.holder = some server then (.ok (), { c with state := (c.state.release now).2 })
  else (.error ⟨server, c.state.holder⟩, c)

/-- A backend restarted without permission. It leaves the backlog, and if it held the slot the slot
is handed on. -/
def unauthorized (c : Coordinator) (server : String) (now : UInt64) : Coordinator :=
  let state := (c.state.audit server now).dequeue server
  { c with state := if state.holder = some server then (state.release now).2 else state }

/-- The request has been repeated recently enough. -/
def isFresh (c : Coordinator) (now : UInt64) (r : Request) : Bool :=
  now.subSat r.lastRetry ≤ c.policy.queueTimeout.millis

/-- The restart of the holder takes too long. -/
def isOverdue (c : Coordinator) (now : UInt64) (holder : String) : Bool :=
  match c.state.history.get? holder with
  | some started => c.policy.maxRestart.millis < now.subSat started
  | none => true

/-- Drops stale requests, and takes the slot from a restart that takes too long. -/
def sweep (c : Coordinator) (now : UInt64) : SweepReport × Coordinator :=
  let (fresh, stale) := c.state.backlog.partition (c.isFresh now)
  let expired := stale.map (·.server)
  let c := { c with state.backlog := fresh }
  match c.state.holder with
  | some holder =>
    if c.isOverdue now holder then
      let (promoted, state) := c.state.release now
      (⟨expired, some holder, promoted⟩, { c with state })
    else (⟨expired, none, none⟩, c)
  | none => (⟨expired, none, none⟩, c)

/-! ## Calls -/

/-- A call on the coordinator. -/
inductive Call where
  | request (server : String) (now : UInt64)
  | complete (server : String) (now : UInt64)
  | unauthorized (server : String) (now : UInt64)
  | sweep (now : UInt64)
  deriving DecidableEq, Repr

/-- The answer to a call. -/
inductive Answer where
  | decision (d : Decision)
  | completion (result : Except UnexpectedCompletion Unit)
  | noted
  | swept (report : SweepReport)

/-- Answers a call. -/
def step (c : Coordinator) : Call → Answer × Coordinator
  | .request server now => let (d, c) := c.request server now; (.decision d, c)
  | .complete server now => let (r, c) := c.complete server now; (.completion r, c)
  | .unauthorized server now => (.noted, c.unauthorized server now)
  | .sweep now => let (r, c) := c.sweep now; (.swept r, c)

/-- The coordinator after a run of calls. -/
def run (c : Coordinator) (calls : List Call) : Coordinator :=
  calls.foldl (fun c call => (c.step call).2) c

end Coordinator

end GameHub.Restart
