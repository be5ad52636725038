import GameHub.Admission.Error
import GameHub.Admission.Policy
import GameHub.Backend.Registry
import GameHub.Ledger.Basic
import GameHub.Notice

/-!
# The admission queue

Players wait in one line for places on all backends. `reconcile` goes through the line once and
admits at most one player, because transfers take time and may fail: a second player could be sent
to the same free place. A failed transfer gives the entry back, and `requeue` puts it where it was.

Players who disconnect are not taken out at once. They are found by the liveness check when the line
is gone through, and positions do not count them.

Every operation gives its result, the queue after it, and the signals for the players, in order.
-/

namespace GameHub.Admission

open Backend

/-- A player taken from the line, and where to send the player. -/
structure Decision where
  entry : Entry
  backend : String
  address : String
  deriving DecidableEq, Repr, Inhabited

/-- The line and the rule for reserved places. -/
structure Queue where
  ledger : Ledger
  policy : Policy
  deriving DecidableEq, Repr, Inhabited

/-- What an operation did. -/
structure Outcome (α : Type) where
  result : α
  queue : Queue
  signals : List Signal
  deriving Repr

namespace Queue

/-- Nobody in line. -/
def empty (policy : Policy) : Queue := ⟨.empty, policy⟩

/-! ## Looking at the line -/

/-- How many players are in line, live or not. -/
def size (q : Queue) : Nat := q.ledger.size

/-- The entries in the order of service. -/
def entries (q : Queue) : List Entry := q.ledger.sorted

/-- The player is in line. -/
def isQueued (q : Queue) (subject : PlayerId) : Bool := (q.ledger.find subject).isSome

/-- The place of a player among the live ones, counted from one. -/
def position (q : Queue) (subject : PlayerId) (live : PlayerId → Bool) : Option Nat :=
  if !live subject then none
  else do
    let entry ← q.ledger.get? (← q.ledger.find subject)
    let ahead := q.ledger.toList.filter fun other =>
      other.subject != subject && other.precedes entry && live other.subject
    return ahead.length + 1

/-- Tells every live player in line its place. -/
def progressSignals (ledger : Ledger) (live : PlayerId → Bool) : List Signal :=
  let waiting := ledger.sorted.filter fun e => live e.subject
  waiting.zipIdx.map fun (e, i) =>
    .progress e.subject (Notice.progress e.target (i + 1) waiting.length)

/-! ## Joining and leaving -/

/-- Puts a player in line, at the place that a player who joins now gets. An entry that the player
already had is dropped. -/
def enqueue (q : Queue) (subject : PlayerId) (rank : Rank) (target : String) (now : UInt64)
    (backends : Registry) : Outcome Unit :=
  let cleared := match (q.ledger.find subject).bind q.ledger.removeAt with
    | some (_, ledger) => ledger
    | none => q.ledger
  { result := ()
    queue := { q with ledger := (cleared.push subject rank now target).2 }
    signals := [.notice subject (Notice.joined target ((backends.get? target).map (·.status)))] }

/-- Takes a player out of the line; says whether the player was in it. -/
def remove (q : Queue) (subject : PlayerId) : Outcome Bool :=
  match (q.ledger.find subject).bind q.ledger.removeAt with
  | some (_, ledger) => ⟨true, { q with ledger }, [.clear subject]⟩
  | none => ⟨false, q, []⟩

/-! ## Going through the line -/

/-- Takes out exactly this entry: same player, same insertion. -/
def take (ledger : Ledger) (entry : Entry) : Option (Entry × Ledger) :=
  (ledger.heap.findIdx? fun e => e.subject = entry.subject && e.seq = entry.seq).bind
    ledger.removeAt

/-- The ledger without this entry. -/
def drop (ledger : Ledger) (entry : Entry) : Ledger := ((take ledger entry).map (·.2)).getD ledger

/-- The record of a backend in a snapshot; of two with one id the later one counts. -/
def backendIn (snapshot : List Record) (id : String) : Option Record :=
  snapshot.reverse.find? (·.id = id)

/-- What happens to an entry that is looked at. -/
inductive Verdict where
  /-- The player is gone. -/
  | gone
  /-- The backend is not known. -/
  | unknownTarget
  /-- The backend cannot take the player now. -/
  | wait
  /-- The player is sent to this backend. -/
  | serve (backend : Record)

/-- Looks at an entry. -/
def judge (policy : Policy) (snapshot : List Record) (live : PlayerId → Bool) (entry : Entry) :
    Verdict :=
  if !live entry.subject then .gone
  else match backendIn snapshot entry.target with
    | none => .unknownTarget
    | some backend =>
      match policy.capacity entry.rank backend.status with
      | .place => .serve backend
      | _ => .wait

/-- What a pass along the line has done. -/
structure Pass where
  ledger : Ledger
  signals : List Signal
  /-- An entry was dropped or admitted. -/
  changed : Bool
  admitted : Option Decision

/-- Goes through entries in order, drops the bad ones, and stops at the first that is admitted. -/
def scan (policy : Policy) (snapshot : List Record) (live : PlayerId → Bool) :
    Ledger → List Entry → Pass
  | ledger, [] => ⟨ledger, [], false, none⟩
  | ledger, e :: rest =>
    match judge policy snapshot live e with
    | .wait => scan policy snapshot live ledger rest
    | .gone => { scan policy snapshot live (drop ledger e) rest with changed := true }
    | .unknownTarget =>
      let pass := scan policy snapshot live (drop ledger e) rest
      { pass with
        signals := .notice e.subject (Notice.invalidTarget e.target) :: .clear e.subject ::
          pass.signals
        changed := true }
    | .serve backend =>
      match take ledger e with
      | none => ⟨ledger, [], false, none⟩
      | some (taken, ledger) =>
        ⟨ledger, [.clear taken.subject], true, some ⟨taken, backend.id, backend.address⟩⟩

/-- Goes through the whole line. Players are told their new places if anything changed. -/
def reconcile (q : Queue) (snapshot : List Record) (live : PlayerId → Bool) :
    Outcome (Option Decision) :=
  let pass := scan q.policy snapshot live q.ledger q.entries
  { result := pass.admitted
    queue := { q with ledger := pass.ledger }
    signals := pass.signals ++ if pass.changed then progressSignals pass.ledger live else [] }

/-- Tells every live player in line its place again. -/
def refresh (q : Queue) (live : PlayerId → Bool) : Outcome Unit :=
  ⟨(), q, progressSignals q.ledger live⟩

/-- Gives a player whose transfer failed the old place back; says whether it did. Nothing happens
if the player is gone or is in line again. -/
def requeue (q : Queue) (decision : Decision) (error : TransferError) (live : PlayerId → Bool) :
    Outcome Bool :=
  let subject := decision.entry.subject
  if !live subject || q.isQueued subject then ⟨false, q, []⟩
  else
    let ledger := q.ledger.restore decision.entry
    { result := true
      queue := { q with ledger }
      signals := .notice subject (Notice.transferFailed decision.backend error.message) ::
        progressSignals ledger live }

end Queue

end GameHub.Admission
