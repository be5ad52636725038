import GameHub.NameMap
import GameHub.Saturating

/-!
# The state of restart coordination

Who holds the restart slot, who waits for it in which order, when each backend last restarted, and
which restarts nobody had allowed. The answer to a backend that asks for the slot is a `Decision`.
-/

namespace GameHub.Restart

/-- How a request in the backlog stands. -/
inductive RequestStatus where
  | wait
  | allow
  | deny
  deriving DecidableEq, Repr, Inhabited

/-- A backend that waits for the slot. -/
structure Request where
  server : String
  /-- When it first asked. -/
  requestTime : UInt64
  /-- When it last asked. -/
  lastRetry : UInt64
  /-- How often it has asked again. -/
  retries : UInt32
  status : RequestStatus
  deriving DecidableEq, Repr, Inhabited

/-- A first request. -/
def Request.first (server : String) (now : UInt64) : Request := ⟨server, now, now, 0, .wait⟩

/-- The same request, made again. -/
def Request.again (r : Request) (now : UInt64) : Request :=
  { r with retries := r.retries.addSat 1, lastRetry := now }

/-- Everything that restart coordination remembers. -/
structure State where
  /-- The backend that is restarting. -/
  holder : Option String
  /-- The backends that wait, first come first. -/
  backlog : List Request
  /-- When each backend last got the slot or restarted without it. -/
  history : NameMap UInt64
  /-- The latest restarts without permission of each backend, oldest first. -/
  unauthorized : NameMap (List UInt64)
  deriving DecidableEq, Repr, Inhabited

/-- Nothing has happened yet. -/
def State.initial : State := ⟨none, [], .empty, .empty⟩

/-- The answer to a backend that asks to restart. -/
inductive Decision where
  | allow
  /-- Ask again at `retryAfter`. The position in the backlog is counted from one; while the backend
  is cooling down it has none. -/
  | wait (retryAfter : UInt64) (position : Option UInt64) (reason : String)
  | deny (reason : String)
  deriving DecidableEq, Repr, Inhabited

/-- The backend may restart. -/
def Decision.isAllow : Decision → Bool
  | allow => true
  | _ => false

/-- A backend reported the end of a restart while it did not hold the slot. -/
structure UnexpectedCompletion where
  reported : String
  holder : Option String
  deriving DecidableEq, Repr

/-- The wording of the error. -/
def UnexpectedCompletion.message (e : UnexpectedCompletion) : String :=
  let holder := match e.holder with
    | some name => s!"'{name}' holds the restart slot"
    | none => "no restart is in progress"
  s!"'{e.reported}' reported a completed restart but {holder}"

end GameHub.Restart
