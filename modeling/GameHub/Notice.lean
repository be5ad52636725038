import GameHub.Backend.Status
import GameHub.Ledger.Entry

/-!
# What waiting players are told

The wording of every message that a waiting player can get, and the three kinds of signal by which
a message reaches the player. Delivery is not decided here.
-/

namespace GameHub

/-- Something to tell a player. -/
inductive Signal where
  /-- A message shown once. -/
  | notice (subject : PlayerId) (text : String)
  /-- A text that stays on the player's screen until it is replaced or cleared. -/
  | progress (subject : PlayerId) (text : String)
  /-- Takes the standing text away. -/
  | clear (subject : PlayerId)
  deriving DecidableEq, Repr

/-- The player that a signal is for. -/
def Signal.subject : Signal → PlayerId
  | notice s _ | progress s _ | clear s => s

/-! ## How long the wait is -/

/-- A coarse estimate of the wait. -/
inductive WaitBand where
  | next
  | shortWait
  | fewMinutes
  | longerWait
  deriving DecidableEq, Repr

namespace WaitBand

/-- The estimate for a place in line, counted from one. -/
def ofPosition (position : Nat) : WaitBand :=
  if position ≤ 1 then next
  else if position ≤ 3 then shortWait
  else if position ≤ 10 then fewMinutes
  else longerWait

/-- The estimate in words. -/
def label : WaitBand → String
  | next => "next"
  | shortWait => "short wait"
  | fewMinutes => "a few minutes"
  | longerWait => "longer wait"

end WaitBand

/-! ## Wording -/

namespace Notice

/-- The standing text of a player in line. -/
def progress (target : String) (position size : Nat) : String :=
  s!"Queue for {target}: position {position}/{size} ({(WaitBand.ofPosition position).label})"

/-- What can be said of a backend that a player wants to reach; `none` stands for an unknown one. -/
def availability (target : String) : Option Backend.Status → String
  | none => s!"{target} is not a known server, you will be removed from the queue"
  | some status =>
    if !status.online then s!"{target} is offline, you will be sent once it is back"
    else if status.isFull then
      s!"{target} is full ({status.current}/{status.max}), you will be sent when a slot frees up"
    else s!"{target} is online ({status.current}/{status.max})"

/-- The welcome of a player who joins the line. -/
def joined (target : String) (status : Option Backend.Status) : String :=
  s!"Joined the queue for {target}. {availability target status}. " ++
    "The queue is ordered by rank first, then by join time."

/-- The farewell of a player who waits for an unknown backend. -/
def invalidTarget (target : String) : String :=
  s!"Destination {target} is invalid, you have been removed from the queue"

/-- What a player is told who comes back from a backend. -/
def transferFailed (target reason : String) : String :=
  s!"Transfer to {target} failed ({reason}), you keep your place in the queue"

/-- What a player is told who is sent to a backend. -/
def sending (target : String) : String := s!"Sending you to {target}..."

end Notice

end GameHub
