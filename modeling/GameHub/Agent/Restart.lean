import GameHub.Agent.Link

/-!
# Restarts on the side of the backend

A backend asks the hub for the restart slot before it goes down, waits while another backend has it,
and reports back when it is up again, so that the next one can go.
-/

namespace GameHub.Agent

/-- How patiently an agent asks. -/
structure Retry where
  /-- Requests before the agent gives up. -/
  maxAttempts : UInt32
  /-- The longest random delay added to a wait, so that backends do not all ask at once. -/
  maxJitter : Duration
  /-- The shortest wait between two requests. -/
  minWait : Duration
  /-- How long to wait for an answer. -/
  replyTimeout : Duration
  deriving DecidableEq, Repr

instance : Inhabited Retry := ⟨⟨120, .ofSeconds 3, .ofSeconds 1, .ofSeconds 5⟩⟩

/-- How long to wait before asking again: until the hub's retry time but not too short, and a delay
on top. There is no answer if the sum is no duration. -/
def retryDelay? (retryAfter now : UInt64) (minWait jitter : Duration) : Option Duration :=
  ((Duration.ofMillis (retryAfter.subSat now)).longer minWait).add? jitter

/-- The wording for a sum that is no duration. -/
def delayOverflowMessage : String := "overflow when adding durations"

/-- The agent of a backend. -/
structure RestartAgent where
  /-- The name of the backend. -/
  server : String
  retry : Retry
  /-- What the random source gives for the delay after each attempt. -/
  jitter : Nat → Duration

namespace RestartAgent

variable {σ : Type}

/-- Fails with a packet that is no answer to the request. -/
def unexpected {α : Type} (p : Packet) : Session σ α := throw (.unexpectedReply p.inspect)

/-- Sends one request for the slot and returns the hub's decision. -/
def requestOnce (a : RestartAgent) : Session σ Restart.Decision := do
  match ← Session.request (.restartRequest a.server) a.retry.replyTimeout with
  | .restartResponse server decision =>
    if server = a.server then return decision
    else unexpected (.restartResponse server decision)
  | p => unexpected p

/-- The random delay after an attempt, so many more being left: whole milliseconds, no more than the
longest delay has. Of these the last 64 bits count. -/
def drawn (a : RestartAgent) (left : Nat) : Duration :=
  let longest := UInt64.ofNat (a.retry.maxJitter.nanoseconds / 1_000_000)
  .ofMillis (min (a.jitter left).millis longest)

/-- Waits until it is time to ask again, so many attempts being left. -/
def backOff (a : RestartAgent) (retryAfter : UInt64) (left : Nat) : Session σ Unit := do
  match retryDelay? retryAfter (← Session.now) a.retry.minWait (a.drawn left) with
  | some delay => Session.pause delay
  | none => throw (.overflow delayOverflowMessage)

/-- Asks for the slot up to so many times. -/
def askFor (a : RestartAgent) : (attempts : Nat) → Session σ Unit
  | 0 => throw (.gaveUp a.retry.maxAttempts)
  | attempts + 1 => do
    match ← a.requestOnce with
    | .allow => return
    | .deny reason => throw (.denied reason)
    | .wait retryAfter _ _ =>
      a.backOff retryAfter attempts
      a.askFor attempts

/-- Asks for the slot until the hub grants or denies it, or the attempts are used up. -/
def requestPermission (a : RestartAgent) : Session σ Unit := a.askFor a.retry.maxAttempts.toNat

/-- Reports that the restart is over. -/
def complete (a : RestartAgent) : Session σ Unit := do
  match ← Session.request (.restartComplete a.server) a.retry.replyTimeout with
  | .restartAck _ true _ => return
  | .restartAck _ false reason => throw (.completionRejected (reason.getD "no reason given"))
  | p => unexpected p

/-- Waits for the slot, runs the command, and reports the end of the restart even if the command
failed, so that the slot is free again. A failed command is the error then, whatever the report
comes to. -/
def runRestart (a : RestartAgent) (command : String) : Session σ Unit := do
  a.requestPermission
  let outcome ← Session.runCommand command
  let completion ← Session.attempt a.complete
  match outcome.failure? with
  | some how => throw (.commandFailed how)
  | none => MonadExcept.ofExcept completion

/-- Reports a restart that happened without permission. -/
def reportUnauthorized (a : RestartAgent) : Session σ Unit := do
  match ← Session.request (.unauthorizedRestart a.server) a.retry.replyTimeout with
  | .restartAck .. => return
  | p => unexpected p

/-- Asks the hub for its restart state. -/
def queryState (a : RestartAgent) : Session σ Restart.State := do
  match ← Session.request .stateQuery a.retry.replyTimeout with
  | .stateSnapshot state => return state
  | .stateUnavailable reason => throw (.stateUnavailable reason)
  | p => unexpected p

end RestartAgent

end GameHub.Agent
