import GameHub.Duration
import GameHub.SystemError

/-!
# Why an agent fails

The causes for which a call of a backend's agent comes to nothing.
-/

namespace GameHub.Agent

/-- Why a call of an agent failed. -/
inductive Error where
  | system (cause : SystemError)
  /-- The text is no address. -/
  | address (text : String)
  /-- Nothing came from the hub for this long. -/
  | timeout (wait : Duration)
  /-- The hub answered something else than was asked; the answer is shown. -/
  | unexpectedReply (shown : String)
  | denied (reason : String)
  /-- The slot was not granted after so many requests. -/
  | gaveUp (attempts : UInt32)
  | commandFailed (how : String)
  | completionRejected (reason : String)
  | stateUnavailable (reason : String)
  /-- What was read is no count. -/
  | count (detail : String)
  /-- A time that cannot be represented was asked for. The program breaks down with this message,
  and nothing in it takes the failure up. -/
  | overflow (message : String)
  deriving DecidableEq, Repr

/-- The wording of the cause. -/
def Error.message : Error → String
  | system cause => s!"network error: {cause.message}"
  | address text => s!"invalid hub address '{text}'"
  | timeout wait => s!"no reply from hub within {wait.text}"
  | unexpectedReply shown => s!"unexpected reply from hub: {shown}"
  | denied reason => s!"restart denied: {reason}"
  | gaveUp attempts => s!"no restart slot after {attempts} attempts"
  | commandFailed how => s!"restart command failed: {how}"
  | completionRejected reason => s!"hub rejected the completion report: {reason}"
  | stateUnavailable reason => s!"hub could not send its restart state: {reason}"
  | count detail => s!"failed to read player count: {detail}"
  | overflow message => message

end GameHub.Agent
