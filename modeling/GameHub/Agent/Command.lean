/-!
# How a command ends

A shell command ends with a code or is stopped by a signal; only the code 0 is success.
-/

namespace GameHub.Agent

/-- How a command ended. -/
inductive CommandOutcome where
  | exited (code : Nat)
  | stopped (signal : Nat)
  /-- It could not be started. -/
  | notStarted (reason : String)
  deriving DecidableEq, Repr

/-- The names of the signals, counted from one. -/
def signalNames : List String := [
  "HUP", "INT", "QUIT", "ILL", "TRAP", "ABRT", "BUS", "FPE", "KILL", "USR1", "SEGV", "USR2", "PIPE",
  "ALRM", "TERM", "STKFLT", "CHLD", "CONT", "STOP", "TSTP", "TTIN", "TTOU", "URG", "XCPU", "XFSZ",
  "VTALRM", "PROF", "WINCH", "IO", "PWR", "SYS"]

/-- The name of a signal in parentheses, if it has one. -/
def signalSuffix (signal : Nat) : String :=
  match signal with
  | 0 => ""
  | n + 1 => match signalNames[n]? with
    | some name => s!" (SIG{name})"
    | none => ""

namespace CommandOutcome

/-- What went wrong; `none` stands for success. -/
def failure? : CommandOutcome → Option String
  | exited 0 => none
  | exited code => some s!"exited with exit status: {code}"
  | stopped signal => some s!"exited with signal: {signal}{signalSuffix signal}"
  | notStarted reason => some reason

end CommandOutcome

end GameHub.Agent
