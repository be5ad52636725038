import GameHub.Admission.Policy
import GameHub.Backend.Registry
import GameHub.Restart.Coordinator

/-!
# Hub configuration

The declared backends and the settings of admission, restarts and health checks. Every setting has a
default, so a list of backends is a complete configuration.

`Config.defect?` finds the first reason for which a configuration is refused.
-/

namespace GameHub

open Backend

namespace Config

/-! ## Settings -/

/-- The timings of restart coordination, in seconds. -/
structure RestartSettings where
  cooldown : UInt64
  backoff : UInt64
  queueTimeout : UInt64
  maxRestart : UInt64
  /-- How often the sweep runs. -/
  sweepInterval : UInt64
  /-- Only declared backends may ask to restart. -/
  restrictToBackends : Bool
  deriving DecidableEq, Repr

instance : Inhabited RestartSettings := ⟨⟨300, 30, 600, 300, 10, false⟩⟩

/-- An interval of some seconds, and at least one. -/
def interval (seconds : UInt64) : Duration := .ofSeconds (if seconds = 0 then 1 else seconds)

/-- The timings as durations. -/
def RestartSettings.policy (s : RestartSettings) : Restart.Policy where
  cooldown := .ofSeconds s.cooldown
  backoff := .ofSeconds s.backoff
  queueTimeout := .ofSeconds s.queueTimeout
  maxRestart := .ofSeconds s.maxRestart

/-- The time between two sweeps. -/
def RestartSettings.sweepEvery (s : RestartSettings) : Duration := interval s.sweepInterval

/-- How status reports make a backend online or offline. -/
structure HealthSettings where
  /-- A backend silent for more seconds than this has missed a report. -/
  reportTimeout : UInt64
  /-- Reports missed in a row after which a backend is offline. -/
  failureThreshold : UInt32
  /-- Seconds between two checks. -/
  checkInterval : UInt64
  deriving DecidableEq, Repr

instance : Inhabited HealthSettings := ⟨⟨15, 3, 5⟩⟩

/-- The longest silence of a healthy backend. -/
def HealthSettings.timeout (s : HealthSettings) : Duration := .ofSeconds s.reportTimeout

/-- The time between two checks. -/
def HealthSettings.checkEvery (s : HealthSettings) : Duration := interval s.checkInterval

end Config

/-- The configuration of a hub. -/
structure Config where
  backends : List Declaration
  admission : Admission.Policy
  restart : Config.RestartSettings
  health : Config.HealthSettings
  deriving DecidableEq, Repr, Inhabited

namespace Config

/-! ## Defects -/

/-- Why a configuration is refused. -/
inductive Defect where
  | emptyId
  | noAddress (id : String)
  | declaredTwice (id : String)
  | zeroThreshold
  deriving DecidableEq, Repr

/-- The wording of a defect. -/
def Defect.detail : Defect → String
  | emptyId => "backend with empty id"
  | noAddress id => s!"backend '{id}' has no address"
  | declaredTwice id => s!"backend '{id}' is declared twice"
  | zeroThreshold => "health.failure_threshold must be at least 1"

/-- The first defect of a list of declarations that follow those of the ids in `seen`. -/
def declarationDefect? (seen : List String) : List Declaration → Option Defect
  | [] => none
  | d :: rest =>
    if Text.allBlank d.id then some .emptyId
    else if Text.allBlank d.address then some (.noAddress d.id)
    else if seen.contains d.id then some (.declaredTwice d.id)
    else declarationDefect? (d.id :: seen) rest

/-- The first defect of a configuration. -/
def defect? (c : Config) : Option Defect :=
  (declarationDefect? [] c.backends).or
    (if c.health.failureThreshold = 0 then some .zeroThreshold else none)

end Config

end GameHub
