import GameHub.Config.Basic
import GameHub.Json.Reader
import GameHub.Rank.Form
import GameHub.SystemError
import GameHub.Text.Utf8

/-!
# Configuration files

The JSON form of a configuration and the reading of one from text or from the bytes of a file. The
text has to be JSON of the right shape as a whole before it is checked for defects. Whole sections
and single settings may be left out.
-/

namespace GameHub

open Backend

/-! ## Writing -/

/-- The declaration of a backend as data. -/
def Backend.Declaration.form (d : Declaration) : Form :=
  .record "BackendConfig" [
    ("id", .text d.id),
    ("display_name", .ofOption .text d.displayName),
    ("address", .text d.address),
    ("icon", .ofOption .text d.icon)]

/-- The policy as data. -/
def Admission.Policy.form (p : Admission.Policy) : Form :=
  .record "AdmissionPolicy" [
    ("reserved_slots", .natural p.reservedSlots.toNat),
    ("admin_threshold", p.adminThreshold.form)]

namespace Config

/-- The settings as data. -/
def RestartSettings.form (s : RestartSettings) : Form :=
  .record "RestartSettings" [
    ("cooldown_secs", .natural s.cooldown.toNat),
    ("backoff_secs", .natural s.backoff.toNat),
    ("queue_timeout_secs", .natural s.queueTimeout.toNat),
    ("max_restart_secs", .natural s.maxRestart.toNat),
    ("sweep_interval_secs", .natural s.sweepInterval.toNat),
    ("restrict_to_backends", .truth s.restrictToBackends)]

/-- The settings as data. -/
def HealthSettings.form (s : HealthSettings) : Form :=
  .record "HealthSettings" [
    ("report_timeout_secs", .natural s.reportTimeout.toNat),
    ("failure_threshold", .natural s.failureThreshold.toNat),
    ("check_interval_secs", .natural s.checkInterval.toNat)]

/-- The configuration as data. -/
def form (c : Config) : Form :=
  .record "HubConfig" [
    ("backends", .list (c.backends.map (·.form))),
    ("admission", c.admission.form),
    ("restart", c.restart.form),
    ("health", c.health.form)]

end Config

/-! ## Reading -/

open Json

/-- The declaration that a JSON value holds. -/
def Backend.Declaration.ofJson? (j : Json) : Option Declaration := do
  let [id, displayName, address, icon] ← slots? ["id", "display_name", "address", "icon"] j | none
  return {
    id := ← id.required asText?
    displayName := ← displayName.withDefault none (asNullable? asText?)
    address := ← address.required asText?
    icon := ← icon.withDefault none (asNullable? asText?) }

/-- The policy that a JSON value holds. -/
def Admission.Policy.ofJson? (j : Json) : Option Admission.Policy := do
  let standard : Admission.Policy := default
  let [slots, threshold] ← slots? ["reserved_slots", "admin_threshold"] j | none
  return {
    reservedSlots := ← slots.withDefault standard.reservedSlots asUInt32?
    adminThreshold := ← threshold.withDefault standard.adminThreshold Rank.ofJson? }

namespace Config

/-- The settings that a JSON value holds. -/
def RestartSettings.ofJson? (j : Json) : Option RestartSettings := do
  let standard : RestartSettings := default
  let [cooldown, backoff, queueTimeout, maxRestart, sweepInterval, restrict] ← slots? [
    "cooldown_secs", "backoff_secs", "queue_timeout_secs", "max_restart_secs",
    "sweep_interval_secs", "restrict_to_backends"] j | none
  return {
    cooldown := ← cooldown.withDefault standard.cooldown asUInt64?
    backoff := ← backoff.withDefault standard.backoff asUInt64?
    queueTimeout := ← queueTimeout.withDefault standard.queueTimeout asUInt64?
    maxRestart := ← maxRestart.withDefault standard.maxRestart asUInt64?
    sweepInterval := ← sweepInterval.withDefault standard.sweepInterval asUInt64?
    restrictToBackends := ← restrict.withDefault standard.restrictToBackends asBool? }

/-- The settings that a JSON value holds. -/
def HealthSettings.ofJson? (j : Json) : Option HealthSettings := do
  let standard : HealthSettings := default
  let [timeout, threshold, interval] ← slots? [
    "report_timeout_secs", "failure_threshold", "check_interval_secs"] j | none
  return {
    reportTimeout := ← timeout.withDefault standard.reportTimeout asUInt64?
    failureThreshold := ← threshold.withDefault standard.failureThreshold asUInt32?
    checkInterval := ← interval.withDefault standard.checkInterval asUInt64? }

/-- The configuration that a JSON value holds. -/
def ofJson? (j : Json) : Option Config := do
  let [backends, admission, restart, health] ←
    slots? ["backends", "admission", "restart", "health"] j | none
  return {
    backends := ← backends.required (asList? Declaration.ofJson?)
    admission := ← admission.withDefault default Admission.Policy.ofJson?
    restart := ← restart.withDefault default RestartSettings.ofJson?
    health := ← health.withDefault default HealthSettings.ofJson? }

/-! ## Files -/

/-- Why there is no configuration. -/
inductive Error where
  /-- The file cannot be read as text. -/
  | system (cause : SystemError)
  /-- The text is not JSON of the right shape. -/
  | parse
  | invalid (defect : Defect)
  deriving DecidableEq, Repr

/-- The wording for a configuration that is refused. -/
def invalidMessage (detail : String) : String := s!"invalid hub configuration: {detail}"

/-- The wording of the cause. -/
def Error.message : Error → String
  | system cause => s!"failed to read hub configuration: {cause.message}"
  | parse => "failed to parse hub configuration"
  | invalid defect => invalidMessage defect.detail

/-- The configuration that a text holds. -/
def ofText (text : String) : Except Error Config :=
  match (Json.ofText? text).bind ofJson? with
  | none => .error .parse
  | some config =>
    match config.defect? with
    | some defect => .error (.invalid defect)
    | none => .ok config

/-- The configuration in a file with these bytes; `none` stands for a file that is missing. -/
def ofFile : Option (List UInt8) → Except Error Config
  | none => .error (.system .notFound)
  | some bytes =>
    match Text.Utf8.decode bytes with
    | .ok text => ofText text
    | .error _ => .error (.system .invalidData)

end Config

end GameHub
