import GameHub.Form
import GameHub.Json.Printer
import GameHub.Json.Reader
import GameHub.Json.View
import GameHub.Restart.State

/-!
# The form of the restart state

How the restart state and the decisions are written in JSON, and how they are read back.
`State.ofText?` reads what `State.pretty` writes.
-/

namespace GameHub.Restart

open Json

/-! ## Writing -/

/-- The word for the status in data. -/
def RequestStatus.tag : RequestStatus → String
  | wait => "Wait"
  | allow => "Allow"
  | deny => "Deny"

/-- Every status of a request. -/
def RequestStatus.all : List RequestStatus := [wait, allow, deny]

/-- The request as data. -/
def Request.form (r : Request) : Form :=
  .record "RestartQueueEntry" [
    ("server_name", .text r.server),
    ("request_time", .natural r.requestTime.toNat),
    ("last_retry_time", .natural r.lastRetry.toNat),
    ("retry_count", .natural r.retries.toNat),
    ("status", .case r.status.tag [])]

/-- A point in time. -/
def timeForm (t : UInt64) : Form := .natural t.toNat

/-- A map as the form of its entries. -/
def mapForm {α : Type} (form : α → Form) (m : NameMap α) : Form :=
  .dictionary (m.entries.map fun (key, value) => (key, form value))

/-- The state as data. -/
def State.form (s : State) : Form :=
  .record "RestartState" [
    ("currently_restarting", .ofOption .text s.holder),
    ("queue", .list (s.backlog.map (·.form))),
    ("restart_history", mapForm timeForm s.history),
    ("unauthorized_restarts", mapForm (fun times => .list (times.map timeForm)) s.unauthorized)]

/-- The state as JSON text in indented layout. -/
def State.pretty (s : State) : String := s.form.toJson.pretty

/-- The decision as data. -/
def Decision.form : Decision → Form
  | allow => .case "Allow" []
  | wait retryAfter position reason =>
    .case "Wait" [
      ("retry_after", timeForm retryAfter),
      ("queue_position", .ofOption timeForm position),
      ("reason", .text reason)]
  | deny reason => .case "Deny" [("reason", .text reason)]

/-! ## Reading -/

/-- The status that a JSON value names. -/
def RequestStatus.ofJson? (j : Json) : Option RequestStatus :=
  (asTag? j).bind fun tag => all.find? (·.tag = tag)

/-- The request that a JSON value holds. -/
def Request.ofJson? (j : Json) : Option Request := do
  let [server, requestTime, lastRetry, retries, status] ← slots? [
    "server_name", "request_time", "last_retry_time", "retry_count", "status"] j | none
  return {
    server := ← server.required asText?
    requestTime := ← requestTime.required asUInt64?
    lastRetry := ← lastRetry.required asUInt64?
    retries := ← retries.required asUInt32?
    status := ← status.required RequestStatus.ofJson? }

/-- The state that a JSON value holds. -/
def State.ofJson? (j : Json) : Option State := do
  let [holder, backlog, history, unauthorized] ← slots? [
    "currently_restarting", "queue", "restart_history", "unauthorized_restarts"] j | none
  return {
    holder := ← holder.nullable asText?
    backlog := ← backlog.required (asList? Request.ofJson?)
    history := ← history.required (asMap? asUInt64?)
    unauthorized := ← unauthorized.required (asMap? (asList? asUInt64?)) }

/-- The state that a JSON text holds. -/
def State.ofText? (text : String) : Option State := (Json.ofText? text).bind State.ofJson?

/-- The decision that a JSON value holds. -/
def Decision.ofJson? (j : Json) : Option Decision := do
  let (tag, fields) ← asCase? j
  match tag with
  | "Allow" => do
    fields.noneGiven?
    return allow
  | "Wait" => do
    let [retryAfter, position, reason] ← fields.named? ["retry_after", "queue_position", "reason"]
      | none
    return wait (← retryAfter.required asUInt64?) (← position.nullable asUInt64?)
      (← reason.required asText?)
  | "Deny" => do
    let [reason] ← fields.named? ["reason"] | none
    return deny (← reason.required asText?)
  | _ => none

end GameHub.Restart
