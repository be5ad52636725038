import GameHub.Packet.Basic
import GameHub.Rank.Form
import GameHub.Restart.Form

/-!
# The form of packets

How packets are written in JSON and for people, and how they are read from JSON. The fields of a
packet are given by name.
-/

namespace GameHub.Packet

open Json

/-! ## Writing -/

/-- The packet as data. -/
def form : Packet → Form
  | connect version => .case "Connect" [("client_version", .natural version.toNat)]
  | joinQueue target rank => .case "JoinQueue" [("target", .text target), ("rank", rank.form)]
  | leaveQueue => .case "LeaveQueue" []
  | queryPosition => .case "QueryPosition" []
  | transferFailed reason => .case "TransferFailed" [("reason", .text reason)]
  | heartbeat => .case "Heartbeat" []
  | disconnect => .case "Disconnect" []
  | connected id => .case "Connected" [("client_id", .natural id.toNat)]
  | queuePosition position size =>
    .case "QueuePosition" [
      ("position", .ofOption (.natural ·.toNat) position),
      ("size", .natural size.toNat)]
  | notice message => .case "Notice" [("message", .text message)]
  | progress text => .case "Progress" [("text", .text text)]
  | clearProgress => .case "ClearProgress" []
  | transfer backend address =>
    .case "Transfer" [("backend", .text backend), ("address", .text address)]
  | disconnected reason => .case "Disconnected" [("reason", .text reason)]
  | statusReport server current max =>
    .case "StatusReport" [
      ("server", .text server),
      ("current_count", .natural current.toNat),
      ("max_count", .natural max.toNat)]
  | restartRequest server => .case "RestartRequest" [("server", .text server)]
  | restartComplete server => .case "RestartComplete" [("server", .text server)]
  | unauthorizedRestart server => .case "UnauthorizedRestart" [("server", .text server)]
  | stateQuery => .case "StateQuery" []
  | restartResponse server decision =>
    .case "RestartResponse" [("server", .text server), ("decision", decision.form)]
  | restartAck server accepted reason =>
    .case "RestartAck" [
      ("server", .text server),
      ("accepted", .truth accepted),
      ("reason", .ofOption .text reason)]
  | stateSnapshot state => .case "StateSnapshot" [("state", state.form)]
  | stateUnavailable reason => .case "StateUnavailable" [("reason", .text reason)]

/-- The packet on one line, for people. -/
def inspect (p : Packet) : String := p.form.inspect

/-! ## Reading -/

/-- A packet whose only field is a text. -/
def ofTextField? (name : String) (packet : String → Packet) (fields : CaseFields) :
    Option Packet := do
  let [text] ← fields.named? [name] | none
  return packet (← text.required asText?)

/-- The packet with this name and these fields. -/
def ofCase? (tag : String) (fields : CaseFields) : Option Packet :=
  match tag with
  | "Connect" => do
    let [version] ← fields.named? ["client_version"] | none
    return connect (← version.required asUInt32?)
  | "JoinQueue" => do
    let [target, rank] ← fields.named? ["target", "rank"] | none
    return joinQueue (← target.required asText?) (← rank.required Rank.ofJson?)
  | "LeaveQueue" => fields.noneGiven?.map fun _ => leaveQueue
  | "QueryPosition" => fields.noneGiven?.map fun _ => queryPosition
  | "TransferFailed" => ofTextField? "reason" transferFailed fields
  | "Heartbeat" => fields.noneGiven?.map fun _ => heartbeat
  | "Disconnect" => fields.noneGiven?.map fun _ => disconnect
  | "Connected" => do
    let [id] ← fields.named? ["client_id"] | none
    return connected (← id.required asUInt32?)
  | "QueuePosition" => do
    let [position, size] ← fields.named? ["position", "size"] | none
    return queuePosition (← position.nullable asUInt64?) (← size.required asUInt64?)
  | "Notice" => ofTextField? "message" notice fields
  | "Progress" => ofTextField? "text" progress fields
  | "ClearProgress" => fields.noneGiven?.map fun _ => clearProgress
  | "Transfer" => do
    let [backend, address] ← fields.named? ["backend", "address"] | none
    return transfer (← backend.required asText?) (← address.required asText?)
  | "Disconnected" => ofTextField? "reason" disconnected fields
  | "StatusReport" => do
    let [server, current, max] ← fields.named? ["server", "current_count", "max_count"] | none
    return statusReport (← server.required asText?) (← current.required asUInt32?)
      (← max.required asUInt32?)
  | "RestartRequest" => ofTextField? "server" restartRequest fields
  | "RestartComplete" => ofTextField? "server" restartComplete fields
  | "UnauthorizedRestart" => ofTextField? "server" unauthorizedRestart fields
  | "StateQuery" => fields.noneGiven?.map fun _ => stateQuery
  | "RestartResponse" => do
    let [server, decision] ← fields.named? ["server", "decision"] | none
    return restartResponse (← server.required asText?)
      (← decision.required Restart.Decision.ofJson?)
  | "RestartAck" => do
    let [server, accepted, reason] ← fields.named? ["server", "accepted", "reason"] | none
    return restartAck (← server.required asText?) (← accepted.required asBool?)
      (← reason.nullable asText?)
  | "StateSnapshot" => do
    let [state] ← fields.named? ["state"] | none
    return stateSnapshot (← state.required Restart.State.ofJson?)
  | "StateUnavailable" => ofTextField? "reason" stateUnavailable fields
  | _ => none

/-- The packet that a JSON value holds. -/
def ofJson? (j : Json) : Option Packet := do
  let (tag, fields) ← asCase? j
  ofCase? tag fields

end GameHub.Packet
