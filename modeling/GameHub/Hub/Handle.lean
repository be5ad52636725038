import GameHub.Hub.Basic

/-!
# What the hub does with a packet

One function for each kind of packet that players and backends send, and `Hub.handle`, which picks
the one for a packet. Kinds that only the hub sends are ignored. The result is what goes out, in
order, and the hub afterwards. A gap follows the look-up of the sender.
-/

namespace GameHub.Hub

/-! ## Players -/

/-- A player connects. A connection that the address already has is closed. -/
def handleConnect (h : Hub) (now : Moment) (sender : Address) (version : UInt32) :
    List Outbound × Hub :=
  if version ≠ protocolVersion then
    ([.toAddress sender (.disconnected
      s!"Protocol version {version} is not supported, expected {protocolVersion}")], h)
  else
    match (h.clients.vacate sender).add sender now.instant with
    | (some id, clients) => ([.toAddress sender (.connected id)], { h with clients })
    | (none, clients) => ([.toAddress sender (.disconnected "Hub full")], { h with clients })

/-- A player joins the line. -/
def handleJoin (h : Hub) (now : Moment) (gap : List Moment) (sender : Address) (target : String)
    (rank : Rank) : List Outbound × Hub :=
  match h.identify sender now gap with
  | (none, h) => ([.toAddress sender (.disconnected "Connect before joining a queue")], h)
  | (some id, h) =>
    let h := h.forgetTransfer id
    let joined := h.queue.enqueue id rank target now.wall h.registry
    (joined.signals.map (·.outbound), { h with queue := joined.queue })

/-- A player leaves the line. -/
def handleLeave (h : Hub) (now : Moment) (gap : List Moment) (sender : Address) :
    List Outbound × Hub :=
  match h.identify sender now gap with
  | (none, h) => ([], h)
  | (some id, h) =>
    let left := h.queue.remove id
    (left.signals.map (·.outbound), { h with queue := left.queue })

/-- A player asks for the place in line. -/
def handleQueryPosition (h : Hub) (now : Moment) (gap : List Moment) (sender : Address) :
    List Outbound × Hub :=
  match h.identify sender now gap with
  | (none, h) => ([], h)
  | (some id, h) =>
    let position := (h.queue.position id h.live).map UInt64.ofNat
    ([.toAddress sender (.queuePosition position (UInt64.ofNat h.queue.size))], h)

/-- A player could not reach the backend. The player gets the old place back, if the hub has not
forgotten the transfer. -/
def handleTransferFailed (h : Hub) (now : Moment) (gap : List Moment) (sender : Address)
    (reason : String) : List Outbound × Hub :=
  match h.identify sender now gap with
  | (none, h) => ([], h)
  | (some id, h) =>
    match h.pendingOf id with
    | none => ([], h)
    | some pending =>
      let h := h.forgetTransfer id
      let requeued := h.queue.requeue pending.decision (.rejected reason) h.live
      (requeued.signals.map (·.outbound), { h with queue := requeued.queue })

/-- A player goes away. -/
def handleDisconnect (h : Hub) (sender : Address) : List Outbound × Hub :=
  match h.clients.find? sender with
  | none => ([], h)
  | some id =>
    let left := h.queue.remove id
    (left.signals.map (·.outbound),
      { h with clients := (h.clients.remove id).2, queue := left.queue }.forgetTransfer id)

/-! ## Backends -/

/-- A backend asks for the restart slot. -/
def handleRestartRequest (h : Hub) (now : Moment) (sender : Address) (server : String) :
    List Outbound × Hub :=
  let (decision, restarts) := h.restarts.request server now.wall
  ([.toAddress sender (.restartResponse server decision)], { h with restarts })

/-- A backend reports the end of its restart. -/
def handleRestartComplete (h : Hub) (now : Moment) (sender : Address) (server : String) :
    List Outbound × Hub :=
  let (result, restarts) := h.restarts.complete server now.wall
  let (accepted, reason) := match result with
    | .ok () => (true, none)
    | .error e => (false, some e.message)
  ([.toAddress sender (.restartAck server accepted reason)], { h with restarts })

/-- A backend reports a restart without permission. -/
def handleUnauthorizedRestart (h : Hub) (now : Moment) (sender : Address) (server : String) :
    List Outbound × Hub :=
  ([.toAddress sender
      (.restartAck server true (some "recorded as unauthorized, cooldown applies"))],
    { h with restarts := h.restarts.unauthorized server now.wall })

/-- The answer to a question for the restart state: the state, if that fits into a datagram. -/
def stateReply (state : Restart.State) : Packet :=
  let snapshot := Packet.stateSnapshot state
  if snapshot.fits then snapshot
  else .stateUnavailable s!"state is {snapshot.size} bytes, limit is {maxPacketSize}"

/-! ## All packets -/

/-- Handles a packet that came from an address, with a gap after the first look at the players. -/
def handleAcross (h : Hub) (now : Moment) (gap : List Moment) (sender : Address) :
    Packet → List Outbound × Hub
  | .connect version => h.handleConnect now sender version
  | .joinQueue target rank => h.handleJoin now gap sender target rank
  | .leaveQueue => h.handleLeave now gap sender
  | .queryPosition => h.handleQueryPosition now gap sender
  | .transferFailed reason => h.handleTransferFailed now gap sender reason
  | .heartbeat => ([], (h.identify sender now gap).2)
  | .disconnect => h.handleDisconnect sender
  | .statusReport server current max =>
    ([], { h with registry := (h.registry.report server current max now.wall).2 })
  | .restartRequest server => h.handleRestartRequest now sender server
  | .restartComplete server => h.handleRestartComplete now sender server
  | .unauthorizedRestart server => h.handleUnauthorizedRestart now sender server
  | .stateQuery => ([.toAddress sender (stateReply h.restarts.state)], h)
  | .connected .. | .queuePosition .. | .notice .. | .progress .. | .clearProgress | .transfer ..
  | .disconnected .. | .restartResponse .. | .restartAck .. | .stateSnapshot ..
  | .stateUnavailable .. => ([], h)

/-- Handles a packet that came from an address. -/
def handle (h : Hub) (now : Moment) (sender : Address) (packet : Packet) : List Outbound × Hub :=
  h.handleAcross now [] sender packet

/-- Handles a datagram. One that holds no packet is ignored. -/
def receive (h : Hub) (now : Moment) (sender : Address) (datagram : List UInt8) :
    List Outbound × Hub :=
  match Packet.decode datagram with
  | .ok packet => h.handle now sender packet
  | .error _ => ([], h)

end GameHub.Hub
