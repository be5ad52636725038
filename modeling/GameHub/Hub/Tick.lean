import GameHub.Hub.Handle

/-!
# What the hub does by itself

The things that happen to a hub as time passes: a pass along the line, forgetting of old transfers,
the health check of the backends, the sweep of the restart coordination, and the dropping of players
that are silent. `Hub.step` covers these and the packets, one event at a time and with the gaps in
it; `Hub.tick` is one turn of everything that is periodic, without interruption.
-/

namespace GameHub.Hub

/-! ## Periodic work -/

/-- Sends a player who has been admitted, or puts the player back if nobody is at the address; in
that case a gap follows the look-up of the address. -/
def sendAdmitted (h : Hub) (now : Moment) (gap : List Moment) (decision : Admission.Decision) :
    List Outbound × Hub :=
  let id := decision.entry.subject
  match h.clients.addressOf? id with
  | some address =>
    ([.toPlayer id (.notice (Notice.sending decision.backend)),
      .toAddress address (.transfer decision.backend decision.address)],
      h.rememberTransfer id ⟨decision, now.instant⟩)
  | none =>
    let h := h.lapse gap
    let requeued := h.queue.requeue decision .subjectGone h.live
    (requeued.signals.map (·.outbound), { h with queue := requeued.queue })

/-- Goes through the line once; at most one player is sent to a backend. The hub sees who is there
before the pass, looks up an address after it, and may then see once more who is there; there is a
gap after the first look and one after the second. -/
def reconcileAcross (h : Hub) (now : Moment) (first second : List Moment) :
    List Outbound × Hub :=
  let pass := h.queue.reconcile h.registry.records h.live
  let h := { h with queue := pass.queue }.lapse first
  let told := pass.signals.map (·.outbound)
  match pass.result with
  | none => (told, h)
  | some decision =>
    let (sent, h) := h.sendAdmitted now second decision
    (told ++ sent, h)

/-- Forgets the transfers that were sent too long ago to fail. -/
def expireTransfers (h : Hub) (now : Moment) : Hub :=
  { h with pending := h.pending.filter fun (_, p) => !p.sentAt.isPast now.instant h.transferGrace }

/-- Counts missed reports of the backends. -/
def checkHealth (h : Hub) (now : Moment) : Hub :=
  { h with registry := (h.registry.sweepStale now.wall h.reportTimeout).2 }

/-- Sweeps the restart coordination. -/
def sweepRestarts (h : Hub) (now : Moment) : Hub :=
  { h with restarts := (h.restarts.sweep now.wall).2 }

/-- Forgets the transfer of one of the players that were dropped for silence. -/
def forgetOverdue (h : Hub) (place : Nat) : Hub :=
  match h.overdue[place]? with
  | some id => { h with overdue := h.overdue.eraseIdx place }.forgetTransfer id
  | none => h

/-! ## Events -/

/-- What can happen to a hub. -/
inductive Event where
  | packet (sender : Address) (packet : Packet)
  | reconcile
  | expireTransfers
  | checkHealth
  | sweepRestarts
  | checkClients
  /-- Word of one of the players that were dropped for silence arrives. -/
  | forgetOverdue (place : Nat)
  deriving DecidableEq, Repr

/-- An event at its time. -/
structure Occurrence where
  now : Moment
  event : Event
  /-- The gap between the first look that the event takes at the players and the second one. -/
  firstGap : List Moment
  /-- The gap between the second look and the third one. -/
  secondGap : List Moment
  deriving DecidableEq, Repr

/-- An event that nothing interrupts. -/
def Occurrence.plain (now : Moment) (event : Event) : Occurrence := ⟨now, event, [], []⟩

/-- What goes out at an event, in order, and the hub afterwards. -/
def step (h : Hub) (o : Occurrence) : List Outbound × Hub :=
  match o.event with
  | .packet sender packet => h.handleAcross o.now o.firstGap sender packet
  | .reconcile => h.reconcileAcross o.now o.firstGap o.secondGap
  | .expireTransfers => ([], h.expireTransfers o.now)
  | .checkHealth => ([], h.checkHealth o.now)
  | .sweepRestarts => ([], h.sweepRestarts o.now)
  | .checkClients => ([], h.checkClients o.now)
  | .forgetOverdue place => ([], h.forgetOverdue place)

/-- What goes out during a run of events, and the hub at its end. -/
def run (h : Hub) : List Occurrence → List Outbound × Hub
  | [] => ([], h)
  | o :: rest =>
    let (first, h) := h.step o
    let (later, h) := h.run rest
    (first ++ later, h)

/-- Lets events happen at one moment, and then forgets the transfers of the players that were
dropped for silence. -/
def turn (h : Hub) (now : Moment) (events : List Event) : List Outbound × Hub :=
  let (out, h) := h.run (events.map (.plain now))
  (out, h.overdue.foldl (fun h _ => h.forgetOverdue 0) h)

/-- One turn of everything that is periodic. -/
def tick (h : Hub) (now : Moment) : List Outbound × Hub :=
  h.turn now [.reconcile, .expireTransfers, .checkHealth, .sweepRestarts, .checkClients]

end GameHub.Hub
