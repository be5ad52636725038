import GameHub.Hub.Tick

/-!
# The sender

What the hub puts on its way out waits in a channel for the sender, which works beside the hub and
takes one packet after the other whenever it gets to it. Only then does it look up where a player
is.

So it matters what can be seen of an event from beside it. `Hub.stages` are the moments at which
something changes for the sender: packets are put into the channel, or players come or go. The gaps
of an event are among them, and the sender may be at work between any two stages.
-/

namespace GameHub

/-- The hub looks up who sent the packet, and hears of that player. -/
def Packet.looksUpSender : Packet → Bool
  | .joinQueue .. | .leaveQueue | .queryPosition | .transferFailed .. | .heartbeat => true
  | _ => false

namespace Hub

/-! ## Stages -/

/-- What has just been put into the channel, and the hub as it is seen from beside it. -/
structure Stage where
  out : List Outbound
  hub : Hub
  deriving DecidableEq, Repr

/-- The hub each time that silent players have been dropped in a gap. -/
def strikes (h : Hub) : List Moment → List Stage
  | [] => []
  | now :: gap => ⟨[], h.checkClients now⟩ :: (h.checkClients now).strikes gap

/-- The stages of an event. Players come and go before anything is put into the channel, but for a
pass along the line, whose signals are there before the address of the player is looked up. -/
def stages (h : Hub) (o : Occurrence) : List Stage :=
  let last : Stage := ⟨(h.step o).1, (h.step o).2⟩
  match o.event with
  | .packet sender packet =>
    if packet.looksUpSender then
      let seen := (h.identify sender o.now []).2
      ⟨[], seen⟩ :: (seen.strikes o.firstGap ++ [last])
    else [⟨[], last.hub⟩, last]
  | .reconcile =>
    let pass := h.queue.reconcile h.registry.records h.live
    let passed := { h with queue := pass.queue }
    let found := passed.lapse o.firstGap
    let admitted := match pass.result with
      | none => []
      | some decision =>
        let sent := found.sendAdmitted o.now o.secondGap decision
        let between := match found.clients.addressOf? decision.entry.subject with
          | some _ => []
          | none => found.strikes o.secondGap
        between ++ [⟨sent.1, sent.2⟩]
    ⟨pass.signals.map (·.outbound), passed⟩ :: (passed.strikes o.firstGap ++ admitted)
  | _ => [last]

/-- The stages of a run of events. -/
def history (h : Hub) : List Occurrence → List Stage
  | [] => []
  | o :: rest => h.stages o ++ (h.step o).2.history rest

/-! ## The sender -/

/-- The sender at its work. -/
structure Sender where
  /-- The hub as the sender sees it now. -/
  hub : Hub
  /-- What is on its way out, oldest first. -/
  channel : List Outbound
  /-- What the sender has taken, oldest first, and what it has sent of it. -/
  taken : List (Outbound × Option (Address × Packet))

/-- What happens next. -/
inductive Move where
  | stage (stage : Stage)
  /-- The sender takes the oldest packet, if there is one, and sends it or drops it. -/
  | send

/-- The stage of the hub, if it is one. -/
def Move.stage? : Move → Option Stage
  | .stage s => some s
  | .send => none

namespace Sender

/-- The sender of a hub, which has nothing to do yet. -/
def start (h : Hub) : Sender := ⟨h, [], []⟩

def move (s : Sender) : Move → Sender
  | .stage stage => { s with hub := stage.hub, channel := s.channel ++ stage.out }
  | .send =>
    match s.channel with
    | [] => s
    | out :: channel => { s with channel, taken := s.taken ++ [(out, s.hub.deliver? out)] }

def run (s : Sender) (moves : List Move) : Sender := moves.foldl move s

end Sender

end Hub

end GameHub
