import GameHub.Hub.Wired
import GameHub.Proofs.Agent.Session
import GameHub.Proofs.Packet.RoundTrip

/-!
# What an agent is told is what the hub decided

**Theorem (`agent_agrees`).** Over a link that loses nothing and on which nothing is under way, a
request, a report of completion and a report of an unauthorized restart each have the outcome of the
call on the coordinator that they stand for, and leave the hub with the coordinator that the call
leaves. Nothing else in the hub changes, and nothing is sent to anybody else.

All three are one exchange: a packet goes to the hub, which answers the agent with one packet
(`Wired.request_eq`).
-/

namespace GameHub

/-! ## One exchange -/

/-- What fits into a datagram is read back. -/
theorem Packet.decode_encode_of_fits {p : Packet} (h : p.fits = true) :
    Packet.decode p.encode = .ok p := by
  have hsize : p.size < UInt64.size :=
    Nat.lt_of_le_of_lt (of_decide_eq_true h) (by decide)
  have hwhole := (Packet.sound_codec p hsize).whole []
  rw [List.append_nil] at hwhole
  exact congrArg (Except.map Prod.fst) hwhole

namespace Hub.Wired

open Agent

variable (w : Wired) (run : String → CommandOutcome)

/-- The agent's link, with nothing under way. -/
def link : Link Wired := ⟨w.hubAddress, world run, w, []⟩

/-- The hub answers the agent with one packet. -/
theorem request_eq {p reply : Packet} {h : Hub} (hp : p.fits = true) (hreply : reply.fits = true)
    (hhandle : w.hub.handle w.now w.agentAddress p = ([.toAddress w.agentAddress reply], h))
    (wait : Duration) :
    (Session.request p wait).run.run (w.link run) =
      (.ok reply, { w with hub := h }.link run) := by
  have hsend : w.send p.encode = ([⟨w.hubAddress, reply.encode⟩], { w with hub := h }) := by
    have hreceive : w.hub.receive w.now w.agentAddress p.encode =
        ([.toAddress w.agentAddress reply], h) := by
      rw [receive, Packet.decode_encode_of_fits hp]
      exact hhandle
    have hdeliver : h.deliver? (.toAddress w.agentAddress reply) =
        some (w.agentAddress, reply) := by
      simp [deliver?, hreply]
    rw [send, hreceive]
    simp [hdeliver]
  refine Session.request_eq (congrArg Except.ok hsend) ?_ rfl
  show Link.firstPacket w.hubAddress [⟨w.hubAddress, reply.encode⟩] = some (reply, [])
  rw [Link.firstPacket, Link.packetOf?, if_pos rfl, Packet.decode_encode_of_fits hreply]
  rfl

/-! ## The three calls -/

variable {w}
variable (a : RestartAgent)

/-- The answer to a report of completion. -/
def completionAck (server : String) : Except Restart.UnexpectedCompletion Unit → Packet
  | .ok () => .restartAck server true none
  | .error e => .restartAck server false (some e.message)

/-- The answer to a report of an unauthorized restart. -/
def unauthorizedAck (server : String) : Packet :=
  .restartAck server true (some "recorded as unauthorized, cooldown applies")

/-- The hub with another coordinator. -/
def withRestarts (w : Wired) (restarts : Restart.Coordinator) : Wired :=
  { w with hub := { w.hub with restarts } }

theorem requestOnce_eq {decision : Restart.Decision} {restarts : Restart.Coordinator}
    (hcall : w.hub.restarts.request a.server w.now.wall = (decision, restarts))
    (hrequest : (Packet.restartRequest a.server).fits = true)
    (hreply : (Packet.restartResponse a.server decision).fits = true) :
    a.requestOnce.run.run (w.link run) =
      (.ok decision, (w.withRestarts restarts).link run) := by
  have hhandle : w.hub.handle w.now w.agentAddress (.restartRequest a.server) =
      ([.toAddress w.agentAddress (.restartResponse a.server decision)],
        { w.hub with restarts }) := by
    show w.hub.handleRestartRequest w.now w.agentAddress a.server = _
    rw [handleRestartRequest, hcall]
  rw [RestartAgent.requestOnce,
    Session.bind_of_ok (w.request_eq run hrequest hreply hhandle a.retry.replyTimeout)]
  dsimp only
  rw [if_pos rfl]
  rfl

theorem complete_eq {result : Except Restart.UnexpectedCompletion Unit}
    {restarts : Restart.Coordinator}
    (hcall : w.hub.restarts.complete a.server w.now.wall = (result, restarts))
    (hrequest : (Packet.restartComplete a.server).fits = true)
    (hreply : (completionAck a.server result).fits = true) :
    a.complete.run.run (w.link run) =
      (result.mapError fun e => .completionRejected e.message,
        (w.withRestarts restarts).link run) := by
  have hhandle : w.hub.handle w.now w.agentAddress (.restartComplete a.server) =
      ([.toAddress w.agentAddress (completionAck a.server result)], { w.hub with restarts }) := by
    show w.hub.handleRestartComplete w.now w.agentAddress a.server = _
    rw [handleRestartComplete, hcall]
    cases result <;> rfl
  rw [RestartAgent.complete,
    Session.bind_of_ok (w.request_eq run hrequest hreply hhandle a.retry.replyTimeout)]
  cases result <;> rfl

theorem reportUnauthorized_eq (hrequest : (Packet.unauthorizedRestart a.server).fits = true)
    (hreply : (unauthorizedAck a.server).fits = true) :
    a.reportUnauthorized.run.run (w.link run) =
      (.ok (), (w.withRestarts (w.hub.restarts.unauthorized a.server w.now.wall)).link run) := by
  have hhandle : w.hub.handle w.now w.agentAddress (.unauthorizedRestart a.server) =
      ([.toAddress w.agentAddress (unauthorizedAck a.server)],
        { w.hub with restarts := w.hub.restarts.unauthorized a.server w.now.wall }) := rfl
  rw [RestartAgent.reportUnauthorized,
    Session.bind_of_ok (w.request_eq run hrequest hreply hhandle a.retry.replyTimeout)]
  rfl

/-! ## The result -/

/-- **An agent is told what the hub decided.** Whatever the state of the hub and the time, if a
question and its answer fit into datagrams, the agent gets the decision of the coordinator, learns
whether its completion was accepted and if not why, and has its unauthorized restart recorded. The
hub is left with the coordinator that the call leaves, and is otherwise as before. -/
theorem agent_agrees (w : Wired) (run : String → CommandOutcome) (a : RestartAgent) :
    let requested := w.hub.restarts.request a.server w.now.wall
    let completed := w.hub.restarts.complete a.server w.now.wall
    let noted := w.hub.restarts.unauthorized a.server w.now.wall
    ((Packet.restartRequest a.server).fits = true →
      (Packet.restartResponse a.server requested.1).fits = true →
      a.requestOnce.run.run (w.link run) =
        (.ok requested.1, (w.withRestarts requested.2).link run)) ∧
    ((Packet.restartComplete a.server).fits = true →
      (completionAck a.server completed.1).fits = true →
      a.complete.run.run (w.link run) =
        (completed.1.mapError fun e => .completionRejected e.message,
          (w.withRestarts completed.2).link run)) ∧
    ((Packet.unauthorizedRestart a.server).fits = true →
      (unauthorizedAck a.server).fits = true →
      a.reportUnauthorized.run.run (w.link run) = (.ok (), (w.withRestarts noted).link run)) :=
  ⟨requestOnce_eq run a rfl, complete_eq run a rfl, reportUnauthorized_eq run a⟩

/-- The agent of a backend asks for the slot and reports a completion while another backend holds
it, and reports a restart without permission. -/
theorem agent_agrees_while_held :
    let config : Config := ⟨[], default, default, default⟩
    let held := (Restart.Coordinator.new default none).request "rot" 0
    let w : Wired := ⟨{ Hub.new config default with restarts := held.2 }, ⟨1000, ⟨0⟩⟩,
      ⟨.v4 10 0 0 1, 4000⟩, ⟨.v4 10 0 0 2, 4001⟩, []⟩
    let a : RestartAgent := ⟨"grün", default, fun _ => .ofMillis 0⟩
    let link := w.link fun _ => .exited 0
    (Packet.restartRequest "grün").fits = true ∧ (Packet.restartComplete "grün").fits = true ∧
      (Packet.unauthorizedRestart "grün").fits = true ∧
      (a.requestOnce.run.run link).1 =
        .ok (.wait 31000 (some 1) "rot is restarting, you are #1 in line") ∧
      (a.complete.run.run link).1 = .error (.completionRejected
        "'grün' reported a completed restart but 'rot' holds the restart slot") ∧
      (a.reportUnauthorized.run.run link).1 = .ok () ∧
      (a.reportUnauthorized.run.run link).2.state.hub.restarts.state.history.get? "grün" =
        some 1000 := by
  intro config held w a link
  have hrequest : (Packet.restartRequest "grün").fits = true := by decide +kernel
  have hcomplete : (Packet.restartComplete "grün").fits = true := by decide +kernel
  have hnoted : (Packet.unauthorizedRestart "grün").fits = true := by decide +kernel
  obtain ⟨hdecision, hcompletion, hrecorded⟩ := agent_agrees w (fun _ => .exited 0) a
  have hwait : (w.hub.restarts.request a.server w.now.wall).1 =
      .wait 31000 (some 1) "rot is restarting, you are #1 in line" := by decide +kernel
  have hrefused : (w.hub.restarts.complete a.server w.now.wall).1 =
      .error ⟨"grün", some "rot"⟩ := rfl
  have hdecision := congrArg Prod.fst (hdecision hrequest (by decide +kernel))
  have hcompletion := congrArg Prod.fst (hcompletion hcomplete (by decide +kernel))
  have hrecorded := hrecorded hnoted (by decide +kernel)
  rw [hwait] at hdecision
  rw [hrefused] at hcompletion
  refine ⟨hrequest, hcomplete, hnoted, hdecision, hcompletion, congrArg Prod.fst hrecorded, ?_⟩
  rw [hrecorded]
  decide +kernel

end Hub.Wired

end GameHub
