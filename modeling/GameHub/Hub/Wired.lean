import GameHub.Agent.Link
import GameHub.Hub.Handle

/-!
# An agent at a hub

The world of an agent whose datagrams reach a hub at once and in order. The clock stands still while
the agent is at work. What the hub sends to others meanwhile is kept.
-/

namespace GameHub.Hub

/-- A hub with an agent wired to it. -/
structure Wired where
  hub : Hub
  now : Moment
  /-- The address of the hub. -/
  hubAddress : Address
  /-- The address of the agent. -/
  agentAddress : Address
  /-- What the hub has sent to others, in order. -/
  elsewhere : List (Address × Packet)

namespace Wired

/-- A datagram of the agent reaches the hub, and the answers to it reach the agent. -/
def send (datagram : List UInt8) (w : Wired) : List Agent.Datagram × Wired :=
  let (out, hub) := w.hub.receive w.now w.agentAddress datagram
  let (answers, others) := (out.filterMap hub.deliver?).partition (·.1 = w.agentAddress)
  (answers.map fun (_, packet) => ⟨w.hubAddress, packet.encode⟩,
    { w with hub, elsewhere := w.elsewhere ++ others })

/-- The world of the agent, in which commands end as `run` says. No deadline is too far ahead. -/
def world (run : String → Agent.CommandOutcome) : Agent.World Wired where
  send datagram w := .ok (w.send datagram)
  now w := w.now.wall
  reaches _ _ := true
  pause _ w := w
  run command w := (run command, w)

end Wired

end GameHub.Hub
