import GameHub.Agent.Link

/-!
# Scripted worlds

A far side that answers from a list: what arrives at the agent after its n-th datagram is the n-th
entry, and nothing once the list is used up. The packets that the far side got are kept. A late
answer is one that stands in a later entry.

`World.through` puts a network in front of a world; if no datagram can leave the host, nothing
reaches the far side.
-/

namespace GameHub.Agent

/-- The state of a far side that answers from a list. -/
structure Script where
  answers : List (List Datagram)
  /-- The packets that arrived, oldest first. -/
  received : List Packet
  deriving DecidableEq, Repr

/-- A datagram reaches the far side. -/
def Script.accept (datagram : List UInt8) (s : Script) : List Datagram × Script :=
  let received := s.received ++ (Packet.decode datagram).toOption.toList
  match s.answers with
  | first :: rest => (first, ⟨rest, received⟩)
  | [] => ([], { s with received })

/-- The world of a script, in which the clock shows zero and can show any time, waits are over at
once, and commands end as `run` says. -/
def Script.world (run : String → CommandOutcome) : World Script where
  send datagram s := .ok (s.accept datagram)
  now _ := 0
  reaches _ _ := true
  pause _ s := s
  run command s := (run command, s)

/-- The world behind a network, which may refuse every datagram. -/
def World.through {σ : Type} (network : Except SystemError Unit) (w : World σ) : World σ :=
  { w with send := fun datagram s => network.bind fun () => w.send datagram s }

end GameHub.Agent
