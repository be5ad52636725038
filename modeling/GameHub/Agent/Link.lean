import GameHub.Address
import GameHub.Agent.Command
import GameHub.Agent.Error
import GameHub.Packet.Form
import GameHub.Packet.Wire

/-!
# The link to the hub

An agent sends requests to the hub as datagrams and takes the next packet from the hub as the
answer. Datagrams from elsewhere and datagrams that hold no packet are skipped. What comes after the
answer stays in the agent's socket and is read next time.

What lies outside the agent is a `World`: the network with whatever is at its far end, the clock and
the shell. All that an agent does is done to the state of a world.
-/

namespace GameHub.Agent

/-- A datagram that has arrived. -/
structure Datagram where
  sender : Address
  payload : List UInt8
  deriving DecidableEq, Repr

/-- What an agent can do to the rest of the world, of which `σ` is the state. -/
structure World (σ : Type) where
  /-- Sends a datagram to the hub. The datagrams are those that arrive from then on until the agent
  sends again or stops waiting. -/
  send : List UInt8 → σ → Except SystemError (List Datagram × σ)
  /-- The time in milliseconds. -/
  now : σ → UInt64
  /-- Whether the clock that measures the waits can show a time so far ahead. On most platforms it
  counts seconds in a signed 64-bit word. -/
  reaches : Duration → σ → Bool
  /-- Waits. -/
  pause : Duration → σ → σ
  /-- Runs a command in the shell. -/
  run : String → σ → CommandOutcome × σ

/-- An agent's end of the link. -/
structure Link (σ : Type) where
  hub : Address
  world : World σ
  state : σ
  /-- Datagrams that arrived and have not been read, oldest first. -/
  inbox : List Datagram

/-- What an agent does over its link. It may fail or break down; what it has done until then stays
done. -/
abbrev Session (σ : Type) := ExceptT Error (StateM (Link σ))

namespace Link

variable {σ : Type}

/-- A link to the hub at an address. -/
def connect (address : String) (world : World σ) (state : σ) : Except Error (Link σ) :=
  match Address.ofText? address with
  | some hub => .ok ⟨hub, world, state, []⟩
  | none => .error (.address address)

/-- The packet in a datagram from the hub. -/
def packetOf? (hub : Address) (d : Datagram) : Option Packet :=
  if d.sender = hub then (Packet.decode d.payload).toOption else none

/-- The first packet from the hub in a list of datagrams, and the datagrams after it. -/
def firstPacket (hub : Address) : List Datagram → Option (Packet × List Datagram)
  | [] => none
  | d :: rest =>
    match packetOf? hub d with
    | some p => some (p, rest)
    | none => firstPacket hub rest

end Link

namespace Session

variable {σ : Type}

/-- Sends a packet to the hub. -/
def send (p : Packet) : Session σ Unit := do
  let link ← get
  match link.world.send p.encode link.state with
  | .ok (arriving, state) => set { link with state, inbox := link.inbox ++ arriving }
  | .error cause => throw (.system cause)

/-- The wording for a deadline that the clock cannot show. -/
def deadlineOverflowMessage : String := "overflow when adding duration to instant"

/-- Waits for the next packet from the hub. The deadline is set first, and if the clock cannot show
it, nothing is read. -/
def receive (wait : Duration) : Session σ Packet := do
  let link ← get
  if link.world.reaches wait link.state then
    match Link.firstPacket link.hub link.inbox with
    | some (p, inbox) =>
      set { link with inbox }
      return p
    | none =>
      set { link with inbox := [] }
      throw (.timeout wait)
  else throw (.overflow deadlineOverflowMessage)

/-- Sends a request and waits for the answer. -/
def request (p : Packet) (wait : Duration) : Session σ Packet := do
  send p
  receive wait

/-- The time in milliseconds. -/
def now : Session σ UInt64 := do
  let link ← get
  return link.world.now link.state

/-- Waits. -/
def pause (d : Duration) : Session σ Unit :=
  modify fun link => { link with state := link.world.pause d link.state }

/-- Runs a command in the shell. -/
def runCommand (command : String) : Session σ CommandOutcome :=
  modifyGet fun link =>
    let (outcome, state) := link.world.run command link.state
    (outcome, { link with state })

/-- What a part of the session comes to, for something that is done even if the part fails. After an
overflow nothing is done. -/
def attempt {α : Type} (x : Session σ α) : Session σ (Except Error α) := do
  match ← observing x with
  | .error (.overflow message) => throw (.overflow message)
  | result => return result

end Session

end GameHub.Agent
