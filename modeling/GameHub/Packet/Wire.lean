import GameHub.Packet.Basic
import GameHub.Wire.Codec

/-!
# Packets as datagrams

The binary form of packets. Alternatives are numbered in the order of their declaration, and fields
follow each other in the order of theirs. Bytes after the packet are left alone.

The hub asks for the size of a packet before it sends it; `Packet.length_encode` says that this is
the length of the datagram.
-/

namespace GameHub

open Wire

/-! ## Parts of packets -/

/-- Ranks, lowest first. -/
def Rank.codec : Codec Rank where
  encode r := (Codec.variant 5).encode r.level
  decode := do
    match ← (Codec.variant 5).decode with
    | 0 => return .player
    | 1 => return .supporter
    | 2 => return .trainer
    | 3 => return .moderator
    | _ => return .admin
  size _ := 4
  length_encode _ := (Codec.variant 5).length_encode _

namespace Restart

/-- The status of a request. -/
def RequestStatus.codec : Codec RequestStatus where
  encode
    | .wait => (Codec.variant 3).encode 0
    | .allow => (Codec.variant 3).encode 1
    | .deny => (Codec.variant 3).encode 2
  decode := do
    match ← (Codec.variant 3).decode with
    | 0 => return .wait
    | 1 => return .allow
    | _ => return .deny
  size _ := 4
  length_encode
    | .wait | .allow | .deny => (Codec.variant 3).length_encode _

/-- A request in the backlog. -/
def Request.codec : Codec Request where
  encode r :=
    Codec.text.encode r.server ++ Codec.u64.encode r.requestTime ++ Codec.u64.encode r.lastRetry ++
      Codec.u32.encode r.retries ++ RequestStatus.codec.encode r.status
  decode := return {
    server := ← Codec.text.decode
    requestTime := ← Codec.u64.decode
    lastRetry := ← Codec.u64.decode
    retries := ← Codec.u32.decode
    status := ← RequestStatus.codec.decode }
  size r :=
    Codec.text.size r.server + Codec.u64.size r.requestTime + Codec.u64.size r.lastRetry +
      Codec.u32.size r.retries + RequestStatus.codec.size r.status
  length_encode r := by simp only [List.length_append, Codec.length_encode]

/-- The restart state. -/
def State.codec : Codec State where
  encode s :=
    (Codec.option Codec.text).encode s.holder ++ (Codec.list Request.codec).encode s.backlog ++
      (Codec.nameMap Codec.u64).encode s.history ++
      (Codec.nameMap (Codec.list Codec.u64)).encode s.unauthorized
  decode := return {
    holder := ← (Codec.option Codec.text).decode
    backlog := ← (Codec.list Request.codec).decode
    history := ← (Codec.nameMap Codec.u64).decode
    unauthorized := ← (Codec.nameMap (Codec.list Codec.u64)).decode }
  size s :=
    (Codec.option Codec.text).size s.holder + (Codec.list Request.codec).size s.backlog +
      (Codec.nameMap Codec.u64).size s.history +
      (Codec.nameMap (Codec.list Codec.u64)).size s.unauthorized
  length_encode s := by simp only [List.length_append, Codec.length_encode]

/-- A decision. -/
def Decision.codec : Codec Decision where
  encode
    | .allow => (Codec.variant 3).encode 0
    | .wait retryAfter position reason =>
      (Codec.variant 3).encode 1 ++ Codec.u64.encode retryAfter ++
        (Codec.option Codec.u64).encode position ++ Codec.text.encode reason
    | .deny reason => (Codec.variant 3).encode 2 ++ Codec.text.encode reason
  decode := do
    match ← (Codec.variant 3).decode with
    | 0 => return .allow
    | 1 =>
      return .wait (← Codec.u64.decode) (← (Codec.option Codec.u64).decode) (← Codec.text.decode)
    | _ => return .deny (← Codec.text.decode)
  size
    | .allow => 4
    | .wait retryAfter position reason =>
      4 + Codec.u64.size retryAfter + (Codec.option Codec.u64).size position +
        Codec.text.size reason
    | .deny reason => 4 + Codec.text.size reason
  length_encode
    | .allow => (Codec.variant 3).length_encode _
    | .wait .. | .deny _ => by simp only [List.length_append, Codec.length_encode]; rfl

end Restart

/-! ## Packets -/

namespace Packet

/-- The place of a kind of packet in the declaration. -/
def kind : Packet → Nat
  | connect .. => 0
  | joinQueue .. => 1
  | leaveQueue => 2
  | queryPosition => 3
  | transferFailed .. => 4
  | heartbeat => 5
  | disconnect => 6
  | connected .. => 7
  | queuePosition .. => 8
  | notice .. => 9
  | progress .. => 10
  | clearProgress => 11
  | transfer .. => 12
  | disconnected .. => 13
  | statusReport .. => 14
  | restartRequest .. => 15
  | restartComplete .. => 16
  | unauthorizedRestart .. => 17
  | stateQuery => 18
  | restartResponse .. => 19
  | restartAck .. => 20
  | stateSnapshot .. => 21
  | stateUnavailable .. => 22

/-- The bytes of the fields. -/
def encodeFields : Packet → List UInt8
  | connect version => Codec.u32.encode version
  | joinQueue target rank => Codec.text.encode target ++ Rank.codec.encode rank
  | connected id => Codec.u32.encode id
  | queuePosition position size =>
    (Codec.option Codec.u64).encode position ++ Codec.u64.encode size
  | transfer backend address => Codec.text.encode backend ++ Codec.text.encode address
  | statusReport server current max =>
    Codec.text.encode server ++ Codec.u32.encode current ++ Codec.u32.encode max
  | restartResponse server decision =>
    Codec.text.encode server ++ Restart.Decision.codec.encode decision
  | restartAck server accepted reason =>
    Codec.text.encode server ++ Codec.bool.encode accepted ++
      (Codec.option Codec.text).encode reason
  | stateSnapshot state => Restart.State.codec.encode state
  | transferFailed s | notice s | progress s | disconnected s | restartRequest s | restartComplete s
  | unauthorizedRestart s | stateUnavailable s => Codec.text.encode s
  | leaveQueue | queryPosition | heartbeat | disconnect | clearProgress | stateQuery => []

/-- The number of bytes of the fields. -/
def fieldsSize : Packet → Nat
  | connect version => Codec.u32.size version
  | joinQueue target rank => Codec.text.size target + Rank.codec.size rank
  | connected id => Codec.u32.size id
  | queuePosition position size => (Codec.option Codec.u64).size position + Codec.u64.size size
  | transfer backend address => Codec.text.size backend + Codec.text.size address
  | statusReport server current max =>
    Codec.text.size server + Codec.u32.size current + Codec.u32.size max
  | restartResponse server decision => Codec.text.size server + Restart.Decision.codec.size decision
  | restartAck server accepted reason =>
    Codec.text.size server + Codec.bool.size accepted + (Codec.option Codec.text).size reason
  | stateSnapshot state => Restart.State.codec.size state
  | transferFailed s | notice s | progress s | disconnected s | restartRequest s | restartComplete s
  | unauthorizedRestart s | stateUnavailable s => Codec.text.size s
  | leaveQueue | queryPosition | heartbeat | disconnect | clearProgress | stateQuery => 0

theorem length_encodeFields (p : Packet) : p.encodeFields.length = p.fieldsSize := by
  cases p <;>
    simp only [encodeFields, fieldsSize, List.length_append, List.length_nil, Codec.length_encode]

/-- Reads the fields of a kind of packet. -/
def decodeFields : Nat → Reader Packet
  | 0 => return connect (← Codec.u32.decode)
  | 1 => return joinQueue (← Codec.text.decode) (← Rank.codec.decode)
  | 2 => return leaveQueue
  | 3 => return queryPosition
  | 4 => return transferFailed (← Codec.text.decode)
  | 5 => return heartbeat
  | 6 => return disconnect
  | 7 => return connected (← Codec.u32.decode)
  | 8 => return queuePosition (← (Codec.option Codec.u64).decode) (← Codec.u64.decode)
  | 9 => return notice (← Codec.text.decode)
  | 10 => return progress (← Codec.text.decode)
  | 11 => return clearProgress
  | 12 => return transfer (← Codec.text.decode) (← Codec.text.decode)
  | 13 => return disconnected (← Codec.text.decode)
  | 14 => return statusReport (← Codec.text.decode) (← Codec.u32.decode) (← Codec.u32.decode)
  | 15 => return restartRequest (← Codec.text.decode)
  | 16 => return restartComplete (← Codec.text.decode)
  | 17 => return unauthorizedRestart (← Codec.text.decode)
  | 18 => return stateQuery
  | 19 => return restartResponse (← Codec.text.decode) (← Restart.Decision.codec.decode)
  | 20 => do
    return restartAck (← Codec.text.decode) (← Codec.bool.decode)
      (← (Codec.option Codec.text).decode)
  | 21 => return stateSnapshot (← Restart.State.codec.decode)
  | _ => return stateUnavailable (← Codec.text.decode)

/-- How packets are written and read. -/
def codec : Codec Packet where
  encode p := (Codec.variant 23).encode p.kind ++ p.encodeFields
  decode := do decodeFields (← (Codec.variant 23).decode)
  size p := 4 + p.fieldsSize
  length_encode p := by rw [List.length_append, Codec.length_encode, length_encodeFields]; rfl

/-- The datagram of a packet. -/
def encode (p : Packet) : List UInt8 := codec.encode p

/-- The packet at the front of a datagram. -/
def decode (bytes : List UInt8) : Except Wire.Error Packet := (codec.decode bytes).map (·.1)

/-- The length of the datagram of a packet. -/
def size (p : Packet) : Nat := codec.size p

theorem length_encode (p : Packet) : p.encode.length = p.size := codec.length_encode p

/-- The packet fits into one datagram. -/
def fits (p : Packet) : Bool := p.size ≤ maxPacketSize

end Packet

end GameHub
