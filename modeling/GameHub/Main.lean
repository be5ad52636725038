import GameHub.Config.File
import GameHub.Hub.Arguments
import GameHub.Hub.Timetable
import Std.Async.Timer
import Std.Async.UDP

/-!
# The hub program

A hub on a socket. The program moves datagrams and reads clocks; what happens to them is up to
`Hub.receive` and `Hub.turn`.
-/

namespace GameHub.Program

open Std.Async

/-! ## The outside -/

/-- The moment that the clocks show. -/
def readClocks : IO Moment := do
  let wall ← Std.Time.Timestamp.now
  return ⟨UInt64.ofNat wall.toMillisecondsSinceUnixEpoch.toInt.toNat, ⟨← IO.monoNanosNow⟩⟩

/-- An address as sockets take it. -/
def toSocketAddress (a : Address) : Std.Net.SocketAddress :=
  match a.host with
  | .v4 x y z w => .v4 ⟨.ofParts x y z w, a.port⟩
  | .v6 groups _ => .v6 ⟨⟨groups⟩, a.port⟩

/-- The address of a datagram's sender. -/
def ofSocketAddress : Std.Net.SocketAddress → Address
  | .v4 a => ⟨.v4 a.addr.octets[0] a.addr.octets[1] a.addr.octets[2] a.addr.octets[3], a.port⟩
  | .v6 a => ⟨.v6 a.addr.segments 0, a.port⟩

/-- The bytes of a file; `none` stands for a file that is missing. -/
def readFile (path : String) : IO (Option (List UInt8)) := do
  try
    return some (← IO.FS.readBinFile path).toList
  catch
    | .noFileOrDirectory .. => return none
    | e => throw e

/-! ## Service -/

/-- Sends what goes out. A datagram that cannot be sent is given up. -/
def sendAll (socket : UDP.Socket) (h : Hub) (out : List Outbound) : Async Unit :=
  for (address, packet) in out.filterMap h.deliver? do
    try
      socket.send ⟨packet.encode.toArray⟩ (some (toSocketAddress address))
    catch e =>
      IO.eprintln s!"cannot send to {address.text}: {e}"

/-- The next datagram, if one arrives within so many milliseconds. -/
def nextDatagram (socket : UDP.Socket) (wait : Nat) : Async (Option (Address × List UInt8)) := do
  Selectable.one #[
    .case (socket.recvSelector (UInt64.ofNat maxPacketSize)) fun (payload, sender) =>
      return sender.map (ofSocketAddress ·, payload.toList),
    .case (← Selector.sleep (.ofNat wait)) fun () => return none]

/-- Serves players and backends for ever. -/
partial def serve (socket : UDP.Socket) (h : Hub) (timetable : Hub.Timetable) : Async Unit := do
  let now ← readClocks
  let (out, h) := h.turn now (timetable.events now.instant)
  sendAll socket h out
  let timetable := timetable.done now.instant
  match ← nextDatagram socket (timetable.pause now.instant / 1_000_000 + 1) with
  | some (sender, payload) =>
    let (out, h) := h.receive (← readClocks) sender payload
    sendAll socket h out
    serve socket h timetable
  | none => serve socket h timetable

/-- Fails with a message. -/
def refuse {α : Type} (message : String) : IO α := throw (.userError message)

/-- The configuration that the arguments ask for. -/
def configuration (a : Hub.Arguments) : IO Config := do
  match a.config with
  | none => return a.apply default
  | some path =>
    match Config.ofFile (← readFile path) with
    | .ok config => return a.apply config
    | .error e => refuse e.message

/-- Runs the program with these words on its command line. -/
def start (words : List String) : IO Unit := do
  let arguments ← match Hub.Arguments.ofWords words with
    | .ok arguments => pure arguments
    | .error e => refuse e.message
  let config ← configuration arguments
  let hub ← match Hub.start config arguments.options with
    | .ok hub => pure hub
    | .error defect => refuse (Config.Error.invalid defect).message
  let some address := arguments.address? | refuse Address.syntaxMessage
  let socket ← UDP.Socket.mk
  socket.bind (toSocketAddress address)
  IO.eprintln s!"hub listening on {address.text}"
  let now ← readClocks
  (serve socket hub (.start config arguments.options now.instant)).block

end GameHub.Program

/-- Runs the hub until it is stopped. The result is 1 if it could not start. -/
def main (words : List String) : IO UInt32 := do
  try
    GameHub.Program.start words
    return 0
  catch e =>
    IO.eprintln s!"{e}"
    return 1
