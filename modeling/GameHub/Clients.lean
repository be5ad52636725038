import GameHub.Address
import GameHub.Duration
import GameHub.Ledger.Entry

/-!
# Connected players

Players connect before they join the line. Connections get ids in turn, so an id that is still held
somewhere cannot come to mean another player before every other id has been given out. A connection
that is still open when its id comes up again loses it. A player of whom nothing is heard for too
long is dropped.
-/

namespace GameHub

/-- A connected player. -/
structure Client where
  id : PlayerId
  address : Address
  /-- When something last came from the player. -/
  lastSeen : Instant
  deriving DecidableEq, Repr, Inhabited

/-- Nothing came from the player for longer than the timeout. -/
def Client.isTimedOut (c : Client) (now : Instant) (timeout : Duration) : Bool :=
  c.lastSeen.isPast now timeout

/-- The connected players, in the order in which they connected. -/
structure Clients where
  connected : List Client
  /-- The id of the next connection. -/
  nextId : PlayerId
  /-- How many players there may be. -/
  capacity : Nat
  timeout : Duration
  deriving DecidableEq, Repr, Inhabited

namespace Clients

/-- No connections. Ids are counted from one. -/
def empty (capacity : Nat) (timeout : Duration) : Clients := ⟨[], 1, capacity, timeout⟩

/-! ## Looking up -/

/-- How many players are connected. -/
def size (c : Clients) : Nat := c.connected.length

/-- Nobody is connected. -/
def isEmpty (c : Clients) : Bool := c.connected.isEmpty

/-- The ids of the connected players. -/
def ids (c : Clients) : List PlayerId := c.connected.map (·.id)

/-- The player is connected. -/
def isConnected (c : Clients) (id : PlayerId) : Bool := c.ids.contains id

/-- The id of the player at an address. -/
def find? (c : Clients) (address : Address) : Option PlayerId :=
  (c.connected.find? (·.address = address)).map (·.id)

/-- The address of a player. -/
def addressOf? (c : Clients) (id : PlayerId) : Option Address :=
  (c.connected.find? (·.id = id)).map (·.address)

/-! ## Coming and going -/

/-- Connects a player, if there is room; the result is the id. -/
def add (c : Clients) (address : Address) (now : Instant) : Option PlayerId × Clients :=
  if c.capacity ≤ c.size then (none, c)
  else
    (some c.nextId,
      { c with
        connected := c.connected.filter (·.id ≠ c.nextId) ++ [⟨c.nextId, address, now⟩]
        nextId := c.nextId + 1 })

/-- Disconnects a player; says whether the player was connected. -/
def remove (c : Clients) (id : PlayerId) : Bool × Clients :=
  (c.isConnected id, { c with connected := c.connected.filter (·.id ≠ id) })

/-- Closes the connection that an address has, if it has one. -/
def vacate (c : Clients) (address : Address) : Clients :=
  match c.find? address with
  | some id => (c.remove id).2
  | none => c

/-- Something came from a player; says whether the player is connected. -/
def touch (c : Clients) (id : PlayerId) (now : Instant) : Bool × Clients :=
  (c.isConnected id,
    { c with
      connected := c.connected.map fun p => if p.id = id then { p with lastSeen := now } else p })

/-- Drops the players of whom nothing came for too long; the result is their ids. -/
def dropTimedOut (c : Clients) (now : Instant) : List PlayerId × Clients :=
  let (late, rest) := c.connected.partition (·.isTimedOut now c.timeout)
  (late.map (·.id), { c with connected := rest })

end Clients

end GameHub
