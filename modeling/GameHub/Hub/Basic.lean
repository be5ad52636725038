import GameHub.Admission.Queue
import GameHub.Clients
import GameHub.Config.Basic
import GameHub.Packet.Wire

/-!
# The hub

The hub stands in front of the backends. It knows the connected players, keeps them in line, follows
the status of the backends, and coordinates their restarts. Everything that happens to it changes
its state and puts packets on its way out; nothing is sent from inside.

A packet on its way out is addressed to a socket, or to a player by id. In the second case the
address is looked up when the packet is really sent, and the packet is dropped if the player is
gone.

Silent players are dropped by a watch of its own, which may find its moment while the hub is at work
on something else. Wherever the hub looks at its players more than once, the time between two looks
is a gap: a list of moments at which the watch strikes.
-/

namespace GameHub

/-- One moment, on the wall clock in milliseconds and on a clock that never runs backwards. -/
structure Moment where
  wall : UInt64
  instant : Instant
  deriving DecidableEq, Repr, Inhabited

/-- A packet on its way out. -/
inductive Outbound where
  | toAddress (address : Address) (packet : Packet)
  | toPlayer (id : PlayerId) (packet : Packet)
  deriving DecidableEq, Repr

/-- A signal to a waiting player as a packet. -/
def Signal.outbound : Signal → Outbound
  | notice subject text => .toPlayer subject (.notice text)
  | progress subject text => .toPlayer subject (.progress text)
  | clear subject => .toPlayer subject .clearProgress

namespace Hub

/-- Settings that do not come from the configuration. -/
structure Options where
  /-- The time between two passes along the line. -/
  tick : Duration
  maxClients : Nat
  clientTimeout : Duration
  /-- How long a transfer can still be reported as failed. -/
  transferGrace : Duration
  deriving DecidableEq, Repr

instance : Inhabited Options := ⟨⟨.ofMillis 50, 500, .ofSeconds 10, .ofSeconds 15⟩⟩

/-- A player who has been sent to a backend. -/
structure Pending where
  decision : Admission.Decision
  sentAt : Instant
  deriving DecidableEq, Repr

end Hub

/-- The state of a hub. -/
structure Hub where
  clients : Clients
  restarts : Restart.Coordinator
  queue : Admission.Queue
  registry : Registry
  /-- Transfers that may still fail, at most one for each player. -/
  pending : List (PlayerId × Hub.Pending)
  /-- Players dropped for silence whose transfers have not been forgotten yet, oldest first. -/
  overdue : List PlayerId
  transferGrace : Duration
  reportTimeout : Duration
  deriving DecidableEq, Repr

namespace Hub

/-! ## Starting -/

/-- The hub of a configuration without defects, before anything has happened to it. -/
def new (config : Config) (options : Options) : Hub where
  clients := .empty options.maxClients options.clientTimeout
  restarts := .new config.restart.policy <|
    if config.restart.restrictToBackends then some (config.backends.map (·.id)) else none
  queue := .empty config.admission
  registry := .ofDeclarations config.backends config.health.failureThreshold
  pending := []
  overdue := []
  transferGrace := options.transferGrace
  reportTimeout := config.health.timeout

/-- The hub of a configuration, unless that has a defect. -/
def start (config : Config) (options : Options) : Except Config.Defect Hub :=
  match config.defect? with
  | some defect => .error defect
  | none => .ok (new config options)

/-! ## Pending transfers -/

/-- The transfer of a player that may still fail. -/
def pendingOf (h : Hub) (id : PlayerId) : Option Pending :=
  (h.pending.find? (·.1 = id)).map (·.2)

/-- Forgets the transfer of a player. -/
def forgetTransfer (h : Hub) (id : PlayerId) : Hub :=
  { h with pending := h.pending.filter (·.1 ≠ id) }

/-- Remembers the transfer of a player. -/
def rememberTransfer (h : Hub) (id : PlayerId) (p : Pending) : Hub :=
  { h with pending := (id, p) :: (h.forgetTransfer id).pending }

/-! ## Silence -/

/-- Drops the players that are silent. Their places in line stay until the next pass. -/
def checkClients (h : Hub) (now : Moment) : Hub :=
  let (late, clients) := h.clients.dropTimedOut now.instant
  { h with clients, overdue := h.overdue ++ late }

/-- Silent players are dropped at these moments, between two looks that the hub takes at the
players. -/
def lapse (h : Hub) (gap : List Moment) : Hub := gap.foldl checkClients h

/-! ## Players -/

/-- The players that are connected now. -/
def live (h : Hub) : PlayerId → Bool := h.clients.isConnected

/-- The player at an address, of whom something came just now. A gap follows this look at the
players. -/
def identify (h : Hub) (sender : Address) (now : Moment) (gap : List Moment) :
    Option PlayerId × Hub :=
  match h.clients.find? sender with
  | some id => (some id, { h with clients := (h.clients.touch id now.instant).2 }.lapse gap)
  | none => (none, h.lapse gap)

/-- Where a packet goes, and whether it goes at all: the player must be connected, and the packet
must fit into a datagram. -/
def deliver? (h : Hub) (out : Outbound) : Option (Address × Packet) :=
  let addressed := match out with
    | .toAddress address packet => some (address, packet)
    | .toPlayer id packet => (h.clients.addressOf? id).map (·, packet)
  addressed.filter (·.2.fits)

end Hub

end GameHub
