import GameHub.Ledger.Entry
import GameHub.Restart.State

/-!
# Packets

The messages between players, the hub and the backends. Each travels in one datagram.
-/

namespace GameHub

/-- The version of the protocol that players have to speak. -/
def protocolVersion : UInt32 := 1

/-- The largest payload of a datagram. -/
def maxPacketSize : Nat := 65507

/-- A message of the protocol. -/
inductive Packet where
  -- From a player.
  | connect (clientVersion : UInt32)
  | joinQueue (target : String) (rank : Rank)
  | leaveQueue
  | queryPosition
  | transferFailed (reason : String)
  | heartbeat
  | disconnect
  -- To a player.
  | connected (clientId : PlayerId)
  | queuePosition (position : Option UInt64) (size : UInt64)
  | notice (message : String)
  | progress (text : String)
  | clearProgress
  | transfer (backend address : String)
  | disconnected (reason : String)
  -- From a backend.
  | statusReport (server : String) (current max : UInt32)
  | restartRequest (server : String)
  | restartComplete (server : String)
  | unauthorizedRestart (server : String)
  | stateQuery
  -- To a backend.
  | restartResponse (server : String) (decision : Restart.Decision)
  | restartAck (server : String) (accepted : Bool) (reason : Option String)
  | stateSnapshot (state : Restart.State)
  /-- The snapshot did not fit into a datagram. -/
  | stateUnavailable (reason : String)
  deriving DecidableEq, Repr, Inhabited

end GameHub
