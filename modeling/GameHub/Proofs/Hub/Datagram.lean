import GameHub.Proofs.Admission.Messages
import GameHub.Proofs.Agent.Monitoring
import GameHub.Proofs.Hub.Justified
import GameHub.Proofs.Restart.Fairness
import GameHub.Proofs.Restart.Footprint
import Mathlib.Algebra.Order.BigOperators.Group.Finset

/-!
# How long the answers are

The hub repeats what it is told. An answer to a backend names that backend twice, and the one that
holds the slot once, and a notice names the target twice. Only the answer to a question for the
restart state is measured before it is sent, so whether the other ones fit into a datagram depends
on how long the names are.

What is repeated was in a packet of the run: the targets of the players in line and of those on the
way to a backend, and the name of the backend that has the slot (`Terse`). Only the addresses are
declared.

**Theorem (`answers_fit`).** If no packet that comes in is longer than 21820 bytes, every packet
that goes out fits into a datagram. Two names of 21809 bytes, in packets of 21821 bytes, are too
long.
-/

namespace GameHub

open Admission Backend

/-! ## Packets for players -/

/-- The packet that is on its way out. -/
def Outbound.packet : Outbound → Packet
  | .toAddress _ packet | .toPlayer _ packet => packet

theorem Signal.Within.size_packet_le {bytes : Nat} {signal : Signal} (h : signal.Within bytes) :
    signal.outbound.packet.size ≤ 12 + bytes := by
  cases signal with
  | notice subject text | progress subject text =>
    have htext : text.utf8ByteSize ≤ bytes := h
    change 4 + (8 + text.utf8ByteSize) ≤ _
    omega
  | clear subject =>
    change 4 ≤ _
    omega

/-! ## Answers to requests -/

namespace Restart.Coordinator

variable {c : Coordinator} {bytes : Nat}

theorem size_waitAt_le (hholder : (c.state.holder.getD "").utf8ByteSize ≤ bytes) {index : Nat}
    (hindex : index + 1 < UInt64.size) (now : UInt64) :
    Decision.codec.size (c.waitAt index now) ≤ bytes + 142 := by
  have hposition := utf8ByteSize_toString_le hindex
  unfold waitAt
  simp only [Decision.codec, Wire.Codec.text, String.utf8ByteSize_append]
  change 4 + 8 + (1 + 8) + (8 + ((c.state.holder.getD "").utf8ByteSize + 25 +
    (toString (index + 1)).utf8ByteSize + 8)) ≤ _
  omega

/-- The answer to a request has one name in it, that of the backend or that of the holder. -/
theorem size_request_le {server : String} (hserver : server.utf8ByteSize ≤ bytes)
    (hholder : (c.state.holder.getD "").utf8ByteSize ≤ bytes)
    (hwaiting : c.state.waiting.length + 1 < UInt64.size) (now : UInt64) :
    Decision.codec.size (c.request server now).1 ≤ bytes + 220 := by
  -- One branch for each reason, with the texts that stand in it.
  rw [request]
  split
  · change 4 + (8 + 20) ≤ _
    omega
  split
  · simp only [Decision.codec, Wire.Codec.text, String.utf8ByteSize_append]
    change 4 + (8 + (server.utf8ByteSize + 22)) ≤ _
    omega
  split
  · change 4 ≤ _
    omega
  split
  · next last ready _ =>
    have hago := utf8ByteSize_word_le (now.subSat last / 1000)
    have hcooldown := utf8ByteSize_word_le c.policy.cooldown.seconds
    simp only [Decision.codec, Wire.Codec.text, String.utf8ByteSize_append]
    change 4 + 8 + 1 + (8 + (server.utf8ByteSize + 11 +
      (toString (now.subSat last / 1000)).utf8ByteSize + 19 +
      (toString c.policy.cooldown.seconds).utf8ByteSize + 1)) ≤ _
    omega
  split
  · change 4 ≤ _
    omega
  · have hindex : (c.enqueue server now).1 ≤ c.state.waiting.length := by
      rw [fst_enqueue]
      exact List.idxOf_le_length
    rw [← holder_enqueue c server now] at hholder
    exact (size_waitAt_le hholder (by omega) now).trans (by omega)

end Restart.Coordinator

namespace Hub

/-! ## The restart coordination of the hub -/

/-- The call on the restart coordination that the event comes to. -/
def Occurrence.restartCall? (o : Occurrence) : Option Restart.Coordinator.Call :=
  match o.event with
  | .packet _ (.restartRequest server) => some (.request server o.now.wall)
  | .packet _ (.restartComplete server) => some (.complete server o.now.wall)
  | .packet _ (.unauthorizedRestart server) => some (.unauthorized server o.now.wall)
  | .sweepRestarts => some (.sweep o.now.wall)
  | _ => none

theorem restarts_lapse (h : Hub) (gap : List Moment) : (h.lapse gap).restarts = h.restarts := by
  rw [lapse_eq]

theorem restarts_step (h : Hub) (o : Occurrence) :
    (h.step o).2.restarts = h.restarts.run o.restartCall?.toList := by
  rw [step, Occurrence.restartCall?]
  cases o.event with
  | packet sender packet =>
    -- A packet from a player does not reach the restart coordination.
    have hplayer (horigin : packet.origin = .player) :=
      (backends_handleAcross h o.now o.firstGap sender horigin).1
    cases packet with
    | connect | joinQueue | leaveQueue | queryPosition | transferFailed | heartbeat | disconnect =>
      exact hplayer rfl
    | _ => rfl
  | reconcile =>
    rcases reconcileAcross_cases h o.now o.firstGap o.secondGap with
      ⟨-, heq⟩ | ⟨d, -, ⟨address, -, heq⟩ | ⟨-, heq⟩⟩
    · exact (congrArg (·.2.restarts) heq).trans (restarts_lapse h _)
    · exact (congrArg (·.2.restarts) heq).trans (restarts_lapse h _)
    · exact (congrArg (·.2.restarts) heq).trans
        ((restarts_lapse _ _).trans (restarts_lapse h _))
  | forgetOverdue place =>
    show (h.forgetOverdue place).restarts = h.restarts
    rw [forgetOverdue]
    split <;> rfl
  | _ => rfl

/-- The restart coordination of the hub only sees the calls that come to it. -/
theorem restarts_run (h : Hub) (run : List Occurrence) :
    (h.run run).2.restarts = h.restarts.run (run.filterMap Occurrence.restartCall?) := by
  induction run generalizing h with
  | nil => rfl
  | cons o rest ih =>
    rw [run_cons, ih, restarts_step, List.filterMap_cons]
    cases o.restartCall? <;> rfl

/-! ## What the hub remembers -/

variable {h : Hub} {bytes capacity : Nat} {ids : List PlayerId}

/-- The names that the hub remembers take at most so many bytes each, and so do the addresses. There
are few enough of them that their numbers have 64 bits. -/
structure Terse (bytes : Nat) (h : Hub) : Prop where
  targets : ∀ t ∈ h.held, t.target.utf8ByteSize ≤ bytes
  /-- Players are sent where they want to go. -/
  backends : ∀ transfer ∈ h.pending,
    transfer.2.decision.backend = transfer.2.decision.entry.target
  addresses : ∀ entry ∈ h.registry.directory, entry.2.utf8ByteSize ≤ bytes
  holder : (h.restarts.state.holder.getD "").utf8ByteSize ≤ bytes
  waiting : h.restarts.state.waiting.length + 1 < UInt64.size
  snapshot : (Packet.stateSnapshot h.restarts.state).size < UInt64.size

/-- All players in line have different ids. -/
theorem Sound.size_queue_le (hs : Sound capacity ids h) : h.queue.size ≤ UInt32.size := by
  have hnumbers : (h.queue.ledger.tickets.map (·.subject.toNat)).Nodup := by
    have hnodup := hs.tickets_nodup.map (f := UInt32.toNat) fun _ _ => UInt32.toNat_inj.mp
    rwa [List.map_map] at hnodup
  have hsub : (h.queue.ledger.tickets.map (·.subject.toNat)).Subperm (List.range UInt32.size) :=
    hnumbers.subperm fun n hn => by
      obtain ⟨t, -, rfl⟩ := List.mem_map.mp hn
      exact List.mem_range.mpr t.subject.toNat_lt
  have hlength := hsub.length_le
  rwa [List.length_map, Ledger.length_tickets, List.length_range] at hlength

/-! ## What goes out -/

/-- How long packets can get in which names of at most so many bytes stand. A completion that is
turned down has three of them, and every other packet has two at most. -/
def answerBound (bytes : Nat) : Nat := max maxPacketSize (3 * bytes + 83)

theorem size_signal_le {signal : Signal} (h : signal.Within (2 * bytes + 290)) :
    signal.outbound.packet.size ≤ answerBound bytes := by
  refine h.size_packet_le.trans ?_
  change _ ≤ max 65507 _
  omega

theorem le_answerBound {n : Nat} (h : n ≤ 65507) : n ≤ answerBound bytes :=
  h.trans (Nat.le_max_left ..)

theorem size_handleConnect_le (now : Moment) (sender : Address) (version : UInt32) {out : Outbound}
    (hout : out ∈ (h.handleConnect now sender version).1) :
    out.packet.size ≤ answerBound bytes := by
  rw [handleConnect] at hout
  split at hout
  · obtain rfl := List.mem_singleton.mp hout
    have hversion := utf8ByteSize_halfWord_le version
    refine le_answerBound ?_
    simp only [Outbound.packet, Packet.size, Packet.codec, Packet.fieldsSize, Wire.Codec.text,
      String.utf8ByteSize_append]
    change 4 + (8 + (17 + (toString version).utf8ByteSize + 28 + 1)) ≤ _
    omega
  split at hout
  · obtain rfl := List.mem_singleton.mp hout
    exact le_answerBound (show 8 ≤ 65507 by decide)
  · obtain rfl := List.mem_singleton.mp hout
    exact le_answerBound (show 4 + (8 + 8) ≤ 65507 by decide)

theorem size_handleJoin_le {target : String} (htarget : target.utf8ByteSize ≤ bytes) (now : Moment)
    (gap : List Moment) (sender : Address) (rank : Rank) {out : Outbound}
    (hout : out ∈ (h.handleJoin now gap sender target rank).1) :
    out.packet.size ≤ answerBound bytes := by
  rw [handleJoin, identify_eq] at hout
  cases hsender : h.clients.find? sender with
  | none =>
    rw [hsender] at hout
    obtain rfl := List.mem_singleton.mp hout
    exact le_answerBound (show 4 + (8 + 30) ≤ 65507 by decide)
  | some id =>
    rw [hsender] at hout
    obtain ⟨signal, hsignal, rfl⟩ := List.mem_map.mp hout
    exact size_signal_le (Queue.enqueue_within htarget hsignal)

theorem size_remove_le {q : Queue} {id : PlayerId} {out : Outbound}
    (hout : out ∈ (q.remove id).signals.map (·.outbound)) :
    out.packet.size ≤ answerBound bytes := by
  obtain ⟨signal, hsignal, rfl⟩ := List.mem_map.mp hout
  exact size_signal_le (Queue.remove_within hsignal)

theorem size_queuePosition_le (position : Option UInt64) (size : UInt64) :
    (Packet.queuePosition position size).size ≤ 21 := by
  cases position with
  | none =>
    change 4 + (1 + 8) ≤ _
    omega
  | some position => exact Nat.le_refl (4 + (1 + 8 + 8))

/-- The answer to a backend that reports the end of a restart and does not hold the slot. -/
def refusal (server : String) (holder : Option String) : Packet :=
  .restartAck server false (some (Restart.UnexpectedCompletion.message ⟨server, holder⟩))

/-- It has three names in it. -/
theorem size_refusal (server : String) (holder : Option String) : (refusal server holder).size =
    2 * server.utf8ByteSize + (holder.getD "").utf8ByteSize + 83 := by
  let error : Restart.UnexpectedCompletion := ⟨server, holder⟩
  have hmessage : error.message.utf8ByteSize =
    server.utf8ByteSize + (holder.getD "").utf8ByteSize + 61 := error.size_message
  change 4 + (8 + server.utf8ByteSize + 1 + (1 + (8 + error.message.utf8ByteSize))) = _
  omega

theorem handleRestartComplete_of_other {server : String}
    (hother : h.restarts.state.holder ≠ some server) {now : Moment} {sender : Address} :
    (h.handleRestartComplete now sender server).1 =
      [.toAddress sender (refusal server h.restarts.state.holder)] := by
  rw [handleRestartComplete, Restart.Coordinator.complete, if_neg hother]
  rfl

namespace Terse

/-- The notice that a transfer failed has the target and the reason in it. -/
theorem size_handleTransferFailed_le (ht : h.Terse bytes) (hs : Sound capacity ids h)
    {reason : String} (hreason : reason.utf8ByteSize ≤ bytes) (now : Moment) (gap : List Moment)
    (sender : Address) {out : Outbound}
    (hout : out ∈ (h.handleTransferFailed now gap sender reason).1) :
    out.packet.size ≤ answerBound bytes := by
  rw [handleTransferFailed, identify_eq] at hout
  cases hsender : h.clients.find? sender with
  | none =>
    rw [hsender] at hout
    exact absurd hout List.not_mem_nil
  | some id =>
    rw [hsender] at hout
    dsimp only at hout
    split at hout
    · exact absurd hout List.not_mem_nil
    · next pending hpending =>
      have hmem : (id, pending) ∈ h.pending :=
        pending_identify h sender now gap ▸ mem_of_pendingOf hpending
      have hqueue := queue_identify h sender now gap
      have htarget := ht.targets pending.decision.entry.ticket
        (List.mem_append_right _ (List.mem_map_of_mem hmem))
      have hsize := hs.size_queue_le
      obtain ⟨signal, hsignal, rfl⟩ := List.mem_map.mp hout
      -- The target of the decision is that of a ticket, and the reason came in this packet.
      refine size_signal_le (Queue.requeue_within (fun t hmem' => ?_) ?_ ?_ ?_ hsignal)
      · rcases List.mem_cons.mp hmem' with rfl | hmem'
        · exact htarget
        · exact ht.targets t (List.mem_append_left _ (hqueue ▸ hmem'))
      · exact (congrArg String.utf8ByteSize (ht.backends _ hmem)).trans_le htarget
      · rw [TransferError.size_rejected]
        omega
      · change (h.identify sender now gap).2.queue.size + 1 < UInt64.size
        rw [hqueue]
        exact Nat.lt_of_le_of_lt (Nat.succ_le_succ hsize) (by decide)

theorem size_handleRestartRequest_le (ht : h.Terse bytes) {server : String}
    (hserver : server.utf8ByteSize ≤ bytes) (now : Moment) (sender : Address) {out : Outbound}
    (hout : out ∈ (h.handleRestartRequest now sender server).1) :
    out.packet.size ≤ answerBound bytes := by
  obtain rfl := List.mem_singleton.mp hout
  have hdecision := Restart.Coordinator.size_request_le hserver ht.holder ht.waiting now.wall
  change 4 + (8 + server.utf8ByteSize +
    Restart.Decision.codec.size (h.restarts.request server now.wall).1) ≤ max 65507 _
  omega

theorem size_handleRestartComplete_le (ht : h.Terse bytes) {server : String}
    (hserver : server.utf8ByteSize ≤ bytes) (now : Moment) (sender : Address) {out : Outbound}
    (hout : out ∈ (h.handleRestartComplete now sender server).1) :
    out.packet.size ≤ answerBound bytes := by
  by_cases hheld : h.restarts.state.holder = some server
  · rw [handleRestartComplete, Restart.Coordinator.complete, if_pos hheld] at hout
    obtain rfl := List.mem_singleton.mp hout
    change 4 + (8 + server.utf8ByteSize + 1 + 1) ≤ max 65507 _
    omega
  · rw [handleRestartComplete_of_other hheld] at hout
    obtain rfl := List.mem_singleton.mp hout
    have hholder := ht.holder
    change (refusal server h.restarts.state.holder).size ≤ max 65507 _
    rw [size_refusal]
    omega

theorem size_handleUnauthorizedRestart_le {server : String}
    (hserver : server.utf8ByteSize ≤ bytes) (now : Moment) (sender : Address) {out : Outbound}
    (hout : out ∈ (h.handleUnauthorizedRestart now sender server).1) :
    out.packet.size ≤ answerBound bytes := by
  obtain rfl := List.mem_singleton.mp hout
  change 4 + (8 + server.utf8ByteSize + 1 + (1 + (8 + 42))) ≤ max 65507 _
  omega

theorem size_handleAcross_le (ht : h.Terse bytes) (hs : Sound capacity ids h) {packet : Packet}
    (hpacket : packet.size ≤ 12 + bytes) (now : Moment) (gap : List Moment) (sender : Address)
    {out : Outbound} (hout : out ∈ (h.handleAcross now gap sender packet).1) :
    out.packet.size ≤ answerBound bytes := by
  cases packet with
  | connect version => exact size_handleConnect_le now sender version hout
  | joinQueue target rank =>
    change 4 + (8 + target.utf8ByteSize + 4) ≤ _ at hpacket
    exact size_handleJoin_le (by omega) now gap sender rank hout
  | leaveQueue =>
    rw [handleAcross, handleLeave, identify_eq] at hout
    cases hsender : h.clients.find? sender with
    | none =>
      rw [hsender] at hout
      exact absurd hout List.not_mem_nil
    | some id =>
      rw [hsender] at hout
      exact size_remove_le hout
  | queryPosition =>
    rw [handleAcross, handleQueryPosition, identify_eq] at hout
    cases hsender : h.clients.find? sender with
    | none =>
      rw [hsender] at hout
      exact absurd hout List.not_mem_nil
    | some id =>
      rw [hsender] at hout
      obtain rfl := List.mem_singleton.mp hout
      exact le_answerBound ((size_queuePosition_le ..).trans (by decide))
  | transferFailed reason =>
    change 4 + (8 + reason.utf8ByteSize) ≤ _ at hpacket
    exact ht.size_handleTransferFailed_le hs (by omega) now gap sender hout
  | disconnect =>
    rw [handleAcross, handleDisconnect] at hout
    split at hout
    · exact absurd hout List.not_mem_nil
    · exact size_remove_le hout
  | restartRequest server =>
    change 4 + (8 + server.utf8ByteSize) ≤ _ at hpacket
    exact ht.size_handleRestartRequest_le (by omega) now sender hout
  | restartComplete server =>
    change 4 + (8 + server.utf8ByteSize) ≤ _ at hpacket
    exact ht.size_handleRestartComplete_le (by omega) now sender hout
  | unauthorizedRestart server =>
    change 4 + (8 + server.utf8ByteSize) ≤ _ at hpacket
    exact size_handleUnauthorizedRestart_le (by omega) now sender hout
  | stateQuery =>
    obtain rfl := List.mem_singleton.mp hout
    exact le_answerBound (of_decide_eq_true (fits_stateReply ht.snapshot))
  | _ => exact absurd hout List.not_mem_nil

/-- A player who is sent to a backend is told its name and its address. -/
theorem size_reconcileAcross_le (ht : h.Terse bytes) (hs : Sound capacity ids h) (now : Moment)
    (first second : List Moment) {out : Outbound}
    (hout : out ∈ (h.reconcileAcross now first second).1) :
    out.packet.size ≤ answerBound bytes := by
  have htargets : ∀ t ∈ h.queue.ledger.tickets, t.target.utf8ByteSize ≤ bytes := fun t hmem =>
    ht.targets t (List.mem_append_left _ hmem)
  have hsize := hs.size_queue_le
  -- What the pass tells while it goes along the line.
  have htold : ∀ out ∈ (h.queue.reconcile h.registry.records h.live).signals.map (·.outbound),
      out.packet.size ≤ answerBound bytes := by
    intro out hout
    obtain ⟨signal, hsignal, rfl⟩ := List.mem_map.mp hout
    exact size_signal_le (Queue.reconcile_within hs.tickets_nodup htargets
      (Nat.lt_of_le_of_lt hsize (by decide)) hsignal)
  rcases reconcileAcross_cases h now first second with ⟨-, heq⟩ | ⟨d, hadmitted, hsent⟩
  · rw [heq] at hout
    exact htold out hout
  -- The backend of a decision is the target of a ticket that was in line.
  obtain ⟨hticket, record, hrecord, -, hbackend, haddress⟩ :=
    Queue.reconcile_serves hs.tickets_nodup hadmitted
  have htarget := htargets _ hticket
  replace hbackend : d.backend.utf8ByteSize ≤ bytes := by
    rw [hbackend, Queue.backendIn_id hrecord]
    exact htarget
  rcases hsent with ⟨address, -, heq⟩ | ⟨-, heq⟩
  · rw [heq] at hout
    rcases List.mem_append.mp hout with hout | hout
    · exact htold out hout
    rcases List.mem_cons.mp hout with rfl | hout
    · have hnotice := Notice.size_sending d.backend
      change 4 + (8 + (Notice.sending d.backend).utf8ByteSize) ≤ max 65507 _
      omega
    · obtain rfl := List.mem_singleton.mp hout
      have hdeclared : record.address.utf8ByteSize ≤ bytes :=
        ht.addresses (record.id, record.address)
          (List.mem_map_of_mem (List.mem_reverse.mp (List.mem_of_find?_eq_some hrecord)))
      rw [← haddress] at hdeclared
      change 4 + (8 + d.backend.utf8ByteSize + (8 + d.address.utf8ByteSize)) ≤ max 65507 _
      omega
  · rw [heq] at hout
    rcases List.mem_append.mp hout with hout | hout
    · exact htold out hout
    -- The player is gone, and the decision goes back to a line that is no longer than before.
    have hrest := Queue.reconcile_subperm hs.tickets_nodup h.registry.records h.live
    rw [hadmitted] at hrest
    obtain ⟨signal, hsignal, rfl⟩ := List.mem_map.mp hout
    refine size_signal_le (Queue.requeue_within (fun t hmem => ?_) hbackend ?_ ?_ hsignal)
    · exact htargets t (hrest.subset hmem)
    · change 50 ≤ _
      omega
    · have hlength := hrest.length_le
      rw [Option.toList_some, List.map_cons, List.map_nil, List.singleton_append, List.length_cons,
        Ledger.length_tickets, Ledger.length_tickets] at hlength
      exact Nat.lt_of_le_of_lt (hlength.trans hsize) (by decide)

theorem size_step_le (ht : h.Terse bytes) (hs : Sound capacity ids h) {o : Occurrence}
    (hreceived : ∀ sender packet, o.event = .packet sender packet → packet.size ≤ 12 + bytes)
    {out : Outbound} (hout : out ∈ (h.step o).1) : out.packet.size ≤ answerBound bytes := by
  rw [Hub.step] at hout
  cases hevent : o.event with
  | packet sender packet =>
    rw [hevent] at hout
    exact ht.size_handleAcross_le hs (hreceived sender packet hevent) o.now o.firstGap sender hout
  | reconcile =>
    rw [hevent] at hout
    exact ht.size_reconcileAcross_le hs o.now o.firstGap o.secondGap hout
  | _ =>
    rw [hevent] at hout
    exact absurd hout List.not_mem_nil

end Terse

/-! ## Runs -/

/-- Players are sent where they want to go. -/
theorem Sound.backends_run (hs : Sound capacity ids h)
    (hbackends : ∀ transfer ∈ h.pending,
      transfer.2.decision.backend = transfer.2.decision.entry.target) (run : List Occurrence) :
    ∀ transfer ∈ (h.run run).2.pending,
      transfer.2.decision.backend = transfer.2.decision.entry.target := by
  induction run generalizing h ids with
  | nil => exact hbackends
  | cons o rest ih =>
    refine ih (hs.step o) fun transfer hmem => ?_
    rcases pending_step h o hmem with hold | ⟨d, address, hadmitted, -, rfl, -⟩
    · exact hbackends transfer hold
    · obtain ⟨-, record, hrecord, -, hbackend, -⟩ :=
        Queue.reconcile_serves hs.tickets_nodup hadmitted
      exact hbackend.trans (Queue.backendIn_id hrecord)

/-- A call about a backend comes from a packet that consists of the name. -/
theorem exists_packet_of_restartCall? {o : Occurrence} {call : Restart.Coordinator.Call}
    (hcall : o.restartCall? = some call) {server : String} (hserver : call.server? = some server) :
    ∃ sender packet, o.event = .packet sender packet ∧
      packet.size = 12 + server.utf8ByteSize := by
  have hname (name : String) : 4 + (8 + name.utf8ByteSize) = 12 + name.utf8ByteSize := by omega
  rw [Occurrence.restartCall?] at hcall
  split at hcall
  · next sender name hevent =>
    cases hcall
    cases hserver
    exact ⟨sender, _, hevent, hname server⟩
  · next sender name hevent =>
    cases hcall
    cases hserver
    exact ⟨sender, _, hevent, hname server⟩
  · next sender name hevent =>
    cases hcall
    cases hserver
    exact ⟨sender, _, hevent, hname server⟩
  · cases hcall
    cases hserver
  · cases hcall

section Reachable

variable (config : Config) (options : Options) {run : List Occurrence}

/-- What comes to be remembered in a run was in one of its packets. -/
theorem terse_run (haddresses : ∀ b ∈ config.backends, b.address.utf8ByteSize ≤ bytes)
    (hreceived : ∀ o ∈ run, ∀ sender packet, o.event = .packet sender packet →
      packet.size ≤ 12 + bytes)
    (hcount : 29 + run.length * (320 + 3 * bytes) < UInt64.size) :
    ((Hub.new config options).run run).2.Terse bytes := by
  have hs := Sound.new config options
  let calls := run.filterMap Occurrence.restartCall?
  let names := (calls.filterMap Restart.Coordinator.Call.server?).toFinset
  have hrestarts : ((Hub.new config options).run run).2.restarts =
      (Hub.new config options).restarts.run calls := restarts_run ..
  -- Every name that the coordination has seen came in a packet.
  have hshort : ∀ name ∈ names, name.utf8ByteSize ≤ bytes := by
    intro name hname
    obtain ⟨call, hcall, hserver⟩ := List.mem_filterMap.mp (List.mem_toFinset.mp hname)
    obtain ⟨o, ho, hcall⟩ := List.mem_filterMap.mp hcall
    obtain ⟨sender, packet, hevent, hsize⟩ := exists_packet_of_restartCall? hcall hserver
    have hpacket := hreceived o ho sender packet hevent
    omega
  have hknows : ((Hub.new config options).restarts.run calls).state.Knows names :=
    Restart.Coordinator.knows_run (.initial names) fun call hcall server hserver =>
      List.mem_toFinset.mpr (List.mem_filterMap.mpr ⟨call, hcall, hserver⟩)
  have hvalid := Restart.Coordinator.run_valid (c := (Hub.new config options).restarts)
    (.initial _) calls
  have hcard : names.card ≤ run.length :=
    (List.toFinset_card_le _).trans
      ((List.length_filterMap_le ..).trans (List.length_filterMap_le ..))
  -- The bound on the snapshot, with one name for each event at the most.
  have hsum : ∑ name ∈ names, (320 + 3 * name.utf8ByteSize) ≤ run.length * (320 + 3 * bytes) := by
    refine (Finset.sum_le_card_nsmul names _ (320 + 3 * bytes) fun name hname => ?_).trans
      (Nat.mul_le_mul_right _ hcard)
    have := hshort name hname
    omega
  refine ⟨fun t ht => ?_, hs.backends_run (fun _ ht => absurd ht List.not_mem_nil) run,
    fun entry hentry => ?_, ?_, ?_, ?_⟩
  · -- A ticket has its target from the packet of its join.
    obtain ⟨sender, first, join, rest, rfl, hjoin, -⟩ := hs.latestJoin_run rfl run t ht
    have hpacket := hreceived join (by simp) _ _ hjoin
    change 4 + (8 + t.target.utf8ByteSize + 4) ≤ _ at hpacket
    omega
  · rw [directory_run] at hentry
    obtain ⟨b, hb, rfl⟩ := Registry.mem_directory_ofDeclarations hentry
    exact haddresses b hb
  · rw [hrestarts]
    cases hholder : ((Hub.new config options).restarts.run calls).state.holder with
    | none => exact Nat.zero_le _
    | some name => exact hshort name (hknows.holder name hholder)
  · rw [hrestarts]
    have hlength : ((Hub.new config options).restarts.run calls).state.waiting.length ≤
        names.card := by
      rw [← List.toFinset_card_of_nodup hvalid.nodup]
      exact Finset.card_le_card fun name hname => hknows.waiting name (List.mem_toFinset.mp hname)
    have := Nat.le_mul_of_pos_right run.length (show 0 < 320 + 3 * bytes by omega)
    omega
  · rw [hrestarts]
    have hsnapshot := Restart.State.size_snapshot_le hvalid hknows
    exact Nat.lt_of_le_of_lt (hsnapshot.trans (Nat.add_le_add_left hsum 29)) hcount

theorem exists_step_of_mem_run {h : Hub} {out : Outbound} (hout : out ∈ (h.run run).1) :
    ∃ first o rest, run = first ++ o :: rest ∧ out ∈ ((h.run first).2.step o).1 := by
  induction run generalizing h with
  | nil => exact absurd hout List.not_mem_nil
  | cons o rest ih =>
    rcases List.mem_append.mp hout with hfirst | hlater
    · exact ⟨[], o, rest, rfl, hfirst⟩
    · obtain ⟨first, o', rest', rfl, hstep⟩ := ih hlater
      exact ⟨o :: first, o', rest', rfl, hstep⟩

/-- A packet that goes out has three of the names at most that came in. -/
theorem size_run_le (haddresses : ∀ b ∈ config.backends, b.address.utf8ByteSize ≤ bytes)
    (hreceived : ∀ o ∈ run, ∀ sender packet, o.event = .packet sender packet →
      packet.size ≤ 12 + bytes)
    (hcount : 29 + run.length * (320 + 3 * bytes) < UInt64.size) {out : Outbound}
    (hout : out ∈ ((Hub.new config options).run run).1) :
    out.packet.size ≤ answerBound bytes := by
  obtain ⟨first, o, rest, rfl, hstep⟩ := exists_step_of_mem_run hout
  have hterse : ((Hub.new config options).run first).2.Terse bytes := by
    refine terse_run config options haddresses
      (fun o' ho' => hreceived o' (List.mem_append_left _ ho')) (Nat.lt_of_le_of_lt ?_ hcount)
    rw [List.length_append]
    exact Nat.add_le_add_left (Nat.mul_le_mul_right _ (Nat.le_add_right ..)) 29
  exact hterse.size_step_le ((Sound.new config options).run first) (hreceived o (by simp)) hstep

/-- **Answers fit into datagrams as long as no name is longer than a third of one.** Whatever comes
in, in packets of at most 21820 bytes, every packet that goes out fits into a datagram, at once or
later: the answers, the notices at a tick, and the transfers to declared addresses. The limit of
`2 ^ 47` events keeps the numbers in the texts below `2 ^ 64`. -/
theorem answers_fit (haddresses : ∀ b ∈ config.backends, b.address.utf8ByteSize ≤ 21808)
    (run : List Occurrence)
    (hreceived : ∀ o ∈ run, ∀ sender packet, o.event = .packet sender packet →
      packet.encode.length ≤ 21820)
    (hcount : run.length < 140_737_488_355_328) :
    ∀ out ∈ ((Hub.new config options).run run).1, out.packet.encode.length ≤ maxPacketSize := by
  intro out hout
  rw [Packet.length_encode]
  have hsize : out.packet.size ≤ answerBound 21808 := by
    refine size_run_le config options haddresses (fun o ho sender packet hevent => ?_) ?_ hout
    · rw [← packet.length_encode]
      exact hreceived o ho sender packet hevent
    · change _ < 18446744073709551616
      omega
  exact hsize.trans (by decide)

end Reachable

/-! ## How long is too long -/

section Limit

/-- A lobby is declared, and everybody may restart. -/
def lobbyConfig : Config :=
  ⟨[⟨"lobby", none, "10.0.0.2:25565", none⟩], default, default, default⟩

/-- The hub in front of the lobby. -/
def lobbyHub : Hub := new lobbyConfig default

/-- One backend gets the slot, and another one reports the end of a restart. -/
def intrusion (now : Moment) (sender : Address) (holder other : String) : List Occurrence :=
  [.plain now (.packet sender (.restartRequest holder)),
    .plain now (.packet sender (.restartComplete other))]

theorem refusal_mem_intrusion {now : Moment} {sender : Address} {holder other : String}
    (hblank : Text.allBlank holder = false) (hne : holder ≠ other) :
    .toAddress sender (refusal other (some holder)) ∈
      (lobbyHub.run (intrusion now sender holder other)).1 := by
  have hallowed : (lobbyHub.restarts.request holder now.wall).1 = .allow :=
    (Restart.Coordinator.request_eq_allow_iff ..).mpr
      ⟨(Restart.Coordinator.eligible_iff ..).mpr ⟨hblank, rfl⟩,
        .inr ⟨rfl, fun last hlast => by cases hlast⟩⟩
  have hholder : (lobbyHub.handleRestartRequest now sender holder).2.restarts.state.holder =
      some holder := Restart.Coordinator.holder_request_of_allow _ _ _ hallowed
  have hother : (lobbyHub.handleRestartRequest now sender holder).2.restarts.state.holder ≠
      some other := fun h => hne (Option.some.inj (hholder.symm.trans h))
  refine List.mem_append_right _ (List.mem_append_left _ ?_)
  change _ ∈ ((lobbyHub.handleRestartRequest now sender holder).2.handleRestartComplete now sender
    other).1
  rw [handleRestartComplete_of_other hother, hholder]
  exact List.mem_singleton_self _

/-- A name of one letter over and over. -/
def longName (letter : Char) (length : Nat) : String := String.ofList (List.replicate length letter)

theorem size_longName {letter : Char} (hletter : letter.utf8Size = 1) (length : Nat) :
    (longName letter length).utf8ByteSize = length :=
  utf8ByteSize_replicate hletter length

/-- The longest answer to names of one length. -/
theorem exists_long_answer (now : Moment) (sender : Address) (length : Nat) :
    ∃ out ∈ (lobbyHub.run (intrusion now sender (longName 'a' (length + 1))
        (longName 'b' (length + 1)))).1,
      out.packet.encode.length = 3 * (length + 1) + 83 := by
  refine ⟨_, refusal_mem_intrusion ?_ fun h => ?_, ?_⟩
  · rw [Text.allBlank, longName, String.toList_ofList, List.replicate_succ, List.all_cons]
    rfl
  · rw [longName, longName, String.ofList_inj, List.replicate_succ, List.replicate_succ] at h
    exact absurd (List.cons.inj h).1 (by decide)
  · rw [Packet.length_encode, Outbound.packet, size_refusal, Option.getD_some,
      size_longName (by decide), size_longName (by decide)]
    omega

theorem length_intrusion_le {now : Moment} {sender : Address} {holder other : String}
    (hsize : holder.utf8ByteSize = other.utf8ByteSize) : ∀ o ∈ intrusion now sender holder other,
    ∀ sender packet, o.event = .packet sender packet →
      packet.encode.length ≤ 12 + other.utf8ByteSize := by
  intro o ho sender' packet hevent
  rw [Packet.length_encode]
  rcases List.mem_cons.mp ho with rfl | ho
  · obtain rfl := (Event.packet.inj hevent).2
    change 4 + (8 + holder.utf8ByteSize) ≤ _
    omega
  · obtain rfl := List.mem_singleton.mp ho
    obtain rfl := (Event.packet.inj hevent).2
    change 4 + (8 + other.utf8ByteSize) ≤ _
    omega

/-- With two names of 21808 letters the answer to the wrong backend fills a datagram, and with one
letter more in both names it is too long. -/
theorem answers_fit_at_limit :
    let now : Moment := ⟨0, ⟨0⟩⟩
    let sender : Address := ⟨.v4 10 0 0 2, 4001⟩
    let fitting := intrusion now sender (longName 'a' 21808) (longName 'b' 21808)
    let tooLong := intrusion now sender (longName 'a' 21809) (longName 'b' 21809)
    (∀ b ∈ lobbyConfig.backends, b.address.utf8ByteSize ≤ 21808) ∧
      (∀ o ∈ fitting, ∀ sender packet, o.event = .packet sender packet →
        packet.encode.length ≤ 21820) ∧
      (∀ out ∈ (lobbyHub.run fitting).1, out.packet.encode.length ≤ maxPacketSize) ∧
      (∃ out ∈ (lobbyHub.run fitting).1, out.packet.encode.length = maxPacketSize) ∧
      ∃ out ∈ (lobbyHub.run tooLong).1, out.packet.encode.length = maxPacketSize + 3 := by
  intro now sender fitting tooLong
  have hreceived : ∀ o ∈ fitting, ∀ sender packet, o.event = .packet sender packet →
      packet.encode.length ≤ 21820 := by
    intro o ho sender packet hevent
    have hlength := length_intrusion_le (by rw [size_longName, size_longName] <;> decide) o ho
      sender packet hevent
    rwa [size_longName (by decide)] at hlength
  have haddresses : ∀ b ∈ lobbyConfig.backends, b.address.utf8ByteSize ≤ 21808 := by
    intro b hb
    obtain rfl := List.mem_singleton.mp hb
    decide +kernel
  exact ⟨haddresses, hreceived,
    answers_fit lobbyConfig default haddresses fitting hreceived
      (show 2 < 140_737_488_355_328 by decide),
    exists_long_answer now sender 21807, exists_long_answer now sender 21808⟩

/-- Packets that fit can have answers that do not: a report of 40012 bytes about the end of a
restart that nobody started is answered with 80083 bytes. -/
theorem long_name_not_answered : ¬ ∀ (config : Config) (options : Options) (run : List Occurrence),
    config.defect? = none →
    (∀ o ∈ run, ∀ sender packet, o.event = .packet sender packet →
      packet.encode.length ≤ maxPacketSize) →
    ∀ out ∈ ((Hub.new config options).run run).1, out.packet.encode.length ≤ maxPacketSize := by
  intro hfit
  let now : Moment := ⟨0, ⟨0⟩⟩
  let sender : Address := ⟨.v4 10 0 0 2, 4001⟩
  obtain ⟨name, hname⟩ : ∃ name : String, name.utf8ByteSize = 40000 :=
    ⟨longName 'a' 40000, size_longName (by decide) 40000⟩
  have hanswer := hfit lobbyConfig default
    [.plain now (.packet sender (.restartComplete name))] (by decide +kernel) ?_
    (.toAddress sender (refusal name none)) ?_
  · rw [Packet.length_encode, Outbound.packet, size_refusal, hname] at hanswer
    change 2 * 40000 + 0 + 83 ≤ 65507 at hanswer
    omega
  · intro o ho sender' packet hevent
    obtain rfl := List.mem_singleton.mp ho
    obtain rfl := (Event.packet.inj hevent).2
    rw [Packet.length_encode]
    change 4 + (8 + name.utf8ByteSize) ≤ 65507
    omega
  · exact List.mem_append_left _ (List.mem_singleton_self _)

end Limit

end Hub

end GameHub
