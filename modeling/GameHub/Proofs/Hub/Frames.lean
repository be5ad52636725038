import GameHub.Hub.Sender
import GameHub.Proofs.Hub.Connections

/-!
# The parts of an event

What the steps that events are made of do to a hub, and what they leave alone. Silence and the
look-up of a sender only touch the connections, and only take some away. A pass along the line ends
in one of three ways (`reconcileAcross_cases`). What is known of the backends changes with reports
and missed reports only (`surroundings_step`).
-/

namespace GameHub

/-- What the hub answers a packet with, to the address that it came from. -/
inductive Packet.Answers : Packet → Packet → Prop
  | welcomed {version : UInt32} {id : PlayerId} : Answers (.connect version) (.connected id)
  | refused {version : UInt32} {reason : String} :
    Answers (.connect version) (.disconnected reason)
  | stranger {target : String} {rank : Rank} {reason : String} :
    Answers (.joinQueue target rank) (.disconnected reason)
  | placed {position : Option UInt64} {size : UInt64} :
    Answers .queryPosition (.queuePosition position size)
  | decided {server : String} {decision : Restart.Decision} :
    Answers (.restartRequest server) (.restartResponse server decision)
  | completed {server : String} {accepted : Bool} {reason : Option String} :
    Answers (.restartComplete server) (.restartAck server accepted reason)
  | recorded {server : String} {accepted : Bool} {reason : Option String} :
    Answers (.unauthorizedRestart server) (.restartAck server accepted reason)
  | shown {state : Restart.State} : Answers .stateQuery (.stateSnapshot state)
  | unavailable {reason : String} : Answers .stateQuery (.stateUnavailable reason)

namespace Hub

open Admission

/-! ## Gaps -/

section Gaps

variable (h : Hub) (gap : List Moment)

theorem lapse_cons (now : Moment) : h.lapse (now :: gap) = (h.checkClients now).lapse gap := rfl

/-- Silence only changes who is connected and who was dropped. -/
theorem lapse_eq : h.lapse gap =
    { h with clients := (h.lapse gap).clients, overdue := (h.lapse gap).overdue } := by
  induction gap generalizing h with
  | nil => rfl
  | cons now gap ih =>
    rw [lapse_cons, ih (h.checkClients now)]
    rfl

@[simp]
theorem queue_lapse : (h.lapse gap).queue = h.queue := by rw [lapse_eq]

@[simp]
theorem pending_lapse : (h.lapse gap).pending = h.pending := by rw [lapse_eq]

/-- It makes no difference to silence who is in line. -/
theorem lapse_with_queue (queue : Queue) :
    { h with queue }.lapse gap = { h.lapse gap with queue } := by
  induction gap generalizing h with
  | nil => rfl
  | cons now gap ih => exact ih (h.checkClients now)

theorem connections_lapse :
    (h.lapse gap).clients.connections.Sublist h.clients.connections := by
  induction gap generalizing h with
  | nil => exact .refl _
  | cons now gap ih => exact (ih _).trans (h.clients.connections_dropTimedOut now.instant)

end Gaps

/-! ## The look-up of a sender -/

section Identify

variable (h : Hub) (sender : Address) (now : Moment) (gap : List Moment)

theorem identify_fst : (h.identify sender now gap).1 = h.clients.find? sender := by
  rw [identify]
  split
  · next hfind => exact hfind.symm
  · next hfind => exact hfind.symm

theorem identify_eq : h.identify sender now gap =
    (h.clients.find? sender, (h.identify sender now gap).2) :=
  Prod.ext (identify_fst h sender now gap) rfl

@[simp]
theorem queue_identify : (h.identify sender now gap).2.queue = h.queue := by
  rw [identify]
  split
  · exact queue_lapse ..
  · exact queue_lapse ..

@[simp]
theorem pending_identify : (h.identify sender now gap).2.pending = h.pending := by
  rw [identify]
  split
  · exact pending_lapse ..
  · exact pending_lapse ..

theorem connections_identify :
    (h.identify sender now gap).2.clients.connections.Sublist h.clients.connections := by
  rw [identify]
  split
  · next id _ =>
    rw [← h.clients.connections_touch id now.instant]
    exact connections_lapse _ gap
  · exact connections_lapse h gap

theorem handleQueryPosition_snd : (h.handleQueryPosition now gap sender).2 =
    (h.identify sender now gap).2 := by
  rw [handleQueryPosition]
  split
  · next heq => rw [heq]
  · next heq => rw [heq]

/-- Of a packet after which the hub looks the sender up, besides the look-up it can only change the
line and the transfers. -/
theorem handleAcross_of_looksUpSender {packet : Packet} (hlookup : packet.looksUpSender = true) :
    ∃ queue pending, (h.handleAcross now gap sender packet).2 =
      { (h.identify sender now gap).2 with queue, pending } := by
  cases packet with
  | joinQueue target rank =>
    rw [handleAcross, handleJoin, identify_eq]
    cases h.clients.find? sender with
    | none => exact ⟨_, _, rfl⟩
    | some id => exact ⟨_, _, rfl⟩
  | leaveQueue =>
    rw [handleAcross, handleLeave, identify_eq]
    cases h.clients.find? sender with
    | none => exact ⟨_, _, rfl⟩
    | some id => exact ⟨_, _, rfl⟩
  | queryPosition => exact ⟨_, _, handleQueryPosition_snd h sender now gap⟩
  | transferFailed reason =>
    rw [handleAcross, handleTransferFailed, identify_eq]
    cases h.clients.find? sender with
    | none => exact ⟨_, _, rfl⟩
    | some id =>
      dsimp only
      split
      · exact ⟨_, _, rfl⟩
      · exact ⟨_, _, rfl⟩
  | heartbeat => exact ⟨_, _, rfl⟩
  | _ => cases hlookup

end Identify

/-! ## What goes out at a packet -/

/-- A packet makes the queue send signals to players, or it is answered. -/
theorem handleAcross_out (h : Hub) (now : Moment) (gap : List Moment) (sender : Address)
    (packet : Packet) :
    (∃ signals : List Signal,
      (h.handleAcross now gap sender packet).1 = signals.map (·.outbound)) ∨
    ∃ reply, packet.Answers reply ∧
      (h.handleAcross now gap sender packet).1 = [.toAddress sender reply] := by
  cases packet with
  | connect version =>
    refine .inr ?_
    -- Refused for the version or for want of room, or welcomed with a new id.
    rw [handleAcross, handleConnect]
    split
    · exact ⟨_, .refused, rfl⟩
    · split
      · exact ⟨_, .welcomed, rfl⟩
      · exact ⟨_, .refused, rfl⟩
  | joinQueue target rank =>
    rw [handleAcross, handleJoin, identify_eq]
    cases h.clients.find? sender with
    | none => exact .inr ⟨_, .stranger, rfl⟩
    | some id => exact .inl ⟨_, rfl⟩
  | leaveQueue =>
    rw [handleAcross, handleLeave, identify_eq]
    cases h.clients.find? sender with
    | none => exact .inl ⟨[], rfl⟩
    | some id => exact .inl ⟨_, rfl⟩
  | queryPosition =>
    rw [handleAcross, handleQueryPosition, identify_eq]
    cases h.clients.find? sender with
    | none => exact .inl ⟨[], rfl⟩
    | some id => exact .inr ⟨_, .placed, rfl⟩
  | transferFailed reason =>
    rw [handleAcross, handleTransferFailed, identify_eq]
    cases h.clients.find? sender with
    | none => exact .inl ⟨[], rfl⟩
    | some id =>
      dsimp only
      split
      · exact .inl ⟨[], rfl⟩
      · exact .inl ⟨_, rfl⟩
  | disconnect =>
    rw [handleAcross, handleDisconnect]
    split
    · exact .inl ⟨[], rfl⟩
    · exact .inl ⟨_, rfl⟩
  | restartRequest server => exact .inr ⟨_, .decided, rfl⟩
  | restartComplete server => exact .inr ⟨_, .completed, rfl⟩
  | unauthorizedRestart server => exact .inr ⟨_, .recorded, rfl⟩
  | stateQuery =>
    refine .inr ?_
    rw [handleAcross, stateReply]
    split
    · exact ⟨_, .shown, rfl⟩
    · exact ⟨_, .unavailable, rfl⟩
  | _ => exact .inl ⟨[], rfl⟩

/-! ## A pass along the line -/

/-- What a pass can do: nobody is admitted, a player is admitted and sent on, or the player who is
admitted is not there any more. -/
theorem reconcileAcross_cases (h : Hub) (now : Moment) (first second : List Moment) :
    let pass := h.queue.reconcile h.registry.records h.live
    let told := pass.signals.map (·.outbound)
    let passed : Hub := { h.lapse first with queue := pass.queue }
    (pass.result = none ∧ h.reconcileAcross now first second = (told, passed)) ∨
    ∃ d, pass.result = some d ∧
      ((∃ address, passed.clients.addressOf? d.entry.subject = some address ∧
        h.reconcileAcross now first second =
          (told ++ [.toPlayer d.entry.subject (.notice (Notice.sending d.backend)),
              .toAddress address (.transfer d.backend d.address)],
            passed.rememberTransfer d.entry.subject ⟨d, now.instant⟩)) ∨
      (passed.clients.addressOf? d.entry.subject = none ∧
        let later := (h.lapse first).lapse second
        let requeued := pass.queue.requeue d .subjectGone later.live
        h.reconcileAcross now first second =
          (told ++ requeued.signals.map (·.outbound),
            { later with queue := requeued.queue }))) := by
  intro pass told passed
  -- The checks in the gaps see the players and not the line.
  have hpassed : { h with queue := pass.queue }.lapse first = passed := lapse_with_queue h first _
  have hlater : passed.lapse second = { (h.lapse first).lapse second with queue := pass.queue } :=
    lapse_with_queue (h.lapse first) second _
  cases hresult : pass.result with
  | none =>
    refine .inl ⟨rfl, ?_⟩
    rw [reconcileAcross]
    dsimp only
    rw [show (h.queue.reconcile h.registry.records h.live).result = none from hresult]
    dsimp only
    rw [hpassed]
  | some d =>
    refine .inr ⟨d, rfl, ?_⟩
    rw [reconcileAcross]
    dsimp only
    rw [show (h.queue.reconcile h.registry.records h.live).result = some d from hresult]
    dsimp only
    rw [hpassed, sendAdmitted]
    cases haddress : passed.clients.addressOf? d.entry.subject with
    | some address => exact .inl ⟨address, rfl, rfl⟩
    | none =>
      refine .inr ⟨rfl, ?_⟩
      rw [hlater]
      rfl

/-! ## The backends -/

/-- What is known of the backends after an event. -/
def Event.observe (now : Moment) (timeout : Duration) (r : Registry) : Event → Registry
  | .packet _ (.statusReport server current max) => (r.report server current max now.wall).2
  | .checkHealth => (r.sweepStale now.wall timeout).2
  | _ => r

/-- What the hub knows of the backends, and the times that it was started with. -/
def surroundings (h : Hub) : Registry × Duration × Duration :=
  (h.registry, h.transferGrace, h.reportTimeout)

section Surroundings

variable (h : Hub)

theorem surroundings_lapse (gap : List Moment) : (h.lapse gap).surroundings = h.surroundings := by
  rw [lapse_eq]
  rfl

theorem surroundings_identify (sender : Address) (now : Moment) (gap : List Moment) :
    (h.identify sender now gap).2.surroundings = h.surroundings := by
  rw [identify]
  split
  · exact surroundings_lapse ..
  · exact surroundings_lapse ..

theorem surroundings_reconcileAcross (now : Moment) (first second : List Moment) :
    (h.reconcileAcross now first second).2.surroundings = h.surroundings := by
  rcases reconcileAcross_cases h now first second with
    ⟨-, heq⟩ | ⟨d, -, ⟨address, -, heq⟩ | ⟨-, heq⟩⟩
  · rw [heq]
    exact surroundings_lapse h first
  · rw [heq]
    exact surroundings_lapse h first
  · rw [heq]
    exact (surroundings_lapse _ second).trans (surroundings_lapse h first)

theorem surroundings_handleAcross (now : Moment) (gap : List Moment) (sender : Address)
    (packet : Packet) : (h.handleAcross now gap sender packet).2.surroundings =
      ((Event.packet sender packet).observe now h.reportTimeout h.registry, h.transferGrace,
        h.reportTimeout) := by
  by_cases hlookup : packet.looksUpSender = true
  · obtain ⟨queue, pending, heq⟩ := handleAcross_of_looksUpSender h sender now gap hlookup
    rw [heq]
    refine (surroundings_identify h sender now gap).trans ?_
    cases packet <;> first | rfl | cases hlookup
  · cases packet with
    | connect version =>
      show (h.handleConnect now sender version).2.surroundings = h.surroundings
      rw [handleConnect]
      split
      · rfl
      · split <;> rfl
    | disconnect =>
      show (h.handleDisconnect sender).2.surroundings = h.surroundings
      rw [handleDisconnect]
      split <;> rfl
    | joinQueue | leaveQueue | queryPosition | transferFailed | heartbeat =>
      exact absurd rfl hlookup
    | _ => rfl

/-- Only reports and missed reports change what the hub knows of the backends. -/
theorem surroundings_step (o : Occurrence) : (h.step o).2.surroundings =
    (o.event.observe o.now h.reportTimeout h.registry, h.transferGrace, h.reportTimeout) := by
  rw [step]
  cases o.event with
  | packet sender packet => exact surroundings_handleAcross h o.now o.firstGap sender packet
  | reconcile => exact surroundings_reconcileAcross h o.now o.firstGap o.secondGap
  | expireTransfers => rfl
  | checkHealth => rfl
  | sweepRestarts => rfl
  | checkClients => rfl
  | forgetOverdue place =>
    show (h.forgetOverdue place).surroundings = h.surroundings
    rw [forgetOverdue]
    split <;> rfl

theorem registry_step (o : Occurrence) :
    (h.step o).2.registry = o.event.observe o.now h.reportTimeout h.registry :=
  congrArg Prod.fst (surroundings_step h o)

end Surroundings

/-! ## Runs -/

theorem run_cons (h : Hub) (o : Occurrence) (rest : List Occurrence) : h.run (o :: rest) =
    ((h.step o).1 ++ ((h.step o).2.run rest).1, ((h.step o).2.run rest).2) := rfl

theorem run_append (h : Hub) (first later : List Occurrence) : h.run (first ++ later) =
    ((h.run first).1 ++ ((h.run first).2.run later).1, ((h.run first).2.run later).2) := by
  induction first generalizing h with
  | nil => rfl
  | cons o first ih =>
    rw [List.cons_append, run_cons, ih, run_cons, List.append_assoc]

theorem fst_run_append (h : Hub) (first later : List Occurrence) :
    (h.run (first ++ later)).1 = (h.run first).1 ++ ((h.run first).2.run later).1 := by
  rw [run_append]

theorem fst_run_concat (h : Hub) (run : List Occurrence) (o : Occurrence) :
    (h.run (run ++ [o])).1 = (h.run run).1 ++ ((h.run run).2.step o).1 := by
  rw [run_append, run_cons]
  exact congrArg _ (List.append_nil _)

theorem snd_run_concat (h : Hub) (run : List Occurrence) (o : Occurrence) :
    (h.run (run ++ [o])).2 = ((h.run run).2.step o).2 := by
  rw [run_append]
  rfl

/-! ## Transfers -/

theorem mem_of_pendingOf {h : Hub} {id : PlayerId} {p : Pending} (hp : h.pendingOf id = some p) :
    (id, p) ∈ h.pending := by
  obtain ⟨⟨key, p'⟩, hfind, rfl⟩ := Option.map_eq_some_iff.mp hp
  have hkey : key = id := by simpa using List.find?_some hfind
  rw [← hkey]
  exact List.mem_of_find?_eq_some hfind

theorem pendingOf_congr {h h' : Hub} (hpending : h'.pending = h.pending) (id : PlayerId) :
    h'.pendingOf id = h.pendingOf id := by
  rw [pendingOf, hpending, pendingOf]

theorem pendingOf_forgetTransfer (h : Hub) (id : PlayerId) :
    (h.forgetTransfer id).pendingOf id = none := by
  rw [pendingOf, Option.map_eq_none_iff, List.find?_eq_none]
  intro transfer ht
  simpa using (List.mem_filter.mp ht).2

theorem pendingOf_forgetTransfer_of_ne (h : Hub) {id other : PlayerId} (hne : id ≠ other) :
    (h.forgetTransfer other).pendingOf id = h.pendingOf id := by
  rw [pendingOf, pendingOf, forgetTransfer, List.find?_filter]
  congr 2
  funext transfer
  by_cases hid : transfer.1 = id
  · simp [hid, hne]
  · simp [hid]

theorem pendingOf_rememberTransfer (h : Hub) (id : PlayerId) (p : Pending) :
    (h.rememberTransfer id p).pendingOf id = some p := by
  rw [pendingOf, rememberTransfer, List.find?_cons_of_pos (by simp), Option.map_some]

theorem pendingOf_rememberTransfer_of_ne (h : Hub) {id other : PlayerId} (hne : id ≠ other)
    (p : Pending) : (h.rememberTransfer other p).pendingOf id = h.pendingOf id := by
  rw [← pendingOf_forgetTransfer_of_ne h hne, pendingOf, rememberTransfer,
    List.find?_cons_of_neg (by simpa using hne.symm), pendingOf]

end Hub

end GameHub
