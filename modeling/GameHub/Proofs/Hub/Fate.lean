import GameHub.Proofs.Backend.Directory
import GameHub.Proofs.Hub.Invariant

/-!
# What an event does to one player

A player who stays connected and neither joins nor leaves can only meet with few things
(`Hub.Fate`): the ticket goes from the line to a transfer, or comes back from a transfer that
failed, or the transfer is forgotten. Everything else that happens to the hub is about others.

For that the backend on the ticket must be a known one. Backends are known from the start, and
connections only begin with an id (`connections_step`).
-/

namespace GameHub

open Admission Backend

namespace Hub

/-! ## What stays -/

/-- The backends that are known, and how long a transfer can fail. -/
def settings (h : Hub) : List String × Duration := (h.registry.ids, h.transferGrace)

section Settings

variable (h : Hub)

/-- Nothing that is observed of a backend changes more of it than reports and missed reports do. -/
theorem map_records_step {α : Type} {f : Record → α}
    (hreport : ∀ b current max now, f (Record.report b current max now) = f b)
    (hmiss : ∀ b threshold, f (Record.miss threshold b) = f b) (o : Occurrence) :
    (h.step o).2.registry.records.map f = h.registry.records.map f := by
  rw [registry_step]
  unfold Event.observe
  split
  · exact Registry.map_adjust fun b _ => hreport b _ _ _
  · exact Registry.map_sweepStale hmiss _ _
  · rfl

/-- No event makes a backend known or unknown, or changes how long a transfer can fail. -/
theorem settings_step (o : Occurrence) : (h.step o).2.settings = h.settings := by
  have hgrace : (h.step o).2.transferGrace = h.transferGrace :=
    congrArg (·.2.1) (surroundings_step h o)
  exact Prod.ext (map_records_step h (fun _ _ _ _ => rfl) (fun _ _ => rfl) o) hgrace

theorem settings_run (run : List Occurrence) : (h.run run).2.settings = h.settings := by
  induction run generalizing h with
  | nil => rfl
  | cons o rest ih => exact (ih _).trans (settings_step h o)

end Settings

/-! ## Connections -/

section Connections

variable (h : Hub)

theorem connections_handleDisconnect (sender : Address) :
    (h.handleDisconnect sender).2.clients.connections =
      h.clients.connections.filter fun c => h.clients.find? sender ≠ some c.2 := by
  rw [handleDisconnect]
  cases hfind : h.clients.find? sender with
  | none => simp
  | some id =>
    refine (h.clients.connections_remove id).trans (List.filter_congr fun c _ => ?_)
    by_cases hc : c.2 = id
    · simp [hc]
    · simp [hc, Ne.symm hc]

theorem clients_forgetOverdue (place : Nat) : (h.forgetOverdue place).clients = h.clients := by
  rw [forgetOverdue]
  split
  · rfl
  · rfl

end Connections

namespace Sound

variable {limit : Nat} {ids : List PlayerId} {h : Hub}

theorem connections_handleConnect (hs : Sound limit ids h) (now : Moment) (sender : Address)
    (version : UInt32) {c : Address × PlayerId}
    (hc : c ∈ (h.handleConnect now sender version).2.clients.connections) :
    c ∈ h.clients.connections ∨ c ∈ arrivals (h.handleConnect now sender version).1 := by
  rw [Hub.handleConnect] at hc ⊢
  by_cases hversion : version ≠ protocolVersion
  · rw [if_pos hversion] at hc
    exact .inl hc
  · rw [if_neg hversion] at hc ⊢
    have hsub := (hs.clients.vacate sender).1
    rcases Nat.lt_or_ge (h.clients.vacate sender).size (h.clients.vacate sender).capacity with
      hlt | hle
    · have hadd := Clients.connections_add hlt sender now.instant
      rw [Clients.add_of_lt hlt] at hc hadd ⊢
      rcases List.mem_append.mp (hadd ▸ hc) with hc | hc
      · exact .inl (hsub.mem (List.mem_of_mem_filter hc))
      · rw [List.mem_singleton.mp hc]
        exact .inr (List.mem_singleton_self _)
    · rw [Clients.add_of_le hle] at hc
      exact .inl (hsub.mem hc)

/-- A connection was there before, or it was made by the event. -/
theorem connections_step (hs : Sound limit ids h) (o : Occurrence) {c : Address × PlayerId}
    (hc : c ∈ (h.step o).2.clients.connections) :
    c ∈ h.clients.connections ∨ c ∈ arrivals (h.step o).1 := by
  rw [Hub.step] at hc ⊢
  cases hevent : o.event with
  | packet sender packet =>
    rw [hevent] at hc
    -- Looking a sender up adds nobody; of the other packets only a connecting one does.
    by_cases hlookup : packet.looksUpSender = true
    · obtain ⟨queue, pending, heq⟩ :=
        handleAcross_of_looksUpSender h sender o.now o.firstGap hlookup
      rw [heq] at hc
      exact .inl ((connections_identify h sender o.now o.firstGap).mem hc)
    · cases packet with
      | connect version => exact hs.connections_handleConnect o.now sender version hc
      | disconnect =>
        exact .inl (List.mem_of_mem_filter (connections_handleDisconnect h sender ▸ hc))
      | joinQueue | leaveQueue | queryPosition | transferFailed | heartbeat =>
        exact absurd rfl hlookup
      | _ => exact .inl hc
  | reconcile =>
    rw [hevent] at hc
    refine .inl ?_
    rcases reconcileAcross_cases h o.now o.firstGap o.secondGap with
      ⟨-, heq⟩ | ⟨d, -, ⟨address, -, heq⟩ | ⟨-, heq⟩⟩
    · rw [heq] at hc
      exact (connections_lapse h _).mem hc
    · rw [heq] at hc
      exact (connections_lapse h _).mem hc
    · rw [heq] at hc
      exact ((connections_lapse _ _).trans (connections_lapse h _)).mem hc
  | checkClients =>
    rw [hevent] at hc
    exact .inl ((h.clients.connections_dropTimedOut _).mem hc)
  | forgetOverdue place =>
    rw [hevent] at hc
    exact .inl (clients_forgetOverdue h place ▸ hc)
  | _ =>
    rw [hevent] at hc
    exact .inl hc

theorem connections_run (hs : Sound limit ids h) (run : List Occurrence) {c : Address × PlayerId}
    (hc : c ∈ (h.run run).2.clients.connections) :
    c ∈ h.clients.connections ∨ c ∈ arrivals (h.run run).1 := by
  induction run generalizing ids h with
  | nil => exact .inl hc
  | cons o rest ih =>
    rw [run_cons, arrivals_append, List.mem_append]
    rcases ih (hs.step o) hc with hc | hc
    · exact (hs.connections_step o hc).imp_right .inl
    · exact .inr (.inr hc)

end Sound

/-! ## Fates -/

/-- The player at an address decides to join or to leave the line. -/
def Event.joinsOrLeaves (player : Address) : Event → Bool
  | .packet sender (.joinQueue ..) => sender = player
  | .packet sender .leaveQueue => sender = player
  | _ => false

/-- What an event can do to a player who stays connected and neither joins nor leaves. -/
inductive Fate (h : Hub) (o : Occurrence) (player : Address) (id : PlayerId)
    (out : List Outbound) (h' : Hub) : Prop where
  | kept (line : (h'.queue.ticketsOf id).Perm (h.queue.ticketsOf id))
      (pending : h'.pendingOf id = h.pendingOf id)
  /-- The player is admitted and sent to the backend on the ticket. -/
  | sent (d : Decision) (before : h.queue.ticketsOf id = [d.entry.ticket])
      (line : h'.queue.ticketsOf id = []) (pending : h'.pendingOf id = some ⟨d, o.now.instant⟩)
      (transfer : .toAddress player (.transfer d.entry.target d.address) ∈ out)
  /-- The transfer has failed, and the ticket is in line again. -/
  | returned (p : Pending) (before : h.pendingOf id = some p)
      (line : h'.queue.ticketsOf id = [p.decision.entry.ticket])
      (pending : h'.pendingOf id = none)
  /-- The transfer cannot fail any more. -/
  | forgotten (p : Pending) (before : h.pendingOf id = some p)
      (line : (h'.queue.ticketsOf id).Perm (h.queue.ticketsOf id))
      (pending : h'.pendingOf id = none)
      (why : o.event = .expireTransfers ∧
        p.sentAt.isPast o.now.instant h.transferGrace = true ∨ id ∈ h.overdue)

theorem Fate.unchanged {h h' : Hub} {o : Occurrence} {player : Address} {id : PlayerId}
    {out : List Outbound} (hqueue : h'.queue = h.queue) (hpending : h'.pending = h.pending) :
    Fate h o player id out h' :=
  .kept (hqueue ▸ .refl _) (pendingOf_congr hpending id)

namespace Sound

variable {limit : Nat} {ids : List PlayerId} {h : Hub} {player sender : Address} {id : PlayerId}

/-- A sender at another address is another player. -/
theorem ne_of_sender (hs : Sound limit ids h) (hthere : (player, id) ∈ h.clients.connections)
    {other : PlayerId} (hsender : h.clients.find? sender = some other) (hne : sender ≠ player) :
    id ≠ other := by
  rintro rfl
  exact hne (hs.clients.address_eq (hs.clients.find?_iff.mp hsender) hthere)

theorem fate_handleConnect (o : Occurrence) (version : UInt32) :
    Fate h o player id (h.handleConnect o.now sender version).1
      (h.handleConnect o.now sender version).2 := by
  rw [Hub.handleConnect]
  split
  · exact .unchanged rfl rfl
  · split
    · exact .unchanged rfl rfl
    · exact .unchanged rfl rfl

theorem fate_identify (o : Occurrence) (out : List Outbound) :
    Fate h o player id out (h.identify sender o.now o.firstGap).2 :=
  .unchanged (queue_identify ..) (pending_identify ..)

theorem fate_handleJoin (hs : Sound limit ids h) (o : Occurrence)
    (hthere : (player, id) ∈ h.clients.connections) (hne : sender ≠ player) (target : String)
    (rank : Rank) : Fate h o player id (h.handleJoin o.now o.firstGap sender target rank).1
      (h.handleJoin o.now o.firstGap sender target rank).2 := by
  have hqueue := queue_identify h sender o.now o.firstGap
  have hpending := pending_identify h sender o.now o.firstGap
  rw [Hub.handleJoin, identify_eq]
  cases hsender : h.clients.find? sender with
  | none => exact fate_identify o _
  | some other =>
    have hother := hs.ne_of_sender hthere hsender hne
    refine .kept ?_ ?_
    · rw [← hqueue]
      exact Queue.ticketsOf_enqueue_of_ne (hqueue ▸ hs.tickets_nodup) hother rank target _
        (h.identify sender o.now o.firstGap).2.registry
    · exact (pendingOf_forgetTransfer_of_ne _ hother).trans (pendingOf_congr hpending id)

theorem fate_handleLeave (hs : Sound limit ids h) (o : Occurrence)
    (hthere : (player, id) ∈ h.clients.connections) (hne : sender ≠ player) :
    Fate h o player id (h.handleLeave o.now o.firstGap sender).1
      (h.handleLeave o.now o.firstGap sender).2 := by
  have hqueue := queue_identify h sender o.now o.firstGap
  have hpending := pending_identify h sender o.now o.firstGap
  rw [Hub.handleLeave, identify_eq]
  cases hsender : h.clients.find? sender with
  | none => exact fate_identify o _
  | some other =>
    refine .kept ?_ (pendingOf_congr hpending id)
    rw [← hqueue]
    exact Queue.ticketsOf_remove_of_ne (hqueue ▸ hs.tickets_nodup)
      (hs.ne_of_sender hthere hsender hne)

theorem fate_handleDisconnect (hs : Sound limit ids h) (o : Occurrence)
    (hthere : (player, id) ∈ (h.handleDisconnect sender).2.clients.connections) :
    Fate h o player id (h.handleDisconnect sender).1 (h.handleDisconnect sender).2 := by
  rw [connections_handleDisconnect] at hthere
  have hother := of_decide_eq_true (List.mem_filter.mp hthere).2
  rw [Hub.handleDisconnect]
  cases hsender : h.clients.find? sender with
  | none => exact .unchanged rfl rfl
  | some other =>
    have hother : id ≠ other := fun heq => hother (heq ▸ hsender)
    exact .kept (Queue.ticketsOf_remove_of_ne hs.tickets_nodup hother)
      ((pendingOf_forgetTransfer_of_ne _ hother).trans (pendingOf_congr rfl id))

/-- A transfer of a player who is still there puts the ticket back when it fails. -/
theorem handleTransferFailed_returns (hs : Sound limit ids h) {now : Moment} {gap : List Moment}
    {reason : String} {p : Pending} (hsender : h.clients.find? player = some id)
    (hp : h.pendingOf id = some p)
    (hthere : (player, id) ∈
      (h.handleTransferFailed now gap player reason).2.clients.connections) :
    (h.handleTransferFailed now gap player reason).2.queue.ledger.tickets.Perm
      (p.decision.entry.ticket :: h.queue.ledger.tickets) ∧
    (h.handleTransferFailed now gap player reason).2.pendingOf id = none := by
  have hs' := hs.identify player now gap
  have hp' := (pendingOf_congr (pending_identify h player now gap) id).trans hp
  have hqueue := queue_identify h player now gap
  obtain ⟨queue, pending, heq⟩ := handleAcross_of_looksUpSender h player now gap
    (show (Packet.transferFailed reason).looksUpSender = true from rfl)
  rw [show (h.handleTransferFailed now gap player reason).2.clients = _ from
    congrArg Hub.clients heq] at hthere
  rw [Hub.handleTransferFailed, identify_eq, hsender]
  generalize (h.identify player now gap).2 = h' at hs' hp' hqueue hthere
  -- The queue takes the ticket back: its player is there and has no other ticket in line.
  have howner : p.decision.entry.subject = id := hs'.owner _ (mem_of_pendingOf hp')
  have hlive : h'.clients.isConnected p.decision.entry.subject = true := by
    rw [howner, Clients.isConnected_iff]
    exact Clients.mem_ids_of_connection hthere
  have hqueued : h'.queue.isQueued p.decision.entry.subject = false := by
    rw [howner, Bool.eq_false_iff]
    intro hqueued
    cases (hs'.pendingOf_eq_none hqueued).symm.trans hp'
  dsimp only
  rw [hp']
  refine ⟨?_, pendingOf_forgetTransfer h' id⟩
  rw [← hqueue]
  exact Queue.requeue_perm p.decision _ hlive hqueued

theorem fate_handleTransferFailed (hs : Sound limit ids h) (o : Occurrence)
    (hbefore : (player, id) ∈ h.clients.connections) (reason : String)
    (hthere : (player, id) ∈
      (h.handleTransferFailed o.now o.firstGap sender reason).2.clients.connections) :
    Fate h o player id (h.handleTransferFailed o.now o.firstGap sender reason).1
      (h.handleTransferFailed o.now o.firstGap sender reason).2 := by
  have hqueue := queue_identify h sender o.now o.firstGap
  have hpending := pending_identify h sender o.now o.firstGap
  -- The report of this player about a transfer that is remembered, or any other report.
  by_cases hplayer : sender = player ∧ ∃ p, h.pendingOf id = some p
  · obtain ⟨rfl, p, hp⟩ := hplayer
    have hsender := hs.clients.find?_iff.mpr hbefore
    obtain ⟨hperm, hnone⟩ := hs.handleTransferFailed_returns hsender hp hthere
    have howner : p.decision.entry.ticket.subject = id := hs.owner _ (mem_of_pendingOf hp)
    refine .returned p hp ?_ hnone
    have hmem := hperm.mem_iff.mpr List.mem_cons_self
    have hline := Queue.ticketsOf_eq_singleton
      (hs.handleTransferFailed o.now o.firstGap sender reason).tickets_nodup hmem
    rwa [howner] at hline
  · rw [Hub.handleTransferFailed, identify_eq]
    cases hsender : h.clients.find? sender with
    | none => exact fate_identify o _
    | some other =>
      dsimp only
      split
      · exact fate_identify o _
      · next p hp =>
        have hp := (pendingOf_congr hpending other).symm.trans hp
        -- A report from another address is about the transfer of another player.
        have hother : id ≠ other := by
          rintro rfl
          have haddress := hs.clients.address_eq (hs.clients.find?_iff.mp hsender) hbefore
          exact hplayer ⟨haddress, p, hp⟩
        have howner : p.decision.entry.subject = other := hs.owner _ (mem_of_pendingOf hp)
        refine .kept ?_ ((pendingOf_forgetTransfer_of_ne _ hother).trans
          (pendingOf_congr hpending id))
        rw [← hqueue]
        exact Queue.ticketsOf_requeue_of_ne (howner ▸ hother.symm) _ _

theorem fate_handleAcross (hs : Sound limit ids h) (o : Occurrence) (packet : Packet)
    (hquiet : (Event.packet sender packet).joinsOrLeaves player = false)
    (hbefore : (player, id) ∈ h.clients.connections)
    (hthere : (player, id) ∈
      (h.handleAcross o.now o.firstGap sender packet).2.clients.connections) :
    Fate h o player id (h.handleAcross o.now o.firstGap sender packet).1
      (h.handleAcross o.now o.firstGap sender packet).2 := by
  cases packet with
  | connect version => exact fate_handleConnect o version
  | joinQueue target rank =>
    exact hs.fate_handleJoin o hbefore (of_decide_eq_false hquiet) target rank
  | leaveQueue => exact hs.fate_handleLeave o hbefore (of_decide_eq_false hquiet)
  | queryPosition =>
    rw [show (h.handleAcross o.now o.firstGap sender .queryPosition).2 = _ from
      handleQueryPosition_snd h sender o.now o.firstGap]
    exact fate_identify o _
  | transferFailed reason => exact hs.fate_handleTransferFailed o hbefore reason hthere
  | heartbeat => exact fate_identify o _
  | disconnect => exact hs.fate_handleDisconnect o hthere
  | _ => exact .unchanged rfl rfl

theorem fate_reconcileAcross (hs : Sound limit ids h) (o : Occurrence)
    (hknown : ∀ t ∈ h.queue.ticketsOf id, t.target ∈ h.registry.ids)
    (hbefore : (player, id) ∈ h.clients.connections)
    (hthere : (player, id) ∈
      (h.reconcileAcross o.now o.firstGap o.secondGap).2.clients.connections) :
    Fate h o player id (h.reconcileAcross o.now o.firstGap o.secondGap).1
      (h.reconcileAcross o.now o.firstGap o.secondGap).2 := by
  have hlive : h.live id = true :=
    Clients.isConnected_iff.mpr (Clients.mem_ids_of_connection hbefore)
  have hline := Queue.ticketsOf_reconcile hs.tickets_nodup hlive hknown
  obtain ⟨dropped, hperm, -, hbackend⟩ :=
    Queue.reconcile_perm hs.tickets_nodup h.registry.records h.live
  have hcases := reconcileAcross_cases h o.now o.firstGap o.secondGap
  generalize h.queue.reconcile h.registry.records h.live = pass at hline hperm hbackend hcases
  have hclients := (hs.lapse o.firstGap).clients
  have hpending : (h.lapse o.firstGap).pending = h.pending := pending_lapse ..
  -- A decision for another player takes nothing from the line of this one.
  have hothers {d : Decision} (hsome : pass.result = some d) (hne : d.entry.subject ≠ id) :
      (pass.queue.ticketsOf id).Perm (h.queue.ticketsOf id) := by
    have hother : [d.entry.ticket].filter (·.subject = id) = [] :=
      List.filter_cons_of_neg fun hsame => hne (of_decide_eq_true hsame)
    rw [hsome, Option.toList_some, List.map_singleton, hother] at hline
    exact hline.symm
  rcases hcases with ⟨hnone, heq⟩ | ⟨d, hsome, ⟨address, haddress, heq⟩ | ⟨hgone, heq⟩⟩
  · rw [heq]
    rw [hnone] at hline
    exact .kept hline.symm (pendingOf_congr hpending id)
  · rw [heq] at hthere ⊢
    by_cases hself : d.entry.subject = id
    · subst hself
      have hown : [d.entry.ticket].filter (·.subject = d.entry.subject) = [d.entry.ticket] :=
        List.filter_cons_of_pos (decide_eq_true rfl)
      rw [hsome, Option.toList_some, List.map_singleton, hown] at hline
      have hticket : d.entry.ticket ∈ h.queue.ledger.tickets :=
        (Queue.mem_ticketsOf.mp (hline.mem_iff.mpr List.mem_cons_self)).1
      have hsingle := Queue.ticketsOf_eq_singleton hs.tickets_nodup hticket
      have hempty : pass.queue.ticketsOf d.entry.subject = [] :=
        ((List.Perm.of_eq hsingle).symm.trans hline).cons_inv.nil_eq.symm
      obtain rfl := hclients.address_eq (hclients.addressOf?_iff.mp haddress) hthere
      refine .sent d hsingle hempty (pendingOf_rememberTransfer ..) ?_
      rw [← hbackend d hsome]
      simp
    · refine .kept (hothers hsome hself) ?_
      exact (pendingOf_rememberTransfer_of_ne _ (Ne.symm hself) _).trans
        (pendingOf_congr hpending id)
  · rw [heq] at hthere ⊢
    have hself : d.entry.subject ≠ id := by
      rintro rfl
      have hmem := (connections_lapse _ o.secondGap).mem hthere
      cases hgone.symm.trans (hclients.addressOf?_iff.mpr hmem)
    refine .kept ((Queue.ticketsOf_requeue_of_ne hself _ _).trans (hothers hsome hself)) ?_
    exact pendingOf_congr ((pending_lapse ..).trans hpending) id

theorem fate_expireTransfers (hs : Sound limit ids h) (o : Occurrence)
    (hevent : o.event = .expireTransfers) (out : List Outbound) :
    Fate h o player id out (h.expireTransfers o.now) := by
  have hs' := hs.expireTransfers o.now
  cases hp : h.pendingOf id with
  | none =>
    refine .kept (.refl _) (hp ▸ Option.eq_none_iff_forall_not_mem.mpr fun p hp' => ?_)
    have hmem := List.mem_of_mem_filter (hs'.pendingOf_iff.mp hp')
    cases hp.symm.trans (hs.pendingOf_iff.mpr hmem)
  | some p =>
    have hmem := hs.pendingOf_iff.mp hp
    cases hpast : p.sentAt.isPast o.now.instant h.transferGrace with
    | false =>
      refine .kept (.refl _) (hp ▸ hs'.pendingOf_iff.mpr (List.mem_filter.mpr ⟨hmem, ?_⟩))
      simp [hpast]
    | true =>
      refine .forgotten p hp (.refl _) ?_ (.inl ⟨hevent, hpast⟩)
      refine Option.eq_none_iff_forall_not_mem.mpr fun p' hp' => ?_
      obtain ⟨hmem', hkept⟩ := List.mem_filter.mp (hs'.pendingOf_iff.mp hp')
      obtain rfl := Option.some.inj (hp.symm.trans (hs.pendingOf_iff.mpr hmem'))
      simp [hpast] at hkept

theorem fate_forgetOverdue (o : Occurrence) (place : Nat) (out : List Outbound) :
    Fate h o player id out (h.forgetOverdue place) := by
  rw [Hub.forgetOverdue]
  split
  · next other hother =>
    by_cases hself : id = other
    · subst hself
      cases hp : h.pendingOf id with
      | none => exact .kept (.refl _) ((pendingOf_forgetTransfer _ id).trans hp.symm)
      | some p =>
        exact .forgotten p hp (.refl _) (pendingOf_forgetTransfer _ id)
          (.inr (List.mem_of_getElem? hother))
    · exact .kept (.refl _)
        ((pendingOf_forgetTransfer_of_ne _ hself).trans (pendingOf_congr rfl id))
  · exact .unchanged rfl rfl

/-- Nothing else can happen to a player who stays. -/
theorem fate_step (hs : Sound limit ids h) (o : Occurrence)
    (hquiet : o.event.joinsOrLeaves player = false)
    (hknown : ∀ t ∈ h.queue.ticketsOf id, t.target ∈ h.registry.ids)
    (hbefore : (player, id) ∈ h.clients.connections)
    (hthere : (player, id) ∈ (h.step o).2.clients.connections) :
    Fate h o player id (h.step o).1 (h.step o).2 := by
  rw [Hub.step] at hthere ⊢
  cases hevent : o.event with
  | packet sender packet =>
    rw [hevent] at hthere hquiet
    exact hs.fate_handleAcross o packet hquiet hbefore hthere
  | reconcile =>
    rw [hevent] at hthere
    exact hs.fate_reconcileAcross o hknown hbefore hthere
  | expireTransfers => exact hs.fate_expireTransfers o hevent []
  | checkHealth => exact .unchanged rfl rfl
  | sweepRestarts => exact .unchanged rfl rfl
  | checkClients => exact .unchanged rfl rfl
  | forgetOverdue place => exact fate_forgetOverdue o place []

end Sound

end Hub

end GameHub
