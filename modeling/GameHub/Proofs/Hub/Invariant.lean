import GameHub.Proofs.Admission.Content
import GameHub.Proofs.Hub.Frames

/-!
# What every event keeps

`Hub.Sound` is what holds of a hub at any time, for the ids that it has given out so far. Players
are known by one id and one address, whoever is connected, in line or on the way to a backend has an
id that was given out, and a player has one ticket altogether: in line or with the transfer.

Ids are counted from one and come up again after the last, so a player who was dropped for silence
is told apart from those who are connected only as long as there are ids left.
-/

namespace GameHub

open Admission

/-! ## Ids that were given out -/

/-- The id in a reply to a new connection. -/
def Outbound.issued? : Outbound → Option PlayerId
  | .toAddress _ (.connected id) => some id
  | _ => none

/-- The address and the id in a reply to a new connection. -/
def Outbound.arrival? : Outbound → Option (Address × PlayerId)
  | .toAddress address (.connected id) => some (address, id)
  | _ => none

namespace Hub

/-- The ids in the replies to new connections, oldest first. -/
def issued (out : List Outbound) : List PlayerId := out.filterMap Outbound.issued?

theorem issued_append (out out' : List Outbound) :
    issued (out ++ out') = issued out ++ issued out' :=
  List.filterMap_append

@[simp]
theorem issued_signals (signals : List Signal) : issued (signals.map (·.outbound)) = [] := by
  rw [issued, List.filterMap_map, List.filterMap_eq_nil_iff]
  intro signal _
  cases signal <;> rfl

/-- The connections that were made, oldest first. -/
def arrivals (out : List Outbound) : List (Address × PlayerId) := out.filterMap Outbound.arrival?

theorem arrivals_append (out out' : List Outbound) :
    arrivals (out ++ out') = arrivals out ++ arrivals out' :=
  List.filterMap_append

theorem map_snd_arrivals (out : List Outbound) : (arrivals out).map (·.2) = issued out := by
  rw [arrivals, List.map_filterMap, issued]
  refine List.filterMap_congr fun packet _ => ?_
  cases packet with
  | toAddress address packet => cases packet <;> rfl
  | toPlayer id packet => rfl

theorem arrivals_eq_nil {out : List Outbound} (h : issued out = []) : arrivals out = [] := by
  rwa [← map_snd_arrivals, List.map_eq_nil_iff] at h

theorem issued_of_arrival {out : List Outbound} {c : Address × PlayerId} (h : c ∈ arrivals out) :
    c.2 ∈ issued out := by
  rw [← map_snd_arrivals]
  exact List.mem_map_of_mem h

/-- The first ids, counted from one. -/
def firstIds (n : Nat) : List PlayerId := (List.range n).map fun k => UInt32.ofNat (k + 1)

theorem firstIds_succ (n : Nat) : firstIds (n + 1) = firstIds n ++ [UInt32.ofNat (n + 1)] := by
  rw [firstIds, List.range_succ, List.map_append]
  rfl

theorem toNat_ofNat_of_lt {n : Nat} (h : n < UInt32.size) : (UInt32.ofNat n).toNat = n := by
  rw [UInt32.toNat_ofNat']
  exact Nat.mod_eq_of_lt h

theorem ofNat_not_mem_firstIds {n : Nat} (h : n + 1 < UInt32.size) :
    UInt32.ofNat (n + 1) ∉ firstIds n := by
  intro hmem
  obtain ⟨k, hk, heq⟩ := List.mem_map.mp hmem
  have hk := List.mem_range.mp hk
  have htoNat := congrArg UInt32.toNat heq
  rw [toNat_ofNat_of_lt h, toNat_ofNat_of_lt (by omega)] at htoNat
  omega

theorem nodup_firstIds {n : Nat} (h : n < UInt32.size) : (firstIds n).Nodup := by
  induction n with
  | zero => exact List.nodup_nil
  | succ n ih =>
    rw [firstIds_succ]
    refine List.Nodup.append (ih (by omega)) (List.nodup_singleton _) ?_
    exact List.disjoint_singleton.mpr (ofNat_not_mem_firstIds h)

/-! ## The invariant -/

/-- The tickets of the players in line and of those on the way to a backend. -/
def held (h : Hub) : List Ticket :=
  h.queue.ledger.tickets ++ h.pending.map (·.2.decision.entry.ticket)

section Held

variable {h h' : Hub}

theorem held_congr (hqueue : h'.queue = h.queue) (hpending : h'.pending = h.pending) :
    h'.held = h.held := by
  rw [held, hqueue, hpending, held]

theorem map_subperm {α β : Type} (f : α → β) {l l' : List α} (h : l.Subperm l') :
    (l.map f).Subperm (l'.map f) := by
  obtain ⟨m, hperm, hsub⟩ := h
  exact ⟨m.map f, hperm.map f, hsub.map f⟩

theorem held_filter_pending (h : Hub) (keep : PlayerId × Pending → Bool) :
    { h with pending := h.pending.filter keep }.held.Subperm h.held :=
  ((List.filter_sublist.map _).append_left _).subperm

theorem held_with_queue {queue : Queue}
    (hsub : queue.ledger.tickets.Subperm h.queue.ledger.tickets) :
    { h with queue }.held.Subperm h.held :=
  (List.subperm_append_right _).mpr hsub

/-- A transfer that failed gives the ticket back to the line, if it gives it to anyone. -/
theorem held_requeue {id : PlayerId} {p : Pending} (hp : (id, p) ∈ h.pending)
    (error : TransferError) (live : PlayerId → Bool) :
    { h.forgetTransfer id with
      queue := (h.queue.requeue p.decision error live).queue }.held.Subperm h.held := by
  have hforgotten : ((id, p) :: h.pending.filter (·.1 ≠ id)).Subperm h.pending :=
    List.cons_subperm_of_not_mem_of_mem (by simp) hp List.filter_sublist.subperm
  have hback := Queue.requeue_subperm (q := h.queue) p.decision error live
  refine ((List.subperm_append_right _).mpr hback).trans ?_
  refine List.perm_middle.symm.subperm.trans ((List.subperm_append_left _).mpr ?_)
  exact map_subperm (·.2.decision.entry.ticket) hforgotten

/-- A ticket that has left the line goes with the transfer. -/
theorem held_handOver {queue : Queue} {d : Decision}
    (hsub : (d.entry.ticket :: queue.ledger.tickets).Subperm h.queue.ledger.tickets)
    (sentAt : Instant) :
    ({ h with queue }.rememberTransfer d.entry.subject ⟨d, sentAt⟩).held.Subperm h.held := by
  refine List.perm_middle.subperm.trans ?_
  refine ((List.subperm_append_right _).mpr hsub).trans ?_
  exact (List.subperm_append_left _).mpr (List.filter_sublist.map _).subperm

/-- A new ticket takes the place of the one that its player had in line. -/
theorem held_enqueue (htickets : (h.queue.ledger.tickets.map (·.subject)).Nodup) (id : PlayerId)
    (rank : Rank) (target : String) (now : UInt64) :
    ({ h with queue := (h.queue.enqueue id rank target now h.registry).queue } : Hub).held.Perm
      (⟨id, rank, now, target, h.queue.ledger.nextSeq⟩ ::
        (h.queue.ledger.tickets.filter (·.subject ≠ id) ++
          h.pending.map (·.2.decision.entry.ticket))) :=
  (Queue.enqueue_perm htickets id rank target now h.registry).append_right _

end Held

/-- What holds of a hub that admits so many players and has given out these ids. -/
structure Sound (limit : Nat) (ids : List PlayerId) (h : Hub) : Prop where
  clients : h.clients.Sound
  capacity : h.clients.capacity = limit
  /-- A transfer stands under the id of its player. -/
  owner : ∀ transfer ∈ h.pending, transfer.2.decision.entry.subject = transfer.1
  /-- No player has two tickets. -/
  subjects : (h.held.map (·.subject)).Nodup
  counted : ids = firstIds ids.length
  nextId : h.clients.nextId = UInt32.ofNat (ids.length + 1)
  connected : ∀ id ∈ h.clients.ids, id ∈ ids
  holders : ∀ t ∈ h.held, t.subject ∈ ids
  overdue : ∀ id ∈ h.overdue, id ∈ ids
  /-- Whoever was dropped for silence is not connected, if no id has come up twice. -/
  gone : ids.length < UInt32.size - 1 → ∀ id ∈ h.overdue, id ∉ h.clients.ids

namespace Sound

variable {limit : Nat} {ids : List PlayerId} {h h' : Hub}

theorem new (config : Config) (options : Options) :
    Sound options.maxClients [] (Hub.new config options) where
  clients := ⟨.nil, .nil, Nat.zero_le _⟩
  capacity := rfl
  owner := fun _ ht => absurd ht List.not_mem_nil
  subjects := .nil
  counted := rfl
  nextId := rfl
  connected := fun _ hid => absurd hid List.not_mem_nil
  holders := fun _ ht => absurd ht List.not_mem_nil
  overdue := fun _ hid => absurd hid List.not_mem_nil
  gone := fun _ _ hid => absurd hid List.not_mem_nil

theorem tickets_nodup (hs : Sound limit ids h) : (h.queue.ledger.tickets.map (·.subject)).Nodup :=
  hs.subjects.sublist ((List.sublist_append_left ..).map _)

theorem pendingOf_iff (hs : Sound limit ids h) {id : PlayerId} {p : Pending} :
    h.pendingOf id = some p ↔ (id, p) ∈ h.pending := by
  have hkeys : (h.pending.map (·.1)).Nodup := by
    have hsubjects := hs.subjects
    rw [held, List.map_append, List.nodup_append, List.map_map] at hsubjects
    rw [List.map_congr_left fun transfer ht => (hs.owner transfer ht).symm]
    exact hsubjects.2.1
  constructor
  · exact mem_of_pendingOf
  · intro hp
    rw [pendingOf, (find?_key_eq_some_iff hkeys).mpr ⟨hp, rfl⟩, Option.map_some]

/-- Who is in line has no transfer. -/
theorem pendingOf_eq_none (hs : Sound limit ids h) {id : PlayerId}
    (hqueued : h.queue.isQueued id = true) : h.pendingOf id = none := by
  obtain ⟨t, ht, rfl⟩ := Queue.isQueued_iff.mp hqueued
  cases hpending : h.pendingOf t.subject with
  | none => rfl
  | some p =>
    have hp := mem_of_pendingOf hpending
    have hsubjects := hs.subjects
    rw [held, List.map_append] at hsubjects
    have hother : t.subject ∈ (h.pending.map (·.2.decision.entry.ticket)).map (·.subject) := by
      refine List.mem_map.mpr ⟨p.decision.entry.ticket, List.mem_map_of_mem hp, ?_⟩
      exact hs.owner _ hp
    exact absurd hother (List.disjoint_of_nodup_append hsubjects (List.mem_map_of_mem ht))

/-- No id was given out, and the hub is in order for the old ones. -/
theorem quiet (hs : Sound limit ids h) {out : List Outbound} (hout : issued out = []) :
    Sound limit (ids ++ issued out) h := by
  rw [hout, List.append_nil]
  exact hs

/-! ## Fewer connections -/

theorem shrink (hs : Sound limit ids h) {clients : Clients}
    (hsub : clients.connections.Sublist h.clients.connections)
    (hcapacity : clients.capacity = h.clients.capacity)
    (hnext : clients.nextId = h.clients.nextId) : Sound limit ids { h with clients } where
  clients := hs.clients.of_sublist hsub hcapacity
  capacity := hcapacity.trans hs.capacity
  owner := hs.owner
  subjects := hs.subjects
  counted := hs.counted
  nextId := hnext.trans hs.nextId
  connected id hid := hs.connected id ((Clients.ids_sublist hsub).mem hid)
  holders := hs.holders
  overdue := hs.overdue
  gone hfew id hid hconnected := hs.gone hfew id hid ((Clients.ids_sublist hsub).mem hconnected)

theorem checkClients (hs : Sound limit ids h) (now : Moment) :
    Sound limit ids (h.checkClients now) := by
  have hperm := h.clients.ids_dropTimedOut_perm now.instant
  have hrest := hs.shrink (h.clients.connections_dropTimedOut now.instant) rfl rfl
  refine ⟨hrest.clients, hs.capacity, hs.owner, hs.subjects, hs.counted, hrest.nextId,
    hrest.connected, hs.holders, fun id hid => ?_, fun hfew id hid => ?_⟩
  · rcases List.mem_append.mp hid with hid | hid
    · exact hs.overdue id hid
    · exact hs.connected id (hperm.mem_iff.mpr (List.mem_append_left _ hid))
  · rcases List.mem_append.mp hid with hid | hid
    · exact hrest.gone hfew id hid
    · exact List.disjoint_of_nodup_append (hperm.nodup_iff.mp hs.clients.ids) hid

theorem lapse (hs : Sound limit ids h) (gap : List Moment) : Sound limit ids (h.lapse gap) := by
  induction gap generalizing h with
  | nil => exact hs
  | cons now gap ih => exact ih (hs.checkClients now)

theorem identify (hs : Sound limit ids h) (sender : Address) (now : Moment) (gap : List Moment) :
    Sound limit ids (h.identify sender now gap).2 := by
  rw [Hub.identify]
  split
  · next id _ =>
    have htouched : Sound limit ids { h with clients := (h.clients.touch id now.instant).2 } :=
      hs.shrink (by rw [Clients.connections_touch]) rfl rfl
    exact htouched.lapse gap
  · exact hs.lapse gap

/-- Whoever is found at an address has an id that was given out. -/
theorem mem_of_find? (hs : Sound limit ids h) {sender : Address} {id : PlayerId}
    (hfind : h.clients.find? sender = some id) : id ∈ ids :=
  hs.connected id (Clients.mem_ids_of_connection (hs.clients.find?_iff.mp hfind))

/-! ## A new connection -/

theorem add (hs : Sound limit ids h) {sender : Address}
    (hfree : sender ∉ h.clients.connected.map (·.address))
    (hlt : h.clients.size < h.clients.capacity) (now : Instant) :
    Sound limit (ids ++ [h.clients.nextId]) { h with clients := (h.clients.add sender now).2 } where
  clients := hs.clients.add hfree now
  capacity := by
    rw [Clients.add_of_lt hlt]
    exact hs.capacity
  owner := hs.owner
  subjects := hs.subjects
  counted := by
    rw [List.length_append, List.length_singleton, firstIds_succ, ← hs.counted, hs.nextId]
  nextId := by
    rw [Clients.add_of_lt hlt]
    show h.clients.nextId + 1 = _
    rw [hs.nextId, List.length_append, List.length_singleton, UInt32.ofNat_add (_ + 1)]
    rfl
  connected id hid := by
    rcases Clients.mem_ids_add hlt now hid with rfl | hid
    · exact List.mem_append_right _ (List.mem_singleton_self _)
    · exact List.mem_append_left _ (hs.connected id hid)
  holders t ht := List.mem_append_left _ (hs.holders t ht)
  overdue id hid := List.mem_append_left _ (hs.overdue id hid)
  gone hfew id hid hconnected := by
    rw [List.length_append, List.length_singleton] at hfew
    rcases Clients.mem_ids_add hlt now hconnected with rfl | hconnected
    · -- An overdue player has an old id, and the id that was given out is new.
      have hmem := hs.overdue _ hid
      have hnew := ofNat_not_mem_firstIds (n := ids.length) (by omega)
      rw [← hs.counted, ← hs.nextId] at hnew
      exact hnew hmem
    · exact hs.gone (by omega) id hid hconnected

theorem handleConnect (hs : Sound limit ids h) (now : Moment) (sender : Address)
    (version : UInt32) : Sound limit (ids ++ issued (h.handleConnect now sender version).1)
      (h.handleConnect now sender version).2 := by
  rw [Hub.handleConnect]
  by_cases hversion : version ≠ protocolVersion
  · rw [if_pos hversion]
    exact hs.quiet rfl
  · rw [if_neg hversion]
    obtain ⟨hsub, hfree⟩ := hs.clients.vacate sender
    have hvacant := hs.shrink hsub (h.clients.capacity_vacate sender)
      (h.clients.nextId_vacate sender)
    rcases Nat.lt_or_ge (h.clients.vacate sender).size (h.clients.vacate sender).capacity with
      hlt | hle
    · have hadd := hvacant.add hfree hlt now.instant
      rw [Clients.add_of_lt hlt] at hadd ⊢
      exact hadd
    · rw [Clients.add_of_le hle]
      exact hvacant.quiet rfl

/-! ## Tickets

What leaves the clients alone and adds no ticket. -/

theorem of_held (hs : Sound limit ids h) (hclients : h'.clients = h.clients)
    (hoverdue : ∀ id ∈ h'.overdue, id ∈ h.overdue)
    (howner : ∀ transfer ∈ h'.pending, transfer.2.decision.entry.subject = transfer.1)
    (hheld : h'.held.Subperm h.held) : Sound limit ids h' where
  clients := hclients ▸ hs.clients
  capacity := hclients ▸ hs.capacity
  owner := howner
  subjects := by
    obtain ⟨subjects, hperm, hsub⟩ := map_subperm (·.subject) hheld
    exact hperm.nodup_iff.mp (hs.subjects.sublist hsub)
  counted := hs.counted
  nextId := hclients ▸ hs.nextId
  connected := hclients ▸ hs.connected
  holders t ht := hs.holders t (hheld.subset ht)
  overdue id hid := hs.overdue id (hoverdue id hid)
  gone hfew id hid := hclients ▸ hs.gone hfew id (hoverdue id hid)

/-- Fewer transfers. -/
theorem with_pending (hs : Sound limit ids h) (keep : PlayerId × Pending → Bool) :
    Sound limit ids { h with pending := h.pending.filter keep } := by
  refine hs.of_held rfl (fun _ hid => hid) (fun t ht => ?_) (held_filter_pending h keep)
  exact hs.owner t (List.mem_of_mem_filter ht)

theorem forgetTransfer (hs : Sound limit ids h) (id : PlayerId) :
    Sound limit ids (h.forgetTransfer id) :=
  hs.with_pending (·.1 ≠ id)

/-- Fewer players in line. -/
theorem with_queue (hs : Sound limit ids h) {queue : Queue}
    (hsub : queue.ledger.tickets.Subperm h.queue.ledger.tickets) :
    Sound limit ids { h with queue } :=
  hs.of_held rfl (fun _ hid => hid) hs.owner (held_with_queue hsub)

theorem remove (hs : Sound limit ids h) (id : PlayerId) :
    Sound limit ids { h with queue := (h.queue.remove id).queue } :=
  hs.with_queue (Queue.remove_subperm hs.tickets_nodup id)

theorem expireTransfers (hs : Sound limit ids h) (now : Moment) :
    Sound limit ids (h.expireTransfers now) :=
  hs.with_pending _

theorem forgetOverdue (hs : Sound limit ids h) (place : Nat) :
    Sound limit ids (h.forgetOverdue place) := by
  rw [Hub.forgetOverdue]
  split
  · next id _ =>
    have herased : Sound limit ids { h with overdue := h.overdue.eraseIdx place } :=
      hs.of_held rfl (fun _ hid => List.mem_of_mem_eraseIdx hid) hs.owner (.refl _)
    exact herased.forgetTransfer id
  · exact hs

/-- A player who has no transfer gets a new ticket. -/
theorem enqueue (hs : Sound limit ids h) {id : PlayerId} (hid : id ∈ ids)
    (hfree : ∀ transfer ∈ h.pending, transfer.1 ≠ id) (rank : Rank) (target : String)
    (now : UInt64) : Sound limit ids
      { h with queue := (h.queue.enqueue id rank target now h.registry).queue } := by
  have hheld := held_enqueue hs.tickets_nodup id rank target now
  have hold := (List.filter_sublist (p := (·.subject ≠ id)) (l := h.queue.ledger.tickets)
    ).append_right (h.pending.map (·.2.decision.entry.ticket))
  refine ⟨hs.clients, hs.capacity, hs.owner, ?_, hs.counted, hs.nextId, hs.connected,
    fun t ht => ?_, hs.overdue, hs.gone⟩
  · refine (hheld.map (·.subject)).nodup_iff.mpr ?_
    refine List.nodup_cons.mpr ⟨fun hmem => ?_, hs.subjects.sublist (hold.map _)⟩
    obtain ⟨t, ht, hsubject⟩ := List.mem_map.mp hmem
    rcases List.mem_append.mp ht with ht | ht
    · exact of_decide_eq_true (List.mem_filter.mp ht).2 hsubject
    · obtain ⟨transfer, htransfer, rfl⟩ := List.mem_map.mp ht
      exact hfree transfer htransfer ((hs.owner transfer htransfer).symm.trans hsubject)
  · rcases List.mem_cons.mp (hheld.mem_iff.mp ht) with rfl | ht
    · exact hid
    · exact hs.holders t (hold.mem ht)

/-- A transfer that failed gives the ticket back to the line, if it gives it to anyone. -/
theorem requeue (hs : Sound limit ids h) {id : PlayerId} {p : Pending} (hp : (id, p) ∈ h.pending)
    (error : TransferError) (live : PlayerId → Bool) :
    Sound limit ids { h.forgetTransfer id with
      queue := (h.queue.requeue p.decision error live).queue } := by
  exact hs.of_held rfl (fun _ hid => hid) (hs.forgetTransfer id).owner (held_requeue hp error live)

/-- A ticket that has left the line goes with the transfer. -/
theorem handOver (hs : Sound limit ids h) {queue : Queue} {d : Decision}
    (hsub : (d.entry.ticket :: queue.ledger.tickets).Subperm h.queue.ledger.tickets)
    (sentAt : Instant) :
    Sound limit ids ({ h with queue }.rememberTransfer d.entry.subject ⟨d, sentAt⟩) := by
  refine hs.of_held rfl (fun _ hid => hid) (fun transfer ht => ?_) (held_handOver hsub sentAt)
  rcases List.mem_cons.mp ht with rfl | ht
  · rfl
  · exact hs.owner transfer (List.mem_of_mem_filter ht)

theorem reconcileAcross (hs : Sound limit ids h) (now : Moment) (first second : List Moment) :
    Sound limit (ids ++ issued (h.reconcileAcross now first second).1)
      (h.reconcileAcross now first second).2 := by
  have hparts := Queue.reconcile_subperm hs.tickets_nodup h.registry.records h.live
  have hcases := reconcileAcross_cases h now first second
  generalize h.queue.reconcile h.registry.records h.live = pass at hparts hcases
  have hfirst := hs.lapse first
  rcases hcases with ⟨hnone, heq⟩ | ⟨d, hsome, ⟨address, -, heq⟩ | ⟨-, heq⟩⟩
  · rw [hnone] at hparts
    rw [heq]
    exact (hfirst.with_queue (by simpa using hparts)).quiet (issued_signals _)
  · rw [hsome] at hparts
    rw [heq]
    refine (hfirst.handOver (by simpa using hparts) now.instant).quiet ?_
    rw [issued_append, issued_signals]
    rfl
  · rw [hsome] at hparts
    rw [heq]
    refine ((hfirst.lapse second).with_queue ?_).quiet ?_
    · rw [queue_lapse, queue_lapse]
      exact (Queue.requeue_subperm ..).trans hparts
    · rw [issued_append, issued_signals, issued_signals]
      rfl

/-! ## Packets -/

theorem handleJoin (hs : Sound limit ids h) (now : Moment) (gap : List Moment) (sender : Address)
    (target : String) (rank : Rank) :
    Sound limit (ids ++ issued (h.handleJoin now gap sender target rank).1)
      (h.handleJoin now gap sender target rank).2 := by
  have hidentified := hs.identify sender now gap
  rw [Hub.handleJoin, identify_eq]
  cases hfind : h.clients.find? sender with
  | none => exact hidentified.quiet rfl
  | some id =>
    refine ((hidentified.forgetTransfer id).enqueue (hs.mem_of_find? hfind) (fun t ht => ?_) rank
      target now.wall).quiet (issued_signals _)
    exact of_decide_eq_true (List.mem_filter.mp ht).2

theorem handleLeave (hs : Sound limit ids h) (now : Moment) (gap : List Moment) (sender : Address) :
    Sound limit (ids ++ issued (h.handleLeave now gap sender).1)
      (h.handleLeave now gap sender).2 := by
  have hidentified := hs.identify sender now gap
  rw [Hub.handleLeave, identify_eq]
  cases h.clients.find? sender with
  | none => exact hidentified.quiet rfl
  | some id => exact (hidentified.remove id).quiet (issued_signals _)

theorem handleQueryPosition (hs : Sound limit ids h) (now : Moment) (gap : List Moment)
    (sender : Address) : Sound limit (ids ++ issued (h.handleQueryPosition now gap sender).1)
      (h.handleQueryPosition now gap sender).2 := by
  have hidentified := hs.identify sender now gap
  rw [Hub.handleQueryPosition, identify_eq]
  cases h.clients.find? sender with
  | none => exact hidentified.quiet rfl
  | some id => exact hidentified.quiet rfl

theorem handleTransferFailed (hs : Sound limit ids h) (now : Moment) (gap : List Moment)
    (sender : Address) (reason : String) :
    Sound limit (ids ++ issued (h.handleTransferFailed now gap sender reason).1)
      (h.handleTransferFailed now gap sender reason).2 := by
  have hidentified := hs.identify sender now gap
  rw [Hub.handleTransferFailed, identify_eq]
  cases h.clients.find? sender with
  | none => exact hidentified.quiet rfl
  | some id =>
    dsimp only
    split
    · exact hidentified.quiet rfl
    · next p hp =>
      exact (hidentified.requeue (mem_of_pendingOf hp) _ _).quiet (issued_signals _)

theorem handleDisconnect (hs : Sound limit ids h) (sender : Address) :
    Sound limit (ids ++ issued (h.handleDisconnect sender).1) (h.handleDisconnect sender).2 := by
  rw [Hub.handleDisconnect]
  cases h.clients.find? sender with
  | none => exact hs.quiet rfl
  | some id =>
    have hclosed : Sound limit ids { h with clients := (h.clients.remove id).2 } :=
      hs.shrink (h.clients.connections_remove id ▸ List.filter_sublist) rfl rfl
    exact ((hclosed.remove id).forgetTransfer id).quiet (issued_signals _)

theorem handleAcross (hs : Sound limit ids h) (now : Moment) (gap : List Moment) (sender : Address)
    (packet : Packet) : Sound limit (ids ++ issued (h.handleAcross now gap sender packet).1)
      (h.handleAcross now gap sender packet).2 := by
  -- Backends are not players: nothing that they send touches the players or their tickets.
  have hbackend {h' : Hub} {out : List Outbound} (hclients : h'.clients = h.clients)
      (hqueue : h'.queue = h.queue) (hpending : h'.pending = h.pending)
      (hoverdue : h'.overdue = h.overdue) (hout : issued out = []) :
      Sound limit (ids ++ issued out) h' := by
    refine (hs.of_held hclients (fun _ hid => hoverdue ▸ hid) (hpending ▸ hs.owner) ?_).quiet hout
    rw [held, hqueue, hpending]
    exact .refl _
  cases packet with
  | connect version => exact hs.handleConnect now sender version
  | joinQueue target rank => exact hs.handleJoin now gap sender target rank
  | leaveQueue => exact hs.handleLeave now gap sender
  | queryPosition => exact hs.handleQueryPosition now gap sender
  | transferFailed reason => exact hs.handleTransferFailed now gap sender reason
  | heartbeat => exact (hs.identify sender now gap).quiet rfl
  | disconnect => exact hs.handleDisconnect sender
  | statusReport server current max => exact hbackend rfl rfl rfl rfl rfl
  | restartRequest server => exact hbackend rfl rfl rfl rfl rfl
  | restartComplete server => exact hbackend rfl rfl rfl rfl rfl
  | unauthorizedRestart server => exact hbackend rfl rfl rfl rfl rfl
  | stateQuery =>
    refine hs.quiet ?_
    show issued [.toAddress sender (stateReply h.restarts.state)] = []
    rw [stateReply]
    split
    · rfl
    · rfl
  | _ => exact hs.quiet rfl

/-! ## Events -/

theorem step (hs : Sound limit ids h) (o : Occurrence) :
    Sound limit (ids ++ issued (h.step o).1) (h.step o).2 := by
  have hquiet {h' : Hub} (hs' : Sound limit ids h') : Sound limit (ids ++ issued []) h' :=
    hs'.quiet rfl
  rw [Hub.step]
  cases o.event with
  | packet sender packet => exact hs.handleAcross o.now o.firstGap sender packet
  | reconcile => exact hs.reconcileAcross o.now o.firstGap o.secondGap
  | expireTransfers => exact hquiet (hs.expireTransfers o.now)
  | checkHealth => exact hquiet (hs.of_held rfl (fun _ hid => hid) hs.owner (.refl _))
  | sweepRestarts => exact hquiet (hs.of_held rfl (fun _ hid => hid) hs.owner (.refl _))
  | checkClients => exact hquiet (hs.checkClients o.now)
  | forgetOverdue place => exact hquiet (hs.forgetOverdue place)

theorem run (hs : Sound limit ids h) (run : List Occurrence) :
    Sound limit (ids ++ issued (h.run run).1) (h.run run).2 := by
  induction run generalizing ids h with
  | nil => exact hs.quiet rfl
  | cons o rest ih =>
    rw [Hub.run, issued_append, ← List.append_assoc]
    exact ih (hs.step o)

end Sound

/-- As long as no id has come up twice, the connections that were made have different ids. -/
theorem nodup_arrivals (config : Config) (options : Options) (run : List Occurrence)
    (hfew : (issued ((Hub.new config options).run run).1).length < UInt32.size - 1) :
    ((arrivals ((Hub.new config options).run run).1).map (·.2)).Nodup := by
  have hcounted := ((Sound.new config options).run run).counted
  rw [List.nil_append] at hcounted
  rw [map_snd_arrivals, hcounted]
  exact nodup_firstIds (Nat.lt_of_lt_of_le hfew (Nat.sub_le ..))

end Hub

end GameHub
