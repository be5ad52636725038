import GameHub.Proofs.Hub.Fate
import GameHub.Proofs.Hub.Transfers

/-!
# Leaving the line

A player who has neither a place in line nor a transfer that may still fail gets neither but by
joining (`underway_step`), and is sent nowhere until then (`not_sent_step`).

Leaving the line takes away the place, but not the transfer; joining, disconnecting and silence end
both.

**Theorem (`leaving_is_final`).** A player who leaves the line is not in it afterwards. If no
transfer of the player may still fail, that holds until the player joins again, and until then the
player is sent nowhere, whatever happens. If one may still fail, it does not hold: a report that it
failed puts the player back in line.
-/

namespace GameHub

open Admission

/-- The packet goes to this player. -/
def Outbound.isFor (h : Hub) (id : PlayerId) : Outbound → Prop
  | .toAddress address _ => h.clients.find? address = some id
  | .toPlayer other _ => other = id

namespace Hub

/-- The event is that this player joins the line. -/
def Event.joinedBy (h : Hub) (id : PlayerId) : Event → Prop
  | .packet sender (.joinQueue ..) => h.clients.find? sender = some id
  | _ => False

/-- In no event of the run does this player join the line. -/
def NeverJoins (h : Hub) (id : PlayerId) (run : List Occurrence) : Prop :=
  ∀ first o rest, run = first ++ o :: rest → ¬ o.event.joinedBy (h.run first).2 id

/-- Until this player joins the line, the player is not in it and is sent nowhere, whatever
happens. -/
def StaysOut (h : Hub) (id : PlayerId) : Prop :=
  ∀ later, h.NeverJoins id later → (h.run later).2.queue.isQueued id = false ∧
    ∀ first o rest, later = first ++ o :: rest → ∀ sent ∈ ((h.run first).2.step o).1,
      sent.isFor (h.run first).2 id → sent.destination? = none

/-- The players in line and those on the way to a backend. -/
def underway (h : Hub) : List PlayerId := h.held.map (·.subject)

variable {h h' : Hub} {id : PlayerId}

/-! ## Runs without joining -/

theorem NeverJoins.head {o : Occurrence} {rest : List Occurrence}
    (hnever : h.NeverJoins id (o :: rest)) : ¬ o.event.joinedBy h id :=
  hnever [] o rest rfl

theorem NeverJoins.tail {o : Occurrence} {rest : List Occurrence}
    (hnever : h.NeverJoins id (o :: rest)) : (h.step o).2.NeverJoins id rest := by
  intro first o' rest' hrest
  exact hnever (o :: first) o' rest' (congrArg (o :: ·) hrest)

theorem NeverJoins.of_append {first rest : List Occurrence}
    (hnever : h.NeverJoins id (first ++ rest)) : h.NeverJoins id first := by
  intro first' o rest' hfirst
  refine hnever first' o (rest' ++ rest) ?_
  rw [hfirst, List.append_assoc, List.cons_append]

/-- To report a transfer that failed is not to join. -/
theorem neverJoins_transferFailed (h : Hub) (id : PlayerId) (now : Moment) (player : Address)
    (reason : String) :
    h.NeverJoins id [.plain now (.packet player (.transferFailed reason))] := by
  intro first o rest hsplit hjoined
  have ho : o ∈ [Occurrence.plain now (.packet player (.transferFailed reason))] :=
    hsplit ▸ List.mem_append_right first List.mem_cons_self
  rw [List.mem_singleton.mp ho] at hjoined
  exact hjoined

/-! ## Tickets

Only joining makes a ticket. -/

theorem held_identify (h : Hub) (sender : Address) (now : Moment) (gap : List Moment) :
    (h.identify sender now gap).2.held = h.held :=
  held_congr (queue_identify ..) (pending_identify ..)

theorem held_handleConnect (h : Hub) (now : Moment) (sender : Address) (version : UInt32) :
    (h.handleConnect now sender version).2.held = h.held := by
  rw [handleConnect]
  split
  · rfl
  · split <;> rfl

theorem held_handleAcross (htickets : (h.queue.ledger.tickets.map (·.subject)).Nodup)
    (now : Moment) (gap : List Moment) (sender : Address) (packet : Packet)
    (hpacket : ∀ target rank, packet ≠ .joinQueue target rank) :
    (h.handleAcross now gap sender packet).2.held.Subperm h.held := by
  have hidentify := held_identify h sender now gap
  have hqueue := queue_identify h sender now gap
  cases packet with
  | connect version => exact held_handleConnect h now sender version ▸ .refl _
  | joinQueue target rank => exact absurd rfl (hpacket target rank)
  | leaveQueue =>
    rw [handleAcross, handleLeave, identify_eq, ← hidentify]
    cases h.clients.find? sender with
    | none => exact .refl _
    | some id => exact held_with_queue (Queue.remove_subperm (hqueue ▸ htickets) id)
  | queryPosition =>
    rw [handleAcross, handleQueryPosition_snd, hidentify]
  | transferFailed reason =>
    rw [handleAcross, handleTransferFailed, identify_eq, ← hidentify]
    cases h.clients.find? sender with
    | none => exact .refl _
    | some id =>
      dsimp only
      split
      · exact .refl _
      · -- The ticket only moves from the transfers back to the line.
        next p hp => exact held_requeue (mem_of_pendingOf hp) _ _
  | heartbeat =>
    rw [handleAcross, hidentify]
  | disconnect =>
    rw [handleAcross, handleDisconnect]
    split
    · exact .refl _
    · next id _ =>
      refine (held_filter_pending _ _).trans ?_
      exact held_with_queue (Queue.remove_subperm htickets id)
  | _ => exact .refl _

theorem held_reconcileAcross (htickets : (h.queue.ledger.tickets.map (·.subject)).Nodup)
    (now : Moment) (first second : List Moment) :
    (h.reconcileAcross now first second).2.held.Subperm h.held := by
  have hparts := Queue.reconcile_subperm htickets h.registry.records h.live
  have hcases := reconcileAcross_cases h now first second
  generalize h.queue.reconcile h.registry.records h.live = pass at hparts hcases
  have hfirst : (h.lapse first).held = h.held := held_congr (queue_lapse ..) (pending_lapse ..)
  have hsecond : ((h.lapse first).lapse second).held = (h.lapse first).held :=
    held_congr (queue_lapse ..) (pending_lapse ..)
  rcases hcases with ⟨hnone, heq⟩ | ⟨d, hsome, ⟨address, -, heq⟩ | ⟨-, heq⟩⟩
  · rw [hnone] at hparts
    rw [heq, ← hfirst]
    exact held_with_queue (by simpa using hparts)
  · rw [hsome] at hparts
    rw [heq, ← hfirst]
    exact held_handOver (by simpa using hparts) now.instant
  · rw [hsome] at hparts
    rw [heq, ← hfirst, ← hsecond]
    refine held_with_queue ((Queue.requeue_subperm ..).trans ?_)
    simpa using hparts

theorem held_step (htickets : (h.queue.ledger.tickets.map (·.subject)).Nodup) (o : Occurrence)
    (hevent : ∀ sender target rank, o.event ≠ .packet sender (.joinQueue target rank)) :
    (h.step o).2.held.Subperm h.held := by
  rw [step]
  cases heq : o.event with
  | packet sender packet =>
    exact held_handleAcross htickets _ _ _ _ fun target rank hpacket =>
      hevent sender target rank (hpacket ▸ heq)
  | reconcile => exact held_reconcileAcross htickets ..
  | expireTransfers => exact held_filter_pending ..
  | forgetOverdue place =>
    show (h.forgetOverdue place).held.Subperm h.held
    rw [forgetOverdue]
    split
    · exact held_filter_pending ..
    · exact .refl _
  | _ => exact .refl _

theorem underway_subset (hheld : h'.held.Subperm h.held) (hid : id ∈ h'.underway) :
    id ∈ h.underway :=
  List.map_subset _ hheld.subset hid

theorem mem_underway_of_isQueued (hqueued : h.queue.isQueued id = true) : id ∈ h.underway := by
  obtain ⟨t, ht, rfl⟩ := Queue.isQueued_iff.mp hqueued
  exact List.mem_map_of_mem (List.mem_append_left _ ht)

namespace Sound

variable {limit : Nat} {ids : List PlayerId}

theorem mem_underway_iff (hs : Sound limit ids h) :
    id ∈ h.underway ↔ h.queue.isQueued id = true ∨ ∃ p, h.pendingOf id = some p := by
  constructor
  · intro hid
    obtain ⟨t, ht, rfl⟩ := List.mem_map.mp hid
    rcases List.mem_append.mp ht with ht | ht
    · exact .inl (Queue.isQueued_iff.mpr ⟨t, ht, rfl⟩)
    · obtain ⟨⟨key, p⟩, hp, rfl⟩ := List.mem_map.mp ht
      refine .inr ⟨p, hs.pendingOf_iff.mpr ?_⟩
      rwa [show p.decision.entry.ticket.subject = key from hs.owner _ hp]
  · rintro (hqueued | ⟨p, hp⟩)
    · exact mem_underway_of_isQueued hqueued
    · have hp := mem_of_pendingOf hp
      refine List.mem_map.mpr ⟨p.decision.entry.ticket, ?_, hs.owner _ hp⟩
      exact List.mem_append_right _ (List.mem_map_of_mem hp)

/-! ## One event -/

/-- Joining makes a ticket for the player who joins, and for nobody else. -/
theorem underway_handleJoin (hs : Sound limit ids h) {now : Moment} {gap : List Moment}
    {sender : Address} {target : String} {rank : Rank} (hother : h.clients.find? sender ≠ some id)
    (hid : id ∈ (h.handleJoin now gap sender target rank).2.underway) : id ∈ h.underway := by
  have hidentified := hs.identify sender now gap
  rw [underway, ← held_identify h sender now gap]
  rw [Hub.handleJoin, identify_eq] at hid
  cases hsender : h.clients.find? sender with
  | none =>
    rw [hsender] at hid
    exact hid
  | some other =>
    rw [hsender] at hid hother
    have hperm := held_enqueue (hidentified.forgetTransfer other).tickets_nodup other rank target
      now.wall
    obtain ⟨t, ht, rfl⟩ := List.mem_map.mp hid
    rcases List.mem_cons.mp (hperm.mem_iff.mp ht) with rfl | ht
    · exact absurd rfl hother
    · refine List.mem_map_of_mem ?_
      exact (List.filter_sublist.append (List.filter_sublist.map _)).mem ht

/-- Only by joining does a player get a ticket. -/
theorem underway_step (hs : Sound limit ids h) {o : Occurrence} (hnever : ¬ o.event.joinedBy h id)
    (hid : id ∈ (h.step o).2.underway) : id ∈ h.underway := by
  by_cases hjoin : ∃ sender target rank, o.event = .packet sender (.joinQueue target rank)
  · obtain ⟨sender, target, rank, hevent⟩ := hjoin
    rw [Hub.step, hevent] at hid
    rw [hevent] at hnever
    exact hs.underway_handleJoin hnever hid
  · refine underway_subset (held_step hs.tickets_nodup o fun sender target rank hevent => ?_) hid
    exact hjoin ⟨sender, target, rank, hevent⟩

/-- Whoever is not in line is sent nowhere. -/
theorem not_sent_step (hs : Sound limit ids h) (o : Occurrence) (hout : id ∉ h.underway)
    {sent : Outbound} (hsent : sent ∈ (h.step o).1) (hfor : sent.isFor h id) :
    sent.destination? = none := by
  by_contra hsome
  have hmem : sent ∈ transfers (h.step o).1 :=
    List.mem_filter.mpr ⟨hsent, Option.isSome_iff_ne_none.mpr hsome⟩
  rcases transfers_step h o with hnone | ⟨-, d, address, hadmitted, haddress, hone⟩
  · rw [hnone] at hmem
    exact List.not_mem_nil hmem
  · rw [hone, List.mem_singleton] at hmem
    subst hmem
    -- The player at the address is the one who was admitted, and that one was in line.
    have hthere := (connections_lapse h o.firstGap).mem
      ((hs.lapse o.firstGap).clients.addressOf?_iff.mp haddress)
    have hself : d.entry.subject = id :=
      Option.some.inj ((hs.clients.find?_iff.mpr hthere).symm.trans hfor)
    have hparts := Queue.reconcile_subperm hs.tickets_nodup h.registry.records h.live
    rw [hadmitted] at hparts
    have hticket := hparts.subset (List.mem_append_left _ (List.mem_singleton_self _))
    exact hout (mem_underway_of_isQueued (Queue.isQueued_iff.mpr ⟨_, hticket, hself⟩))

/-! ## Runs -/

theorem underway_run (hs : Sound limit ids h) {run : List Occurrence}
    (hnever : h.NeverJoins id run) (hid : id ∈ (h.run run).2.underway) : id ∈ h.underway := by
  induction run generalizing ids h with
  | nil => exact hid
  | cons o rest ih => exact hs.underway_step hnever.head (ih (hs.step o) hnever.tail hid)

/-- A player without a ticket stays out of line until joining. -/
theorem staysOut (hs : Sound limit ids h) (hout : id ∉ h.underway) : h.StaysOut id := by
  intro later hnever
  refine ⟨Bool.eq_false_iff.mpr fun hqueued => ?_, fun first o rest hlater sent hsent hfor => ?_⟩
  · exact hout (hs.underway_run hnever (mem_underway_of_isQueued hqueued))
  · refine (hs.run first).not_sent_step o (fun hid => ?_) hsent hfor
    rw [hlater] at hnever
    exact hout (hs.underway_run hnever.of_append hid)

/-! ## Leaving -/

/-- Leaving takes a player out of line, and does nothing to the transfers. -/
theorem handleLeave_leaves (hs : Sound limit ids h) {player : Address}
    (hsender : h.clients.find? player = some id) (now : Moment) (gap : List Moment) :
    (h.handleLeave now gap player).2.queue.isQueued id = false ∧
      (h.handleLeave now gap player).2.pending = h.pending := by
  have hqueue := queue_identify h player now gap
  rw [Hub.handleLeave, identify_eq, hsender]
  refine ⟨Bool.eq_false_iff.mpr fun hqueued => ?_, pending_identify h player now gap⟩
  obtain ⟨t, ht, hsubject⟩ := Queue.isQueued_iff.mp hqueued
  have ht := (Queue.remove_perm (hqueue ▸ hs.tickets_nodup) id).mem_iff.mp ht
  exact of_decide_eq_true (List.mem_filter.mp ht).2 hsubject

/-- A player whose transfer may still fail is put back in line by a report that it failed. -/
theorem not_staysOut (hs : Sound limit ids h) {player : Address}
    (hsender : h.clients.find? player = some id) {p : Pending} (hp : h.pendingOf id = some p) :
    ¬ h.StaysOut id := by
  intro hstays
  let failed : Occurrence := .plain default (.packet player (.transferFailed ""))
  have hnever : h.NeverJoins id [failed] := neverJoins_transferFailed _ _ _ _ _
  have hthere : (player, id) ∈ (h.step failed).2.clients.connections := by
    obtain ⟨queue, pending, heq⟩ := handleAcross_of_looksUpSender h player default []
      (show (Packet.transferFailed "").looksUpSender = true from rfl)
    rw [show (h.step failed).2 = _ from heq, Hub.identify, hsender]
    exact (h.clients.connections_touch id _).symm ▸ hs.clients.find?_iff.mp hsender
  obtain ⟨hperm, -⟩ := hs.handleTransferFailed_returns hsender hp hthere
  have howner : p.decision.entry.ticket.subject = id := hs.owner _ (mem_of_pendingOf hp)
  have hback : (h.step failed).2.queue.isQueued id = true :=
    Queue.isQueued_iff.mpr ⟨_, hperm.mem_iff.mpr List.mem_cons_self, howner⟩
  exact Bool.false_ne_true ((hstays [failed] hnever).1.symm.trans hback)

end Sound

/-! ## The result -/

/-- **Leaving the line is final exactly if no transfer of the player may still fail.** -/
theorem leaving_is_final (config : Config) (options : Options) (before : List Occurrence)
    (leave : Occurrence) (player : Address) (id : PlayerId)
    (hleave : leave.event = .packet player .leaveQueue)
    (hsender : ((Hub.new config options).run before).2.clients.find? player = some id) :
    let start := ((Hub.new config options).run before).2
    let left := (start.step leave).2
    left.queue.isQueued id = false ∧
      (start.pendingOf id = none → left.StaysOut id) ∧
      (left.clients.find? player = some id → left.StaysOut id → start.pendingOf id = none) := by
  intro start left
  have hstart : Sound options.maxClients _ start := (Sound.new config options).run before
  have hleft := hstart.step leave
  have heq : left = (start.handleLeave leave.now leave.firstGap player).2 := by
    show (start.step leave).2 = _
    rw [step, hleave]
    rfl
  obtain ⟨hout, hpending⟩ := hstart.handleLeave_leaves hsender leave.now leave.firstGap
  rw [← heq] at hout hpending
  have hpendingOf := pendingOf_congr hpending id
  refine ⟨hout, fun hnone => hleft.staysOut fun hid => ?_, fun hthere hstays => ?_⟩
  · rcases hleft.mem_underway_iff.mp hid with hqueued | ⟨p, hp⟩
    · cases hout.symm.trans hqueued
    · cases (hpendingOf.trans hnone).symm.trans hp
  · by_contra hsome
    obtain ⟨p, hp⟩ := Option.ne_none_iff_exists'.mp hsome
    exact hleft.not_staysOut hthere (hpendingOf.trans hp) hstays

section Runs

-- The runs below are evaluated by the kernel alone; unfolding them while terms are matched is slow.
attribute [local irreducible] Hub.run

/-- A player leaves while waiting: the backend has no place. -/
theorem leaving_is_final_of_waiting :
    let config : Config := ⟨[⟨"lobby", none, "10.0.0.2:25565", none⟩], default, default, default⟩
    let player : Address := ⟨.v4 10 0 0 9, 4000⟩
    let now : Moment := ⟨0, ⟨0⟩⟩
    let before := [.plain now (.packet player (.connect protocolVersion)),
      .plain now (.packet ⟨.v4 10 0 0 2, 4001⟩ (.statusReport "lobby" 20 20)),
      .plain now (.packet player (.joinQueue "lobby" .player)), .plain now .reconcile]
    let leave : Occurrence := .plain now (.packet player .leaveQueue)
    let start := ((Hub.new config default).run before).2
    start.clients.find? player = some 1 ∧ start.queue.isQueued 1 = true ∧
      (start.step leave).2.queue.isQueued 1 = false ∧ (start.step leave).2.StaysOut 1 := by
  intro config player now before leave start
  have hsender : start.clients.find? player = some 1 := by decide +kernel
  obtain ⟨hout, hstays, -⟩ := leaving_is_final config default before leave player 1 rfl hsender
  exact ⟨hsender, by decide +kernel, hout, hstays (by decide +kernel)⟩

/-- A player leaves after being sent to a backend, reports that the transfer failed, and is put back
in line and sent there again without having joined. -/
theorem leaving_not_final_of_sent :
    let config : Config := ⟨[⟨"lobby", none, "10.0.0.2:25565", none⟩], default, default, default⟩
    let player : Address := ⟨.v4 10 0 0 9, 4000⟩
    let now : Moment := ⟨0, ⟨0⟩⟩
    let before := [.plain now (.packet player (.connect protocolVersion)),
      .plain now (.packet ⟨.v4 10 0 0 2, 4001⟩ (.statusReport "lobby" 0 20)),
      .plain now (.packet player (.joinQueue "lobby" .player)), .plain now .reconcile]
    let leave : Occurrence := .plain now (.packet player .leaveQueue)
    let failed : Occurrence := .plain now (.packet player (.transferFailed "full"))
    let left := (((Hub.new config default).run before).2.step leave).2
    left.clients.find? player = some 1 ∧ left.queue.isQueued 1 = false ∧
      (left.run [failed]).2.queue.isQueued 1 = true ∧
      .toAddress player (.transfer "lobby" "10.0.0.2:25565") ∈
        ((left.run [failed]).2.step (.plain now .reconcile)).1 ∧
      ¬ left.StaysOut 1 := by
  intro config player now before leave failed left
  have hback : (left.run [failed]).2.queue.isQueued 1 = true := by decide +kernel
  refine ⟨by decide +kernel, by decide +kernel, hback, by decide +kernel, fun hstays => ?_⟩
  have hnever : left.NeverJoins 1 [failed] := neverJoins_transferFailed _ _ _ _ _
  exact Bool.false_ne_true ((hstays [failed] hnever).1.symm.trans hback)

end Runs

end Hub

end GameHub
