import GameHub.Proofs.Admission.Refinement
import GameHub.Proofs.Hub.Frames

/-!
# The line of the hub is that of a desk

All that the hub does with its queue is to call its operations, and it only hands back decisions
that the queue has made: the one that it has just got, or one that it remembers with a transfer. So
at any time its queue is that of a desk after some run of calls (`exists_desk`), and what holds of
the line of every desk holds of the line of the hub.
-/

namespace GameHub

open Admission

namespace Admission.Desk

/-- Decisions are never forgotten. -/
theorem decisions_subset_step (d : Desk) (call : Call) :
    d.decisions ⊆ (d.step call).2.decisions := by
  cases call with
  | reconcile snapshot live => exact List.subset_append_left ..
  | requeue number error live =>
    rw [step]
    split <;> exact List.Subset.refl _
  | _ => exact List.Subset.refl _

/-- A decision that the desk has made can be handed back. -/
theorem exists_requeue {d : Desk} {decision : Decision} (h : decision ∈ d.decisions)
    (error : TransferError) (live : PlayerId → Bool) : ∃ call,
      (d.step call).2 = { d with queue := (d.queue.requeue decision error live).queue } := by
  obtain ⟨number, hnumber⟩ := List.mem_iff_getElem?.mp h
  refine ⟨.requeue number error live, ?_⟩
  rw [step, hnumber]

end Admission.Desk

namespace Hub

/-- The queue is that of the desk, and the desk has made the decisions that are remembered. -/
structure Served (h : Hub) (d : Desk) : Prop where
  queue : h.queue = d.queue
  decided : ∀ transfer ∈ h.pending, transfer.2.decision ∈ d.decisions

namespace Served

variable {h h' : Hub} {d : Desk}

theorem new (config : Config) (options : Options) :
    (Hub.new config options).Served (.new config.admission) :=
  ⟨rfl, fun _ ht => absurd ht List.not_mem_nil⟩

/-- Transfers are forgotten, and the queue is left alone. -/
theorem of_subset (hs : h.Served d) (hqueue : h'.queue = h.queue)
    (hpending : h'.pending ⊆ h.pending) : h'.Served d :=
  ⟨hqueue.trans hs.queue, fun t ht => hs.decided t (hpending ht)⟩

/-- The queue is called, and transfers are forgotten. -/
theorem of_call (hs : h.Served d) (call : Call) (hqueue : h'.queue = (d.step call).2.queue)
    (hpending : h'.pending ⊆ h.pending) : h'.Served (d.step call).2 :=
  ⟨hqueue, fun t ht => d.decisions_subset_step call (hs.decided t (hpending ht))⟩

/-! ## Packets -/

theorem identify (hs : h.Served d) (sender : Address) (now : Moment) (gap : List Moment) :
    (h.identify sender now gap).2.Served d :=
  hs.of_subset (queue_identify ..) fun _ ht => pending_identify h sender now gap ▸ ht

/-- A packet makes the hub call its queue once, or not at all. -/
theorem handleAcross (hs : h.Served d) (now : Moment) (gap : List Moment) (sender : Address)
    (packet : Packet) : (h.handleAcross now gap sender packet).2.Served d ∨
      ∃ call, (h.handleAcross now gap sender packet).2.Served (d.step call).2 := by
  have hidentified := hs.identify sender now gap
  cases packet with
  | connect version =>
    refine .inl ?_
    rw [Hub.handleAcross, handleConnect]
    split
    · exact hs
    · split <;> exact hs.of_subset rfl (List.Subset.refl _)
  | joinQueue target rank =>
    rw [Hub.handleAcross, handleJoin, identify_eq]
    cases h.clients.find? sender with
    | none => exact .inl hidentified
    | some id =>
      refine .inr ⟨.enqueue id rank target now.wall (h.identify sender now gap).2.registry,
        hidentified.of_call _ ?_ List.filter_sublist.subset⟩
      rw [Desk.step, ← hidentified.queue]
      rfl
  | leaveQueue =>
    rw [Hub.handleAcross, handleLeave, identify_eq]
    cases h.clients.find? sender with
    | none => exact .inl hidentified
    | some id =>
      refine .inr ⟨.remove id, hidentified.of_call _ ?_ (List.Subset.refl _)⟩
      rw [Desk.step, ← hidentified.queue]
  | queryPosition =>
    rw [Hub.handleAcross, handleQueryPosition_snd]
    exact .inl hidentified
  | transferFailed reason =>
    rw [Hub.handleAcross, handleTransferFailed, identify_eq]
    cases h.clients.find? sender with
    | none => exact .inl hidentified
    | some id =>
      dsimp only
      split
      · exact .inl hidentified
      · next p hp =>
        -- The decision is one that the queue has made, so it can be handed back by its number.
        obtain ⟨call, hcall⟩ := Desk.exists_requeue (hidentified.decided _ (mem_of_pendingOf hp))
          (.rejected reason) (h.identify sender now gap).2.live
        refine .inr ⟨call, hidentified.of_call call ?_ List.filter_sublist.subset⟩
        rw [hcall, ← hidentified.queue]
        rfl
  | heartbeat => exact .inl hidentified
  | disconnect =>
    rw [Hub.handleAcross, handleDisconnect]
    split
    · exact .inl hs
    · next id _ =>
      refine .inr ⟨.remove id, hs.of_call _ ?_ List.filter_sublist.subset⟩
      rw [Desk.step, ← hs.queue]
      rfl
  | _ => exact .inl (hs.of_subset rfl (List.Subset.refl _))

/-! ## Runs -/

/-- A pass is one call, and a second one if the player who was admitted is gone. -/
theorem reconcileAcross (hs : h.Served d) (now : Moment) (first second : List Moment) :
    ∃ calls, (h.reconcileAcross now first second).2.Served (d.run calls).2 := by
  have hcases := reconcileAcross_cases h now first second
  generalize hpass : h.queue.reconcile h.registry.records h.live = pass at hcases
  have hcall : (d.step (.reconcile h.registry.records h.live)).2 =
      ⟨pass.queue, d.decisions ++ pass.result.toList⟩ := by
    rw [Desk.step, ← hs.queue, hpass]
  have hpassed : Served { h with queue := pass.queue }
      (d.step (.reconcile h.registry.records h.live)).2 :=
    hs.of_call _ (by rw [hcall]) (List.Subset.refl _)
  -- The decision of the pass is among those that can be handed back.
  have hmade : ∀ decision, pass.result = some decision →
      decision ∈ (d.step (.reconcile h.registry.records h.live)).2.decisions := by
    intro decision hsome
    rw [hcall, hsome]
    exact List.mem_append_right _ List.mem_cons_self
  rcases hcases with ⟨-, heq⟩ | ⟨decision, hsome, ⟨address, -, heq⟩ | ⟨-, heq⟩⟩
  · rw [heq]
    refine ⟨[.reconcile h.registry.records h.live], hpassed.of_subset rfl ?_⟩
    intro transfer ht
    exact pending_lapse h first ▸ ht
  · rw [heq]
    refine ⟨[.reconcile h.registry.records h.live], hpassed.queue, ?_⟩
    intro transfer ht
    rcases List.mem_cons.mp ht with rfl | ht
    · exact hmade decision hsome
    · exact hpassed.decided transfer (pending_lapse h first ▸ List.mem_of_mem_filter ht)
  · rw [heq]
    have hpending : ((h.lapse first).lapse second).pending = h.pending :=
      (pending_lapse ..).trans (pending_lapse ..)
    obtain ⟨call, hback⟩ := Desk.exists_requeue (hmade decision hsome) .subjectGone
      ((h.lapse first).lapse second).live
    refine ⟨[.reconcile h.registry.records h.live, call], hpassed.of_call call ?_ ?_⟩
    · rw [hback, hcall]
    · intro transfer ht
      exact hpending ▸ ht

theorem step (hs : h.Served d) (o : Occurrence) :
    ∃ calls, (h.step o).2.Served (d.run calls).2 := by
  rw [Hub.step]
  cases o.event with
  | packet sender packet =>
    rcases hs.handleAcross o.now o.firstGap sender packet with hsame | ⟨call, hcall⟩
    · exact ⟨[], hsame⟩
    · exact ⟨[call], hcall⟩
  | reconcile => exact hs.reconcileAcross o.now o.firstGap o.secondGap
  | expireTransfers => exact ⟨[], hs.of_subset rfl List.filter_sublist.subset⟩
  | forgetOverdue place =>
    refine ⟨[], ?_⟩
    show (h.forgetOverdue place).Served d
    rw [forgetOverdue]
    split
    · exact hs.of_subset rfl List.filter_sublist.subset
    · exact hs
  | _ => exact ⟨[], hs.of_subset rfl (List.Subset.refl _)⟩

theorem run (hs : h.Served d) (run : List Occurrence) :
    ∃ calls, (h.run run).2.Served (d.run calls).2 := by
  induction run generalizing h d with
  | nil => exact ⟨[], hs⟩
  | cons o rest ih =>
    obtain ⟨calls, hstep⟩ := hs.step o
    obtain ⟨later, hrest⟩ := ih hstep
    exact ⟨calls ++ later, (d.snd_run_append calls later).symm ▸ hrest⟩

end Served

/-- At any time the queue of the hub is that of a desk. -/
theorem exists_desk (config : Config) (options : Options) (run : List Occurrence) :
    ∃ calls, ((Hub.new config options).run run).2.Served
      ((Desk.new config.admission).run calls).2 :=
  (Served.new config options).run run

/-- The places that are kept are those of the configuration. -/
theorem policy_queue_run (config : Config) (options : Options) (run : List Occurrence) :
    ((Hub.new config options).run run).2.queue.policy = config.admission := by
  obtain ⟨calls, hserved⟩ := exists_desk config options run
  rw [hserved.queue, Desk.policy_run]
  rfl

/-- At any time the queue of the hub models a line, and the transfers are offers that were made in
it. -/
theorem exists_line (config : Config) (options : Options) (run : List Occurrence) :
    let h := ((Hub.new config options).run run).2
    ∃ p : PlainDesk, p.Numbered ∧ Models h.queue p.line ∧
      ∀ transfer ∈ h.pending, transfer.2.decision.offer ∈ p.offers := by
  intro h
  obtain ⟨calls, hserved⟩ := exists_desk config options run
  obtain ⟨-, hrefines, hnumbered⟩ :=
    (Desk.Refines.new config.admission).run (.new config.admission) calls
  refine ⟨_, hnumbered, hserved.queue ▸ hrefines.models, ?_⟩
  intro transfer ht
  rw [← hrefines.offers]
  exact List.mem_map_of_mem (hserved.decided transfer ht)

end Hub

end GameHub
