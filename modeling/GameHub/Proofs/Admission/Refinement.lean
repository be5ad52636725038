import GameHub.Proofs.Admission.Models

/-!
# The admission queue answers like a plain line

A `Desk` is an admission queue together with the decisions that it has made. It answers every call
as the plain desk does, with the same signals, in every run. The argument is a simulation: a step
keeps `Desk.Refines`, as long as no two of the tickets that the plain desk knows, in line or on
offer, carry one number. `Numbered` says so, and every step keeps it, because a new ticket gets a
number above all others and a ticket that comes back is the one that was offered.

**Theorem (`replies_eq_plain`).** A run of calls on an empty queue gives the replies of the plain
desk and leaves the same players in line, each of them once. Any two queues of the same content give
the same replies from there on, so nothing shows how the heap array is laid out.
-/

namespace GameHub.Admission

/-! ## Numbers of insertions -/

namespace Line

theorem mem_put {l : Line} {t u : Ticket} :
    u ∈ (l.put t).tickets ↔ u = t ∨ u ∈ l.tickets ∧ u.subject ≠ t.subject := by
  have hperm := @perm_insertBy _ Ticket.notAfter t (l.without t.subject).tickets
  rw [put, hperm.mem_iff, List.mem_cons, without, restrict, List.mem_filter, decide_eq_true_iff]

theorem ticket_mem_of_walk (policy : Policy) (snapshot : List Backend.Record)
    (live : PlayerId → Bool) (tickets : List Ticket) :
    ∀ offer ∈ (walk policy snapshot live tickets).offer, offer.ticket ∈ tickets := by
  intro offer hoffer
  fun_induction walk policy snapshot live tickets with
  | case1 => exact absurd hoffer (by simp)
  | case2 t rest =>
    rw [← Option.some_inj.mp hoffer]
    exact List.mem_cons_self
  | case3 t rest _ _ _ _ _ ih => exact List.mem_cons_of_mem t (ih hoffer)
  | case4 t rest _ _ _ ih => exact List.mem_cons_of_mem t (ih hoffer)
  | case5 t rest _ _ ih => exact List.mem_cons_of_mem t (ih hoffer)

end Line

namespace PlainDesk

/-- The tickets in line and those on offer. -/
def known (d : PlainDesk) : List Ticket := d.line.tickets ++ d.offers.map (·.ticket)

/-- The ticket that a call puts in line for the first time. -/
def joins (d : PlainDesk) : Call → List Ticket
  | .enqueue subject rank target now _ => [⟨subject, rank, now, target, d.line.nextSeq⟩]
  | _ => []

theorem nextSeq_le_step (d : PlainDesk) (call : Call) :
    d.line.nextSeq ≤ (d.step call).2.line.nextSeq := by
  cases call with
  | enqueue subject rank target now backends => exact Nat.le_max_left ..
  | remove subject =>
    rw [PlainDesk.step]
    split <;> exact Nat.le_refl _
  | requeue number error live =>
    rw [PlainDesk.step]
    split
    · exact Nat.le_refl _
    · dsimp only
      split
      · exact Nat.le_max_left ..
      · exact Nat.le_refl _
  | _ => exact Nat.le_refl _

theorem mem_known_put {d : PlainDesk} {t u : Ticket}
    (h : u ∈ PlainDesk.known { d with line := d.line.put t }) : u = t ∨ u ∈ d.known := by
  rcases List.mem_append.mp h with hu | hu
  · exact (Line.mem_put.mp hu).imp_right fun hu => List.mem_append_left _ hu.1
  · exact .inr (List.mem_append_right _ hu)

/-- Whatever a call comes to, a ticket that is known after it was known before or has just joined.
-/
theorem mem_known_step {d : PlainDesk} {call : Call} {t : Ticket}
    (h : t ∈ (d.step call).2.known) : t ∈ d.known ∨ t ∈ d.joins call := by
  cases call with
  | enqueue subject rank target now backends =>
    exact (mem_known_put h).symm.imp_right List.mem_singleton.mpr
  | remove subject =>
    rw [PlainDesk.step] at h
    split at h
    · exact .inl (List.append_sublist_append_right _ |>.mpr List.filter_sublist |>.mem h)
    · exact .inl h
  | reconcile snapshot live =>
    -- A pass moves one ticket from the line to the decisions.
    rcases List.mem_append.mp h with ht | ht
    · exact .inl (List.mem_append_left _ ((Line.walk_kept_sublist ..).mem ht))
    · rcases List.mem_append.mp (List.map_append ▸ ht) with ht | ht
      · exact .inl (List.mem_append_right _ ht)
      · obtain ⟨offer, hoffer, rfl⟩ := List.mem_map.mp ht
        have hmem := Line.ticket_mem_of_walk d.policy snapshot live d.line.tickets offer
        exact .inl (List.mem_append_left _ (hmem (Option.mem_toList.mp hoffer)))
  | requeue number error live =>
    rw [PlainDesk.step] at h
    split at h
    · exact .inl h
    · next offer hoffer =>
      dsimp only at h
      split at h
      · -- The ticket of a decision returns to the line.
        rcases mem_known_put h with rfl | ht
        · exact .inl (List.mem_append_right _ (List.mem_map_of_mem (List.mem_of_getElem? hoffer)))
        · exact .inl ht
      · exact .inl h
  | _ => exact .inl h

/-- Every number stands for one insertion, and the next number is free. -/
structure Numbered (d : PlainDesk) : Prop where
  fresh : ∀ t ∈ d.known, t.seq < d.line.nextSeq
  unique : ∀ t ∈ d.known, ∀ u ∈ d.known, t.seq = u.seq → t = u

namespace Numbered

variable {d d' : PlainDesk}

theorem new (policy : Policy) : (PlainDesk.new policy).Numbered :=
  ⟨fun _ ht => (List.not_mem_nil ht).elim, fun _ ht => (List.not_mem_nil ht).elim⟩

theorem distinct (h : d.Numbered) : d.line.Distinct := by
  refine List.Nodup.map_on (fun t ht u hu => ?_) (.of_map _ d.line.unique)
  exact h.unique t (List.mem_append_left _ ht) u (List.mem_append_left _ hu)

theorem of_known (h : d.Numbered) (hknown : ∀ t ∈ d'.known, t ∈ d.known)
    (hseq : d.line.nextSeq ≤ d'.line.nextSeq) : d'.Numbered where
  fresh t ht := Nat.lt_of_lt_of_le (h.fresh t (hknown t ht)) hseq
  unique t ht u hu := h.unique t (hknown t ht) u (hknown u hu)

theorem of_join (h : d.Numbered) {t : Ticket} (ht : t.seq = d.line.nextSeq) :
    PlainDesk.Numbered { d with line := d.line.put t } := by
  refine ⟨fun u hu => ?_, fun u hu v hv heq => ?_⟩
  · show u.seq < max d.line.nextSeq (t.seq + 1)
    rcases mem_known_put hu with rfl | hu
    · omega
    · have := h.fresh u hu
      omega
  · rcases mem_known_put hu with rfl | hu' <;> rcases mem_known_put hv with rfl | hv'
    · rfl
    · have := h.fresh v hv'
      omega
    · have := h.fresh u hu'
      omega
    · exact h.unique u hu' v hv' heq

theorem of_return (h : d.Numbered) {offer : Offer} (hoffer : offer ∈ d.offers) :
    PlainDesk.Numbered { d with line := d.line.put offer.ticket } := by
  refine h.of_known (fun u hu => ?_) (Nat.le_max_left ..)
  rcases mem_known_put hu with rfl | hu
  · exact List.mem_append_right _ (List.mem_map_of_mem hoffer)
  · exact hu

theorem step (h : d.Numbered) (call : Call) : (d.step call).2.Numbered := by
  cases call with
  | enqueue subject rank target now backends => exact h.of_join rfl
  | _ =>
    refine h.of_known (fun t ht => ?_) (nextSeq_le_step ..)
    exact (mem_known_step ht).resolve_right List.not_mem_nil

end Numbered

end PlainDesk

/-! ## Simulation -/

namespace Queue

theorem policy_remove (q : Queue) (subject : PlayerId) :
    (q.remove subject).queue.policy = q.policy := by
  rw [remove]
  split
  · rfl
  · rfl

theorem policy_requeue (q : Queue) (decision : Decision) (error : TransferError)
    (live : PlayerId → Bool) : (q.requeue decision error live).queue.policy = q.policy := by
  rw [requeue]
  split
  · rfl
  · rfl

end Queue

/-- An admission queue with the decisions that it has made, oldest first. -/
structure Desk where
  queue : Queue
  decisions : List Decision

namespace Desk

def new (policy : Policy) : Desk := ⟨.empty policy, []⟩

/-- Answers a call by the operation of the queue. Positions in the heap array are left out. -/
def step (d : Desk) : Call → Reply × Desk
  | .enqueue subject rank target now backends =>
    let outcome := d.queue.enqueue subject rank target now backends
    (⟨.done, outcome.signals⟩, { d with queue := outcome.queue })
  | .remove subject =>
    let outcome := d.queue.remove subject
    (⟨.said outcome.result, outcome.signals⟩, { d with queue := outcome.queue })
  | .position subject live => (⟨.place (d.queue.position subject live), []⟩, d)
  | .isQueued subject => (⟨.said (d.queue.isQueued subject), []⟩, d)
  | .size => (⟨.count d.queue.size, []⟩, d)
  | .entries => (⟨.tickets (d.queue.entries.map Entry.ticket), []⟩, d)
  | .reconcile snapshot live =>
    let outcome := d.queue.reconcile snapshot live
    (⟨.offered (outcome.result.map Decision.offer), outcome.signals⟩,
      ⟨outcome.queue, d.decisions ++ outcome.result.toList⟩)
  | .refresh live =>
    let outcome := d.queue.refresh live
    (⟨.done, outcome.signals⟩, { d with queue := outcome.queue })
  | .requeue number error live =>
    match d.decisions[number]? with
    | none => (⟨.done, []⟩, d)
    | some decision =>
      let outcome := d.queue.requeue decision error live
      (⟨.said outcome.result, outcome.signals⟩, { d with queue := outcome.queue })

/-- The replies to a run of calls, and the desk after it. -/
def run (d : Desk) : List Call → List Reply × Desk
  | [] => ([], d)
  | call :: calls =>
    ((d.step call).1 :: ((d.step call).2.run calls).1, ((d.step call).2.run calls).2)

theorem fst_run_append (d : Desk) (first later : List Call) :
    (d.run (first ++ later)).1 = (d.run first).1 ++ ((d.run first).2.run later).1 := by
  induction first generalizing d with
  | nil => rfl
  | cons call first ih => exact congrArg ((d.step call).1 :: ·) (ih (d.step call).2)

theorem snd_run_append (d : Desk) (first later : List Call) :
    (d.run (first ++ later)).2 = ((d.run first).2.run later).2 := by
  induction first generalizing d with
  | nil => rfl
  | cons call first ih => exact ih (d.step call).2

/-- No call changes which places are kept for whom. -/
theorem policy_step (d : Desk) (call : Call) : (d.step call).2.queue.policy = d.queue.policy := by
  cases call with
  | remove subject => exact Queue.policy_remove ..
  | requeue number error live =>
    rw [step]
    split
    · rfl
    · exact Queue.policy_requeue ..
  | _ => rfl

theorem policy_run (d : Desk) (calls : List Call) :
    (d.run calls).2.queue.policy = d.queue.policy := by
  induction calls generalizing d with
  | nil => rfl
  | cons call calls ih => exact (ih (d.step call).2).trans (policy_step d call)

/-- The desk with another heap array in its queue. -/
def relaid (d : Desk) (heap : Array Entry) : Desk :=
  { d with queue := { d.queue with ledger := { d.queue.ledger with heap } } }

/-- The queue models the line, and the decisions are the offers. -/
structure Refines (d : Desk) (p : PlainDesk) : Prop where
  policy : d.queue.policy = p.policy
  models : Models d.queue p.line
  offers : d.decisions.map Decision.offer = p.offers

namespace Refines

variable {d : Desk} {p : PlainDesk}

theorem new (policy : Policy) : (Desk.new policy).Refines (.new policy) :=
  ⟨rfl, .empty policy, rfl⟩

theorem requeue (h : d.Refines p) (hn : p.Numbered) (number : Nat) (error : TransferError)
    (live : PlayerId → Bool) :
    (d.step (.requeue number error live)).1 = (p.step (.requeue number error live)).1 ∧
    (d.step (.requeue number error live)).2.Refines (p.step (.requeue number error live)).2 := by
  have hlookup : p.offers[number]? = d.decisions[number]?.map Decision.offer := by
    rw [← h.offers, List.getElem?_map]
  rw [step, PlainDesk.step, hlookup]
  cases hnumber : d.decisions[number]? with
  | none => exact ⟨rfl, h⟩
  | some decision =>
    have hoffer : decision.offer ∈ p.offers :=
      List.mem_of_getElem? (hlookup.trans (by rw [hnumber, Option.map_some]))
    dsimp only [Option.map_some]
    cases hdone : live decision.offer.ticket.subject &&
        !p.line.isQueued decision.offer.ticket.subject with
    | false =>
      rw [h.models.requeue_refused decision error live hdone]
      exact ⟨rfl, h⟩
    | true =>
      obtain ⟨hresult, hsignals, hmodels⟩ :=
        h.models.requeue_done decision error live hdone (hn.of_return hoffer).distinct
      rw [hresult, hsignals]
      exact ⟨rfl, (Queue.policy_requeue ..).trans h.policy, hmodels, h.offers⟩

theorem step (h : d.Refines p) (hn : p.Numbered) (call : Call) :
    (d.step call).1 = (p.step call).1 ∧ (d.step call).2.Refines (p.step call).2 := by
  have hd := hn.distinct
  cases call with
  | enqueue subject rank target now backends =>
    exact ⟨rfl, h.policy, h.models.enqueue subject rank target now backends, h.offers⟩
  | remove subject =>
    obtain ⟨hresult, hsignals, hmodels⟩ := h.models.remove subject
    rw [Desk.step, PlainDesk.step, hresult, hsignals]
    have hpolicy := (Queue.policy_remove d.queue subject).trans h.policy
    cases hqueued : p.line.isQueued subject with
    | false =>
      rw [hqueued] at hmodels
      exact ⟨rfl, hpolicy, hmodels, h.offers⟩
    | true =>
      rw [hqueued] at hmodels
      exact ⟨rfl, hpolicy, hmodels, h.offers⟩
  | position subject live =>
    rw [Desk.step, PlainDesk.step, h.models.position_eq hd]
    exact ⟨rfl, h⟩
  | isQueued subject =>
    rw [Desk.step, PlainDesk.step, h.models.isQueued_eq]
    exact ⟨rfl, h⟩
  | size =>
    rw [Desk.step, PlainDesk.step, h.models.size_eq]
    exact ⟨rfl, h⟩
  | entries =>
    rw [Desk.step, PlainDesk.step, Queue.entries, h.models.sorted_eq hd]
    exact ⟨rfl, h⟩
  | reconcile snapshot live =>
    obtain ⟨hoffer, hsignals, hmodels⟩ := h.models.reconcile hd snapshot live
    rw [h.policy] at hoffer hsignals hmodels
    rw [Desk.step, PlainDesk.step, hoffer, hsignals]
    -- Both sides keep the decision of the pass, as the same offer.
    refine ⟨rfl, h.policy, hmodels, ?_⟩
    rw [List.map_append, h.offers, ← Option.toList_map, hoffer]
  | refresh live =>
    rw [Desk.step, PlainDesk.step, Queue.refresh, h.models.progress_eq hd]
    exact ⟨rfl, h⟩
  | requeue number error live => exact h.requeue hn number error live

theorem run (h : d.Refines p) (hn : p.Numbered) (calls : List Call) :
    (d.run calls).1 = (p.run calls).1 ∧
    (d.run calls).2.Refines (p.run calls).2 ∧ (p.run calls).2.Numbered := by
  induction calls generalizing d p with
  | nil => exact ⟨rfl, h, hn⟩
  | cons call calls ih =>
    obtain ⟨hreply, hnext⟩ := h.step hn call
    obtain ⟨hreplies, hlast⟩ := ih hnext (hn.step call)
    rw [Desk.run, PlainDesk.run, hreply, hreplies]
    exact ⟨rfl, hlast⟩

/-- Only the content of the queue counts. -/
theorem relaid (h : d.Refines p) {heap : Array Entry}
    (hheap : (heap.toList.map Entry.ticket).Perm d.queue.ledger.tickets) :
    (d.relaid heap).Refines p :=
  ⟨h.policy, ⟨hheap.trans h.models.content, h.models.nextSeq⟩, h.offers⟩

end Refines

/-- Every queue that is reached models some line with a strict order. -/
theorem exists_models_run (policy : Policy) (calls : List Call) :
    ∃ l : Line, Models ((Desk.new policy).run calls).2.queue l ∧ l.Distinct := by
  obtain ⟨-, hrefines, hnumbered⟩ := (Refines.new policy).run (.new policy) calls
  exact ⟨_, hrefines.models, hnumbered.distinct⟩

/-! ## The result -/

/-- **The queue is a plain line.** It gives the same replies, has the same tickets in the same
order, no player has two of them, and the layout of the heap array never shows. -/
theorem replies_eq_plain (policy : Policy) (calls : List Call) :
    ((Desk.new policy).run calls).1 = ((PlainDesk.new policy).run calls).1 ∧
    ((Desk.new policy).run calls).2.queue.entries.map Entry.ticket =
      ((PlainDesk.new policy).run calls).2.line.tickets ∧
    (((Desk.new policy).run calls).2.queue.entries.map (·.subject)).Nodup ∧
    ∀ heap : Array Entry,
      (heap.toList.map Entry.ticket).Perm ((Desk.new policy).run calls).2.queue.ledger.tickets →
      ∀ later, ((((Desk.new policy).run calls).2.relaid heap).run later).1 =
        (((Desk.new policy).run calls).2.run later).1 := by
  obtain ⟨hreplies, hrefines, hnumbered⟩ := (Refines.new policy).run (.new policy) calls
  have htickets := hrefines.models.sorted_eq hnumbered.distinct
  refine ⟨hreplies, htickets, ?_, fun heap hheap later => ?_⟩
  · have hunique := ((PlainDesk.new policy).run calls).2.line.unique
    rw [← htickets, List.map_map] at hunique
    exact hunique
  · exact ((hrefines.relaid hheap).run hnumbered later).1.trans
      (hrefines.run hnumbered later).1.symm

/-- Two players of one rank stand below a third one in the heap array, and may stand there the other
way round. -/
theorem replies_eq_plain_of_swapped :
    let desk := ((Desk.new default).run [.enqueue 1 .admin "a" 10 default,
      .enqueue 2 .player "a" 20 default, .enqueue 3 .player "b" 30 default]).2
    let heap : Array Entry := #[⟨1, .admin, 10, "a", 0, 0⟩, ⟨3, .player, 30, "b", 2, 1⟩,
      ⟨2, .player, 20, "a", 1, 2⟩]
    (heap.toList.map Entry.ticket).Perm desk.queue.ledger.tickets ∧
      ((desk.relaid heap).run [.reconcile [] fun _ => true]).1 =
        (desk.run [.reconcile [] fun _ => true]).1 := by
  intro desk heap
  have hperm : (heap.toList.map Entry.ticket).Perm desk.queue.ledger.tickets := by decide +kernel
  exact ⟨hperm, (replies_eq_plain default [.enqueue 1 .admin "a" 10 default,
    .enqueue 2 .player "a" 20 default, .enqueue 3 .player "b" 30 default]).2.2.2 heap hperm
    [.reconcile [] fun _ => true]⟩

end Desk

end GameHub.Admission
