import GameHub.Proofs.Admission.Content
import GameHub.Proofs.Admission.Refinement

/-!
# A failed transfer gives the old place back

A decision is a copy of the entry that was taken out of the line, and it is handed back when the
line has become another: players have joined and left, others were admitted and came back. Which
place it gets is decided by the rank, the time and the number on it, in a heap whose layout has
changed.

**Theorem (`restored_standing`).** A decision goes back into the line if and only if its player is
there and not in line again. The line then has one ticket more, the one with which the player had
joined, and the others stand as they stood. Nobody of the same rank who joined later is ahead of it,
if the clock never ran backwards while players joined. Otherwise nothing happens.

Who joined later is said without numbers: `Desk.joined` lists the tickets as calls put them in line.
They are numbered in this order because the next number is above all that were ever given, also
after tickets have come back (`PlainDesk.Traced`).
-/

namespace GameHub.Admission

/-- The time that a call brings along. Only joining has one. -/
def Call.now? : Call → Option UInt64
  | .enqueue _ _ _ now _ => some now
  | _ => none

/-! ## Tickets in the order of joining -/

namespace PlainDesk

variable {d : PlainDesk} {arrived : List Ticket}

/-- The tickets that calls put in line for the first time, in the order of the calls. -/
def joined (d : PlainDesk) : List Call → List Ticket
  | [] => []
  | call :: calls => d.joins call ++ (d.step call).2.joined calls

/-- Whoever joins gets the next number, and no one else will. -/
theorem joins_cases (d : PlainDesk) (call : Call) : d.joins call = [] ∨
    ∃ t, d.joins call = [t] ∧ t.seq = d.line.nextSeq ∧
      d.line.nextSeq < (d.step call).2.line.nextSeq := by
  cases call with
  | enqueue subject rank target now backends =>
    exact .inr ⟨_, rfl, rfl, Nat.lt_of_lt_of_le (Nat.lt_succ_self _) (Nat.le_max_right ..)⟩
  | _ => exact .inl rfl

/-- Tickets have joined in this order: their numbers grow, the next number is above them, and no
other ticket is known. -/
structure Traced (d : PlainDesk) (arrived : List Ticket) : Prop where
  ordered : arrived.Pairwise (·.seq < ·.seq)
  bounded : ∀ t ∈ arrived, t.seq < d.line.nextSeq
  known : ∀ t ∈ d.known, t ∈ arrived

namespace Traced

theorem new (policy : Policy) : (PlainDesk.new policy).Traced [] :=
  ⟨.nil, fun _ ht => absurd ht List.not_mem_nil, fun _ ht => absurd ht List.not_mem_nil⟩

theorem step (h : d.Traced arrived) (call : Call) :
    (d.step call).2.Traced (arrived ++ d.joins call) := by
  have hnext := d.nextSeq_le_step call
  have hknown : ∀ t ∈ (d.step call).2.known, t ∈ arrived ++ d.joins call := by
    intro t ht
    exact List.mem_append.mpr ((mem_known_step ht).imp_left (h.known t))
  rcases d.joins_cases call with hnone | ⟨joins, hone, hseq, hlt⟩
  · rw [hnone, List.append_nil] at hknown ⊢
    exact ⟨h.ordered, fun t ht => Nat.lt_of_lt_of_le (h.bounded t ht) hnext, hknown⟩
  · rw [hone] at hknown ⊢
    refine ⟨?_, ?_, hknown⟩
    · refine List.pairwise_append.mpr ⟨h.ordered, List.pairwise_singleton .., ?_⟩
      intro t ht u hu
      rw [List.mem_singleton.mp hu, hseq]
      exact h.bounded t ht
    · intro t ht
      rcases List.mem_append.mp ht with ht | ht
      · exact Nat.lt_of_lt_of_le (h.bounded t ht) hnext
      · rw [List.mem_singleton.mp ht, hseq]
        exact hlt

theorem run (h : d.Traced arrived) (calls : List Call) :
    (d.run calls).2.Traced (arrived ++ d.joined calls) := by
  induction calls generalizing d arrived with
  | nil =>
    rw [joined, List.append_nil]
    exact h
  | cons call calls ih =>
    have hrest := ih (h.step call)
    rw [List.append_assoc] at hrest
    exact hrest

end Traced

theorem joinTimes_joined (d : PlainDesk) (calls : List Call) :
    (d.joined calls).map (·.joinTime) = calls.filterMap Call.now? := by
  induction calls generalizing d with
  | nil => rfl
  | cons call calls ih =>
    rw [joined, List.map_append, ih]
    cases call <;> rfl

/-- Of two tickets of one rank the one that joined first is served first, if the clock never ran
backwards. -/
theorem Traced.before_of_later (h : d.Traced arrived)
    (htimes : (arrived.map (·.joinTime)).Pairwise (· ≤ ·)) {earlier later : List Ticket}
    {t u : Ticket} (harrived : arrived = earlier ++ t :: later) (hu : u ∈ later)
    (hrank : u.rank = t.rank) : t.Before u := by
  have hordered := h.ordered
  rw [harrived] at hordered htimes
  have hseq := (List.pairwise_cons.mp (List.pairwise_append.mp hordered).2.1).1 u hu
  have htime := (List.pairwise_cons.mp
    (List.pairwise_append.mp (List.pairwise_map.mp htimes)).2.1).1 u hu
  rw [UInt64.le_iff_toNat_le] at htime
  rw [Ticket.before_iff, hrank]
  omega

end PlainDesk

namespace Desk

variable {d : Desk} {p : PlainDesk}

/-- What a call puts in line for the first time: the entry of the player who joins. -/
def joins (d : Desk) : Call → List Ticket
  | .enqueue subject rank target now backends =>
    (d.queue.enqueue subject rank target now backends).queue.ticketsOf subject
  | _ => []

/-- The tickets that calls put in line for the first time, in the order of the calls. -/
def joined (d : Desk) : List Call → List Ticket
  | [] => []
  | call :: calls => d.joins call ++ (d.step call).2.joined calls

namespace Refines

theorem subjects_nodup (h : d.Refines p) :
    (d.queue.ledger.tickets.map (·.subject)).Nodup :=
  (h.models.content.map _).nodup_iff.mpr p.line.unique

theorem joins_eq (h : d.Refines p) (call : Call) : d.joins call = p.joins call := by
  cases call with
  | enqueue subject rank target now backends =>
    rw [joins, Queue.ticketsOf_enqueue h.subjects_nodup, h.models.nextSeq]
    rfl
  | _ => rfl

theorem joined_eq (h : d.Refines p) (hn : p.Numbered) (calls : List Call) :
    d.joined calls = p.joined calls := by
  induction calls generalizing d p with
  | nil => rfl
  | cons call calls ih =>
    rw [joined, PlainDesk.joined, h.joins_eq, ih (h.step hn call).2 (hn.step call)]

/-- What becomes of the line when a decision goes back. -/
theorem requeue_done (h : d.Refines p) (hn : p.Numbered) {decision : Decision}
    (hdecision : decision ∈ d.decisions) (error : TransferError) {live : PlayerId → Bool}
    (hdone : (live decision.entry.subject && !p.line.isQueued decision.entry.subject) = true) :
    (d.queue.requeue decision error live).result = true ∧
    ∃ ahead behind, d.queue.entries.map Entry.ticket = ahead ++ behind ∧
      (d.queue.requeue decision error live).queue.entries.map Entry.ticket =
        ahead ++ decision.entry.ticket :: behind ∧
      ∀ t ∈ ahead, t.notAfter decision.entry.ticket = true := by
  have hoffer : decision.offer ∈ p.offers := h.offers ▸ List.mem_map_of_mem hdecision
  have hdistinct := (hn.of_return hoffer).distinct
  obtain ⟨hresult, -, hafter⟩ := h.models.requeue_done decision error live hdone hdistinct
  have hqueued := (Bool.and_eq_true_iff.mp hdone).2
  obtain ⟨ahead, behind, hsplit, hput⟩ :=
    insertBy_split Ticket.notAfter decision.entry.ticket p.line.tickets
  have hline : (p.line.put decision.entry.ticket).tickets =
      ahead ++ decision.entry.ticket :: behind := by
    have hwithout : (p.line.without decision.entry.subject).tickets = p.line.tickets :=
      Line.tickets_without (by simpa using hqueued)
    rw [← hput, ← hwithout]
    rfl
  refine ⟨hresult, ahead, behind, (h.models.sorted_eq hn.distinct).trans hsplit,
    (hafter.sorted_eq hdistinct).trans hline, ?_⟩
  have hsorted := (p.line.put decision.entry.ticket).sorted
  rw [hline] at hsorted
  intro t ht
  exact (List.pairwise_append.mp hsorted).2.2 t ht _ List.mem_cons_self

end Refines

/-! ## The result -/

/-- **A decision that is handed back restores the place of its player, or does nothing.** -/
theorem restored_standing (policy : Policy) (calls : List Call) (decision : Decision)
    (hdecision : decision ∈ ((Desk.new policy).run calls).2.decisions) (error : TransferError)
    (live : PlayerId → Bool) :
    let joined := (Desk.new policy).joined calls
    let queue := ((Desk.new policy).run calls).2.queue
    let line := queue.entries.map Entry.ticket
    let outcome := queue.requeue decision error live
    (outcome.result = true ↔
      live decision.entry.subject = true ∧ ∀ t ∈ line, t.subject ≠ decision.entry.subject) ∧
    (outcome.result = true → ∃ ahead behind, line = ahead ++ behind ∧
      outcome.queue.entries.map Entry.ticket = ahead ++ decision.entry.ticket :: behind ∧
      ((calls.filterMap Call.now?).Pairwise (· ≤ ·) → ∀ earlier later,
        joined = earlier ++ decision.entry.ticket :: later →
        ∀ t ∈ later, t.rank = decision.entry.rank → t ∉ ahead)) ∧
    (outcome.result = false → outcome.queue = queue ∧ outcome.signals = []) ∧
    joined.Nodup ∧ decision.entry.ticket ∈ joined ∧ ∀ t ∈ line, t ∈ joined := by
  intro joined queue line outcome
  obtain ⟨-, hrefines, hnumbered⟩ := (Refines.new policy).run (.new policy) calls
  have hjoined : joined = (PlainDesk.new policy).joined calls :=
    (Refines.new policy).joined_eq (.new policy) calls
  have htraced := (PlainDesk.Traced.new policy).run calls
  rw [List.nil_append, ← hjoined] at htraced
  have hline : line = ((PlainDesk.new policy).run calls).2.line.tickets :=
    hrefines.models.sorted_eq hnumbered.distinct
  -- A decision was made about a ticket that had joined.
  have hpresent : decision.entry.ticket ∈ joined := by
    refine htraced.known _ (List.mem_append_right _ ?_)
    rw [← hrefines.offers, List.map_map]
    exact List.mem_map_of_mem hdecision
  have hwaiting : ∀ t ∈ line, t ∈ joined := by
    intro t ht
    exact htraced.known t (List.mem_append_left _ (hline ▸ ht))
  have hnodup : joined.Nodup := by
    refine htraced.ordered.imp ?_
    rintro t _ hlt rfl
    exact Nat.lt_irrefl _ hlt
  have hiff : (live decision.entry.subject &&
      !((PlainDesk.new policy).run calls).2.line.isQueued decision.entry.subject) = true ↔
      live decision.entry.subject = true ∧ ∀ t ∈ line, t.subject ≠ decision.entry.subject := by
    rw [hline]
    simp [Line.isQueued]
  by_cases hdone : (live decision.entry.subject &&
      !((PlainDesk.new policy).run calls).2.line.isQueued decision.entry.subject) = true
  · obtain ⟨hresult, ahead, behind, hbefore, hafter, hahead⟩ :=
      hrefines.requeue_done hnumbered hdecision error hdone
    refine ⟨iff_of_true hresult (hiff.mp hdone), fun _ => ⟨ahead, behind, hbefore, hafter, ?_⟩,
      fun hfalse => absurd (hresult.symm.trans hfalse) Bool.noConfusion, hnodup, hpresent,
      hwaiting⟩
    intro htimes earlier later hsplit t ht hrank hmem
    -- Of one rank, whoever joined later has a later time or a greater number.
    rw [← PlainDesk.joinTimes_joined, ← hjoined] at htimes
    exact Ticket.notAfter_iff.mp (hahead t hmem) (htraced.before_of_later htimes hsplit ht hrank)
  · have hrefused : outcome = ⟨false, queue, []⟩ :=
      hrefines.models.requeue_refused decision error live (Bool.not_eq_true _ ▸ hdone)
    rw [hrefused]
    exact ⟨iff_of_false Bool.false_ne_true fun h => hdone (hiff.mpr h),
      fun h => absurd h Bool.false_ne_true, fun _ => ⟨rfl, rfl⟩, hnodup, hpresent, hwaiting⟩

/-- A player comes back after another one of the same rank has joined in the same millisecond. -/
theorem restored_standing_of_same_time :
    let lobby : Backend.Record := ⟨"lobby", "lobby", "10.0.0.2:25565", none, .up 3 10, 0, none⟩
    let calls : List Call := [.enqueue 1 .player "lobby" 10 default,
      .reconcile [lobby] fun _ => true, .enqueue 2 .player "lobby" 10 default]
    let decision : Decision := ⟨⟨1, .player, 10, "lobby", 0, 0⟩, "lobby", "10.0.0.2:25565"⟩
    let queue := ((Desk.new default).run calls).2.queue
    let outcome := queue.requeue decision (.rejected "full") fun _ => true
    decision ∈ ((Desk.new default).run calls).2.decisions ∧
      (calls.filterMap Call.now?).Pairwise (· ≤ ·) ∧ outcome.result = true ∧
      ∃ ahead behind, queue.entries.map Entry.ticket = ahead ++ behind ∧
        outcome.queue.entries.map Entry.ticket = ahead ++ ⟨1, .player, 10, "lobby", 0⟩ :: behind ∧
        ⟨2, .player, 10, "lobby", 1⟩ ∉ ahead := by
  intro lobby calls decision queue outcome
  have hdecision : decision ∈ ((Desk.new default).run calls).2.decisions := by decide +kernel
  have htimes : (calls.filterMap Call.now?).Pairwise (· ≤ ·) := by decide +kernel
  have hresult : outcome.result = true := by decide +kernel
  have hjoined : (Desk.new default).joined calls =
      [] ++ ⟨1, .player, 10, "lobby", 0⟩ :: [⟨2, .player, 10, "lobby", 1⟩] := by decide +kernel
  obtain ⟨ahead, behind, hbefore, hafter, hplace⟩ :=
    (restored_standing default calls decision hdecision (.rejected "full") fun _ => true).2.1
      hresult
  exact ⟨hdecision, htimes, hresult, ahead, behind, hbefore, hafter,
    hplace htimes [] _ hjoined _ List.mem_cons_self rfl⟩

end Desk

end GameHub.Admission
