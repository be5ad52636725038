import GameHub.Proofs.Ledger.Heap

/-!
# A ledger keeps what it was given

A `Journal` is a ledger together with everything that was ever put into it and everything that was
ever taken out. Entries that were taken out may be restored, any of them and any number of times.

**Theorem (`Journal.run_sound`).** After any operations on an empty ledger the array is a heap whose
entries know their positions, the ledger holds what was put in and not taken out, and the number of
the next insertion is above all numbers that were ever put in. The number counts the insertions, so
64 bits hold it as long as there are fewer than `2 ^ 64` of them.
-/

namespace GameHub.Ledger

/-! ## One operation -/

theorem get?_eq_none_iff (l : Ledger) (i : Nat) : l.get? i = none ↔ l.size ≤ i :=
  Array.getElem?_eq_none_iff

/-- What is taken out is what stood there, and nothing is taken out past the end. -/
theorem removeAt_entry (l : Ledger) (i : Nat) :
    (l.removeAt i).map (·.1) = (l.get? i).map ({ · with heapIndex := 0 }) := by
  rw [removeAt, get?]
  split
  · next hi =>
    rw [Array.getElem?_eq_getElem hi]
    rfl
  · next hi =>
    rw [Array.getElem?_eq_none (Nat.le_of_not_lt hi)]
    rfl

theorem removeAt_eq_none_iff (l : Ledger) (i : Nat) : l.removeAt i = none ↔ l.size ≤ i := by
  rw [← get?_eq_none_iff, ← Option.map_eq_none_iff, removeAt_entry, Option.map_eq_none_iff]

theorem removeAt_content {l rest : Ledger} {i : Nat} {taken : Entry}
    (h : l.removeAt i = some (taken, rest)) :
    rest.nextSeq = l.nextSeq ∧ l.tickets.Perm (taken.ticket :: rest.tickets) := by
  have hi : i < l.heap.size := by
    refine Nat.lt_of_not_le fun hle => ?_
    rw [(l.removeAt_eq_none_iff i).mpr hle] at h
    cases h
  obtain ⟨taken', rest', hremove, -, hseq, hperm⟩ := l.removeAt_of_lt hi
  obtain ⟨rfl, rfl⟩ := Prod.mk.inj (Option.some.inj (h.symm.trans hremove))
  exact ⟨hseq, hperm⟩

/-! ## Operations and their history -/

/-- An operation on a ledger. -/
inductive Operation where
  | push (subject : PlayerId) (rank : Rank) (joinTime : UInt64) (target : String)
  /-- Puts back a copy of an entry that was taken out, by its number in the order in which they
  were taken out. -/
  | restore (number : Nat)
  | pop
  | removeAt (position : Nat)
  deriving DecidableEq, Repr

/-- The operation numbers an insertion. -/
def Operation.isPush : Operation → Bool
  | push .. => true
  | _ => false

/-- A ledger and what was done with it. -/
structure Journal where
  ledger : Ledger
  /-- What was pushed or restored, oldest first. -/
  put : List Ticket
  /-- What was taken out, oldest first. -/
  taken : List Entry
  deriving DecidableEq, Repr

namespace Journal

def empty : Journal := ⟨.empty, [], []⟩

/-- Writes down what was taken out, if anything was. -/
def recordTaken (j : Journal) : Option (Entry × Ledger) → Journal
  | none => j
  | some (taken, ledger) => { j with ledger, taken := j.taken ++ [taken] }

def step (j : Journal) : Operation → Journal
  | .push subject rank joinTime target =>
    let (seq, ledger) := j.ledger.push subject rank joinTime target
    { j with ledger, put := j.put ++ [⟨subject, rank, joinTime, target, seq⟩] }
  | .restore number =>
    match j.taken[number]? with
    | none => j
    | some entry => { j with ledger := j.ledger.restore entry, put := j.put ++ [entry.ticket] }
  | .pop => j.recordTaken j.ledger.pop
  | .removeAt position => j.recordTaken (j.ledger.removeAt position)

def run (j : Journal) (operations : List Operation) : Journal := operations.foldl step j

/-! ## What every operation keeps -/

/-- The heap is in shape and holds what was put in and not taken out, under numbers that were given
out already. -/
structure Sound (j : Journal) : Prop where
  wellFormed : j.ledger.WellFormed
  content : j.put.Perm (j.ledger.tickets ++ j.taken.map Entry.ticket)
  numbered : ∀ t ∈ j.put, t.seq < j.ledger.nextSeq

namespace Sound

variable {j : Journal}

theorem empty : Journal.empty.Sound :=
  ⟨.empty, .refl _, fun _ ht => absurd ht List.not_mem_nil⟩

theorem taken_lt (h : j.Sound) {e : Entry} (he : e ∈ j.taken) : e.seq < j.ledger.nextSeq := by
  refine h.numbered e.ticket (h.content.mem_iff.mpr ?_)
  exact List.mem_append_right _ (List.mem_map_of_mem he)

/-- Another entry, under a number that the ledger has passed by then. -/
theorem place (h : j.Sound) (e : Entry) {nextSeq : Nat} (hle : j.ledger.nextSeq ≤ nextSeq)
    (hlt : e.seq < nextSeq) :
    Sound ⟨{ j.ledger with nextSeq }.place e, j.put ++ [e.ticket], j.taken⟩ := by
  have hshape : WellFormed { j.ledger with nextSeq } := ⟨h.wellFormed.inOrder, h.wellFormed.indexed⟩
  refine ⟨hshape.place e, ?_, fun t ht => ?_⟩
  · have hplace := place_perm { j.ledger with nextSeq } e
    refine (List.perm_append_singleton _ _).trans ((h.content.cons _).trans ?_)
    exact (hplace.append_right _).symm
  · rcases List.mem_append.mp ht with ht | ht
    · exact Nat.lt_of_lt_of_le (h.numbered t ht) hle
    · rw [List.mem_singleton.mp ht]
      exact hlt

theorem recordTaken (h : j.Sound) (i : Nat) : (j.recordTaken (j.ledger.removeAt i)).Sound := by
  cases hremove : j.ledger.removeAt i with
  | none => exact h
  | some removed =>
    obtain ⟨taken, rest⟩ := removed
    obtain ⟨hseq, hperm⟩ := removeAt_content hremove
    refine ⟨h.wellFormed.removeAt hremove, ?_, fun t ht => ?_⟩
    · show j.put.Perm (rest.tickets ++ (j.taken ++ [taken]).map Entry.ticket)
      rw [List.map_append, ← List.append_assoc]
      refine (h.content.trans (hperm.append_right _)).trans ?_
      exact (List.perm_append_singleton _ _).symm
    · exact Nat.lt_of_lt_of_eq (h.numbered t ht) hseq.symm

theorem step (h : j.Sound) (op : Operation) : (j.step op).Sound := by
  cases op with
  | push subject rank joinTime target =>
    exact h.place ⟨subject, rank, joinTime, target, j.ledger.nextSeq, 0⟩ (Nat.le_succ _)
      (Nat.lt_succ_self _)
  | restore number =>
    rw [Journal.step]
    split
    · exact h
    · next entry _ =>
      exact h.place entry (Nat.le_max_left ..) (Nat.lt_of_succ_le (Nat.le_max_right ..))
  | pop => exact h.recordTaken 0
  | removeAt position => exact h.recordTaken position

/-- Only a push moves the number on: what is restored has one that was given out before. -/
theorem nextSeq_step (h : j.Sound) (op : Operation) :
    (j.step op).ledger.nextSeq = j.ledger.nextSeq + if op.isPush then 1 else 0 := by
  have htake : ∀ i, (j.recordTaken (j.ledger.removeAt i)).ledger.nextSeq = j.ledger.nextSeq := by
    intro i
    cases hremove : j.ledger.removeAt i with
    | none => rfl
    | some removed => exact (removeAt_content hremove).1
  cases op with
  | push subject rank joinTime target => rfl
  | restore number =>
    rw [Journal.step]
    split
    · rfl
    · next entry hentry => exact Nat.max_eq_left (h.taken_lt (List.mem_of_getElem? hentry))
  | pop => exact htake 0
  | removeAt position => exact htake position

theorem run (h : j.Sound) (operations : List Operation) :
    (j.run operations).Sound ∧ (j.run operations).ledger.nextSeq =
      j.ledger.nextSeq + operations.countP Operation.isPush := by
  induction operations generalizing j with
  | nil => exact ⟨h, rfl⟩
  | cons op operations ih =>
    obtain ⟨hsound, hseq⟩ := ih (h.step op)
    refine ⟨hsound, hseq.trans ?_⟩
    rw [h.nextSeq_step, List.countP_cons]
    omega

end Sound

/-! ## The result -/

/-- **A ledger loses nothing and stays a heap.** For all operations on an empty ledger: every
position holds an entry that knows it, nobody is served before the entry above, the content is what
was put in and not taken out, an entry is taken out exactly where there is one and as it stood, and
the next number is above all those that were put in and counts the pushes. -/
theorem run_sound (operations : List Operation) :
    let j := Journal.empty.run operations
    (∀ i < j.ledger.size, ∃ e, j.ledger.get? i = some e ∧ e.heapIndex = i) ∧
    (∀ i e above, 0 < i → j.ledger.get? i = some e → j.ledger.get? ((i - 1) / 2) = some above →
      e.precedes above = false) ∧
    j.put.Perm (j.ledger.tickets ++ j.taken.map Entry.ticket) ∧
    (∀ i, (j.ledger.removeAt i).map (·.1) = (j.ledger.get? i).map ({ · with heapIndex := 0 }) ∧
      (j.ledger.removeAt i = none ↔ j.ledger.size ≤ i) ∧
      (j.ledger.size ≤ i → j.step (.removeAt i) = j)) ∧
    ∀ subject rank joinTime target,
      (∀ t ∈ j.put, t.seq < (j.ledger.push subject rank joinTime target).1) ∧
      (j.ledger.push subject rank joinTime target).1 = operations.countP Operation.isPush := by
  intro j
  obtain ⟨hsound, hseq⟩ : j.Sound ∧ j.ledger.nextSeq = 0 + _ := Sound.empty.run operations
  have hshape := hsound.wellFormed
  refine ⟨fun i hi => hshape.get?_of_lt hi, fun i e above hpos he habove => ?_, hsound.content,
    fun i => ⟨j.ledger.removeAt_entry i, j.ledger.removeAt_eq_none_iff i, fun hi => ?_⟩,
    fun subject rank joinTime target => ⟨hsound.numbered, hseq.trans (Nat.zero_add _)⟩⟩
  · exact hshape.not_precedes_parent hpos he habove
  · show j.recordTaken (j.ledger.removeAt i) = j
    rw [(j.ledger.removeAt_eq_none_iff i).mpr hi]
    rfl

/-- One entry is taken out of the middle and put back twice, so that the array holds two copies of
it. -/
theorem run_sound_of_restored_twice :
    let j := Journal.empty.run [.push 1 .player 30 "a", .push 2 .player 10 "a",
      .push 3 .admin 20 "b", .removeAt 1, .restore 0, .restore 0]
    let e : Entry := ⟨1, .player, 30, "a", 0, 2⟩
    let above : Entry := ⟨3, .admin, 20, "b", 2, 0⟩
    (2 < j.ledger.size ∧ ∃ e, j.ledger.get? 2 = some e ∧ e.heapIndex = 2) ∧
    (j.ledger.get? 2 = some e ∧ j.ledger.get? 0 = some above ∧ e.precedes above = false) ∧
    j.ledger.size ≤ 4 ∧ j.step (.removeAt 4) = j := by
  intro j e above
  have hlt : 2 < j.ledger.size := by decide +kernel
  have hle : j.ledger.size ≤ 4 := by decide +kernel
  have he : j.ledger.get? 2 = some e := by decide +kernel
  have habove : j.ledger.get? 0 = some above := by decide +kernel
  obtain ⟨hindexed, horder, -, hremove, -⟩ := run_sound [.push 1 .player 30 "a",
    .push 2 .player 10 "a", .push 3 .admin 20 "b", .removeAt 1, .restore 0, .restore 0]
  exact ⟨⟨hlt, hindexed 2 hlt⟩, ⟨he, habove, horder 2 e above (by decide) he habove⟩,
    hle, (hremove 4).2.2 hle⟩

end Journal

end GameHub.Ledger
