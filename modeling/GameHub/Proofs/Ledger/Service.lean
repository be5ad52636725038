import GameHub.Proofs.Ledger.Conservation

/-!
# Serving a ledger until nobody waits

The heap array is only partly in order, and every pop moves its last entry to the root. Still the
entry at the root precedes all others (`Heap.InOrder.ranked_root`), before and after every pop.

**Theorem (`pops_in_order`).** Whatever was done to a ledger before, its entries come out in the
order of service, as the sorted ledger lists them, and each of them could be seen at the front
before. There are as many pops as there are entries.

The entries that come out and the sorted ones are the same entries, both in order, and distinct
numbers leave only one order.
-/

namespace GameHub

/-! ## The root -/

/-- Nobody is served before the root. -/
theorem Heap.InOrder.ranked_root {heap : Array Entry} (h : InOrder heap) (k : Nat) :
    Ranked heap 0 k := by
  induction k using Nat.strongRecOn with
  | ind k ih =>
    by_cases hk : 0 < k
    · by_cases hsize : k < heap.size
      · have hparent : parent k < k := parent_lt hk
        exact (ih (parent k) hparent).trans (h k hk) (Nat.lt_trans hparent hsize)
      · exact ranked_of_le (Nat.le_of_not_lt hsize)
    · rw [Nat.eq_zero_of_not_pos hk]
      exact ranked_self heap 0

namespace Ledger

variable {l rest : Ledger} {taken : Entry}

/-- What is taken out is what could be seen. -/
theorem WellFormed.peek_eq (h : l.WellFormed) (hpop : l.pop = some (taken, rest)) :
    l.peek = some taken := by
  have hentry := l.removeAt_entry 0
  rw [show l.removeAt 0 = some (taken, rest) from hpop, Option.map_some] at hentry
  obtain ⟨e, he, htaken⟩ := Option.map_eq_some_iff.mp hentry.symm
  have hindex : e.heapIndex = 0 := h.indexed 0 e he
  rw [← hindex] at htaken
  exact he.trans (congrArg some htaken)

/-- Whoever is taken out first is served after nobody who is left. -/
theorem WellFormed.notAfter_of_pop (h : l.WellFormed) (hpop : l.pop = some (taken, rest))
    {t : Ticket} (ht : t ∈ rest.tickets) : taken.ticket.notAfter t = true := by
  have hroot : Heap.ticketAt l.heap 0 = some taken.ticket :=
    congrArg (Option.map Entry.ticket) (h.peek_eq hpop)
  have hmem : t ∈ l.tickets :=
    (removeAt_content hpop).2.mem_iff.mpr (List.mem_cons_of_mem _ ht)
  obtain ⟨e, he, rfl⟩ := l.mem_tickets.mp hmem
  obtain ⟨k, hk, rfl⟩ := Array.getElem_of_mem (Array.mem_toList_iff.mp he)
  exact h.inOrder.ranked_root k taken.ticket hroot _ (Heap.ticketAt_of_lt hk)

theorem size_of_pop (hpop : l.pop = some (taken, rest)) : rest.size < l.size := by
  have hperm := (removeAt_content hpop).2
  rw [← length_tickets, ← length_tickets, hperm.length_eq, List.length_cons]
  exact Nat.lt_succ_self _

/-! ## All pops -/

/-- A pop, with the entry that could be seen at the front right before. -/
structure Turn where
  seen : Option Entry
  served : Entry

/-- The pops until nobody waits. -/
def drain (l : Ledger) : List Turn :=
  match _ : l.pop with
  | none => []
  | some (served, rest) => ⟨l.peek, served⟩ :: rest.drain
termination_by l.size
decreasing_by exact size_of_pop (by assumption)

/-- Everybody is served once. -/
theorem drain_perm (l : Ledger) : (l.drain.map (·.served.ticket)).Perm l.tickets := by
  fun_induction drain l with
  | case1 l hpop =>
    have hsize : l.size ≤ 0 := (l.removeAt_eq_none_iff 0).mp hpop
    have hnone : l.tickets = [] := by
      rw [← List.length_eq_zero_iff, length_tickets]
      exact Nat.le_zero.mp hsize
    rw [hnone]
    exact .refl _
  | case2 l served rest hpop ih =>
    exact (ih.cons served.ticket).trans (removeAt_content hpop).2.symm

theorem WellFormed.pairwise_drain (h : l.WellFormed) :
    (l.drain.map (·.served.ticket)).Pairwise (·.notAfter ·) := by
  fun_induction drain l with
  | case1 l hpop => exact .nil
  | case2 l served rest hpop ih =>
    refine List.pairwise_cons.mpr ⟨fun t ht => ?_, ih (h.removeAt hpop)⟩
    exact h.notAfter_of_pop hpop (rest.drain_perm.mem_iff.mp ht)

theorem WellFormed.seen_of_mem_drain (h : l.WellFormed) :
    ∀ turn ∈ l.drain, turn.seen = some turn.served := by
  fun_induction drain l with
  | case1 l hpop => exact fun turn hturn => absurd hturn List.not_mem_nil
  | case2 l served rest hpop ih =>
    intro turn hturn
    rcases List.mem_cons.mp hturn with rfl | hturn
    · exact h.peek_eq hpop
    · exact ih (h.removeAt hpop) turn hturn

/-! ## Ledgers that are reached -/

/-- The ledgers that come out of an empty one by operations. Any entry may be restored. -/
inductive Reachable : Ledger → Prop
  | empty : Reachable .empty
  | push {l : Ledger} (subject : PlayerId) (rank : Rank) (joinTime : UInt64) (target : String) :
      Reachable l → Reachable (l.push subject rank joinTime target).2
  | restore {l : Ledger} (entry : Entry) : Reachable l → Reachable (l.restore entry)
  | pop {l rest : Ledger} {taken : Entry} :
      Reachable l → l.pop = some (taken, rest) → Reachable rest
  | removeAt {l rest : Ledger} {position : Nat} {taken : Entry} :
      Reachable l → l.removeAt position = some (taken, rest) → Reachable rest

/-- The number of the next insertion plays no part in the shape of the array. -/
theorem WellFormed.with_nextSeq (h : l.WellFormed) (nextSeq : Nat) :
    WellFormed { l with nextSeq } :=
  ⟨h.inOrder, h.indexed⟩

theorem Reachable.wellFormed (h : l.Reachable) : l.WellFormed := by
  induction h with
  | empty => exact .empty
  | push subject rank joinTime target _ ih => exact (ih.with_nextSeq _).place _
  | restore entry _ ih => exact (ih.with_nextSeq _).place entry
  | pop _ hpop ih => exact ih.removeAt hpop
  | removeAt _ hremove ih => exact ih.removeAt hremove

/-! ## The result -/

/-- **Pops, looks at the front and the sorted ledger agree.** If no two entries of a ledger have one
number, the entries come out as the sorted ledger lists them, up to their positions in the array.
Each is the one at the front before it is taken out, each is served strictly before the next, and
the ledger is empty after as many pops as it has entries. -/
theorem pops_in_order (h : l.Reachable) (hseqs : (l.toList.map (·.seq)).Nodup) :
    l.drain.map (·.served.ticket) = l.sorted.map Entry.ticket ∧
    (∀ turn ∈ l.drain, turn.seen = some turn.served) ∧
    l.drain.Pairwise (fun a b =>
      a.served.order b.served = .lt ∧ a.served.ticket.Before b.served.ticket) ∧
    l.drain.length = l.size := by
  have hshape := h.wellFormed
  have hperm := l.drain_perm
  have hdrained := hshape.pairwise_drain
  have hdistinct : (l.tickets.map (·.seq)).Nodup := by
    rw [tickets, List.map_map]
    exact hseqs
  have hseqs' : ((l.drain.map (·.served.ticket)).map Ticket.seq).Nodup :=
    (hperm.map _).nodup_iff.mpr hdistinct
  refine ⟨(sorted_tickets_eq hperm.symm hseqs' hdrained).symm, hshape.seen_of_mem_drain, ?_, ?_⟩
  · have hne : (l.drain.map (·.served.ticket)).Pairwise (fun a b => a.seq ≠ b.seq) :=
      List.pairwise_map.mp hseqs'
    refine (List.pairwise_map.mp (hdrained.and hne)).imp fun {a b} hab => ?_
    have hbefore := Ticket.before_of_notAfter hab.1 hab.2
    exact ⟨beq_iff_eq.mp ((Entry.precedes_iff _ _).mpr hbefore), hbefore⟩
  · rw [← length_tickets, ← hperm.length_eq, List.length_map]

/-- An entry is taken out of the middle and restored, and the array is then not in order. -/
theorem pops_in_order_of_restored :
    let first := (((Ledger.empty.push 1 .player 30 "a").2.push 2 .player 10 "a").2.push
      3 .admin 20 "b").2
    let taken : Entry := ⟨1, .player, 30, "a", 0, 0⟩
    let rest : Ledger := ⟨#[⟨3, .admin, 20, "b", 2, 0⟩, ⟨2, .player, 10, "a", 1, 1⟩], 3⟩
    let l := ((rest.restore taken).push 4 .player 10 "c").2
    first.removeAt 1 = some (taken, rest) ∧ l.Reachable ∧ (l.toList.map (·.seq)).Nodup ∧
      l.toList.map (·.subject) = [3, 2, 1, 4] ∧
      l.drain.map (·.served.subject) = [3, 2, 4, 1] := by
  intro first taken rest l
  have hremove : first.removeAt 1 = some (taken, rest) := by decide +kernel
  have hfirst : first.Reachable :=
    ((Reachable.empty.push 1 .player 30 "a").push 2 .player 10 "a").push 3 .admin 20 "b"
  have hl : l.Reachable := ((hfirst.removeAt hremove).restore taken).push 4 .player 10 "c"
  have hseqs : (l.toList.map (·.seq)).Nodup := by decide +kernel
  refine ⟨hremove, hl, hseqs, by decide +kernel, ?_⟩
  have hsubjects := congrArg (List.map Ticket.subject) (pops_in_order hl hseqs).1
  rw [List.map_map, List.map_map] at hsubjects
  exact hsubjects.trans (by decide +kernel)

end Ledger

end GameHub
