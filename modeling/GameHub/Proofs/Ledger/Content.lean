import GameHub.Ledger.Basic

/-!
# What is in the ledger

The heap array moves entries about and tells them their positions. A `Ticket` is an entry without
that position, and `Ledger.tickets` is the content of a ledger: sifting only permutes it, `place`
adds one ticket, and `removeAt` takes one out. Nothing here depends on the order of the heap.
-/

namespace GameHub

/-- An entry without its position in the heap array. -/
structure Ticket where
  subject : PlayerId
  rank : Rank
  /-- When the player joined, in milliseconds. -/
  joinTime : UInt64
  /-- The id of the backend that the player wants to reach. -/
  target : String
  /-- The number of the insertion. -/
  seq : Nat
  deriving DecidableEq, Repr

/-- The entry without its position. -/
def Entry.ticket (e : Entry) : Ticket := ⟨e.subject, e.rank, e.joinTime, e.target, e.seq⟩

/-- The content of a ledger, in the order of the heap array. -/
def Ledger.tickets (l : Ledger) : List Ticket := l.toList.map Entry.ticket

/-! ## Sifting -/

namespace Heap

/-- With the last element in its gap and the end cut off, an array has lost one element. -/
theorem perm_fill_gap {α : Type} (xs : Array α) (i : Nat) (hi : i < xs.size) :
    xs.Perm ((xs.set i xs[xs.size - 1]).pop.push xs[i]) := by
  have hswap : (xs.set i xs[xs.size - 1]).pop.push xs[i] = xs.swap i (xs.size - 1) := by
    refine Array.ext (by simp; omega) fun k hk _ => ?_
    simp only [Array.getElem_push, Array.getElem_pop, Array.getElem_set, Array.getElem_swap,
      Array.size_pop, Array.size_set]
    simp only [Array.size_push, Array.size_pop, Array.size_set] at hk
    by_cases hlast : k = xs.size - 1
    · subst hlast
      rw [dif_neg (Nat.lt_irrefl _), if_pos rfl]
      split
      · next h => simp only [← h]
      · rfl
    · rw [dif_pos (by omega), if_neg hlast]
      simp only [eq_comm]
  rw [hswap]
  exact (Array.swap_perm hi _).symm

variable (heap : Array Entry) (i j : Nat) (hi : i < heap.size)

theorem map_ticket_exchange (hj : j < heap.size) :
    (exchange heap i j hi hj).map Entry.ticket =
      (heap.map Entry.ticket).swap i j (by simpa using hi) (by simpa using hj) := by
  simp [exchange, Array.swap, Entry.ticket]

theorem exchange_perm (hj : j < heap.size) :
    ((exchange heap i j hi hj).map Entry.ticket).Perm (heap.map Entry.ticket) := by
  rw [map_ticket_exchange]
  exact Array.swap_perm _ _

theorem siftUp_perm : ((siftUp heap i hi).map Entry.ticket).Perm (heap.map Entry.ticket) := by
  fun_induction siftUp heap i hi with
  | case1 heap i hi _ hp _ ih => exact ih.trans (exchange_perm heap i _ hi hp)
  | case2 => exact .refl _
  | case3 => exact .refl _

theorem siftDown_perm : ((siftDown heap i hi).map Entry.ticket).Perm (heap.map Entry.ticket) := by
  fun_induction siftDown heap i hi with
  | case1 => exact .refl _
  | case2 heap i hi best _ ih => exact ih.trans (exchange_perm heap i best hi leader_lt)

theorem settle_perm : ((settle heap i hi).map Entry.ticket).Perm (heap.map Entry.ticket) :=
  (siftUp_perm _ i _).trans (siftDown_perm heap i hi)

end Heap

/-! ## The content -/

namespace Ledger

variable (l : Ledger)

theorem tickets_eq : l.tickets = (l.heap.map Entry.ticket).toList := by
  rw [tickets, toList, Array.toList_map]

@[simp] theorem length_tickets : l.tickets.length = l.size := by
  rw [tickets, List.length_map, toList, Array.length_toList, size]

theorem mem_tickets {t : Ticket} : t ∈ l.tickets ↔ ∃ e ∈ l.toList, e.ticket = t :=
  List.mem_map

/-! ## Putting in -/

@[simp] theorem nextSeq_place (e : Entry) : (l.place e).nextSeq = l.nextSeq := rfl

theorem place_perm (e : Entry) : (l.place e).tickets.Perm (e.ticket :: l.tickets) := by
  have hsift := Heap.siftUp_perm (l.heap.push { e with heapIndex := l.heap.size }) l.heap.size
    (by simp)
  rw [Array.map_push] at hsift
  rw [tickets_eq (l.place e)]
  refine hsift.toList.trans ?_
  rw [Array.toList_push, ← tickets_eq]
  exact List.perm_append_singleton e.ticket l.tickets

/-! ## Taking out -/

theorem removeAt_of_lt {i : Nat} (hi : i < l.heap.size) :
    ∃ taken rest, l.removeAt i = some (taken, rest) ∧ taken.ticket = l.heap[i].ticket ∧
      rest.nextSeq = l.nextSeq ∧ l.tickets.Perm (taken.ticket :: rest.tickets) := by
  let filled := (l.heap.set i { l.heap[l.heap.size - 1] with heapIndex := i }).pop
  let heap := if h : i < filled.size then Heap.settle filled i h else filled
  refine ⟨{ l.heap[i] with heapIndex := 0 }, { l with heap }, by rw [removeAt, dif_pos hi], rfl,
    rfl, ?_⟩
  have hsettle : (heap.map Entry.ticket).Perm (filled.map Entry.ticket) := by
    by_cases h : i < filled.size
    · rw [show heap = Heap.settle filled i h from dif_pos h]
      exact Heap.settle_perm filled i h
    · rw [show heap = filled from dif_neg h]
  have hgap : (l.heap.map Entry.ticket).Perm
      ((filled.map Entry.ticket).push l.heap[i].ticket) := by
    have h := Heap.perm_fill_gap (l.heap.map Entry.ticket) i (by simpa using hi)
    simpa [filled, Entry.ticket] using h
  rw [tickets_eq, tickets_eq]
  refine (hgap.trans (hsettle.symm.push _)).toList.trans ?_
  rw [Array.toList_push]
  exact List.perm_append_singleton _ _

/-- The entry that is found by its ticket and taken out. -/
theorem removeAt_findIdx? (p : Ticket → Bool) :
    ((l.heap.findIdx? fun e => p e.ticket).bind l.removeAt = none ∧
      ∀ t ∈ l.tickets, p t = false) ∨
    ∃ taken rest, (l.heap.findIdx? fun e => p e.ticket).bind l.removeAt = some (taken, rest) ∧
      p taken.ticket = true ∧ rest.nextSeq = l.nextSeq ∧
      l.tickets.Perm (taken.ticket :: rest.tickets) := by
  cases hfind : l.heap.findIdx? fun e => p e.ticket with
  | none =>
    refine .inl ⟨rfl, fun t ht => ?_⟩
    obtain ⟨e, he, rfl⟩ := l.mem_tickets.mp ht
    exact Array.findIdx?_eq_none_iff.mp hfind e (Array.mem_toList_iff.mp he)
  | some i =>
    obtain ⟨hi, hp, -⟩ := Array.findIdx?_eq_some_iff_getElem.mp hfind
    obtain ⟨taken, rest, hremove, hticket, hseq, hperm⟩ := l.removeAt_of_lt hi
    exact .inr ⟨taken, rest, hremove, by rw [hticket]; exact hp, hseq, hperm⟩

end Ledger

end GameHub
