import GameHub.Proofs.Ledger.Order

/-!
# The shape of the heap array

Between operations the array of a ledger is a heap (`Heap.InOrder`: nobody is served before the
entry above) and every entry knows where it stands (`Heap.Indexed`).

While an entry is sifted the order fails around one position only. `Rising` is what holds when the
entry there may have to move up, and `Loose` when it may have to move either way. In both cases the
entries below the position may stand below its parent, so the pairs that an exchange creates are in
order. A gap in the middle is filled with the last entry of the array, which starts a `Loose` heap.
-/

namespace GameHub

theorem Ticket.notAfter_of_before {a b : Ticket} (h : a.Before b) : a.notAfter b = true := by
  rw [notAfter_iff, before_iff]
  rw [before_iff] at h
  omega

namespace Heap

/-! ## Positions -/

theorem parent_lt {i : Nat} (h : 0 < i) : parent i < i := by
  simp only [parent]
  omega

/-- The ticket at a position. -/
def ticketAt (heap : Array Entry) (k : Nat) : Option Ticket := heap[k]?.map Entry.ticket

/-- The ticket at the second position is not served before the one at the first. -/
def Ranked (heap : Array Entry) (i j : Nat) : Prop :=
  ∀ s ∈ ticketAt heap i, ∀ t ∈ ticketAt heap j, s.notAfter t = true

/-- Nobody is served before the entry above. -/
def InOrder (heap : Array Entry) : Prop := ∀ c, 0 < c → Ranked heap (parent c) c

/-- Every entry knows its position. -/
def Indexed (heap : Array Entry) : Prop := ∀ k (e : Entry), heap[k]? = some e → e.heapIndex = k

section Positions

variable {heap : Array Entry} {i j k : Nat}

theorem ticketAt_of_lt (h : i < heap.size) : ticketAt heap i = some heap[i].ticket := by
  rw [ticketAt, Array.getElem?_eq_getElem h, Option.map_some]

theorem ticketAt_of_le (h : heap.size ≤ i) : ticketAt heap i = none := by
  rw [ticketAt, Array.getElem?_eq_none h, Option.map_none]

theorem ranked_iff (hi : i < heap.size) (hj : j < heap.size) :
    Ranked heap i j ↔ heap[i].ticket.notAfter heap[j].ticket = true := by
  simp [Ranked, ticketAt_of_lt hi, ticketAt_of_lt hj]

theorem ranked_of_le (h : heap.size ≤ j) : Ranked heap i j := by
  intro s _ t ht
  rw [ticketAt_of_le h] at ht
  cases ht

theorem ranked_self (heap : Array Entry) (i : Nat) : Ranked heap i i := by
  intro s hs t ht
  rw [Option.mem_unique hs ht]
  exact (Ticket.notAfter_total t t).elim id id

theorem Ranked.trans (hij : Ranked heap i j) (hjk : Ranked heap j k) (hj : j < heap.size) :
    Ranked heap i k := by
  intro s hs t ht
  exact Ticket.notAfter_trans (hij s hs _ (ticketAt_of_lt hj)) (hjk _ (ticketAt_of_lt hj) t ht)

theorem ranked_of_precedes (hi : i < heap.size) (hj : j < heap.size)
    (h : heap[i].precedes heap[j] = true) : Ranked heap i j := by
  rw [ranked_iff hi hj]
  exact Ticket.notAfter_of_before ((Entry.precedes_iff _ _).mp h)

theorem ranked_of_not_precedes (hi : i < heap.size) (hj : j < heap.size)
    (h : ¬ heap[j].precedes heap[i] = true) : Ranked heap i j := by
  rwa [ranked_iff hi hj, Ticket.notAfter_iff, ← Entry.precedes_iff]

/-- Where the entry at a position comes from when two entries are exchanged. -/
def origin (i j k : Nat) : Nat := if k = i then j else if k = j then i else k

theorem origin_left (i j : Nat) : origin i j i = j := if_pos rfl

theorem origin_right (i j : Nat) : origin i j j = i := by
  unfold origin
  split
  · assumption
  · exact if_pos rfl

theorem origin_of_ne (hi : k ≠ i) (hj : k ≠ j) : origin i j k = k := by
  rw [origin, if_neg hi, if_neg hj]

theorem ticketAt_exchange (hi : i < heap.size) (hj : j < heap.size) (k : Nat) :
    ticketAt (exchange heap i j hi hj) k = ticketAt heap (origin i j k) := by
  rw [ticketAt, exchange, Array.getElem?_set, Array.getElem?_set]
  by_cases hkj : k = j
  · rw [if_pos hkj.symm, hkj, origin_right, ticketAt_of_lt hi]
    rfl
  · rw [if_neg (Ne.symm hkj)]
    by_cases hki : k = i
    · rw [if_pos hki.symm, hki, origin_left, ticketAt_of_lt hj]
      rfl
    · rw [if_neg (Ne.symm hki), origin_of_ne hki hkj, ticketAt]

theorem ranked_exchange (hi : i < heap.size) (hj : j < heap.size) (a b : Nat) :
    Ranked (exchange heap i j hi hj) a b ↔ Ranked heap (origin i j a) (origin i j b) := by
  rw [Ranked, Ranked, ticketAt_exchange, ticketAt_exchange]

theorem indexed_exchange (hi : i < heap.size) (hj : j < heap.size) (h : Indexed heap) :
    Indexed (exchange heap i j hi hj) := by
  intro k e he
  simp only [exchange, Array.getElem?_set] at he
  split at he
  · next hk =>
    obtain rfl := Option.some.inj he
    exact hk
  · split at he
    · next hk =>
      obtain rfl := Option.some.inj he
      exact hk
    · exact h k e he

end Positions

/-! ## Moving up -/

/-- Only the entry at the position may be served before the one above it. -/
structure Rising (heap : Array Entry) (i : Nat) : Prop where
  off : ∀ c, 0 < c → c ≠ i → Ranked heap (parent c) c
  across : ∀ c, 0 < c → parent c = i → 0 < i → Ranked heap (parent i) c

theorem Rising.of_inOrder {heap : Array Entry} (h : InOrder heap) {i : Nat} (hi : i < heap.size) :
    Rising heap i where
  off c hc _ := h c hc
  across c hc hparent hpos := by
    refine (h i hpos).trans ?_ hi
    rw [← hparent]
    exact h c hc

theorem Rising.inOrder {heap : Array Entry} {i : Nat} (h : Rising heap i)
    (hi : 0 < i → Ranked heap (parent i) i) : InOrder heap := by
  intro c hc
  by_cases hci : c = i
  · rw [hci]
    exact hi (hci ▸ hc)
  · exact h.off c hc hci

/-- After the exchange with the parent only the parent's position may be wrong. -/
theorem Rising.exchange {heap : Array Entry} {i : Nat} (h : Rising heap i) (hpos : 0 < i)
    (hi : i < heap.size) (hp : parent i < heap.size)
    (hprecedes : heap[i].precedes heap[parent i] = true) :
    Rising (exchange heap i (parent i) hi hp) (parent i) := by
  have hup : Ranked heap i (parent i) := ranked_of_precedes hi hp hprecedes
  have hlt : parent i < i := parent_lt hpos
  -- First the pairs off the parent, by whether they meet one of the two positions.
  constructor
  · intro c hc hcp
    rw [ranked_exchange]
    by_cases hci : c = i
    · rw [hci, origin_left, origin_right]
      exact hup
    · rw [origin_of_ne hci hcp]
      by_cases hchild : parent c = i
      · rw [hchild, origin_left]
        exact h.across c hc hchild hpos
      · by_cases hsibling : parent c = parent i
        · rw [hsibling, origin_right]
          exact hup.trans (hsibling ▸ h.off c hc hci) hp
        · rw [origin_of_ne hchild hsibling]
          exact h.off c hc hci
  · intro c hc hcp hppos
    -- Then what is below the parent now against what is above it.
    have htop : Ranked heap (parent (parent i)) (parent i) := h.off _ hppos (Nat.ne_of_lt hlt)
    have hlt' : parent (parent i) < parent i := parent_lt hppos
    rw [ranked_exchange, origin_of_ne (Nat.ne_of_lt (by omega)) (Nat.ne_of_lt hlt')]
    by_cases hci : c = i
    · rw [hci, origin_left]
      exact htop
    · rw [origin_of_ne hci (by have := parent_lt hc; omega)]
      exact htop.trans (hcp ▸ h.off c hc hci) hp

theorem inOrder_siftUp {heap : Array Entry} {i : Nat} (hi : i < heap.size) (h : Rising heap i) :
    InOrder (siftUp heap i hi) := by
  fun_induction siftUp heap i hi with
  | case1 heap i hi hpos hp hprecedes ih => exact ih (h.exchange hpos hi hp hprecedes)
  | case2 heap i hi hpos hp hkeeps =>
    exact h.inOrder fun _ => ranked_of_not_precedes hp hi hkeeps
  | case3 heap i hi hzero => exact h.inOrder fun hpos => absurd hpos hzero

/-! ## Moving down -/

/-- Only the entries around the position may be out of order. -/
structure Loose (heap : Array Entry) (i : Nat) : Prop where
  off : ∀ c, 0 < c → c ≠ i → parent c ≠ i → Ranked heap (parent c) c
  across : ∀ c, 0 < c → parent c = i → 0 < i → Ranked heap (parent i) c

/-- The second position, if its entry is to be preferred, and else the first: the entry there is
served after neither. -/
theorem ranked_leader {heap : Array Entry} {i : Nat} (j : Nat) (hi : i < heap.size) :
    Ranked heap (leader heap i j hi) i ∧ Ranked heap (leader heap i j hi) j := by
  unfold leader
  split
  · next hj =>
    split
    · next hprecedes => exact ⟨ranked_of_precedes hj hi hprecedes, ranked_self heap j⟩
    · next hkeeps => exact ⟨ranked_self heap i, ranked_of_not_precedes hi hj hkeeps⟩
  · next hj => exact ⟨ranked_self heap i, ranked_of_le (Nat.le_of_not_lt hj)⟩

theorem child_eq_or {c : Nat} (hc : 0 < c) : c = 2 * parent c + 1 ∨ c = 2 * parent c + 2 := by
  simp only [parent]
  omega

theorem leader_left_lt {heap : Array Entry} {i : Nat} (hi : i < heap.size) :
    leader heap i (2 * i + 1) hi < heap.size :=
  leader_lt

/-- The best of a position and its children. -/
abbrev best (heap : Array Entry) (i : Nat) (hi : i < heap.size) : Nat :=
  leader heap (leader heap i (2 * i + 1) hi) (2 * i + 2) (leader_left_lt hi)

theorem ranked_best {heap : Array Entry} {i : Nat} (hi : i < heap.size) :
    Ranked heap (best heap i hi) i ∧
      ∀ c, 0 < c → parent c = i → Ranked heap (best heap i hi) c := by
  obtain ⟨hself, hleft⟩ := ranked_leader (2 * i + 1) hi
  obtain ⟨hfirst, hright⟩ := ranked_leader (2 * i + 2) (leader_left_lt hi)
  refine ⟨hfirst.trans hself leader_lt, fun c hc hparent => ?_⟩
  rcases child_eq_or hc with hchild | hchild
  · rw [hchild, hparent]
    exact hfirst.trans hleft leader_lt
  · rw [hchild, hparent]
    exact hright

theorem best_eq_or {heap : Array Entry} {i : Nat} (hi : i < heap.size) :
    best heap i hi = i ∨ 0 < best heap i hi ∧ parent (best heap i hi) = i := by
  have hfirst := @leader_eq_or heap i (2 * i + 1) hi
  rcases @leader_eq_or heap _ (2 * i + 2) (leader_left_lt hi) with hbest | hbest
  · rw [best, hbest]
    simp only [parent]
    omega
  · rw [best, hbest]
    simp only [parent]
    omega

/-- Nobody is served before the entry above, except perhaps at the children of the position. -/
structure Sinking (heap : Array Entry) (i : Nat) : Prop where
  off : ∀ c, 0 < c → parent c ≠ i → Ranked heap (parent c) c
  across : ∀ c, 0 < c → parent c = i → 0 < i → Ranked heap (parent i) c

theorem Sinking.loose {heap : Array Entry} {i : Nat} (h : Sinking heap i) : Loose heap i :=
  ⟨fun c hc _ hparent => h.off c hc hparent, h.across⟩

/-- The exchange with the best child leaves only what is below the child. -/
theorem Loose.exchange {heap : Array Entry} {i b : Nat} (h : Loose heap i) (hi : i < heap.size)
    (hb : b < heap.size) (hpos : 0 < b) (hparent : parent b = i) (hself : Ranked heap b i)
    (hchildren : ∀ c, 0 < c → parent c = i → Ranked heap b c) :
    Sinking (exchange heap i b hi hb) b := by
  have hlt : i < b := hparent ▸ parent_lt hpos
  constructor
  · intro c hc hcb
    rw [ranked_exchange]
    by_cases hc1 : c = b
    · rw [hc1, hparent, origin_left, origin_right]
      exact hself
    · by_cases hc2 : c = i
      · have hup : parent i < i := parent_lt (hc2 ▸ hc)
        rw [hc2, origin_left, origin_of_ne (Nat.ne_of_lt hup) (Nat.ne_of_lt (Nat.lt_trans hup hlt))]
        exact h.across b hpos hparent (hc2 ▸ hc)
      · rw [origin_of_ne hc2 hc1]
        by_cases hchild : parent c = i
        · rw [hchild, origin_left]
          exact hchildren c hc hchild
        · rw [origin_of_ne hchild hcb]
          exact h.off c hc hc2 hchild
  · intro c hc hcb _
    -- Below the child nothing has moved, and its entry has gone up.
    have hbc : b < c := hcb ▸ parent_lt hc
    have hic : c ≠ i := Nat.ne_of_gt (Nat.lt_trans hlt hbc)
    rw [ranked_exchange, hparent, origin_left, origin_of_ne hic (Nat.ne_of_gt hbc)]
    have hbelow : parent c ≠ i := hcb ▸ Nat.ne_of_gt hlt
    exact hcb ▸ h.off c hc hic hbelow

theorem Loose.exchange_best {heap : Array Entry} {i : Nat} (h : Loose heap i) (hi : i < heap.size)
    (hbest : best heap i hi ≠ i) :
    Sinking (Heap.exchange heap i (best heap i hi) hi leader_lt) (best heap i hi) := by
  obtain ⟨hpos, hparent⟩ := (best_eq_or hi).resolve_left hbest
  obtain ⟨hself, hchildren⟩ := ranked_best hi
  exact h.exchange hi leader_lt hpos hparent hself hchildren

/-- A position whose entry is served before its children. -/
theorem ranked_children {heap : Array Entry} {i : Nat} (hi : i < heap.size)
    (hbest : best heap i hi = i) : ∀ c, 0 < c → parent c = i → Ranked heap (parent c) c := by
  intro c hc hparent
  have hchild := (ranked_best hi).2 c hc hparent
  rwa [hbest, ← hparent] at hchild

theorem inOrder_siftDown {heap : Array Entry} {i : Nat} (hi : i < heap.size)
    (h : Sinking heap i) : InOrder (siftDown heap i hi) := by
  fun_induction siftDown heap i hi with
  | case1 heap i hi best hbest =>
    intro c hc
    by_cases hparent : parent c = i
    · exact ranked_children hi hbest c hc hparent
    · exact h.off c hc hparent
  | case2 heap i hi best hbest ih => exact ih (h.loose.exchange_best hi hbest)

/-- Either nothing moves and the entry may still have to go up, or it goes down and is then where
it belongs. -/
theorem rising_siftDown {heap : Array Entry} {i : Nat} (hi : i < heap.size) (h : Loose heap i) :
    Rising (siftDown heap i hi) i := by
  by_cases hbest : best heap i hi = i
  · have hstay : siftDown heap i hi = heap := by rw [siftDown, dif_pos hbest]
    rw [hstay]
    refine ⟨fun c hc hci => ?_, h.across⟩
    by_cases hparent : parent c = i
    · exact ranked_children hi hbest c hc hparent
    · exact h.off c hc hci hparent
  · rw [siftDown, dif_neg hbest]
    have horder := inOrder_siftDown (by simpa using leader_lt) (h.exchange_best hi hbest)
    exact .of_inOrder horder (by simpa using hi)

theorem inOrder_settle {heap : Array Entry} {i : Nat} (hi : i < heap.size) (h : Loose heap i) :
    InOrder (settle heap i hi) :=
  inOrder_siftUp _ (rising_siftDown hi h)

/-! ## Positions in the entries -/

theorem indexed_siftUp {heap : Array Entry} {i : Nat} (hi : i < heap.size) (h : Indexed heap) :
    Indexed (siftUp heap i hi) := by
  fun_induction siftUp heap i hi with
  | case1 heap i hi hpos hp hprecedes ih => exact ih (indexed_exchange hi hp h)
  | case2 => exact h
  | case3 => exact h

theorem indexed_siftDown {heap : Array Entry} {i : Nat} (hi : i < heap.size) (h : Indexed heap) :
    Indexed (siftDown heap i hi) := by
  fun_induction siftDown heap i hi with
  | case1 => exact h
  | case2 heap i hi best hbest ih => exact ih (indexed_exchange hi leader_lt h)

theorem indexed_settle {heap : Array Entry} {i : Nat} (hi : i < heap.size) (h : Indexed heap) :
    Indexed (settle heap i hi) :=
  indexed_siftUp _ (indexed_siftDown hi h)

/-! ## Ends and gaps -/

theorem rising_push {heap : Array Entry} (e : Entry) (h : InOrder heap) :
    Rising (heap.push e) heap.size := by
  have hticket : ∀ k, k ≠ heap.size → ticketAt (heap.push e) k = ticketAt heap k := by
    intro k hk
    rw [ticketAt, Array.getElem?_push, if_neg hk, ticketAt]
  constructor
  · intro c hc hcs
    by_cases hparent : parent c = heap.size
    · refine ranked_of_le ?_
      have := parent_lt hc
      rw [Array.size_push]
      omega
    · rw [Ranked, hticket c hcs, hticket _ hparent]
      exact h c hc
  · intro c hc hparent _
    refine ranked_of_le ?_
    have := parent_lt hc
    rw [Array.size_push]
    omega

theorem indexed_push {heap : Array Entry} (e : Entry) (h : Indexed heap) :
    Indexed (heap.push { e with heapIndex := heap.size }) := by
  intro k e' he
  rw [Array.getElem?_push] at he
  split at he
  · next hk =>
    obtain rfl := Option.some.inj he
    exact hk.symm
  · exact h k e' he

/-- An entry written over another one in an array that loses its end. -/
theorem getElem?_refill {heap : Array Entry} {i : Nat} (hi : i < heap.size) (e : Entry) (k : Nat) :
    (heap.set i e).pop[k]? =
      if k < heap.size - 1 then if i = k then some e else heap[k]? else none := by
  rw [Array.getElem?_pop, Array.size_set, Array.getElem?_set]

theorem loose_refill {heap : Array Entry} {i : Nat} (hi : i < heap.size) (e : Entry)
    (h : InOrder heap) : Loose (heap.set i e).pop i := by
  have hticket : ∀ k, k ≠ i → ∀ t ∈ ticketAt (heap.set i e).pop k, t ∈ ticketAt heap k := by
    intro k hk t ht
    rw [ticketAt, getElem?_refill, if_neg hk.symm] at ht
    split at ht
    · exact ht
    · cases ht
  constructor
  · intro c hc hci hparent s hs t ht
    exact h c hc s (hticket _ hparent s hs) t (hticket c hci t ht)
  · intro c hc hparent hpos s hs t ht
    have hup : parent i < i := parent_lt hpos
    have hdown : i < c := hparent ▸ parent_lt hc
    have hrank : Ranked heap (parent i) c := ((h i hpos).trans (hparent ▸ h c hc) hi)
    exact hrank s (hticket _ (Nat.ne_of_lt hup) s hs) t (hticket c (Nat.ne_of_gt hdown) t ht)

theorem indexed_refill {heap : Array Entry} {i : Nat} (hi : i < heap.size) {e : Entry}
    (he : e.heapIndex = i) (h : Indexed heap) : Indexed (heap.set i e).pop := by
  intro k e' hk
  rw [getElem?_refill] at hk
  split at hk
  · split at hk
    · next hik =>
      obtain rfl := Option.some.inj hk
      exact he.trans hik
    · exact h k e' hk
  · cases hk

/-- Nothing is out of order around a position past the end. -/
theorem Loose.inOrder_of_le {heap : Array Entry} {i : Nat} (h : Loose heap i)
    (hi : heap.size ≤ i) : InOrder heap := by
  intro c hc
  by_cases hci : c = i
  · exact ranked_of_le (hci ▸ hi)
  · by_cases hparent : parent c = i
    · have := parent_lt hc
      exact ranked_of_le (by omega)
    · exact h.off c hc hci hparent

end Heap

/-! ## The ledger -/

namespace Ledger

/-- The heap array of a ledger between two operations. -/
structure WellFormed (l : Ledger) : Prop where
  inOrder : Heap.InOrder l.heap
  indexed : Heap.Indexed l.heap

namespace WellFormed

variable {l : Ledger}

theorem empty : Ledger.empty.WellFormed :=
  ⟨fun _ _ => Heap.ranked_of_le (Nat.zero_le _), fun _ _ he => absurd he (by simp [Ledger.empty])⟩

theorem place (h : l.WellFormed) (e : Entry) : (l.place e).WellFormed :=
  ⟨Heap.inOrder_siftUp _ (Heap.rising_push _ h.inOrder),
    Heap.indexed_siftUp _ (Heap.indexed_push e h.indexed)⟩

theorem removeAt (h : l.WellFormed) {i : Nat} {taken : Entry} {rest : Ledger}
    (hremove : l.removeAt i = some (taken, rest)) : rest.WellFormed := by
  rw [Ledger.removeAt] at hremove
  split at hremove
  · next hi =>
    obtain ⟨-, rfl⟩ := Prod.mk.inj (Option.some.inj hremove)
    have hloose := Heap.loose_refill hi { l.heap[l.heap.size - 1] with heapIndex := i } h.inOrder
    have hindexed := Heap.indexed_refill hi
      (e := { l.heap[l.heap.size - 1] with heapIndex := i }) rfl h.indexed
    split
    · next hsettle =>
      exact ⟨Heap.inOrder_settle hsettle hloose, Heap.indexed_settle hsettle hindexed⟩
    · next hend => exact ⟨hloose.inOrder_of_le (Nat.le_of_not_lt hend), hindexed⟩
  · cases hremove

/-- Every position of the array holds an entry that knows it. -/
theorem get?_of_lt (h : l.WellFormed) {i : Nat} (hi : i < l.size) :
    ∃ e, l.get? i = some e ∧ e.heapIndex = i := by
  have he : l.get? i = some l.heap[i] := Array.getElem?_eq_getElem hi
  exact ⟨l.heap[i], he, h.indexed i _ he⟩

/-- Nobody is served before the entry above. -/
theorem not_precedes_parent (h : l.WellFormed) {i : Nat} (hpos : 0 < i) {e above : Entry}
    (he : l.get? i = some e) (habove : l.get? ((i - 1) / 2) = some above) :
    e.precedes above = false := by
  have hrank : Heap.Ranked l.heap ((i - 1) / 2) i := h.inOrder i hpos
  have hle := hrank above.ticket (Option.mem_map_of_mem _ habove) e.ticket
    (Option.mem_map_of_mem _ he)
  rw [Bool.eq_false_iff, ne_eq, Entry.precedes_iff]
  exact Ticket.notAfter_iff.mp hle

end WellFormed

end Ledger

end GameHub
