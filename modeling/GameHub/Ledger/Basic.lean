import GameHub.Ledger.Entry
import GameHub.Ordered

/-!
# The ledger of waiting players

A binary heap of entries in an array, first in the order of service at the root. Each entry
carries its own position, so that an entry that has been located can be taken out of the middle.

The array itself is only partly ordered. Whatever needs the whole order uses `Ledger.sorted`.
-/

namespace GameHub

/-! ## Sifting -/

namespace Heap

/-- The position above a position. -/
abbrev parent (i : Nat) : Nat := (i - 1) / 2

/-- Exchanges two entries, which learn their new positions. -/
def exchange (heap : Array Entry) (i j : Nat) (hi : i < heap.size) (hj : j < heap.size) :
    Array Entry :=
  (heap.set i { heap[j] with heapIndex := i }).set j { heap[i] with heapIndex := j }
    (by simpa using hj)

@[simp]
theorem size_exchange (heap : Array Entry) (i j : Nat) (hi : i < heap.size) (hj : j < heap.size) :
    (exchange heap i j hi hj).size = heap.size := by
  simp [exchange]

/-- Moves an entry up while it precedes its parent. -/
def siftUp (heap : Array Entry) (i : Nat) (hi : i < heap.size) : Array Entry :=
  if h : 0 < i then
    have hp : parent i < heap.size := by simp only [parent]; omega
    if heap[i].precedes heap[parent i] then
      siftUp (exchange heap i (parent i) hi hp) (parent i) (by simpa using hp)
    else heap
  else heap
termination_by i
decreasing_by simp only [parent]; omega

/-- Of two positions the second one, if there is an entry and it precedes the one at the first. -/
def leader (heap : Array Entry) (i j : Nat) (hi : i < heap.size) : Nat :=
  if hj : j < heap.size then
    if heap[j].precedes heap[i] then j else i
  else i

theorem leader_lt {heap : Array Entry} {i j : Nat} {hi : i < heap.size} :
    leader heap i j hi < heap.size := by
  unfold leader; split
  · split <;> assumption
  · assumption

theorem leader_eq_or {heap : Array Entry} {i j : Nat} {hi : i < heap.size} :
    leader heap i j hi = i ∨ leader heap i j hi = j := by
  unfold leader; split
  · split <;> simp
  · simp

/-- Moves an entry down while a child precedes it; the better of two children moves up. -/
def siftDown (heap : Array Entry) (i : Nat) (hi : i < heap.size) : Array Entry :=
  let best := leader heap (leader heap i (2 * i + 1) hi) (2 * i + 2) leader_lt
  if h : best = i then heap
  else siftDown (exchange heap i best hi leader_lt) best (by simpa using leader_lt)
termination_by heap.size - i
decreasing_by
  have hlt : best < heap.size := leader_lt
  have hbest : best = leader heap i (2 * i + 1) hi ∨ best = 2 * i + 2 := leader_eq_or
  have hchild := @leader_eq_or heap i (2 * i + 1) hi
  simp only [size_exchange]
  omega

@[simp]
theorem size_siftUp (heap : Array Entry) (i : Nat) (hi : i < heap.size) :
    (siftUp heap i hi).size = heap.size := by
  fun_induction siftUp heap i hi <;> simp_all

@[simp]
theorem size_siftDown (heap : Array Entry) (i : Nat) (hi : i < heap.size) :
    (siftDown heap i hi).size = heap.size := by
  fun_induction siftDown heap i hi <;> simp_all

/-- Moves an entry that may be out of place in either direction. -/
def settle (heap : Array Entry) (i : Nat) (hi : i < heap.size) : Array Entry :=
  siftUp (siftDown heap i hi) i (by simpa using hi)

end Heap

/-! ## The ledger -/

/-- Waiting players in heap order. -/
structure Ledger where
  heap : Array Entry
  /-- The number of the next insertion. It counts the insertions of a run, and these are taken to be
  fewer than 2⁶⁴, so that a 64-bit word holds it. -/
  nextSeq : Nat
  deriving DecidableEq, Repr, Inhabited

namespace Ledger

/-- Nobody waits. -/
def empty : Ledger := ⟨#[], 0⟩

/-- How many players wait. -/
def size (l : Ledger) : Nat := l.heap.size

/-- Nobody waits. -/
def isEmpty (l : Ledger) : Bool := l.heap.isEmpty

/-- The entry at a position of the heap array. -/
def get? (l : Ledger) (i : Nat) : Option Entry := l.heap[i]?

/-- The entries in the order of the heap array. -/
def toList (l : Ledger) : List Entry := l.heap.toList

/-- The entries in the order of service. -/
def sorted (l : Ledger) : List Entry := sortBy Entry.notAfter l.toList

/-- The entry that is served first. -/
def peek (l : Ledger) : Option Entry := l.get? 0

/-- The position of the entry of a player. -/
def find (l : Ledger) (subject : PlayerId) : Option Nat :=
  l.heap.findIdx? (·.subject = subject)

/-- Adds an entry at the end of the array and moves it to its place. -/
def place (l : Ledger) (entry : Entry) : Ledger :=
  { l with
    heap := Heap.siftUp (l.heap.push { entry with heapIndex := l.heap.size }) l.heap.size
      (by simp) }

/-- Puts a player in line and returns the number of the insertion. -/
def push (l : Ledger) (subject : PlayerId) (rank : Rank) (joinTime : UInt64) (target : String) :
    Nat × Ledger :=
  (l.nextSeq,
    { l with nextSeq := l.nextSeq + 1 }.place ⟨subject, rank, joinTime, target, l.nextSeq, 0⟩)

/-- Puts an entry that was taken out back in line, where it stood in the order of service. -/
def restore (l : Ledger) (entry : Entry) : Ledger :=
  { l with nextSeq := max l.nextSeq (entry.seq + 1) }.place entry

/-- Takes out the entry at a position. The last entry of the array fills the gap and moves to its
place from there. -/
def removeAt (l : Ledger) (i : Nat) : Option (Entry × Ledger) :=
  if h : i < l.heap.size then
    let last := l.heap[l.heap.size - 1]
    let rest := (l.heap.set i { last with heapIndex := i }).pop
    let heap := if hi : i < rest.size then Heap.settle rest i hi else rest
    some ({ l.heap[i] with heapIndex := 0 }, { l with heap })
  else none

/-- Takes out the entry that is served first. -/
def pop (l : Ledger) : Option (Entry × Ledger) := l.removeAt 0

end Ledger

end GameHub
