import GameHub.NameMap
import GameHub.Proofs.Backend.Sweep
import Mathlib.Data.List.Nodup

/-!
# Records by id, and ids in order

A registry is a list of records. A catalogue keeps the same backends in two parts: a map that finds
a record by its id, and a list of the ids, which remembers the order of declaration. The parts are
changed one by one, and a snapshot passes over an id that the map does not have, so nothing would
show if they came apart.

**Theorem (`parts_in_step`).** They never come apart. Whatever was added and observed, the list
holds the keys of the map, each once and in the order in which they were added first, and the
snapshot has the record of every one of them. An operation on one backend leaves all other records
alone, and nothing changes if the backend is not known. The registry holds the snapshot and gives
the same answers.

`InStep` is the invariant of the two parts. Under it a catalogue stands for a registry
(`Catalogue.registry`), and each operation of the one is the operation of the other.
-/

namespace GameHub

open Backend

/-! ## Operations -/

namespace Registry

/-- Something that is done to the backends or observed of them. -/
inductive Operation where
  | add (record : Record)
  | setStatus (id : String) (status : Status)
  | report (id : String) (current max : UInt32) (now : UInt64)
  | recordFailure (id : String)
  | sweepStale (now : UInt64) (timeout : Duration)
  deriving DecidableEq, Repr

/-- What an operation answers. -/
inductive Answer where
  | done
  /-- Whether the backend is known. -/
  | known (yes : Bool)
  /-- The backends that went offline. -/
  | lost (ids : List String)
  deriving DecidableEq, Repr

/-- The id of the record that is added. -/
def Operation.added? : Operation → Option String
  | add record => some record.id
  | _ => none

/-- Carries out an operation. -/
def perform (r : Registry) : Operation → Answer × Registry
  | .add record => (.done, r.add record)
  | .setStatus backend status => (r.setStatus backend status).map .known id
  | .report backend current max now => (r.report backend current max now).map .known id
  | .recordFailure backend => (r.recordFailure backend).map .known id
  | .sweepStale now timeout => (r.sweepStale now timeout).map .lost id

/-- Carries out one operation after another. -/
def performAll (r : Registry) (operations : List Operation) : Registry :=
  operations.foldl (fun r o => (r.perform o).2) r

end Registry

/-! ## Catalogues -/

/-- The backends in two parts. -/
structure Catalogue where
  /-- The records by id. -/
  table : NameMap Record
  /-- The ids in the order in which they were added first. -/
  order : List String
  /-- Missed reports in a row after which a backend is offline. -/
  threshold : UInt32

namespace Catalogue

/-- No backends. A threshold of zero counts as one. -/
def empty (threshold : UInt32) : Catalogue := ⟨.empty, [], if threshold = 0 then 1 else threshold⟩

/-- The record of a backend. -/
def get? (c : Catalogue) (id : String) : Option Record := c.table.get? id

/-- The backend is known. -/
def contains (c : Catalogue) (id : String) : Bool := (c.get? id).isSome

/-- The ids in the order in which they were added first. -/
def ids (c : Catalogue) : List String := c.order

/-- How many records there are. -/
def size (c : Catalogue) : Nat := c.table.entries.length

/-- There are no records. -/
def isEmpty (c : Catalogue) : Bool := c.table.entries.isEmpty

/-- The records in the order of the ids. An id without a record is passed over. -/
def snapshot (c : Catalogue) : List Record := c.order.filterMap c.get?

/-- Enters a record, instead of the one with the same id. A new id goes to the end. -/
def add (c : Catalogue) (record : Record) : Catalogue :=
  { c with
    order := if c.contains record.id then c.order else c.order ++ [record.id]
    table := c.table.insert record.id record }

/-- The catalogue of declared backends, all of them offline. -/
def ofDeclarations (declarations : List Declaration) (threshold : UInt32) : Catalogue :=
  declarations.foldl (fun c d => c.add (.ofDeclaration d)) (empty threshold)

/-- Applies a change to the record of one backend; says whether there is one. -/
def adjust (c : Catalogue) (id : String) (change : Record → Record) : Bool × Catalogue :=
  match c.get? id with
  | some b => (true, { c with table := c.table.insert id (change b) })
  | none => (false, c)

/-- Replaces the status of a backend. -/
def setStatus (c : Catalogue) (id : String) (status : Status) : Bool × Catalogue :=
  c.adjust id fun b => { b with status }

/-- A backend reports how full it is. -/
def report (c : Catalogue) (id : String) (current max : UInt32) (now : UInt64) :
    Bool × Catalogue :=
  c.adjust id (·.report current max now)

/-- A report of a backend was missed. -/
def recordFailure (c : Catalogue) (id : String) : Bool × Catalogue :=
  c.adjust id (·.miss c.threshold)

/-- Counts a missed report against one backend after another. The ids are those of the backends
that were online before it and are offline after it. -/
def missEach (c : Catalogue) : List String → List String × Catalogue
  | [] => ([], c)
  | id :: ids =>
    let after := (c.recordFailure id).2
    let rest := after.missEach ids
    let lost := (c.get? id).any (·.status.online) && (after.get? id).any (!·.status.online)
    (if lost then id :: rest.1 else rest.1, rest.2)

/-- Counts a missed report against every stale backend. -/
def sweepStale (c : Catalogue) (now : UInt64) (timeout : Duration) : List String × Catalogue :=
  c.missEach (c.order.filter fun id => (c.get? id).any (·.isStale now timeout.millis))

/-- Carries out an operation. -/
def perform (c : Catalogue) : Registry.Operation → Registry.Answer × Catalogue
  | .add record => (.done, c.add record)
  | .setStatus backend status => (c.setStatus backend status).map .known id
  | .report backend current max now => (c.report backend current max now).map .known id
  | .recordFailure backend => (c.recordFailure backend).map .known id
  | .sweepStale now timeout => (c.sweepStale now timeout).map .lost id

/-- Carries out one operation after another. -/
def performAll (c : Catalogue) (operations : List Registry.Operation) : Catalogue :=
  operations.foldl (fun c o => (c.perform o).2) c

variable {c : Catalogue}

/-! ## What an operation does to each record -/

theorem get?_add (c : Catalogue) (record : Record) (id : String) :
    (c.add record).get? id = if record.id = id then some record else c.get? id :=
  NameMap.get?_insert c.table record.id id record

theorem get?_adjust (c : Catalogue) (id other : String) (change : Record → Record) :
    (c.adjust id change).2.get? other =
      if id = other then (c.get? other).map change else c.get? other := by
  cases hget : c.get? id with
  | none =>
    rw [adjust, hget]
    by_cases heq : id = other
    · rw [if_pos heq, ← heq, hget, Option.map_none]
    · rw [if_neg heq]
  | some b =>
    rw [adjust, hget]
    refine (NameMap.get?_insert c.table id other (change b)).trans ?_
    by_cases heq : id = other
    · rw [if_pos heq, if_pos heq, ← heq, hget, Option.map_some]
    · rw [if_neg heq, if_neg heq]
      rfl

theorem get?_adjust_of_ne {id other : String} (h : other ≠ id) (change : Record → Record) :
    (c.adjust id change).2.get? other = c.get? other := by
  rw [get?_adjust, if_neg h.symm]

theorem adjust_unknown {id : String} (h : c.get? id = none) (change : Record → Record) :
    c.adjust id change = (false, c) := by
  rw [adjust, h]

theorem fst_adjust (c : Catalogue) (id : String) (change : Record → Record) :
    (c.adjust id change).1 = c.contains id := by
  rw [adjust, contains]
  cases c.get? id <;> rfl

@[simp]
theorem order_adjust (c : Catalogue) (id : String) (change : Record → Record) :
    (c.adjust id change).2.order = c.order := by
  rw [adjust]
  cases c.get? id <;> rfl

@[simp]
theorem threshold_adjust (c : Catalogue) (id : String) (change : Record → Record) :
    (c.adjust id change).2.threshold = c.threshold := by
  rw [adjust]
  cases c.get? id <;> rfl

/-- A record that is there already is changed where it stands. -/
theorem add_of_contains {record : Record} (h : c.contains record.id = true) :
    c.add record = (c.adjust record.id fun _ => record).2 := by
  obtain ⟨b, hget⟩ := Option.isSome_iff_exists.mp h
  rw [add, if_pos h, adjust, hget]

/-! ## The two parts in step -/

/-- The list holds the keys of the map, each once, and every record is filed under its id. -/
structure InStep (c : Catalogue) : Prop where
  nodup : c.order.Nodup
  mem_order : ∀ id, id ∈ c.order ↔ c.contains id = true
  filed : ∀ id b, c.get? id = some b → b.id = id

namespace InStep

theorem empty (threshold : UInt32) : (Catalogue.empty threshold).InStep :=
  ⟨List.nodup_nil, fun _ => iff_of_false List.not_mem_nil Bool.false_ne_true,
    fun _ _ h => nomatch h⟩

theorem adjust (h : c.InStep) {id : String} {change : Record → Record}
    (hid : ∀ b, b.id = id → (change b).id = id) : (c.adjust id change).2.InStep := by
  refine ⟨?_, fun other => ?_, fun other b hget => ?_⟩
  · rw [order_adjust]
    exact h.nodup
  · rw [order_adjust, h.mem_order, contains, contains, get?_adjust]
    split
    · rw [Option.isSome_map]
    · rfl
  · rw [get?_adjust] at hget
    split at hget
    · next heq =>
      subst heq
      obtain ⟨old, hold, rfl⟩ := Option.map_eq_some_iff.mp hget
      exact hid old (h.filed id old hold)
    · exact h.filed other b hget

theorem add (h : c.InStep) (record : Record) : (c.add record).InStep := by
  by_cases hknown : c.contains record.id = true
  · rw [add_of_contains hknown]
    exact h.adjust fun _ _ => rfl
  · have hnew : record.id ∉ c.order := fun hmem => hknown ((h.mem_order _).mp hmem)
    have horder : (c.add record).order = c.order ++ [record.id] := if_neg hknown
    refine ⟨?_, fun id => ?_, fun id b hget => ?_⟩
    · rw [horder]
      exact h.nodup.append (List.nodup_singleton _) (List.disjoint_singleton.mpr hnew)
    · rw [horder, List.mem_append, List.mem_singleton, h.mem_order, contains, contains, get?_add]
      split
      · next heq => exact iff_of_true (.inr heq.symm) rfl
      · next hne => exact or_iff_left (Ne.symm hne)
    · rw [get?_add] at hget
      split at hget
      · next heq => exact Option.some.inj hget ▸ heq
      · exact h.filed id b hget

theorem missEach (h : c.InStep) (ids : List String) : (c.missEach ids).2.InStep := by
  induction ids generalizing c with
  | nil => exact h
  | cons id ids ih => exact ih (h.adjust fun _ hb => hb)

theorem perform (h : c.InStep) (o : Registry.Operation) : (c.perform o).2.InStep := by
  cases o with
  | add record => exact h.add record
  | setStatus backend status | report backend current max now | recordFailure backend =>
    exact h.adjust fun _ hb => hb
  | sweepStale now timeout => exact h.missEach _

theorem performAll (h : c.InStep) (operations : List Registry.Operation) :
    (c.performAll operations).InStep := by
  induction operations generalizing c with
  | nil => exact h
  | cons o operations ih => exact ih (h.perform o)

/-- The list and the map have the same ids. -/
theorem perm_keys (h : c.InStep) : c.order.Perm (c.table.entries.map (·.1)) := by
  refine (List.perm_ext_iff_of_nodup h.nodup c.table.nodup_keys).mpr fun id => ?_
  rw [h.mem_order, ← NameMap.isSome_get?_iff]
  rfl

theorem size_eq (h : c.InStep) : c.size = c.order.length := by
  rw [h.perm_keys.length_eq, List.length_map, size]

/-- The snapshot passes over nothing. -/
theorem map_some_snapshot (h : c.InStep) : c.snapshot.map some = c.order.map c.get? := by
  rw [snapshot, List.map_filterMap, ← List.filterMap_eq_map]
  refine List.filterMap_congr fun id hid => ?_
  obtain ⟨b, hget⟩ := Option.isSome_iff_exists.mp ((h.mem_order id).mp hid)
  rw [Function.comp_apply, hget, Option.map_some]

end InStep

/-! ## The order of the first additions -/

theorem order_missEach (c : Catalogue) (ids : List String) :
    (c.missEach ids).2.order = c.order := by
  induction ids generalizing c with
  | nil => rfl
  | cons id ids ih => exact (ih _).trans (order_adjust ..)

/-- Only an addition touches the order. -/
theorem order_perform (c : Catalogue) (o : Registry.Operation) : (c.perform o).2.order =
    o.added?.elim c.order fun id => if c.contains id then c.order else c.order ++ [id] := by
  cases o with
  | add record => rfl
  | sweepStale now timeout => exact order_missEach ..
  | _ => exact order_adjust ..

theorem performAll_append (c : Catalogue) (first later : List Registry.Operation) :
    c.performAll (first ++ later) = (c.performAll first).performAll later :=
  List.foldl_append

theorem eraseDups_concat (ids : List String) (id : String) : (ids ++ [id]).eraseDups =
    if id ∈ ids then ids.eraseDups else ids.eraseDups ++ [id] := by
  rw [List.eraseDups_append, List.removeAll]
  by_cases hmem : id ∈ ids <;> simp [hmem, List.eraseDups_cons]

/-- The ids stand in the order in which they were added first. -/
theorem order_performAll (threshold : UInt32) (operations : List Registry.Operation) :
    ((empty threshold).performAll operations).order =
      (operations.filterMap (·.added?)).eraseDups := by
  induction operations using List.reverseRecOn with
  | nil => rfl
  | append_singleton operations o ih =>
    have hknown (id : String) : ((empty threshold).performAll operations).contains id = true ↔
        id ∈ operations.filterMap (·.added?) := by
      rw [← ((InStep.empty threshold).performAll operations).mem_order, ih, List.mem_eraseDups]
    rw [performAll_append, List.filterMap_append]
    refine (order_perform _ o).trans ?_
    cases hadded : o.added? with
    | none => simp [hadded, ih]
    | some id =>
      rw [List.filterMap_cons_some hadded, List.filterMap_nil, eraseDups_concat, ← ih]
      simp only [Option.elim_some, hknown]

/-! ## The registry that a catalogue stands for -/

/-- The records in order, without the map. -/
def registry (c : Catalogue) : Registry := ⟨c.snapshot, c.threshold⟩

namespace InStep

theorem mem_snapshot_iff (h : c.InStep) {b : Record} :
    b ∈ c.snapshot ↔ c.get? b.id = some b := by
  rw [snapshot, List.mem_filterMap]
  constructor
  · rintro ⟨id, -, hget⟩
    rwa [h.filed id b hget]
  · intro hget
    exact ⟨b.id, (h.mem_order b.id).mpr (Option.isSome_of_mem hget), hget⟩

theorem ids_registry (h : c.InStep) : c.registry.ids = c.order := by
  show (c.order.filterMap c.get?).map (·.id) = c.order
  rw [List.map_filterMap]
  refine (List.filterMap_congr fun id hid => ?_).trans List.filterMap_some
  obtain ⟨b, hget⟩ := Option.isSome_iff_exists.mp ((h.mem_order id).mp hid)
  rw [hget, Option.map_some, h.filed id b hget]

theorem get?_registry (h : c.InStep) (id : String) : c.registry.get? id = c.get? id := by
  have hids : c.registry.ids.Nodup := h.ids_registry ▸ h.nodup
  refine Option.ext fun b => ?_
  rw [Registry.get?_eq_some_iff hids]
  refine (and_congr_left fun _ => h.mem_snapshot_iff).trans ?_
  constructor
  · rintro ⟨hget, rfl⟩
    exact hget
  · intro hget
    obtain rfl := h.filed id b hget
    exact ⟨hget, rfl⟩

theorem contains_registry (h : c.InStep) (id : String) :
    c.registry.contains id = c.contains id := by
  rw [Bool.eq_iff_iff, Registry.contains_iff, h.ids_registry, h.mem_order]

theorem registry_adjust (h : c.InStep) (id : String) (change : Record → Record) :
    (c.adjust id change).2.registry = c.registry.adjust id change := by
  have hrecords : (c.adjust id change).2.snapshot =
      c.snapshot.map fun b => if b.id = id then change b else b := by
    rw [snapshot, order_adjust, snapshot, List.map_filterMap]
    refine List.filterMap_congr fun other _ => ?_
    rw [get?_adjust]
    cases hget : c.get? other with
    | none => exact ite_self _
    | some b =>
      obtain rfl := h.filed other b hget
      by_cases heq : b.id = id
      · simp [heq]
      · simp [heq, Ne.symm heq]
  rw [registry, hrecords, threshold_adjust]
  rfl

theorem registry_add (h : c.InStep) (record : Record) :
    (c.add record).registry = c.registry.add record := by
  rw [Registry.add, h.contains_registry]
  by_cases hknown : c.contains record.id = true
  · rw [if_pos hknown, add_of_contains hknown]
    exact h.registry_adjust ..
  · rw [if_neg hknown]
    have horder : (c.add record).order = c.order ++ [record.id] := if_neg hknown
    have hothers : c.order.filterMap (c.add record).get? = c.snapshot := by
      refine List.filterMap_congr fun id hid => ?_
      rw [get?_add, if_neg]
      rintro rfl
      exact hknown ((h.mem_order _).mp hid)
    have hself : (c.add record).get? record.id = some record := by
      rw [get?_add, if_pos rfl]
    have hrecords : (c.add record).snapshot = c.snapshot ++ [record] := by
      rw [snapshot, horder, List.filterMap_append, hothers, List.filterMap_cons_some hself]
      rfl
    rw [registry, hrecords]
    rfl

theorem missEach_registry (h : c.InStep) (ids : List String) : c.registry.missEach ids =
    ((c.missEach ids).1, (c.missEach ids).2.registry) := by
  induction ids generalizing c with
  | nil => rfl
  | cons id ids ih =>
    have hafter : (c.recordFailure id).2.InStep := h.adjust fun _ hb => hb
    have hstep : (c.registry.recordFailure id).2 = (c.recordFailure id).2.registry :=
      (h.registry_adjust ..).symm
    rw [Registry.missEach, hstep, ih hafter, Registry.isOnline, Registry.isOffline,
      h.get?_registry, hafter.get?_registry]
    rfl

theorem sweepStale_registry (h : c.InStep) (now : UInt64) (timeout : Duration) :
    c.registry.sweepStale now timeout =
      ((c.sweepStale now timeout).1, (c.sweepStale now timeout).2.registry) := by
  have hids : c.registry.ids.Nodup := h.ids_registry ▸ h.nodup
  rw [Registry.sweepStale_eq_missEach now timeout hids, h.ids_registry,
    List.filter_congr fun id _ => by rw [h.get?_registry id], h.missEach_registry]
  rfl

/-- Each operation of a catalogue is that of its registry. -/
theorem perform_registry (h : c.InStep) (o : Registry.Operation) :
    c.registry.perform o = ((c.perform o).1, (c.perform o).2.registry) := by
  have hadjust (id : String) (change : Record → Record) :
      (c.registry.contains id, c.registry.adjust id change) =
        ((c.adjust id change).1, (c.adjust id change).2.registry) := by
    rw [h.registry_adjust, fst_adjust, h.contains_registry]
  cases o with
  | add record => exact Prod.ext rfl (h.registry_add record).symm
  | setStatus backend status | report backend current max now | recordFailure backend =>
    exact congrArg (Prod.map Registry.Answer.known id) (hadjust backend _)
  | sweepStale now timeout =>
    exact congrArg (Prod.map Registry.Answer.lost id) (h.sweepStale_registry now timeout)

theorem performAll_registry (h : c.InStep) (operations : List Registry.Operation) :
    c.registry.performAll operations = (c.performAll operations).registry := by
  induction operations generalizing c with
  | nil => rfl
  | cons o operations ih =>
    rw [Registry.performAll, List.foldl_cons, h.perform_registry]
    exact ih (h.perform o)

end InStep

/-! ## The result -/

/-- Nothing that is asked of the two tells them apart, also after one more operation. -/
structure Shows (c : Catalogue) (r : Registry) : Prop where
  records : r.records = c.snapshot
  ids : r.ids = c.ids
  size : r.size = c.size
  isEmpty : r.isEmpty = c.isEmpty
  get? : ∀ id, r.get? id = c.get? id
  contains : ∀ id, r.contains id = c.contains id
  answer : ∀ o, (r.perform o).1 = (c.perform o).1
  after : ∀ o id, (r.perform o).2.get? id = (c.perform o).2.get? id

theorem InStep.shows (h : c.InStep) : c.Shows c.registry := by
  have hsize : c.registry.size = c.size := by
    rw [h.size_eq, ← h.ids_registry, Registry.ids, List.length_map, Registry.size]
  refine ⟨rfl, h.ids_registry, hsize, ?_, h.get?_registry, h.contains_registry, fun o => ?_,
    fun o id => ?_⟩
  · rw [Registry.isEmpty, isEmpty, Bool.eq_iff_iff, List.isEmpty_iff_length_eq_zero,
      List.isEmpty_iff_length_eq_zero]
    exact Eq.congr_left hsize
  · rw [h.perform_registry]
  · rw [h.perform_registry]
    exact (h.perform o).get?_registry id

/-- Declaring backends is adding their records. -/
theorem ofDeclarations_eq (declarations : List Declaration) (threshold : UInt32) :
    ofDeclarations declarations threshold =
      (empty threshold).performAll (declarations.map fun d => .add (.ofDeclaration d)) := by
  rw [performAll, List.foldl_map]
  rfl

/-- **The list of ids and the map of records stay in step**, and what is seen of the two is the
registry. -/
theorem parts_in_step (declarations : List Declaration) (threshold : UInt32)
    (operations : List Registry.Operation) :
    let c := (ofDeclarations declarations threshold).performAll operations
    let r := (Registry.ofDeclarations declarations threshold).performAll operations
    c.ids.Nodup ∧
    c.ids.Perm (c.table.entries.map (·.1)) ∧
    c.ids = (declarations.map (·.id) ++ operations.filterMap (·.added?)).eraseDups ∧
    c.size = c.ids.length ∧
    (∀ id b, c.table.get? id = some b → b.id = id) ∧
    c.snapshot.map some = c.ids.map c.get? ∧
    (∀ record other, other ≠ record.id → (c.add record).get? other = c.get? other) ∧
    (∀ id other, other ≠ id →
      (∀ status, (c.setStatus id status).2.get? other = c.get? other) ∧
      (∀ current max now, (c.report id current max now).2.get? other = c.get? other) ∧
      (c.recordFailure id).2.get? other = c.get? other) ∧
    (∀ id, c.get? id = none →
      (∀ status, c.setStatus id status = (false, c)) ∧
      (∀ current max now, c.report id current max now = (false, c)) ∧
      c.recordFailure id = (false, c)) ∧
    c.Shows r := by
  intro c r
  let added : List Registry.Operation := declarations.map fun d => .add (.ofDeclaration d)
  -- Declaring is adding, so the catalogue is the result of one list of operations.
  have hc : c = (empty threshold).performAll (added ++ operations) := by
    show (ofDeclarations declarations threshold).performAll operations = _
    rw [ofDeclarations_eq, performAll_append]
  have hstep : c.InStep := hc ▸ (InStep.empty threshold).performAll _
  have hr : r = c.registry := by
    have hempty : Registry.empty threshold = (empty threshold).registry := rfl
    rw [hc, ← (InStep.empty threshold).performAll_registry, ← hempty, Registry.performAll,
      List.foldl_append, List.foldl_map]
    rfl
  have hids : c.ids = (declarations.map (·.id) ++ operations.filterMap (·.added?)).eraseDups := by
    have hadded : added.filterMap (·.added?) = declarations.map (·.id) := by
      rw [List.filterMap_map]
      exact congrFun List.filterMap_eq_map _
    rw [ids, hc, order_performAll, List.filterMap_append, hadded]
  refine ⟨hstep.nodup, hstep.perm_keys, hids, hstep.size_eq, hstep.filed, hstep.map_some_snapshot,
    fun record other hne => ?_, fun id other hne => ?_, fun id hunknown => ?_, hr ▸ hstep.shows⟩
  · rw [get?_add, if_neg hne.symm]
  · exact ⟨fun _ => get?_adjust_of_ne hne _, fun _ _ _ => get?_adjust_of_ne hne _,
      get?_adjust_of_ne hne _⟩
  · exact ⟨fun _ => adjust_unknown hunknown _, fun _ _ _ => adjust_unknown hunknown _,
      adjust_unknown hunknown _⟩

/-- A backend is declared twice and another one is added anew, after one of them was lost. -/
theorem parts_in_step_of_replaced :
    let declarations : List Declaration := [⟨"red", none, "10.0.0.2:25565", none⟩,
      ⟨"blue", none, "10.0.0.3:25565", none⟩, ⟨"red", some "Red", "10.0.0.4:25565", none⟩]
    let green : Record := .ofDeclaration ⟨"green", none, "10.0.0.5:25565", none⟩
    let blue : Record := .ofDeclaration ⟨"blue", some "Blue", "10.0.0.6:25565", none⟩
    let operations : List Registry.Operation := [.report "red" 3 10 0, .add green,
      .setStatus "black" .offline, .sweepStale 30000 (.ofSeconds 10), .add blue]
    let c := (ofDeclarations declarations 1).performAll operations
    c.ids = ["red", "blue", "green"] ∧
      c.snapshot = [⟨"red", "Red", "10.0.0.4:25565", none, .offline, 1, some 0⟩, blue, green] ∧
      ("green" ≠ blue.id ∧ (c.add blue).get? "green" = c.get? "green") ∧
      ("blue" ≠ "red" ∧ (c.recordFailure "red").2.get? "blue" = c.get? "blue") ∧
      c.get? "black" = none ∧ c.recordFailure "black" = (false, c) := by
  intro declarations green blue operations c
  have hunknown : c.get? "black" = none := by decide +kernel
  have hgreen : "green" ≠ blue.id := by decide
  have hblue : "blue" ≠ "red" := by decide
  obtain ⟨-, -, hids, -, -, -, hadd, hothers, hnothing, -⟩ :=
    parts_in_step declarations 1 operations
  exact ⟨hids.trans (by decide +kernel), by decide +kernel, ⟨hgreen, hadd blue "green" hgreen⟩,
    ⟨hblue, (hothers "red" "blue" hblue).2.2⟩, hunknown, (hnothing "black" hunknown).2.2⟩

end Catalogue

end GameHub
