import GameHub.Backend.Registry
import GameHub.Proofs.Keyed
import Mathlib.Data.List.Induction

/-!
# The directory of backends

However a registry came about (`Registry.Reachable`), no two of its records have one id
(`Reachable.nodup_ids`). So a record is what is found under its id (`get?_eq_some_iff`), and what is
observed of backends makes none of them known or unknown.
-/

namespace GameHub

open Backend

namespace Registry

variable {r : Registry}

/-! ## What changes leave alone -/

/-- What a change leaves alone in one record it leaves alone everywhere. -/
theorem map_adjust {α : Type} {f : Record → α} {id : String} {change : Record → Record}
    (h : ∀ b, b.id = id → f (change b) = f b) :
    (r.adjust id change).records.map f = r.records.map f := by
  rw [adjust, List.map_map]
  refine List.map_congr_left fun b _ => ?_
  by_cases hb : b.id = id
  · simp [hb, h b hb]
  · simp [hb]

theorem map_sweepStale {α : Type} {f : Record → α}
    (h : ∀ b threshold, f (Record.miss threshold b) = f b) (now : UInt64) (timeout : Duration) :
    (r.sweepStale now timeout).2.records.map f = r.records.map f := by
  rw [sweepStale, List.map_map]
  refine List.map_congr_left fun b _ => ?_
  show f (if _ then _ else _) = f b
  split
  · exact h b r.threshold
  · rfl

theorem ids_adjust {id : String} {change : Record → Record} (h : ∀ b, b.id = id →
    (change b).id = b.id) : (r.adjust id change).ids = r.ids :=
  map_adjust h

theorem contains_iff {id : String} : r.contains id = true ↔ id ∈ r.ids := by
  simp [contains, ids]

theorem mem_ids_add {record : Record} {id : String} :
    id ∈ (r.add record).ids ↔ id ∈ r.ids ∨ id = record.id := by
  rw [add]
  by_cases hmem : record.id ∈ r.ids
  · rw [if_pos (contains_iff.mpr hmem), ids_adjust fun b hb => hb.symm]
    exact ⟨.inl, fun h => h.elim (·) fun heq => heq ▸ hmem⟩
  · rw [if_neg (fun h => hmem (contains_iff.mp h)), ids, List.map_append, List.mem_append]
    exact or_congr_right List.mem_singleton

theorem mem_ids_declare (declarations : List Declaration) {id : String}
    (h : id ∈ r.ids ∨ id ∈ declarations.map (·.id)) :
    id ∈ (declarations.foldl (fun r d => r.add (.ofDeclaration d)) r).ids := by
  induction declarations generalizing r with
  | nil => exact h.elim (·) fun h => absurd h List.not_mem_nil
  | cons d rest ih =>
    refine ih ?_
    rw [mem_ids_add, or_assoc]
    exact h.imp_right List.mem_cons.mp

/-! ## One record for each id -/

theorem nodup_ids_add (h : r.ids.Nodup) (record : Record) :
    (r.add record).ids.Nodup := by
  rw [add]
  by_cases hmem : record.id ∈ r.ids
  · rw [if_pos (contains_iff.mpr hmem), ids_adjust fun b hb => hb.symm]
    exact h
  · rw [if_neg fun hc => hmem (contains_iff.mp hc), ids, List.map_append]
    exact h.append (List.nodup_singleton _) (List.disjoint_singleton.mpr hmem)

/-- No backend is declared twice. -/
theorem nodup_ids_ofDeclarations (declarations : List Declaration) (threshold : UInt32) :
    (ofDeclarations declarations threshold).ids.Nodup := by
  induction declarations using List.reverseRecOn with
  | nil => exact List.nodup_nil
  | append_singleton declarations d ih =>
    rw [ofDeclarations, List.foldl_append]
    exact nodup_ids_add ih _

section Observed

variable (r : Registry) (id : String)

theorem ids_setStatus (status : Status) : (r.setStatus id status).2.ids = r.ids :=
  ids_adjust fun _ _ => rfl

theorem ids_report (current max : UInt32) (now : UInt64) :
    (r.report id current max now).2.ids = r.ids :=
  ids_adjust fun _ _ => rfl

theorem ids_recordFailure : (r.recordFailure id).2.ids = r.ids :=
  ids_adjust fun _ _ => rfl

theorem ids_sweepStale (now : UInt64) (timeout : Duration) :
    (r.sweepStale now timeout).2.ids = r.ids :=
  map_sweepStale (fun _ _ => rfl) now timeout

end Observed

/-- The registries of declared backends, whatever was added to them and observed since. -/
inductive Reachable : Registry → Prop
  | declared (declarations : List Declaration) (threshold : UInt32) :
      Reachable (ofDeclarations declarations threshold)
  | add {r : Registry} (record : Record) : Reachable r → Reachable (r.add record)
  | setStatus {r : Registry} (id : String) (status : Status) :
      Reachable r → Reachable (r.setStatus id status).2
  | report {r : Registry} (id : String) (current max : UInt32) (now : UInt64) :
      Reachable r → Reachable (r.report id current max now).2
  | recordFailure {r : Registry} (id : String) :
      Reachable r → Reachable (r.recordFailure id).2
  | sweepStale {r : Registry} (now : UInt64) (timeout : Duration) :
      Reachable r → Reachable (r.sweepStale now timeout).2

theorem Reachable.nodup_ids (h : r.Reachable) : r.ids.Nodup := by
  induction h with
  | declared declarations threshold => exact nodup_ids_ofDeclarations declarations threshold
  | add record _ ih => exact nodup_ids_add ih record
  | setStatus id status _ ih => rwa [ids_setStatus]
  | report id current max now _ ih => rwa [ids_report]
  | recordFailure id _ ih => rwa [ids_recordFailure]
  | sweepStale now timeout _ ih => rwa [ids_sweepStale]

/-- A record is what is found under its id. -/
theorem get?_eq_some_iff (h : r.ids.Nodup) {id : String} {b : Record} :
    r.get? id = some b ↔ b ∈ r.records ∧ b.id = id :=
  find?_key_eq_some_iff h

end Registry

end GameHub
