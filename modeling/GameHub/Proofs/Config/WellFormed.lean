import GameHub.Config.Basic
import GameHub.Proofs.Admission.Pass
import GameHub.Proofs.Admission.Standing
import GameHub.Proofs.Backend.Catalogue

/-!
# Configurations that are accepted

The check of a configuration goes through the declarations in order, remembers the ids that it has
seen, and stops at the first defect. `WellFormed` says what is accepted without any order.

**Theorem (`accepted_loses_nothing`).** A configuration without defects is a well-formed one. Its
registry holds one record for each declaration, in the order of the declarations and with what is
declared there, so no declaration takes the place of another one. A player who waits for a declared
backend is not dropped by a pass along the line: the player stays in line as long as nothing was
heard of the backends, and is admitted at most, whatever was done to the registry since.
-/

namespace GameHub

open Admission Backend

/-! ## What is accepted -/

namespace Config

/-- Every backend has an id and an address that are not blank, no two have one id, and it takes a
missed report to lose a backend. -/
structure WellFormed (c : Config) : Prop where
  named : ∀ d ∈ c.backends, Text.trim d.id ≠ ""
  addressed : ∀ d ∈ c.backends, Text.trim d.address ≠ ""
  distinct : (c.backends.map (·.id)).Nodup
  threshold : 1 ≤ c.health.failureThreshold.toNat

theorem declarationDefect?_cons_eq_none_iff {seen : List String} {d : Declaration}
    {rest : List Declaration} : declarationDefect? seen (d :: rest) = none ↔
      Text.trim d.id ≠ "" ∧ Text.trim d.address ≠ "" ∧ d.id ∉ seen ∧
        declarationDefect? (d.id :: seen) rest = none := by
  rw [declarationDefect?, Ne, Ne, Text.trim_eq_empty_iff, Text.trim_eq_empty_iff]
  split_ifs with hid haddress hseen
  · simp [hid]
  · simp [haddress]
  · simp [List.contains_iff_mem.mp hseen]
  · simp [hid, haddress, mt List.contains_iff_mem.mpr hseen]

/-- The ids that were seen before count as those of earlier declarations. -/
theorem declarationDefect?_eq_none_iff {seen : List String} {declarations : List Declaration} :
    declarationDefect? seen declarations = none ↔
      (∀ d ∈ declarations, Text.trim d.id ≠ "" ∧ Text.trim d.address ≠ "" ∧ d.id ∉ seen) ∧
        (declarations.map (·.id)).Nodup := by
  induction declarations generalizing seen with
  | nil => exact iff_of_true rfl ⟨fun _ hd => absurd hd List.not_mem_nil, List.nodup_nil⟩
  | cons d rest ih =>
    rw [declarationDefect?_cons_eq_none_iff, ih, List.forall_mem_cons, List.map_cons,
      List.nodup_cons]
    constructor
    · rintro ⟨hid, haddress, hseen, hrest, hnodup⟩
      refine ⟨⟨⟨hid, haddress, hseen⟩, fun e he => ?_⟩, fun hmem => ?_, hnodup⟩
      · obtain ⟨heid, headdress, hfresh⟩ := hrest e he
        exact ⟨heid, headdress, fun hmem => hfresh (List.mem_cons_of_mem _ hmem)⟩
      · obtain ⟨e, he, heq⟩ := List.mem_map.mp hmem
        exact (hrest e he).2.2 (heq ▸ List.mem_cons_self)
    · rintro ⟨⟨⟨hid, haddress, hseen⟩, hrest⟩, hnew, hnodup⟩
      refine ⟨hid, haddress, hseen, fun e he => ?_, hnodup⟩
      obtain ⟨heid, headdress, hfresh⟩ := hrest e he
      refine ⟨heid, headdress, fun hmem => ?_⟩
      rcases List.mem_cons.mp hmem with heq | hmem
      · exact hnew (heq ▸ List.mem_map_of_mem he)
      · exact hfresh hmem

theorem defect?_eq_none_iff {c : Config} : c.defect? = none ↔ c.WellFormed := by
  have hthreshold : (if c.health.failureThreshold = 0 then some Defect.zeroThreshold else none) =
      none ↔ 1 ≤ c.health.failureThreshold.toNat := by
    rw [ite_eq_right_iff, ← UInt32.toNat_inj, UInt32.toNat_zero]
    constructor
    · intro hzero
      exact Nat.one_le_iff_ne_zero.mpr fun h => nomatch hzero h
    · intro hpos h
      omega
  rw [defect?, Option.or_eq_none_iff, declarationDefect?_eq_none_iff, hthreshold]
  constructor
  · rintro ⟨⟨hdeclared, hdistinct⟩, hpos⟩
    exact ⟨fun d hd => (hdeclared d hd).1, fun d hd => (hdeclared d hd).2.1, hdistinct, hpos⟩
  · intro h
    exact ⟨⟨fun d hd => ⟨h.named d hd, h.addressed d hd, List.not_mem_nil⟩, h.distinct⟩,
      h.threshold⟩

end Config

/-! ## What the registry holds -/

namespace Registry

variable {r : Registry} {declarations : List Declaration}

/-- Declarations with different ids do not replace one another. -/
theorem records_ofDeclarations (h : (declarations.map (·.id)).Nodup) (threshold : UInt32) :
    (ofDeclarations declarations threshold).records = declarations.map .ofDeclaration := by
  induction declarations using List.reverseRecOn with
  | nil => rfl
  | append_singleton declarations d ih =>
    rw [List.map_append, List.nodup_append] at h
    have hrecords := ih h.1
    have hnew : (ofDeclarations declarations threshold).contains d.id = false := by
      rw [← Bool.not_eq_true, contains_iff, ids, hrecords, List.map_map]
      intro hmem
      exact h.2.2 _ hmem _ List.mem_cons_self rfl
    have hadd : ofDeclarations (declarations ++ [d]) threshold =
        (ofDeclarations declarations threshold).add (.ofDeclaration d) := List.foldl_append
    rw [hadd, add, if_neg (by simp [Record.ofDeclaration, hnew]), hrecords, List.map_append]
    rfl

theorem mem_ids_perform {id : String} (h : id ∈ r.ids) (o : Operation) :
    id ∈ (r.perform o).2.ids := by
  cases o with
  | add record => exact mem_ids_add.mpr (.inl h)
  | setStatus backend status => exact (ids_setStatus r backend status).symm ▸ h
  | report backend current max now => exact (ids_report r backend current max now).symm ▸ h
  | recordFailure backend => exact (ids_recordFailure r backend).symm ▸ h
  | sweepStale now timeout => exact (ids_sweepStale r now timeout).symm ▸ h

/-- A backend that is known stays known. -/
theorem mem_ids_performAll {id : String} (h : id ∈ r.ids) (operations : List Operation) :
    id ∈ (r.performAll operations).ids := by
  induction operations generalizing r with
  | nil => exact h
  | cons o operations ih => exact ih (mem_ids_perform h o)

end Registry

/-! ## Who stays in line -/

namespace Admission.Queue

variable {q : Queue} {snapshot : List Record} {live : PlayerId → Bool}

/-- A player who is there and wants a backend that is known stays in line or is admitted. -/
theorem mem_or_admitted (h : (q.ledger.tickets.map (·.subject)).Nodup) {t : Ticket}
    (ht : t ∈ q.ledger.tickets) (hlive : live t.subject = true)
    (hknown : t.target ∈ snapshot.map (·.id)) :
    t ∈ (q.reconcile snapshot live).queue.ledger.tickets ∨
      ∃ d, (q.reconcile snapshot live).result = some d ∧ d.entry.ticket = t ∧
        d.backend = t.target := by
  obtain ⟨dropped, hperm, hdropped, hbackend⟩ := reconcile_perm h snapshot live
  rcases List.mem_append.mp (hperm.mem_iff.mp ht) with hmem | hmem
  · have hfound := backendIn_isSome_iff.mpr hknown
    rw [hdropped t hmem hlive] at hfound
    cases hfound
  · rcases List.mem_append.mp hmem with hmem | hmem
    · obtain ⟨d, hd, rfl⟩ := List.mem_map.mp hmem
      have hresult := Option.mem_toList.mp hd
      exact .inr ⟨d, hresult, rfl, hbackend d hresult⟩
    · exact .inl hmem

/-- Nobody is admitted while all backends are offline. -/
theorem result_reconcile_of_offline (h : ∀ b ∈ snapshot, b.status.online = false) :
    (q.reconcile snapshot live).result = none := by
  cases hresult : (q.reconcile snapshot live).result with
  | none => rfl
  | some d =>
    obtain ⟨b, hb, -, rank, hplace⟩ := reconcile_place hresult
    have honline := (Policy.capacity_eq_place_iff.mp hplace).online
    rw [h b hb] at honline
    cases honline

end Admission.Queue

/-! ## The result -/

namespace Config

/-- **What is accepted is well-formed, and nothing of it is lost** on the way to the registry and to
the players in line. -/
theorem accepted_loses_nothing (c : Config) :
    (c.defect? = none ↔ c.WellFormed) ∧
    (c.defect? = none → ∀ threshold : UInt32,
      let registry := Registry.ofDeclarations c.backends threshold
      let record (d : Declaration) : Record :=
        ⟨d.id, d.displayName.getD d.id, d.address, d.icon, .offline, 0, none⟩
      registry.records = c.backends.map record ∧
      (∀ d ∈ c.backends, registry.get? d.id = some (record d)) ∧
      ∀ (policy : Policy) (calls : List Call) (live : PlayerId → Bool) (t : Ticket),
        let queue := ((Desk.new policy).run calls).2.queue
        t ∈ queue.entries.map Entry.ticket → t.target ∈ c.backends.map (·.id) →
        live t.subject = true →
          ((queue.reconcile registry.records live).result = none ∧
            t ∈ (queue.reconcile registry.records live).queue.entries.map Entry.ticket) ∧
          ∀ operations : List Registry.Operation,
            let outcome := queue.reconcile (registry.performAll operations).records live
            t ∈ outcome.queue.entries.map Entry.ticket ∨
              ∃ address, outcome.result.map Decision.offer = some ⟨t, t.target, address⟩) := by
  refine ⟨defect?_eq_none_iff, fun hdefect threshold => ?_⟩
  intro registry record
  have hdistinct := (defect?_eq_none_iff.mp hdefect).distinct
  have hrecords : registry.records = c.backends.map record :=
    Registry.records_ofDeclarations hdistinct threshold
  have hids : registry.ids = c.backends.map (·.id) := by
    rw [Registry.ids, hrecords, List.map_map]
    rfl
  refine ⟨hrecords, fun d hd => ?_, fun policy calls live t => ?_⟩
  · refine (Registry.get?_eq_some_iff (hids ▸ hdistinct)).mpr ⟨?_, rfl⟩
    rw [hrecords]
    exact List.mem_map_of_mem hd
  intro queue hqueued hdeclared hlive
  -- A live player for a known backend is left in line or is the one who is admitted.
  obtain ⟨-, hrefines, -⟩ := (Desk.Refines.new policy).run (.new policy) calls
  have hmem : t ∈ queue.ledger.tickets := queue.entries_perm.mem_iff.mp hqueued
  have hknown : t.target ∈ registry.ids := hids ▸ hdeclared
  have hkept (operations : List Registry.Operation) := Queue.mem_or_admitted
    hrefines.subjects_nodup hmem hlive (Registry.mem_ids_performAll hknown operations)
  refine ⟨?_, fun operations => ?_⟩
  · -- Before the first report every backend is offline.
    have hnobody : (queue.reconcile registry.records live).result = none := by
      refine Queue.result_reconcile_of_offline fun b hb => ?_
      rw [hrecords] at hb
      obtain ⟨d, -, rfl⟩ := List.mem_map.mp hb
      rfl
    refine ⟨hnobody, (Queue.entries_perm _).mem_iff.mpr ((hkept []).resolve_right ?_)⟩
    rintro ⟨d, hadmitted, -⟩
    exact Option.some_ne_none d (hadmitted.symm.trans hnobody)
  · refine (hkept operations).imp (Queue.entries_perm _).mem_iff.mpr ?_
    rintro ⟨d, hadmitted, rfl, hbackend⟩
    refine ⟨d.address, ?_⟩
    rw [hadmitted, Option.map_some, Decision.offer, hbackend]

/-- A player waits for the second of two backends, behind one who wants a backend that is not
declared, and there is room as soon as the backend reports. -/
theorem accepted_loses_nothing_of_queued :
    let red : Declaration := ⟨"red", none, "10.0.0.2:25565", some "redstone"⟩
    let blue : Declaration := ⟨"blue", some "Blue", "10.0.0.3:25565", none⟩
    let c : Config := ⟨[red, blue], default, default, default⟩
    let calls : List Call := [.enqueue 1 .player "blue" 10 default,
      .enqueue 2 .player "nowhere" 5 default]
    let queue := ((Desk.new c.admission).run calls).2.queue
    let registry := Registry.ofDeclarations c.backends c.health.failureThreshold
    let reported := (registry.performAll [.report "blue" 3 10 0]).records
    let t : Ticket := ⟨1, .player, 10, "blue", 0⟩
    c.defect? = none ∧ c.WellFormed ∧
      registry.records = [⟨"red", "red", "10.0.0.2:25565", some "redstone", .offline, 0, none⟩,
        ⟨"blue", "Blue", "10.0.0.3:25565", none, .offline, 0, none⟩] ∧
      (blue ∈ c.backends ∧ registry.get? "blue" =
        some ⟨"blue", "Blue", "10.0.0.3:25565", none, .offline, 0, none⟩) ∧
      t ∈ queue.entries.map Entry.ticket ∧ t.target ∈ c.backends.map (·.id) ∧
      (queue.reconcile registry.records fun _ => true).queue.entries.map Entry.ticket = [t] ∧
      t ∈ (queue.reconcile registry.records fun _ => true).queue.entries.map Entry.ticket ∧
      (t ∈ (queue.reconcile reported fun _ => true).queue.entries.map Entry.ticket ∨
        ∃ address, (queue.reconcile reported fun _ => true).result.map Decision.offer =
          some ⟨t, "blue", address⟩) := by
  intro red blue c calls queue registry reported t
  have hdefect : c.defect? = none := by decide +kernel
  have hblue : blue ∈ c.backends := List.mem_cons_of_mem _ List.mem_cons_self
  have hqueued : t ∈ queue.entries.map Entry.ticket := by decide +kernel
  have hdeclared : t.target ∈ c.backends.map (·.id) := by decide +kernel
  obtain ⟨haccepted, hlossless⟩ := accepted_loses_nothing c
  obtain ⟨hrecords, hfound, hkept⟩ := hlossless hdefect c.health.failureThreshold
  obtain ⟨⟨-, hstays⟩, hlater⟩ := hkept c.admission calls (fun _ => true) t hqueued hdeclared rfl
  exact ⟨hdefect, haccepted.mp hdefect, hrecords, ⟨hblue, hfound blue hblue⟩, hqueued, hdeclared,
    by decide +kernel, hstays, hlater [.report "blue" 3 10 0]⟩

end Config

end GameHub
