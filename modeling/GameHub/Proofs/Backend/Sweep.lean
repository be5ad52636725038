import GameHub.Proofs.Backend.Directory
import GameHub.Proofs.Backend.Health

/-!
# What a sweep for silent backends reports

A sweep counts a missed report against every backend that has been silent for too long, and gives
the ids of those that it takes offline. It can be made one backend after another, each looked at
before and after (`missEach`), because no id stands twice in the list of those to go through.

**Theorem (`sweep_reports_losses`).** The ids that a sweep gives are those of the backends that were
online before it and are offline after it. A backend that is overdue has one more report missed and
at most goes offline; everything else stays. Until it reports again, no backend is given twice: a
backend that is offline only comes back by a report.
-/

namespace GameHub

open Backend

/-! ## One record -/

namespace Backend.Record

/-- The last report is longer ago than the timeout, to the nanosecond. -/
def Overdue (now : UInt64) (timeout : Duration) (b : Record) : Prop :=
  ∃ reported, b.lastReport = some reported ∧
    timeout.nanoseconds < (now.toNat - reported.toNat) * 1_000_000

theorem isStale_iff {now : UInt64} {timeout : Duration} {b : Record} :
    b.isStale now timeout.millis = true ↔ b.Overdue now timeout := by
  have hnow := now.toNat_lt
  rw [isStale, Overdue]
  cases b.lastReport with
  | none => simp
  | some reported =>
    simp only [decide_eq_true_eq, Option.some.injEq, exists_eq_left']
    rw [UInt64.lt_iff_toNat_lt, UInt64.toNat_subSat, Duration.toNat_millis]
    omega

/-- One more report was missed. -/
structure MissedOne (threshold : UInt32) (b after : Record) : Prop where
  failures : after.failures.toNat = min (b.failures.toNat + 1) 0xFFFFFFFF
  status : after.status =
    if b.status.online = true ∧ threshold ≤ after.failures then .offline else b.status
  others : after = { b with failures := after.failures, status := after.status }

theorem missedOne_miss (threshold : UInt32) (b : Record) :
    b.MissedOne threshold (b.miss threshold) := by
  refine ⟨UInt32.toNat_addSat .., ?_, rfl⟩
  simp only [miss, and_comm]

theorem offline_miss {threshold : UInt32} {b : Record} (h : b.status.online = false) :
    (b.miss threshold).status.online = false := by
  have hstays : ¬ (threshold ≤ b.failures.addSat 1 ∧ b.status.online = true) := by simp [h]
  exact (congrArg Status.online (if_neg hstays)).trans h

/-- Only a report brings a backend online. -/
theorem offline_observe {threshold : UInt32} {b : Record} {o : Observation}
    (h : b.status.online = false) (hsilent : o.report? b.id = none) :
    (b.observe threshold o).status.online = false := by
  cases o with
  | report id current max now =>
    have hne : b.id ≠ id := by
      rintro rfl
      simp [Observation.report?] at hsilent
    rwa [observe, if_neg hne]
  | failure id =>
    rw [observe]
    split
    · exact offline_miss h
    · exact h
  | sweep now timeout =>
    rw [observe]
    split
    · exact offline_miss h
    · exact h

end Backend.Record

namespace Registry

/-! ## One backend after another -/

/-- The backend is known and online. -/
def isOnline (r : Registry) (id : String) : Bool := (r.get? id).any (·.status.online)

/-- The backend is known and offline. -/
def isOffline (r : Registry) (id : String) : Bool := (r.get? id).any (!·.status.online)

theorem isOnline_iff {r : Registry} {id : String} :
    r.isOnline id = true ↔ ∃ b, r.get? id = some b ∧ b.status.online = true := by
  rw [isOnline]
  cases r.get? id <;> simp

theorem isOffline_iff {r : Registry} {id : String} :
    r.isOffline id = true ↔ ∃ b, r.get? id = some b ∧ b.status.online = false := by
  rw [isOffline]
  cases r.get? id <;> simp

/-- Counts a missed report against one backend after another. The ids are those of the backends
that were online before it and are offline after it. -/
def missEach (r : Registry) : List String → List String × Registry
  | [] => ([], r)
  | id :: ids =>
    let after := (r.recordFailure id).2
    let rest := after.missEach ids
    (if r.isOnline id && after.isOffline id then id :: rest.1 else rest.1, rest.2)

/-- A missed report takes the backend offline. -/
def losing (r : Registry) (b : Record) : Bool :=
  b.status.online && !(b.miss r.threshold).status.online

section Failures

variable (r : Registry)

theorem get?_recordFailure_self (id : String) :
    (r.recordFailure id).2.get? id = (r.get? id).map (·.miss r.threshold) :=
  get?_adjust_self r id fun _ => rfl

theorem get?_recordFailure_of_ne {id other : String} (h : other ≠ id) :
    (r.recordFailure id).2.get? other = r.get? other :=
  get?_adjust_of_ne r (fun _ => rfl) h

theorem lost_recordFailure (id : String) :
    (r.isOnline id && (r.recordFailure id).2.isOffline id) = (r.get? id).any r.losing := by
  rw [isOnline, isOffline, get?_recordFailure_self]
  cases r.get? id <;> rfl

/-- In a list without repetition every backend is as it was when its turn comes. -/
theorem missEach_eq {ids : List String} (hids : ids.Nodup) :
    r.missEach ids = (ids.filter fun id => (r.get? id).any r.losing,
      { r with records := r.records.map fun b =>
        if b.id ∈ ids then b.miss r.threshold else b }) := by
  induction ids generalizing r with
  | nil => simp [missEach]
  | cons id ids ih =>
    obtain ⟨hid, hids⟩ := List.nodup_cons.mp hids
    -- The turn of one id leaves the records of the other ids as they are.
    have hlost : (ids.filter fun other => ((r.recordFailure id).2.get? other).any r.losing) =
        ids.filter fun other => (r.get? other).any r.losing := by
      refine List.filter_congr fun other hother => ?_
      have hne : other ≠ id := fun heq => hid (heq ▸ hother)
      rw [get?_recordFailure_of_ne r hne]
    have hrecords : ((r.recordFailure id).2.records.map fun b =>
        if b.id ∈ ids then b.miss r.threshold else b) =
        r.records.map fun b => if b.id ∈ id :: ids then b.miss r.threshold else b := by
      rw [recordFailure, adjust, List.map_map]
      refine List.map_congr_left fun b _ => ?_
      by_cases hb : b.id = id
      · have hmiss : (b.miss r.threshold).id ∉ ids := by
          show b.id ∉ ids
          rwa [hb]
        simp [hb, hmiss]
      · simp [hb]
    rw [missEach, lost_recordFailure, ih _ hids, List.filter_cons, ← hlost]
    exact Prod.ext rfl (congrArg (Registry.mk · r.threshold) hrecords)

end Failures

/-! ## The whole sweep -/

section Sweep

variable {r : Registry} (now : UInt64) (timeout : Duration)

/-- The ids of the records with a property, in order. -/
theorem filter_ids (h : r.ids.Nodup) (p : Record → Bool) :
    (r.ids.filter fun id => (r.get? id).any p) = (r.records.filter p).map (·.id) := by
  rw [ids, List.filter_map]
  refine congrArg _ (List.filter_congr fun b hb => ?_)
  have hget := (get?_eq_some_iff h).mpr ⟨hb, rfl⟩
  rw [Function.comp_apply, hget, Option.any_some]

theorem get?_sweepStale (id : String) : (r.sweepStale now timeout).2.get? id =
    (r.get? id).map fun b => if b.isStale now timeout.millis then b.miss r.threshold else b :=
  get?_observe r (.sweep now timeout) id

/-- A sweep goes through the stale backends one after another. -/
theorem sweepStale_eq_missEach (h : r.ids.Nodup) : r.sweepStale now timeout =
    r.missEach (r.ids.filter fun id => (r.get? id).any (·.isStale now timeout.millis)) := by
  have hlost : ((r.ids.filter fun id => (r.get? id).any (·.isStale now timeout.millis)).filter
      fun id => (r.get? id).any r.losing) = (r.sweepStale now timeout).1 := by
    rw [sweepStale, ← filter_ids h, List.filter_filter]
    refine List.filter_congr fun id _ => ?_
    cases r.get? id with
    | none => rfl
    | some b =>
      simp only [Option.any_some, losing]
      ac_rfl
  rw [missEach_eq r (h.filter _), hlost, sweepStale]
  refine Prod.ext rfl (congrArg (Registry.mk · r.threshold) (List.map_congr_left fun b hb => ?_))
  have hstale : b.id ∈ r.ids.filter (fun id => (r.get? id).any (·.isStale now timeout.millis)) ↔
      b.isStale now timeout.millis = true := by
    have hget := (get?_eq_some_iff h).mpr ⟨hb, rfl⟩
    have hmem : b.id ∈ r.ids := List.mem_map_of_mem hb
    rw [List.mem_filter, hget, Option.any_some, and_iff_right hmem]
  simp only [hstale]

/-- What a sweep gives, from what it leaves. -/
theorem lost_sweepStale (h : r.ids.Nodup) : (r.sweepStale now timeout).1 =
    r.ids.filter fun id => r.isOnline id && (r.sweepStale now timeout).2.isOffline id := by
  rw [sweepStale, ← filter_ids h]
  refine List.filter_congr fun id _ => ?_
  show _ = (r.isOnline id && (r.sweepStale now timeout).2.isOffline id)
  rw [isOnline, isOffline, get?_sweepStale]
  cases r.get? id with
  | none => rfl
  | some b =>
    simp only [Option.any_some, Option.map_some]
    by_cases hstale : b.isStale now timeout.millis = true
    · rw [if_pos hstale, hstale, Bool.true_and]
    · rw [if_neg hstale, Bool.eq_false_iff.mpr hstale, Bool.and_not_self]
      rfl

end Sweep

/-! ## Runs -/

/-- The ids of the backends that an observation takes offline, as the registry gives them. -/
def lostBy (r : Registry) : Observation → List String
  | .sweep now timeout => (r.sweepStale now timeout).1
  | _ => []

section Runs

variable {r : Registry} {id : String} {o : Observation}

theorem Reachable.observe (h : r.Reachable) (o : Observation) : (r.observe o).Reachable := by
  cases o with
  | report id current max now => exact h.report id current max now
  | failure id => exact h.recordFailure id
  | sweep now timeout => exact h.sweepStale now timeout

theorem Reachable.observeAll (h : r.Reachable) (history : List Observation) :
    (r.observeAll history).Reachable := by
  induction history generalizing r with
  | nil => exact h
  | cons o history ih => exact ih (h.observe o)

/-- Whoever is given was online and is offline after it. -/
theorem of_mem_lostBy (h : r.ids.Nodup) (hid : id ∈ r.lostBy o) :
    r.isOnline id = true ∧ (r.observe o).isOffline id = true := by
  cases o with
  | sweep now timeout =>
    rw [lostBy, lost_sweepStale now timeout h] at hid
    exact Bool.and_eq_true_iff.mp (List.mem_filter.mp hid).2
  | _ => exact absurd hid List.not_mem_nil

/-- A backend that is offline stays so as long as it does not report. -/
theorem isOffline_observeAll (h : r.isOffline id = true) {history : List Observation}
    (hsilent : ∀ o ∈ history, o.report? id = none) : (r.observeAll history).isOffline id = true := by
  induction history generalizing r with
  | nil => exact h
  | cons o history ih =>
    refine ih ?_ fun o' ho' => hsilent o' (List.mem_cons_of_mem o ho')
    obtain ⟨b, hget, hoffline⟩ := isOffline_iff.mp h
    obtain rfl := id_of_get? hget
    refine isOffline_iff.mpr ⟨b.observe r.threshold o, ?_, ?_⟩
    · rw [get?_observe, hget, Option.map_some]
    · exact Record.offline_observe hoffline (hsilent o List.mem_cons_self)

theorem not_isOffline (h : r.isOnline id = true) : ¬ r.isOffline id = true := by
  rintro hoffline
  obtain ⟨b, hget, honline⟩ := isOnline_iff.mp h
  obtain ⟨b', hget', hb'⟩ := isOffline_iff.mp hoffline
  obtain rfl := Option.some.inj (hget.symm.trans hget')
  rw [honline] at hb'
  cases hb'

end Runs

/-! ## The result -/

/-- **A sweep reports exactly whom it takes offline.** However the registry came about, a sweep is
made one stale backend after another. It gives the ids of the backends that were online before and
are offline after it, each once and in the order of declaration. A backend whose last report is
overdue has one more report missed; every other record stays as it is. And in a run no backend is
given twice unless it has reported in between. -/
theorem sweep_reports_losses {r : Registry} (h : r.Reachable) (now : UInt64) (timeout : Duration) :
    let lost := (r.sweepStale now timeout).1
    let after := (r.sweepStale now timeout).2
    (lost, after) =
      r.missEach (r.ids.filter fun id => (r.get? id).any (·.isStale now timeout.millis)) ∧
    lost = (r.ids.filter fun id => r.isOnline id && after.isOffline id) ∧
    lost.Nodup ∧ after.ids = r.ids ∧
    (∀ id b, r.get? id = some b → b.Overdue now timeout →
      ∃ b', after.get? id = some b' ∧ b.MissedOne r.threshold b') ∧
    (∀ id b, r.get? id = some b → ¬ b.Overdue now timeout → after.get? id = some b) ∧
    ∀ before first between second id, id ∈ (r.observeAll before).lostBy first →
      id ∈ (r.observeAll (before ++ first :: between)).lostBy second →
      ∃ current max now, .report id current max now ∈ between := by
  intro lost after
  have hids := h.nodup_ids
  have hlost := lost_sweepStale now timeout hids
  refine ⟨sweepStale_eq_missEach now timeout hids, hlost, ?_, ids_sweepStale r now timeout,
    fun id b hget hoverdue => ?_, fun id b hget hfresh => ?_,
    fun before first between second id hfirst hsecond => ?_⟩
  · exact Eq.subst hlost.symm (hids.filter _)
  · refine ⟨b.miss r.threshold, ?_, Record.missedOne_miss r.threshold b⟩
    show (r.sweepStale now timeout).2.get? id = _
    rw [get?_sweepStale, hget, Option.map_some, if_pos (Record.isStale_iff.mpr hoverdue)]
  · show (r.sweepStale now timeout).2.get? id = _
    rw [get?_sweepStale, hget, Option.map_some, if_neg fun hs => hfresh (Record.isStale_iff.mp hs)]
  · by_contra hsilent
    have hnone : ∀ o ∈ between, o.report? id = none := by
      intro o ho
      cases o with
      | report other current max now =>
        refine if_neg ?_
        rintro rfl
        exact hsilent ⟨current, max, now, ho⟩
      | _ => rfl
    -- Without a report in between the backend is still offline at the second sweep.
    have hbefore := h.observeAll before
    have hlater := h.observeAll (before ++ first :: between)
    have hoffline := isOffline_observeAll (of_mem_lostBy hbefore.nodup_ids hfirst).2 hnone
    refine not_isOffline (of_mem_lostBy hlater.nodup_ids hsecond).1 ?_
    rw [observeAll, List.foldl_append]
    exact hoffline

/-- Two backends have reported, one of them too long ago; it is lost, reports, and is lost again. -/
theorem sweep_reports_losses_of_returned :
    let declarations : List Declaration := [⟨"red", none, "10.0.0.2:25565", none⟩,
      ⟨"blue", none, "10.0.0.3:25565", none⟩]
    let r := (((ofDeclarations declarations 1).report "red" 3 10 0).2.report "blue" 4 10 25000).2
    let red : Record := ⟨"red", "red", "10.0.0.2:25565", none, .up 3 10, 0, some 0⟩
    let blue : Record := ⟨"blue", "blue", "10.0.0.3:25565", none, .up 4 10, 0, some 25000⟩
    let sweep (now : UInt64) : Observation := .sweep now (.ofSeconds 10)
    let back : Observation := .report "red" 0 10 30500
    r.Reachable ∧ (r.sweepStale 30000 (.ofSeconds 10)).1 = ["red"] ∧
      (r.get? "red" = some red ∧ red.Overdue 30000 (.ofSeconds 10) ∧
        ∃ b', (r.sweepStale 30000 (.ofSeconds 10)).2.get? "red" = some b' ∧ red.MissedOne 1 b') ∧
      (r.get? "blue" = some blue ∧ ¬ blue.Overdue 30000 (.ofSeconds 10) ∧
        (r.sweepStale 30000 (.ofSeconds 10)).2.get? "blue" = some blue) ∧
      "red" ∈ (r.observeAll []).lostBy (sweep 30000) ∧
      "red" ∈ (r.observeAll ([] ++ sweep 30000 :: [sweep 30001, back])).lostBy (sweep 50000) ∧
      ∃ current max now, .report "red" current max now ∈ [sweep 30001, back] := by
  intro declarations r red blue sweep back
  have hr : r.Reachable :=
    ((Reachable.declared declarations 1).report "red" 3 10 0).report "blue" 4 10 25000
  have hred : r.get? "red" = some red := by decide +kernel
  have hblue : r.get? "blue" = some blue := by decide +kernel
  have hoverdue : red.Overdue 30000 (.ofSeconds 10) := Record.isStale_iff.mp (by decide +kernel)
  have hfresh : ¬ blue.Overdue 30000 (.ofSeconds 10) := by
    rw [← Record.isStale_iff]
    decide +kernel
  have hfirst : "red" ∈ (r.observeAll []).lostBy (sweep 30000) := by decide +kernel
  have hsecond : "red" ∈ (r.observeAll ([] ++ sweep 30000 :: [sweep 30001, back])).lostBy
      (sweep 50000) := by decide +kernel
  obtain ⟨-, -, -, -, hmissed, hothers, honce⟩ :=
    sweep_reports_losses hr 30000 (.ofSeconds 10)
  exact ⟨hr, by decide +kernel, ⟨hred, hoverdue, hmissed _ _ hred hoverdue⟩,
    ⟨hblue, hfresh, hothers _ _ hblue hfresh⟩, hfirst, hsecond,
    honce [] (sweep 30000) [sweep 30001, back] (sweep 50000) "red" hfirst hsecond⟩

end Registry

end GameHub
