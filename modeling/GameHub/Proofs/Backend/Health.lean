import GameHub.Backend.Registry
import Mathlib.Data.List.Induction

/-!
# The health of a backend as a function of what was observed

A record keeps a counter that is full at some point, the last status and the time of the last
report. What was observed before is gone, and observations come in any order: misses before the
first report, more misses than it takes, reports in between.

**Theorem (`health_of_history`).** A backend is online if and only if it has reported and fewer
reports were missed since than the threshold allows. It is then as full as it said last, and it has
neither players nor places when it is offline. Sweeps find nothing missing of a backend that has
never reported.

A registry that is told something changes each record on its own (`get?_observeAll`), so the proof
follows one record. `Record.Reflects` says that it holds what the history says, and one observation
more keeps that.
-/

namespace GameHub

open Backend

namespace Backend

/-! ## Histories -/

/-- Something that a registry is told about its backends. -/
inductive Observation where
  /-- A backend says how full it is. -/
  | report (id : String) (current max : UInt32) (now : UInt64)
  /-- A report of a backend did not come. -/
  | failure (id : String)
  /-- Time has passed for all backends. -/
  | sweep (now : UInt64) (timeout : Duration)
  deriving DecidableEq, Repr

/-- What a backend has said of itself. -/
structure Report where
  current : UInt32
  max : UInt32
  now : UInt64
  deriving DecidableEq, Repr

namespace Observation

/-- The report of a backend. -/
def report? (id : String) : Observation → Option Report
  | report other current max now => if other = id then some ⟨current, max, now⟩ else none
  | failure _ | sweep .. => none

/-- Something is missing of a backend that has reported last. A sweep misses a report if the last
one is longer ago than the timeout in milliseconds, and there has to be one. -/
def isMiss (id : String) (last : Option Report) : Observation → Bool
  | report .. => false
  | failure other => other = id
  | sweep now timeout =>
    last.any fun report => timeout.nanoseconds / 1_000_000 < now.toNat - report.now.toNat

end Observation

/-- The last report of a backend. -/
def latestReport (id : String) (history : List Observation) : Option Report :=
  (history.filterMap (·.report? id)).getLast?

/-- What was observed since the last report of a backend, or at all if it never reported. -/
def sinceReport (id : String) (history : List Observation) : List Observation :=
  (history.reverse.takeWhile fun o => (o.report? id).isNone).reverse

/-- How many reports of a backend were missed since the last one. -/
def missed (id : String) (history : List Observation) : Nat :=
  (sinceReport id history).countP (·.isMiss id (latestReport id history))

variable {id : String} {history : List Observation} {o : Observation}

theorem latestReport_concat :
    latestReport id (history ++ [o]) = (o.report? id).or (latestReport id history) := by
  rw [latestReport, List.filterMap_append, List.getLast?_append]
  cases h : o.report? id <;> simp [h, latestReport]

theorem missed_concat_of_report (h : (o.report? id).isSome) : missed id (history ++ [o]) = 0 := by
  have hnone : sinceReport id (history ++ [o]) = [] := by
    simp [sinceReport, Option.isSome_iff_ne_none.mp h]
  rw [missed, hnone, List.countP_nil]

theorem missed_concat (h : o.report? id = none) : missed id (history ++ [o]) =
    missed id history + if o.isMiss id (latestReport id history) then 1 else 0 := by
  have hsince : sinceReport id (history ++ [o]) = sinceReport id history ++ [o] := by
    simp [sinceReport, h]
  have hlast : latestReport id (history ++ [o]) = latestReport id history := by
    rw [latestReport_concat, h, Option.none_or]
  rw [missed, hsince, hlast, List.countP_append, List.countP_singleton, missed]

/-! ## One record -/

namespace Record

/-- What an observation makes of the record of a backend. -/
def observe (threshold : UInt32) (b : Record) : Observation → Record
  | .report id current max now => if b.id = id then b.report current max now else b
  | .failure id => if b.id = id then b.miss threshold else b
  | .sweep now timeout => if b.isStale now timeout.millis then b.miss threshold else b

theorem id_observe (threshold : UInt32) (b : Record) (o : Observation) :
    (b.observe threshold o).id = b.id := by
  cases o <;> rw [observe] <;> split <;> rfl

/-- A record holds what is to be known of a backend: its last report and how many reports were
missed since. -/
structure Reflects (threshold : UInt32) (b : Record) (last : Option Report) (missed : Nat) :
    Prop where
  reported : b.lastReport = last.map (·.now)
  failures : b.failures.toNat = min missed 0xFFFFFFFF
  up : ∀ report, last = some report → missed < threshold.toNat →
    b.status = .up report.current report.max
  offline : last = none ∨ threshold.toNat ≤ missed → b.status = .offline

variable {threshold : UInt32} {b : Record} {last : Option Report} {n : Nat}

theorem reflects_ofDeclaration (threshold : UInt32) (d : Declaration) :
    (ofDeclaration d).Reflects threshold none 0 :=
  ⟨rfl, rfl, fun _ h => (nomatch h), fun _ => rfl⟩

theorem reflects_report (b : Record) (h : 0 < threshold.toNat) (current max : UInt32)
    (now : UInt64) :
    (b.report current max now).Reflects threshold (some ⟨current, max, now⟩) 0 := by
  refine ⟨rfl, rfl, fun report hreport _ => ?_, fun hoffline => ?_⟩
  · rw [← Option.some.inj hreport]
    rfl
  · rcases hoffline with hnone | hzero
    · cases hnone
    · omega

/-- The counter stops when it is full, and no threshold lies beyond that. -/
theorem Reflects.miss (h : b.Reflects threshold last n) :
    (b.miss threshold).Reflects threshold last (n + 1) := by
  have hfailures : (b.failures.addSat 1).toNat = min (n + 1) 0xFFFFFFFF := by
    rw [UInt32.toNat_addSat, h.failures, UInt32.toNat_one]
    omega
  have hreached : threshold ≤ b.failures.addSat 1 ↔ threshold.toNat ≤ n + 1 := by
    have := threshold.toNat_lt
    rw [UInt32.le_iff_toNat_le, hfailures]
    omega
  refine ⟨h.reported, hfailures, fun report hreport hfew => ?_, fun hoffline => ?_⟩
  · have hstays : ¬ (threshold ≤ b.failures.addSat 1 ∧ b.status.online = true) := by
      rw [hreached]
      omega
    exact (if_neg hstays).trans (h.up report hreport (by omega))
  · by_cases hlost : threshold ≤ b.failures.addSat 1 ∧ b.status.online = true
    · exact if_pos hlost
    · refine (if_neg hlost).trans ?_
      cases last with
      | none => exact h.offline (.inl rfl)
      | some report =>
        by_cases hfew : n < threshold.toNat
        · have honline : b.status.online = true := by rw [h.up report rfl hfew]; rfl
          have hmany := hoffline.resolve_left (Option.some_ne_none report)
          exact absurd ⟨hreached.mpr hmany, honline⟩ hlost
        · exact h.offline (.inr (Nat.not_lt.mp hfew))

/-- A record compares with a timeout that is cut to the range of a word; no time is longer ago than
the greatest word. -/
theorem Reflects.isStale_eq (h : b.Reflects threshold last n) (now : UInt64) (timeout : Duration) :
    b.isStale now timeout.millis = (Observation.sweep now timeout).isMiss b.id last := by
  rw [isStale, h.reported, Observation.isMiss]
  cases last with
  | none => rfl
  | some report =>
    have hnow := now.toNat_lt
    simp only [Option.map_some, Option.any_some]
    rw [decide_eq_decide, UInt64.lt_iff_toNat_lt, UInt64.toNat_subSat, Duration.toNat_millis]
    omega

theorem observe_of_report {report : Report} (h : o.report? b.id = some report) :
    b.observe threshold o = b.report report.current report.max report.now := by
  cases o with
  | report id current max now =>
    by_cases hid : b.id = id
    · rw [Observation.report?, if_pos hid.symm] at h
      rw [← Option.some.inj h]
      exact if_pos hid
    · rw [Observation.report?, if_neg (Ne.symm hid)] at h
      cases h
  | _ => cases h

theorem Reflects.observe_of_no_report (h : b.Reflects threshold last n)
    (hreport : o.report? b.id = none) :
    b.observe threshold o = if o.isMiss b.id last then b.miss threshold else b := by
  cases o with
  | report id current max now =>
    by_cases hid : b.id = id
    · rw [Observation.report?, if_pos hid.symm] at hreport
      cases hreport
    · exact if_neg hid
  | failure id =>
    by_cases hid : b.id = id
    · rw [observe, if_pos hid, Observation.isMiss, if_pos (decide_eq_true hid.symm)]
    · rw [observe, if_neg hid, Observation.isMiss, if_neg (by simpa using Ne.symm hid)]
  | sweep now timeout => rw [observe, h.isStale_eq]

/-- A record that reflects a history reflects it with one observation more. -/
theorem Reflects.observe
    (h : b.Reflects threshold (latestReport b.id history) (missed b.id history))
    (hthreshold : 0 < threshold.toNat) (o : Observation) :
    (b.observe threshold o).Reflects threshold (latestReport b.id (history ++ [o]))
      (missed b.id (history ++ [o])) := by
  cases hreport : o.report? b.id with
  | some report =>
    rw [latestReport_concat, hreport, Option.some_or,
      missed_concat_of_report (by rw [hreport]; rfl), observe_of_report hreport]
    exact reflects_report b hthreshold ..
  | none =>
    rw [latestReport_concat, hreport, Option.none_or, missed_concat hreport,
      h.observe_of_no_report hreport]
    split
    · exact h.miss
    · exact h

end Record

end Backend

/-! ## The registry -/

namespace Registry

/-- A registry is told something about its backends. -/
def observe (r : Registry) : Observation → Registry
  | .report id current max now => (r.report id current max now).2
  | .failure id => (r.recordFailure id).2
  | .sweep now timeout => (r.sweepStale now timeout).2

/-- A registry is told one thing after another. -/
def observeAll (r : Registry) (history : List Observation) : Registry := history.foldl observe r

theorem threshold_observe (r : Registry) (o : Observation) :
    (r.observe o).threshold = r.threshold := by
  cases o <;> rfl

theorem records_observe (r : Registry) (o : Observation) :
    (r.observe o).records = r.records.map fun b : Record => b.observe r.threshold o := by
  cases o <;> rfl

theorem get?_observe (r : Registry) (o : Observation) (id : String) :
    (r.observe o).get? id = (r.get? id).map fun b : Record => b.observe r.threshold o := by
  have hsame : (fun b : Record => decide (b.id = id)) ∘ (fun b => b.observe r.threshold o) =
      fun b : Record => decide (b.id = id) := by
    funext b
    simp only [Function.comp_apply, Record.id_observe]
  rw [get?, records_observe, List.find?_map, hsame, get?]

theorem threshold_observeAll (r : Registry) (history : List Observation) :
    (r.observeAll history).threshold = r.threshold := by
  induction history generalizing r with
  | nil => rfl
  | cons o rest ih => exact (ih (r.observe o)).trans (threshold_observe r o)

theorem id_of_get? {r : Registry} {id : String} {b : Record} (h : r.get? id = some b) :
    b.id = id := by
  simpa using List.find?_some h

theorem observeAll_concat (r : Registry) (history : List Observation) (o : Observation) :
    r.observeAll (history ++ [o]) = (r.observeAll history).observe o := by
  rw [observeAll, List.foldl_append]
  rfl

/-- A registry that knows a backend knows what any history says of it. -/
theorem reflects_observeAll {r : Registry} {id : String} {b : Record}
    (hthreshold : 0 < r.threshold.toNat) (hget : r.get? id = some b)
    (hfresh : b.Reflects r.threshold none 0) (history : List Observation) :
    ∃ b', (r.observeAll history).get? id = some b' ∧
      b'.Reflects r.threshold (latestReport id history) (missed id history) := by
  induction history using List.reverseRecOn with
  | nil => exact ⟨b, hget, hfresh⟩
  | append_singleton before o ih =>
    obtain ⟨b', hget', hreflects⟩ := ih
    obtain rfl := id_of_get? hget'
    refine ⟨b'.observe r.threshold o, ?_, hreflects.observe hthreshold o⟩
    rw [observeAll_concat, get?_observe, hget', threshold_observeAll, Option.map_some]

/-! ## The declared backends -/

theorem threshold_add (r : Registry) (b : Record) : (r.add b).threshold = r.threshold := by
  unfold add
  split <;> rfl

theorem mem_add {r : Registry} {record b : Record} (h : b ∈ (r.add record).records) :
    b = record ∨ b ∈ r.records := by
  unfold add at h
  split at h
  · obtain ⟨old, hold, rfl⟩ := List.mem_map.mp h
    split
    · exact .inl rfl
    · exact .inr hold
  · rcases List.mem_append.mp h with hb | hb
    · exact .inr hb
    · exact .inl (List.mem_singleton.mp hb)

/-- A registry of declared backends only holds records of backends that were not observed. -/
theorem ofDeclarations_fresh (declarations : List Declaration) (threshold : UInt32) :
    (ofDeclarations declarations threshold).threshold.toNat = max threshold.toNat 1 ∧
      ∀ b ∈ (ofDeclarations declarations threshold).records, ∃ d, b = .ofDeclaration d := by
  induction declarations using List.reverseRecOn with
  | nil =>
    refine ⟨?_, fun b hb => absurd hb List.not_mem_nil⟩
    show (if threshold = 0 then 1 else threshold).toNat = _
    split
    · next hzero => rw [hzero]; rfl
    · next hne =>
      have : threshold.toNat ≠ 0 := fun h => hne (UInt32.toNat_inj.mp h)
      omega
  | append_singleton declarations d ih =>
    rw [ofDeclarations, List.foldl_append]
    refine ⟨(congrArg _ (threshold_add ..)).trans ih.1, fun b hb => ?_⟩
    rcases mem_add hb with rfl | hb
    · exact ⟨d, rfl⟩
    · exact ih.2 b hb

/-! ## The result -/

/-- **The health of a backend is what its history says.** -/
theorem health_of_history (declarations : List Declaration) (threshold : UInt32) (id : String)
    (hid : id ∈ (ofDeclarations declarations threshold).ids) (history : List Observation) :
    let r := (ofDeclarations declarations threshold).observeAll history
    ∃ b, r.get? id = some b ∧
      (b.status.online = true ↔
        latestReport id history ≠ none ∧ missed id history < max threshold.toNat 1) ∧
      (b.status.online = true → ∃ report, latestReport id history = some report ∧
        b.status.current = report.current ∧ b.status.max = report.max) ∧
      (b.status.online = false → b.status.current = 0 ∧ b.status.max = 0) ∧
      b.failures.toNat = min (missed id history) 0xFFFFFFFF ∧
      (latestReport id history = none →
        ∀ now timeout, (r.sweepStale now timeout).2.get? id = some b) := by
  intro r
  obtain ⟨hthreshold, hdeclared⟩ := ofDeclarations_fresh declarations threshold
  obtain ⟨b₀, hmem, hid₀⟩ := List.mem_map.mp hid
  obtain ⟨b₁, hget⟩ : ∃ b₁, (ofDeclarations declarations threshold).get? id = some b₁ :=
    Option.isSome_iff_exists.mp (List.find?_isSome.mpr ⟨b₀, hmem, decide_eq_true hid₀⟩)
  obtain ⟨d, rfl⟩ := hdeclared b₁ (List.mem_of_find?_eq_some hget)
  -- A declared record has nothing behind it, and the history is observed from there.
  obtain ⟨b, hb, hreflects⟩ := reflects_observeAll (by omega) hget
    (Record.reflects_ofDeclaration _ d) history
  obtain ⟨hlast, hfailures, hup, hoffline⟩ := hreflects
  rw [hthreshold] at hup hoffline
  have hsweep : latestReport id history = none →
      ∀ now timeout, (r.sweepStale now timeout).2.get? id = some b := by
    intro hnone now timeout
    have hstale : b.isStale now timeout.millis = false := by
      rw [Record.isStale, hlast, hnone]
      rfl
    change (r.observe (.sweep now timeout)).get? id = some b
    rw [get?_observe, hb, Option.map_some, Record.observe, hstale]
    rfl
  refine ⟨b, hb, ?_⟩
  by_cases honline : latestReport id history ≠ none ∧ missed id history < max threshold.toNat 1
  · obtain ⟨report, hreport⟩ := Option.ne_none_iff_exists'.mp honline.1
    have hstatus := hup report hreport honline.2
    rw [hstatus]
    exact ⟨iff_of_true rfl honline, fun _ => ⟨report, hreport, rfl, rfl⟩, fun h => (nomatch h),
      hfailures, hsweep⟩
  · have hstatus : b.status = .offline := by
      apply hoffline
      by_cases hnone : latestReport id history = none
      · exact .inl hnone
      · exact .inr (Nat.not_lt.mp fun hfew => honline ⟨hnone, hfew⟩)
    rw [hstatus]
    exact ⟨iff_of_false Bool.false_ne_true honline, fun h => (nomatch h), fun _ => ⟨rfl, rfl⟩,
      hfailures, hsweep⟩

/-- One report is missed before the first one and two after it, where two are enough. -/
theorem health_of_history_of_lost :
    let declarations : List Declaration := [⟨"lobby", none, "10.0.0.2:25565", none⟩]
    let history : List Observation := [.sweep 900 (.ofSeconds 0), .failure "lobby",
      .report "lobby" 3 10 1000, .sweep 7000 (.ofSeconds 5), .sweep 6000 (.ofSeconds 5),
      .failure "lobby"]
    let r := (ofDeclarations declarations 2).observeAll history
    "lobby" ∈ (ofDeclarations declarations 2).ids ∧
      latestReport "lobby" history = some ⟨3, 10, 1000⟩ ∧ missed "lobby" history = 2 ∧
      ∃ b, r.get? "lobby" = some b ∧ b.status.online = false := by
  intro declarations history r
  have hid : "lobby" ∈ (ofDeclarations declarations 2).ids := by decide
  have hmissed : missed "lobby" history = 2 := by decide +kernel
  obtain ⟨b, hb, honline, -⟩ := health_of_history declarations 2 "lobby" hid history
  refine ⟨hid, by decide +kernel, hmissed, b, hb, ?_⟩
  rw [← Bool.not_eq_true, honline, hmissed]
  decide

end Registry

end GameHub
