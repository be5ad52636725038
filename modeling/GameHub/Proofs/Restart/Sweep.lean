import GameHub.Proofs.Restart.Exclusion
import Mathlib.Data.List.Nodup

/-!
# The effect of a sweep

A sweep does two things in a fixed order: it drops the requests that nobody repeats, and then it
takes the slot from a holder that is overdue and hands it to the first of those who are left. So a
request that the sweep drops is never promoted, and the report names all that changed.

**Theorem (`sweep_exact`).** On every state that a coordinator reaches, at every time, the report
and the state after a sweep are given exactly by the stale requests, the fresh ones and the time of
the grant. The report is empty exactly if the state is the same as before, and a second sweep at the
same time changes nothing.

The last two follow from one notion. A coordinator is `Settled` at a time if no request is stale and
the holder is not overdue. A sweep leaves a settled coordinator as it is (`sweep_of_settled`), and
whatever it sweeps is settled afterwards (`settled_sweep`), because a promoted backend starts its
restart at the time of the sweep.
-/

namespace GameHub.Restart

/-! ## What a sweep drops and hands on -/

namespace State

/-- The requests that were not repeated for longer than a limit. -/
def stale (s : State) (limit now : UInt64) : List Request :=
  s.backlog.filter fun r => limit < now.subSat r.lastRetry

/-- The other requests. -/
def fresh (s : State) (limit now : UInt64) : List Request :=
  s.backlog.filter fun r => now.subSat r.lastRetry ≤ limit

/-- The state after the holder lost the slot to the first of those who are left in the backlog, if
there is one. -/
def handedOn (s : State) (now : UInt64) : List Request → State
  | [] => { s with holder := none, backlog := [] }
  | next :: rest =>
    { s with
      holder := some next.server
      backlog := rest
      history := s.history.insert next.server now }

variable {s : State} {limit now : UInt64}

theorem backlog_handedOn (s : State) (now : UInt64) (left : List Request) :
    (s.handedOn now left).backlog = left.tail := by
  cases left <;> rfl

theorem release_eq_handedOn (h : s.waiting.Nodup) :
    (s.release now).2 = s.handedOn now s.backlog := by
  have hbacklog := backlog_release s now h
  cases hs : s.backlog with
  | nil =>
    rw [release_of_nil s now hs, handedOn]
    simp [hs]
  | cons next rest =>
    rw [release_of_cons s now hs, hs, backlog_grant, List.tail_cons] at hbacklog
    rw [release_of_cons s now hs, grant, hbacklog]
    rfl

/-- No name is both on a request that is dropped and on one that is kept. -/
theorem not_mem_stale_of_mem_fresh (h : s.waiting.Nodup) {name : String}
    (hfresh : name ∈ (s.fresh limit now).map (·.server)) :
    name ∉ (s.stale limit now).map (·.server) := by
  intro hstale
  obtain ⟨r, hr, rfl⟩ := List.mem_map.mp hfresh
  obtain ⟨r', hr', hname⟩ := List.mem_map.mp hstale
  obtain ⟨hmem, hin⟩ := List.mem_filter.mp hr
  obtain ⟨hmem', hout⟩ := List.mem_filter.mp hr'
  obtain rfl : r' = r := List.inj_on_of_nodup_map h hmem' hmem hname
  exact absurd (of_decide_eq_true hout) (UInt64.not_lt.mpr (of_decide_eq_true hin))

end State

namespace Coordinator

variable {c : Coordinator} {now : UInt64}

theorem filter_isFresh (c : Coordinator) (now : UInt64) :
    c.state.backlog.filter (c.isFresh now) = c.state.fresh c.policy.queueTimeout.millis now := rfl

theorem filter_not_isFresh (c : Coordinator) (now : UInt64) :
    (c.state.backlog.filter fun r => !c.isFresh now r) =
      c.state.stale c.policy.queueTimeout.millis now := by
  refine List.filter_congr fun r _ => ?_
  rw [isFresh, ← decide_not]
  simp only [UInt64.not_le]

/-- The holder keeps the slot: only the backlog changes. -/
theorem sweep_of_keeps (h : c.frees (.sweep now) = false) :
    c.sweep now =
      (⟨(c.state.stale c.policy.queueTimeout.millis now).map (·.server), none, none⟩,
        { c with state.backlog := c.state.fresh c.policy.queueTimeout.millis now }) := by
  rw [sweep_eq, filter_not_isFresh, h]
  rfl

/-- The holder loses the slot to the first of the fresh requests. -/
theorem sweep_of_frees (hv : c.state.Valid c.roster) (h : c.frees (.sweep now) = true) :
    c.sweep now =
      (⟨(c.state.stale c.policy.queueTimeout.millis now).map (·.server), c.state.holder,
          ((c.state.fresh c.policy.queueTimeout.millis now).map (·.server)).head?⟩,
        { c with
          state := c.state.handedOn now (c.state.fresh c.policy.queueTimeout.millis now) }) := by
  have hnodup : (c.prepared (.sweep now)).waiting.Nodup := (valid_prepared hv (.sweep now)).nodup
  have hrelease : ((c.prepared (.sweep now)).release now).2 =
      c.state.handedOn now (c.state.fresh c.policy.queueTimeout.millis now) := by
    rw [State.release_eq_handedOn hnodup, prepared, filter_isFresh]
    cases c.state.fresh c.policy.queueTimeout.millis now <;> rfl
  rw [sweep_eq, filter_not_isFresh, h, if_pos rfl, if_pos rfl, if_pos rfl, State.fst_release,
    hrelease]
  rfl

theorem isSome_recovered (c : Coordinator) (now : UInt64) :
    (c.sweep now).1.recovered.isSome = c.frees (.sweep now) := by
  rw [sweep_eq]
  cases hfrees : c.frees (.sweep now) with
  | false => simp
  | true =>
    cases hholder : c.state.holder with
    | none => simp [frees, hholder] at hfrees
    | some holder => simp

theorem expired_sweep (c : Coordinator) (now : UInt64) :
    (c.sweep now).1.expired =
      (c.state.stale c.policy.queueTimeout.millis now).map (·.server) := by
  rw [sweep_eq, filter_not_isFresh]

theorem promoted_sweep (hv : c.state.Valid c.roster) (now : UInt64) :
    (c.sweep now).1.promoted =
      if (c.sweep now).1.recovered.isSome then
        ((c.state.fresh c.policy.queueTimeout.millis now).map (·.server)).head?
      else none := by
  rw [isSome_recovered]
  cases h : c.frees (.sweep now) with
  | false => rw [sweep_of_keeps h]; rfl
  | true => rw [sweep_of_frees hv h]; rfl

theorem snd_sweep (hv : c.state.Valid c.roster) (now : UInt64) :
    (c.sweep now).2 =
      { c with
        state := if (c.sweep now).1.recovered.isSome then
            c.state.handedOn now (c.state.fresh c.policy.queueTimeout.millis now)
          else { c.state with backlog := c.state.fresh c.policy.queueTimeout.millis now } } := by
  rw [isSome_recovered]
  cases h : c.frees (.sweep now) with
  | false => rw [sweep_of_keeps h]; rfl
  | true => rw [sweep_of_frees hv h]; rfl

theorem promoted_not_mem_expired (hv : c.state.Valid c.roster) {next : String}
    (h : (c.sweep now).1.promoted = some next) : next ∉ (c.sweep now).1.expired := by
  rw [promoted_sweep hv] at h
  split at h
  · rw [expired_sweep]
    exact State.not_mem_stale_of_mem_fresh hv.nodup (List.mem_of_head? h)
  · cases h

/-! ## Settled coordinators -/

/-- A sweep has nothing to do: no request is stale, and the holder is not overdue. -/
structure Settled (c : Coordinator) (now : UInt64) : Prop where
  fresh : ∀ r ∈ c.state.backlog, now.subSat r.lastRetry ≤ c.policy.queueTimeout.millis
  keeps : c.frees (.sweep now) = false

theorem sweep_of_settled (h : c.Settled now) : c.sweep now = (⟨[], none, none⟩, c) := by
  have hstale : c.state.stale c.policy.queueTimeout.millis now = [] := by
    rw [State.stale, List.filter_eq_nil_iff]
    exact fun r hr hlate => UInt64.not_lt.mpr (h.fresh r hr) (of_decide_eq_true hlate)
  have hfresh : c.state.fresh c.policy.queueTimeout.millis now = c.state.backlog := by
    rw [State.fresh, List.filter_eq_self]
    exact fun r hr => decide_eq_true (h.fresh r hr)
  rw [sweep_of_keeps h.keeps, hstale, hfresh, List.map_nil]

theorem settled_of_isEmpty (h : (c.sweep now).1.isEmpty = true) : c.Settled now := by
  simp only [SweepReport.isEmpty, Bool.and_eq_true, List.isEmpty_iff,
    Option.isNone_iff_eq_none] at h
  obtain ⟨⟨hexpired, hrecovered⟩, -⟩ := h
  have hkeeps : c.frees (.sweep now) = false := by
    rw [← isSome_recovered, hrecovered, Option.isSome_none]
  refine ⟨fun r hr => ?_, hkeeps⟩
  rw [sweep_of_keeps hkeeps, List.map_eq_nil_iff, State.stale, List.filter_eq_nil_iff] at hexpired
  exact UInt64.not_lt.mp fun hlate => hexpired r hr (decide_eq_true hlate)

/-- A backend that is promoted starts its restart now. -/
theorem keeps_of_promoted (hv : c.state.Valid c.roster) (hfrees : c.frees (.sweep now) = true) :
    (c.sweep now).2.frees (.sweep now) = false := by
  rw [sweep_of_frees hv hfrees]
  cases hfresh : c.state.fresh c.policy.queueTimeout.millis now with
  | nil => simp [frees, State.handedOn]
  | cons next rest =>
    simp [frees, State.handedOn, isOverdue, NameMap.get?_insert_self, UInt64.le_iff_toNat_le,
      UInt64.toNat_subSat]

/-- **A sweep leaves nothing to do.** -/
theorem settled_sweep (hv : c.state.Valid c.roster) (now : UInt64) :
    (c.sweep now).2.Settled now := by
  have hall : ∀ r ∈ c.state.fresh c.policy.queueTimeout.millis now,
      now.subSat r.lastRetry ≤ c.policy.queueTimeout.millis :=
    fun r hr => of_decide_eq_true (List.mem_filter.mp hr).2
  cases hfrees : c.frees (.sweep now) with
  | false =>
    rw [sweep_of_keeps hfrees]
    exact ⟨hall, hfrees⟩
  | true =>
    refine ⟨fun r hr => ?_, keeps_of_promoted hv hfrees⟩
    rw [sweep_of_frees hv hfrees] at hr ⊢
    simp only [State.backlog_handedOn] at hr
    exact hall r (List.mem_of_mem_tail hr)

theorem isEmpty_sweep_iff (hv : c.state.Valid c.roster) (now : UInt64) :
    (c.sweep now).1.isEmpty = true ↔ (c.sweep now).2.state = c.state := by
  constructor
  · intro hempty
    rw [sweep_of_settled (settled_of_isEmpty hempty)]
  · intro hsame
    -- The swept coordinator is settled, and it is the coordinator itself.
    have hstate : (c.sweep now).2 = { c with state := (c.sweep now).2.state } := by rw [sweep_eq]
    have hself : (c.sweep now).2 = c := by rw [hstate, hsame]
    have hsettled := settled_sweep hv now
    rw [hself] at hsettled
    rw [sweep_of_settled hsettled]
    rfl

/-! ## Reachable coordinators -/

/-- A sweep compares the time of the grant, because the history of the holder is that time. -/
theorem HeldSince.frees_sweep_iff {holder : String} {calls : List Call} {since : UInt64}
    (h : HeldSince c holder calls since) (now : UInt64) :
    (c.run calls).frees (.sweep now) = true ↔
      c.policy.maxRestart.millis < now.subSat since := by
  rw [frees_iff_endsHold h.holder_history.1 h.holder_history.2, EndsHold, policy_run]

/-- The hold of a settled coordinator has not lasted for too long. -/
theorem HeldSince.le_of_settled {holder : String} {calls : List Call} {since : UInt64}
    (h : HeldSince c holder calls since) (hsettled : (c.run calls).Settled now) :
    now.subSat since ≤ c.policy.maxRestart.millis := by
  refine UInt64.not_lt.mp fun hoverdue => ?_
  have hfrees := (h.frees_sweep_iff now).mpr hoverdue
  exact Bool.false_ne_true (hsettled.keeps.symm.trans hfrees)

theorem recovered_sweep_iff (hfree : c.state.holder = none) (hv : c.state.Valid c.roster)
    {calls : List Call} {holder : String} :
    ((c.run calls).sweep now).1.recovered = some holder ↔
      ∃ since, HeldSince c holder calls since ∧ c.policy.maxRestart.millis < now.subSat since := by
  have hrun := run_valid hv calls
  constructor
  · intro hrecovered
    have hfrees : (c.run calls).frees (.sweep now) = true := by
      rw [← isSome_recovered, hrecovered, Option.isSome_some]
    rw [sweep_of_frees hrun hfrees] at hrecovered
    obtain ⟨since, hsince⟩ := exists_heldSince hfree calls hrecovered
    exact ⟨since, hsince, (hsince.frees_sweep_iff now).mp hfrees⟩
  · rintro ⟨since, hsince, hoverdue⟩
    rw [sweep_of_frees hrun ((hsince.frees_sweep_iff now).mpr hoverdue)]
    exact hsince.holder_history.1

/-- **The exact effect of a sweep.** The stale requests leave the backlog and are reported. The
holder loses the slot exactly if it has held it for too long, and then the first of the fresh
requests gets it now. Nothing else changes, an empty report means that nothing changed, and a second
sweep finds nothing to do. -/
theorem sweep_exact (policy : Policy) (roster : Option (List String)) (calls : List Call)
    (now : UInt64) :
    let c := (new policy roster).run calls
    let stale := c.state.stale policy.queueTimeout.millis now
    let fresh := c.state.fresh policy.queueTimeout.millis now
    let report := (c.sweep now).1
    let after := (c.sweep now).2
    report.expired = stale.map (·.server) ∧
    (∀ holder, report.recovered = some holder ↔
      ∃ since, HeldSince (new policy roster) holder calls since ∧
        policy.maxRestart.millis < now.subSat since) ∧
    (∀ holder since, HeldSince (new policy roster) holder calls since →
      (after.state.holder ≠ some holder ↔ policy.maxRestart.millis < now.subSat since)) ∧
    report.promoted =
      (if report.recovered.isSome then (fresh.map (·.server)).head? else none) ∧
    (∀ next, report.promoted = some next → next ∉ report.expired) ∧
    after =
      { c with
        state := if report.recovered.isSome then c.state.handedOn now fresh
          else { c.state with backlog := fresh } } ∧
    (report.isEmpty = true ↔ after.state = c.state) ∧
    (∀ r ∈ after.state.backlog, now.subSat r.lastRetry ≤ policy.queueTimeout.millis) ∧
    (∀ holder since, HeldSince (new policy roster) holder (calls ++ [.sweep now]) since →
      now.subSat since ≤ policy.maxRestart.millis) ∧
    after.sweep now = (⟨[], none, none⟩, after) := by
  intro c stale fresh report after
  have hinitial : (new policy roster).state.Valid roster := .initial roster
  have hv : c.state.Valid c.roster := run_valid (c := new policy roster) hinitial calls
  have hpolicy : c.policy = policy := policy_run (new policy roster) calls
  have hafter : after.policy = policy := (c.transition_sweep now).policy_eq.trans hpolicy
  have hsettled : after.Settled now := settled_sweep hv now
  have hexpired := expired_sweep c now
  have hpromoted := promoted_sweep hv now
  have hstate := snd_sweep hv now
  have hfresh := hsettled.fresh
  rw [hpolicy] at hexpired hpromoted
  rw [hafter] at hfresh
  refine ⟨hexpired, fun holder => recovered_sweep_iff rfl hinitial, fun holder since hsince => ?_,
    hpromoted, fun next => promoted_not_mem_expired hv, hpolicy ▸ hstate,
    isEmpty_sweep_iff hv now, hfresh, fun holder since hsince => ?_, sweep_of_settled hsettled⟩
  · have hends := hsince.ends_iff (.sweep now)
    rwa [run_concat, EndsHold, policy_run] at hends
  · exact hsince.le_of_settled (by rwa [run_concat])

/-- The holder is overdue, the first of those who wait no longer asks and the second one does: the
first one is dropped and the second one gets the slot. -/
theorem sweep_exact_past_dropped_request :
    let policy : Policy := ⟨.ofMillis 100, .ofMillis 30, .ofMillis 600, .ofMillis 300⟩
    let calls : List Call :=
      [.request "a" 0, .request "b" 5, .request "c" 500, .request "d" 600]
    let c := (new policy none).run calls
    let after := (c.sweep 700).2
    (c.sweep 700).1 = ⟨["b"], some "a", some "c"⟩ ∧
      after.state.waiting = ["d"] ∧
      HeldSince (new policy none) "a" calls 0 ∧
      (after.state.holder ≠ some "a" ↔ policy.maxRestart.millis < (700 : UInt64).subSat 0) ∧
      "c" ∉ (c.sweep 700).1.expired ∧
      (∀ r ∈ after.state.backlog,
        (700 : UInt64).subSat r.lastRetry ≤ policy.queueTimeout.millis) ∧
      HeldSince (new policy none) "c" (calls ++ [.sweep 700]) 700 ∧
      (700 : UInt64).subSat 700 ≤ policy.maxRestart.millis ∧
      after.sweep 700 = (⟨[], none, none⟩, after) := by
  intro policy calls c after
  have hc : (new policy none).run calls = c := rfl
  have hafter : (c.sweep 700).2 = after := rfl
  have hreport : (c.sweep 700).1 = ⟨["b"], some "a", some "c"⟩ := by decide +kernel
  have hgranted : HeldSince (new policy none) "a" ([] ++ [.request "a" 0]) 0 :=
    .granted (by decide +kernel)
  have hkept : HeldSince (new policy none) "a" ([.request "a" 0] ++ [.request "b" 5]) 0 :=
    .kept hgranted (by decide +kernel) (by decide +kernel)
  have hkept' : HeldSince (new policy none) "a"
      ([.request "a" 0, .request "b" 5] ++ [.request "c" 500]) 0 :=
    .kept hkept (by decide +kernel) (by decide +kernel)
  have hheld : HeldSince (new policy none) "a"
      ([.request "a" 0, .request "b" 5, .request "c" 500] ++ [.request "d" 600]) 0 :=
    .kept hkept' (by decide +kernel) (by decide +kernel)
  have hnext : HeldSince (new policy none) "c" (calls ++ [.sweep 700]) 700 :=
    .granted (by decide +kernel)
  obtain ⟨-, -, hlost, -, hsafe, -, -, hfresh, hin, hagain⟩ := sweep_exact policy none calls 700
  rw [hc, hafter] at hlost hfresh hagain
  rw [hc] at hsafe
  exact ⟨hreport, by decide +kernel, hheld, hlost "a" 0 hheld,
    hsafe "c" (congrArg SweepReport.promoted hreport), hfresh, hnext, hin "c" 700 hnext, hagain⟩

end Coordinator

end GameHub.Restart
