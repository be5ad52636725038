import GameHub.Proofs.Restart.Invariant
import Mathlib.Data.List.Induction

/-!
# The cooldown between restarts

A promotion does not look at the cooldown, but it need not: a backend gets into the backlog only
when its cooldown is over, and its history does not change while it waits there, because every call
that changes the history of a backend also takes it out of the backlog.

**Theorem (`cooldown_respected`).** Over a run of a new coordinator whose times never decrease, a
backend that is given the slot has let the cooldown pass since every earlier call that gave it the
slot or reported that it restarted without permission.
-/

namespace GameHub.Restart.Coordinator

variable {c c' : Coordinator} {call : Call} {given : Option String} {server : String}

/-- The cooldown of everybody in the backlog is over. -/
def BacklogRested (c : Coordinator) (now : UInt64) : Prop :=
  ∀ name ∈ c.state.waiting, Rested c.state c.policy name now

theorem BacklogRested.mono {now later : UInt64} (h : c.BacklogRested now) (hle : now ≤ later) :
    c.BacklogRested later :=
  fun name hname last hlast => UInt64.le_trans (h name hname last hlast) hle

/-! ## One call -/

theorem Transition.rested_of_given (ht : Transition c call (some server) c')
    (hr : c.BacklogRested call.now) : Rested c.state c.policy server call.now := by
  generalize hgiven : some server = given at ht
  cases ht with
  | granted _ _ rested =>
    obtain rfl := Option.some.inj hgiven
    exact rested
  | queued => cases hgiven
  | kept => cases hgiven
  | freed =>
    exact hr server ((c.waiting_prepared_sublist call).subset (List.mem_of_head? hgiven.symm))

/-- Who waits after a call is rested, and the call was no restart of it. -/
theorem Transition.rested_of_waiting (ht : Transition c call given c')
    (hv : c.state.Valid c.roster) (hr : c.BacklogRested call.now)
    (hmem : server ∈ c'.state.waiting) :
    Rested c.state c.policy server call.now ∧ given ≠ some server ∧
      call ≠ .unauthorized server call.now := by
  -- A report of a restart takes the backend out of the backlog.
  have hreport : server ∈ (c.prepared call).waiting → call ≠ .unauthorized server call.now := by
    intro hmem hcall
    rw [hcall, prepared, State.waiting_dequeue] at hmem
    exact hv.nodup.not_mem_erase hmem
  have hsub := (c.waiting_prepared_sublist call).subset
  cases ht with
  | @granted name now free =>
    have hnil : (c.state.grant name now).waiting = [] := by
      rw [State.waiting, State.backlog_grant, State.dequeue, hv.backlog_of_free free,
        List.eraseP_nil, List.map_nil]
    rw [hnil] at hmem
    exact (List.not_mem_nil hmem).elim
  | @queued name holder now held other eligible rested =>
    refine ⟨?_, by simp, by simp⟩
    rw [waiting_enqueue] at hmem
    split at hmem
    · exact hr server hmem
    · rcases List.mem_append.mp hmem with hmem | hmem
      · exact hr server hmem
      · obtain rfl := List.mem_singleton.mp hmem
        exact rested
  | kept => exact ⟨hr server (hsub hmem), by simp, hreport hmem⟩
  | freed =>
    have hnodup : (c.prepared call).waiting.Nodup :=
      hv.nodup.sublist (c.waiting_prepared_sublist call)
    rw [State.waiting_release _ _ hnodup] at hmem
    have hbefore := List.mem_of_mem_tail hmem
    refine ⟨hr server (hsub hbefore), fun hhead => ?_, hreport hbefore⟩
    obtain ⟨rest, hrest⟩ := List.head?_eq_some_iff.mp hhead
    rw [hrest] at hmem hnodup
    exact (List.nodup_cons.mp hnodup).1 hmem

theorem Transition.backlogRested (ht : Transition c call given c') (hv : c.state.Valid c.roster)
    (hr : c.BacklogRested call.now) : c'.BacklogRested call.now := by
  intro name hmem last hlast
  obtain ⟨hrested, hgiven, hreport⟩ := ht.rested_of_waiting hv hr hmem
  rw [ht.history, if_neg fun h => h.elim hgiven hreport] at hlast
  rw [ht.policy_eq]
  exact hrested last hlast

/-! ## Runs -/

/-- The times of the calls never decrease. -/
def Ordered (calls : List Call) : Prop := calls.Pairwise (·.now ≤ ·.now)

/-- After a run in order, everybody in the backlog is rested at any later time. -/
theorem backlogRested_run {policy : Policy} {roster : Option (List String)} (calls : List Call)
    (hordered : Ordered calls) {later : UInt64} (hlater : ∀ call ∈ calls, call.now ≤ later) :
    ((new policy roster).run calls).BacklogRested later := by
  induction calls using List.reverseRecOn generalizing later with
  | nil => exact fun name hname => (List.not_mem_nil hname).elim
  | append_singleton calls call ih =>
    obtain ⟨hcalls, -, hlast⟩ := List.pairwise_append.mp hordered
    have hbefore := ih hcalls fun earlier hearlier =>
      hlast earlier hearlier call (List.mem_singleton_self call)
    have hv := run_valid (c := new policy roster) (.initial roster) calls
    rw [run_concat]
    exact (((new policy roster).run calls).transition_step call).backlogRested hv hbefore |>.mono
      (hlater call (by simp))

/-- The history of a backend never gets earlier in a run in order. -/
theorem history_run_mono (calls : List Call) {name : String} {last : UInt64}
    (hlast : c.state.history.get? name = some last) (hlater : ∀ call ∈ calls, last ≤ call.now)
    (hordered : Ordered calls) :
    ∃ time, (c.run calls).state.history.get? name = some time ∧ last ≤ time := by
  induction calls generalizing c last with
  | nil => exact ⟨last, hlast, UInt64.le_refl last⟩
  | cons call calls ih =>
    obtain ⟨hcall, hcalls⟩ := List.pairwise_cons.mp hordered
    have hstep := c.get?_history_step call name
    by_cases hrestarts : c.Restarts call name
    · rw [if_pos hrestarts] at hstep
      obtain ⟨time, htime, hle⟩ := ih hstep hcall hcalls
      exact ⟨time, htime, UInt64.le_trans (hlater call List.mem_cons_self) hle⟩
    · rw [if_neg hrestarts, hlast] at hstep
      exact ih hstep (fun later hmem => hlater later (List.mem_cons_of_mem call hmem)) hcalls

/-- **The cooldown is respected.** Between a restart of a backend and the next call that gives it
the slot at least the cooldown passes, in whole milliseconds and as far as the clock reaches. -/
theorem cooldown_respected (policy : Policy) (roster : Option (List String))
    (before between after : List Call) (first second : Call) (name : String)
    (hordered : Ordered (before ++ first :: between ++ second :: after))
    (hfirst : ((new policy roster).run before).Restarts first name)
    (hsecond : ((new policy roster).run (before ++ first :: between)).grantee second =
      some name) :
    min (first.now.toNat + min (policy.cooldown.nanoseconds / 1_000_000) 0xFFFFFFFFFFFFFFFF)
      0xFFFFFFFFFFFFFFFF ≤ second.now.toNat := by
  obtain ⟨hearlier, -, hlast⟩ := List.pairwise_append.mp hordered
  obtain ⟨-, hfrom, -⟩ := List.pairwise_append.mp hearlier
  obtain ⟨hfirst_le, hbetween⟩ := List.pairwise_cons.mp hfrom
  -- The history of the backend is at least the time of the first call.
  have hstep := ((new policy roster).run before).get?_history_step first name
  rw [if_pos hfirst] at hstep
  obtain ⟨time, htime, hle⟩ := history_run_mono between hstep hfirst_le hbetween
  have hrun : (new policy roster).run (before ++ first :: between) =
      (((new policy roster).run before).step first).2.run between := by
    rw [run_append, run_cons]
  rw [← hrun] at htime
  -- The backend is rested at the time of the second call.
  have hrested : ((new policy roster).run (before ++ first :: between)).BacklogRested second.now :=
    backlogRested_run _ hearlier fun call hcall => hlast call hcall second List.mem_cons_self
  have ht := ((new policy roster).run (before ++ first :: between)).transition_step second
  rw [hsecond] at ht
  have hready := ht.rested_of_given hrested time htime
  rw [policy_run, UInt64.le_iff_toNat_le, UInt64.toNat_addSat] at hready
  change min (time.toNat + policy.cooldown.millis.toNat) _ ≤ _ at hready
  rw [Duration.toNat_millis] at hready
  rw [UInt64.le_iff_toNat_le] at hle
  omega

/-- A backend that waits at the end of the clock is promoted there. Its cooldown would end later,
but the clock cannot show that. -/
theorem cooldown_respected_at_clock_end :
    let policy : Policy := ⟨.ofMillis 100, .ofMillis 30, .ofMillis 600, .ofMillis 300⟩
    let first : Call := .request "b" 0xFFFFFFFFFFFFFFF0
    let between : List Call := [.complete "b" 0xFFFFFFFFFFFFFFF1,
      .request "a" 0xFFFFFFFFFFFFFFF2, .request "b" 0xFFFFFFFFFFFFFFFF]
    let second : Call := .unauthorized "a" 0xFFFFFFFFFFFFFFFF
    Ordered ([] ++ first :: between ++ second :: []) ∧
      ((new policy none).run []).Restarts first "b" ∧
      ((new policy none).run ([] ++ first :: between)).grantee second = some "b" ∧
      min (first.now.toNat + min (policy.cooldown.nanoseconds / 1_000_000) 0xFFFFFFFFFFFFFFFF)
        0xFFFFFFFFFFFFFFFF ≤ second.now.toNat := by
  intro policy first between second
  have hordered : Ordered ([] ++ first :: between ++ second :: []) := by
    unfold Ordered
    decide +kernel
  have hfirst : ((new policy none).run []).Restarts first "b" := by decide +kernel
  have hsecond : ((new policy none).run ([] ++ first :: between)).grantee second = some "b" := by
    decide +kernel
  exact ⟨hordered, hfirst, hsecond,
    cooldown_respected policy none [] between [] first second "b" hordered hfirst hsecond⟩

end GameHub.Restart.Coordinator
