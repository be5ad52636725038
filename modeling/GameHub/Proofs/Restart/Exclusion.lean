import GameHub.Proofs.Restart.Invariant
import Mathlib.Data.List.Induction

/-!
# Mutual exclusion of restarts

A backend that is allowed to restart holds the slot, and nobody else is allowed before that hold
has ended. `HeldSince` follows one hold through a run from the call that granted it, and `EndsHold`
lists the calls that can end it: the holder reports the end of its restart, the holder restarts
without permission, or a sweep finds that the hold has lasted for too long.

**Theorem (`restart_exclusive`).** Over every run of a new coordinator, a request that is allowed
makes its backend the holder; between two requests of different backends that are allowed the hold
of the first one ends; and a call ends a hold exactly if it is one of the three.

The history entry of the holder carries the proof. It is the time of the grant throughout the hold,
because a call changes it only when it gives the slot away or reports a restart without permission,
and both end the hold.
-/

namespace GameHub.Restart.Coordinator

variable {c c' : Coordinator} {call : Call} {given : Option String} {server : String}

/-- The backend holds the slot after the calls, since a call at a time that gave it the slot. -/
inductive HeldSince (c : Coordinator) (server : String) : List Call → UInt64 → Prop
  | granted {calls : List Call} {call : Call} : (c.run calls).grantee call = some server →
      HeldSince c server (calls ++ [call]) call.now
  | kept {calls : List Call} {call : Call} {since : UInt64} : HeldSince c server calls since →
      (c.run calls).grantee call ≠ some server →
      (c.run (calls ++ [call])).state.holder = some server →
      HeldSince c server (calls ++ [call]) since

/-- The calls that end a hold of the slot which began at a time. -/
def EndsHold (c : Coordinator) (server : String) (since : UInt64) : Call → Prop
  | .request _ _ => False
  | .complete name now => name = server ∧ (c.complete name now).1 = .ok ()
  | .unauthorized name _ => name = server
  | .sweep now => c.policy.maxRestart.millis < now.subSat since

/-! ## One call -/

theorem Transition.not_holder_of_given (ht : Transition c call (some server) c')
    (hv : c.state.Valid c.roster) : c.state.holder ≠ some server := by
  generalize hgiven : some server = given at ht
  cases ht with
  | granted free => simp [free]
  | queued => cases hgiven
  | kept => cases hgiven
  | freed =>
    have hmem : server ∈ c.state.waiting :=
      (c.waiting_prepared_sublist call).subset (List.mem_of_head? hgiven.symm)
    exact fun hheld => hv.holder_not_waiting server (hheld.trans hgiven.symm) hmem

theorem Transition.holder_of_not_frees (ht : Transition c call given c')
    (hheld : c.state.holder = some server) (hkeeps : c.frees call = false) :
    c'.state.holder = some server := by
  cases ht with
  | granted free => simp [hheld] at free
  | queued => rw [holder_enqueue]; exact hheld
  | kept => rw [← hheld]; exact c.holder_prepared call
  | freed frees => simp [hkeeps] at frees

theorem Transition.holder_ne_of_frees (ht : Transition c call given c')
    (hv : c.state.Valid c.roster) (hheld : c.state.holder = some server)
    (hfrees : c.frees call = true) : c'.state.holder ≠ some server := by
  rw [ht.holder, if_pos hfrees]
  rintro rfl
  exact ht.not_holder_of_given hv hheld

theorem Transition.given_or_held (ht : Transition c call given c')
    (hheld : c'.state.holder = some server) :
    given = some server ∨ c.frees call = false ∧ c.state.holder = some server := by
  rw [ht.holder] at hheld
  cases hfrees : c.frees call with
  | true => exact .inl (by simpa [hfrees] using hheld)
  | false =>
    cases given with
    | none => exact .inr ⟨rfl, by simpa [hfrees] using hheld⟩
    | some name => exact .inl (by simpa [hfrees] using hheld)

theorem frees_iff_endsHold {since : UInt64} (hheld : c.state.holder = some server)
    (hsince : c.state.history.get? server = some since) (call : Call) :
    c.frees call = true ↔ c.EndsHold server since call := by
  cases call with
  | request name now => simp [frees, EndsHold]
  | complete name now =>
    have hname : some server = some name ↔ name = server := by
      rw [Option.some.injEq, eq_comm]
    by_cases h : name = server
    · simp [frees, EndsHold, complete, hheld, h]
    · simp [frees, EndsHold, hheld, hname, h]
  | unauthorized name now => simp [frees, EndsHold, hheld, eq_comm]
  | sweep now => simp [frees, EndsHold, hheld, isOverdue, hsince]

/-- A call ends a hold exactly if it is one of the three that can. -/
theorem holder_step_ne_iff {since : UInt64} (hv : c.state.Valid c.roster)
    (hheld : c.state.holder = some server) (hsince : c.state.history.get? server = some since)
    (call : Call) :
    (c.step call).2.state.holder ≠ some server ↔ c.EndsHold server since call := by
  have ht := c.transition_step call
  rw [← frees_iff_endsHold hheld hsince call]
  cases hfrees : c.frees call with
  | true => exact iff_of_true (ht.holder_ne_of_frees hv hheld hfrees) rfl
  | false =>
    exact iff_of_false (fun hne => hne (ht.holder_of_not_frees hheld hfrees)) Bool.false_ne_true

/-! ## One hold -/

/-- A hold lasts, and the history of the holder is the time of the grant. -/
theorem HeldSince.holder_history {calls : List Call} {since : UInt64}
    (h : HeldSince c server calls since) :
    (c.run calls).state.holder = some server ∧
      (c.run calls).state.history.get? server = some since := by
  induction h with
  | @granted calls call hgrantee =>
    have ht := (c.run calls).transition_step call
    rw [hgrantee] at ht
    rw [run_concat]
    exact ⟨ht.holder_of_given, by rw [ht.history, if_pos (.inl rfl)]⟩
  | @kept calls call since hsince hnot hheld ih =>
    refine ⟨hheld, ?_⟩
    rw [run_concat] at hheld ⊢
    -- A report of a restart without permission would have ended the hold.
    have hother : call ≠ .unauthorized server call.now := by
      intro hcall
      have hfrees : (c.run calls).frees call = true := by rw [hcall]; simp [frees, ih.1]
      rw [((c.run calls).transition_step call).holder, if_pos hfrees] at hheld
      exact hnot hheld
    rw [get?_history_step, if_neg fun hrestarts => hrestarts.elim hnot hother]
    exact ih.2

theorem HeldSince.unique {calls : List Call} {since since' : UInt64}
    (h : HeldSince c server calls since) (h' : HeldSince c server calls since') :
    since = since' :=
  Option.some.inj (h.holder_history.2.symm.trans h'.holder_history.2)

/-- Whoever holds the slot of a coordinator that started without a holder was granted it. -/
theorem exists_heldSince (hfree : c.state.holder = none) (calls : List Call)
    (hheld : (c.run calls).state.holder = some server) :
    ∃ since, HeldSince c server calls since := by
  induction calls using List.reverseRecOn with
  | nil => simp [hfree] at hheld
  | append_singleton calls call ih =>
    by_cases hgrantee : (c.run calls).grantee call = some server
    · exact ⟨call.now, .granted hgrantee⟩
    · have ht := (c.run calls).transition_step call
      obtain ⟨-, hbefore⟩ := (ht.given_or_held (by rwa [run_concat] at hheld)).resolve_left hgrantee
      obtain ⟨since, hsince⟩ := ih hbefore
      exact ⟨since, .kept hsince hgrantee hheld⟩

/-! ## Runs -/

/-- If a holder is no longer the holder after a run, then some first call ended its hold. -/
theorem exists_first_loss (calls : List Call) (hheld : c.state.holder = some server)
    (hlost : (c.run calls).state.holder ≠ some server) :
    ∃ kept ending rest, calls = kept ++ ending :: rest ∧
      (∀ more, more <+: kept → (c.run more).state.holder = some server) ∧
      (c.run (kept ++ [ending])).state.holder ≠ some server := by
  induction calls generalizing c with
  | nil => exact absurd hheld hlost
  | cons call calls ih =>
    by_cases hnext : (c.step call).2.state.holder = some server
    · obtain ⟨kept, ending, rest, rfl, hkept, hending⟩ := ih hnext hlost
      refine ⟨call :: kept, ending, rest, rfl, fun more hmore => ?_, hending⟩
      cases more with
      | nil => exact hheld
      | cons first more =>
        obtain ⟨rfl, hprefix⟩ := List.cons_prefix_cons.mp hmore
        exact hkept more hprefix
    · refine ⟨[], call, calls, rfl, fun more hmore => ?_, hnext⟩
      rw [List.prefix_nil.mp hmore]
      exact hheld

theorem HeldSince.ends_iff {policy : Policy} {roster : Option (List String)} {calls : List Call}
    {since : UInt64} (h : HeldSince (new policy roster) server calls since) (call : Call) :
    ((new policy roster).run (calls ++ [call])).state.holder ≠ some server ↔
      ((new policy roster).run calls).EndsHold server since call := by
  have hv := run_valid (c := new policy roster) (.initial roster) calls
  rw [run_concat]
  exact holder_step_ne_iff hv h.holder_history.1 h.holder_history.2 call

theorem exists_end_of_allow {policy : Policy} {roster : Option (List String)}
    {before between : List Call} {first second : String} {t u : UInt64} (hne : second ≠ first)
    (hfirst : (((new policy roster).run before).request first t).1 = .allow)
    (hsecond : (((new policy roster).run
      (before ++ .request first t :: between)).request second u).1 = .allow) :
    ∃ kept ending rest since, between = kept ++ ending :: rest ∧
      (∀ more, more <+: kept → ((new policy roster).run
        (before ++ .request first t :: more)).state.holder = some first) ∧
      HeldSince (new policy roster) first (before ++ .request first t :: kept) since ∧
      ((new policy roster).run (before ++ .request first t :: kept)).EndsHold first since
        ending := by
  have hheld : (((new policy roster).run before).step (.request first t)).2.state.holder =
      some first := holder_request_of_allow _ first t hfirst
  have hlost : ((((new policy roster).run before).step (.request first t)).2.run
      between).state.holder ≠ some first := by
    rw [run_append, run_cons] at hsecond
    rcases ((request_eq_allow_iff _ second u).mp hsecond).2 with hother | ⟨hfree, -⟩
    · rw [hother]
      exact fun h => hne (Option.some.inj h)
    · simp [hfree]
  -- The slot was lost somewhere in between; the first such call is the end of the hold.
  obtain ⟨kept, ending, rest, rfl, hkept, hending⟩ := exists_first_loss between hheld hlost
  have hrun : ∀ more, (new policy roster).run (before ++ .request first t :: more) =
      (((new policy roster).run before).step (.request first t)).2.run more := by
    intro more
    rw [run_append, run_cons]
  obtain ⟨since, hsince⟩ := exists_heldSince (c := new policy roster) rfl
    (before ++ .request first t :: kept) (by rw [hrun]; exact hkept kept (List.prefix_refl kept))
  refine ⟨kept, ending, rest, since, rfl, fun more hmore => ?_, hsince, ?_⟩
  · rw [hrun]
    exact hkept more hmore
  · refine (hsince.ends_iff ending).mp ?_
    rw [List.append_assoc, List.cons_append, hrun]
    exact hending

/-- **Mutual exclusion.** A request that is allowed makes its backend the holder. Before a request
of another backend is allowed, that hold ends, by one of the three calls that end a hold; nothing
else does. -/
theorem restart_exclusive (policy : Policy) (roster : Option (List String)) :
    (∀ (calls : List Call) (server : String) (now : UInt64),
      (((new policy roster).run calls).request server now).1 = .allow →
        ((new policy roster).run (calls ++ [.request server now])).state.holder = some server) ∧
    (∀ (before between : List Call) (first second : String) (t u : UInt64), second ≠ first →
      (((new policy roster).run before).request first t).1 = .allow →
      (((new policy roster).run (before ++ .request first t :: between)).request second u).1 =
        .allow →
      ∃ kept ending rest since, between = kept ++ ending :: rest ∧
        (∀ more, more <+: kept → ((new policy roster).run
          (before ++ .request first t :: more)).state.holder = some first) ∧
        HeldSince (new policy roster) first (before ++ .request first t :: kept) since ∧
        ((new policy roster).run (before ++ .request first t :: kept)).EndsHold first since
          ending) ∧
    (∀ (calls : List Call) (server : String) (since : UInt64) (call : Call),
      HeldSince (new policy roster) server calls since →
        (((new policy roster).run (calls ++ [call])).state.holder ≠ some server ↔
          ((new policy roster).run calls).EndsHold server since call)) := by
  refine ⟨fun calls server now hallow => ?_, fun before between first second t u hne h₁ h₂ => ?_,
    fun calls server since call h => h.ends_iff call⟩
  · rw [run_concat]
    exact holder_request_of_allow _ server now hallow
  · exact exists_end_of_allow hne h₁ h₂

/-- Two backends are allowed one after the other: the second one waits and is promoted when the
first one reports the end of its restart. -/
theorem restart_exclusive_after_promotion :
    let policy : Policy := ⟨.ofMillis 100, .ofMillis 30, .ofMillis 600, .ofMillis 300⟩
    let between : List Call := [.request "b" 10, .complete "a" 20]
    (((new policy none).run []).request "a" 0).1 = .allow ∧
      (((new policy none).run ([] ++ .request "a" 0 :: between)).request "b" 30).1 = .allow ∧
      ((new policy none).run ([] ++ [.request "a" 0])).state.holder = some "a" ∧
      (∃ kept ending rest since, between = kept ++ ending :: rest ∧
        (∀ more, more <+: kept → ((new policy none).run
          ([] ++ .request "a" 0 :: more)).state.holder = some "a") ∧
        HeldSince (new policy none) "a" ([] ++ .request "a" 0 :: kept) since ∧
        ((new policy none).run ([] ++ .request "a" 0 :: kept)).EndsHold "a" since ending) ∧
      (((new policy none).run ([.request "a" 0] ++ [.sweep 301])).state.holder ≠ some "a" ↔
        ((new policy none).run [.request "a" 0]).EndsHold "a" 0 (.sweep 301)) := by
  intro policy between
  have hfirst : (((new policy none).run []).request "a" 0).1 = .allow := by decide +kernel
  have hsecond : (((new policy none).run
      ([] ++ .request "a" 0 :: between)).request "b" 30).1 = .allow := by decide +kernel
  have hgrantee : ((new policy none).run []).grantee (.request "a" 0) = some "a" := by
    decide +kernel
  have hsince : HeldSince (new policy none) "a" ([] ++ [.request "a" 0]) 0 := .granted hgrantee
  obtain ⟨hholds, hends, hiff⟩ := restart_exclusive policy none
  exact ⟨hfirst, hsecond, hholds [] "a" 0 hfirst,
    hends [] between "a" "b" 0 30 (by decide) hfirst hsecond, hiff _ "a" 0 (.sweep 301) hsince⟩

end GameHub.Restart.Coordinator
