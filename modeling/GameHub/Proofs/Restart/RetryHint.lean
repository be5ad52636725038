import GameHub.Proofs.Restart.Cooldown
import GameHub.Proofs.Restart.Exclusion

/-!
# The retry time and the deadlines

A backend that has to wait is told when to ask again, and the time grows with its place in the
backlog. Two deadlines do not grow with it: the age at which a request is dropped, and the longest
restart. A backend that keeps quiet until its retry time is safe from a deadline as long as the wait
for its place is not longer.

**Theorem (`retry_hint_kept`).** With the default timings, a backend that was told a place is not
dropped by a sweep before its retry time unless its place is beyond the 20th, and does not lose the
slot to one unless its place is beyond the 10th.

`retry_hint_outlasted` shows that places 21 and 11 are too far back.

Carried through the run is `ActiveSince`: what the coordinator remembers of the backend, its last
request and the start of its hold, is from the time of the request or later.
-/

namespace GameHub.Restart

theorem State.backlog_release_sublist (s : State) (now : UInt64) :
    (s.release now).2.backlog.Sublist s.backlog := by
  cases h : s.backlog with
  | nil => simp [release_of_nil s now h, h]
  | cons next rest =>
    rw [release_of_cons s now h, backlog_grant]
    exact List.eraseP_sublist.trans (List.sublist_cons_self next rest)

namespace Coordinator

variable {c c' : Coordinator} {call : Call} {given : Option String} {server : String}

/-! ## One call -/

/-- A request in the backlog was there before, or was made just now. -/
theorem Transition.mem_backlog (ht : Transition c call given c') {r : Request}
    (hr : r ∈ c'.state.backlog) : r ∈ c.state.backlog ∨ r.lastRetry = call.now := by
  cases ht with
  | @granted name now => exact .inl ((c.state.backlog_dequeue_sublist name).subset hr)
  | @queued name holder now =>
    rcases mem_backlog_enqueue c name now hr with hr | ⟨r₀, -, rfl⟩ | rfl
    · exact .inl hr
    · exact .inr rfl
    · exact .inr rfl
  | kept => exact .inl ((c.backlog_prepared_sublist call).subset hr)
  | freed =>
    have hsub := (State.backlog_release_sublist _ call.now).trans (c.backlog_prepared_sublist call)
    exact .inl (hsub.subset hr)

/-- All that is remembered of a backend that waits or restarts is from this time or later. -/
structure ActiveSince (c : Coordinator) (server : String) (time : UInt64) : Prop where
  waiting : ∀ r ∈ c.state.backlog, r.server = server → time ≤ r.lastRetry
  holding : c.state.holder = some server →
    ∀ started, c.state.history.get? server = some started → time ≤ started

theorem Transition.activeSince {time : UInt64} (ht : Transition c call given c')
    (h : c.ActiveSince server time) (hlater : time ≤ call.now) : c'.ActiveSince server time where
  waiting r hr hserver := by
    rcases ht.mem_backlog hr with hr | hretry
    · exact h.waiting r hr hserver
    · rwa [hretry]
  holding hheld started hstarted := by
    rw [ht.history] at hstarted
    split at hstarted
    · exact Option.some.inj hstarted ▸ hlater
    · next hother =>
      obtain ⟨-, hbefore⟩ := (ht.given_or_held hheld).resolve_left fun hgiven => hother (.inl hgiven)
      exact h.holding hbefore started hstarted

theorem activeSince_request {now retryAfter position : UInt64} {reason : String}
    (hv : c.state.Valid c.roster)
    (h : (c.request server now).1 = .wait retryAfter (some position) reason) :
    (c.step (.request server now)).2.ActiveSince server now := by
  obtain ⟨-, hother, hrequest⟩ := c.request_of_position server now h
  have hstep : (c.step (.request server now)).2 = (c.enqueue server now).2 :=
    congrArg Prod.snd hrequest
  rw [hstep]
  exact {
    waiting := fun r hr hserver => by
      rw [lastRetry_enqueue hv.nodup hr hserver]
      exact UInt64.le_refl now
    holding := fun hheld => absurd (hheld.symm.trans (c.holder_enqueue server now)).symm hother }

theorem ActiveSince.run {time : UInt64} {calls : List Call} (h : c.ActiveSince server time)
    (hlater : ∀ call ∈ calls, time ≤ call.now) : (c.run calls).ActiveSince server time := by
  induction calls generalizing c with
  | nil => exact h
  | cons call calls ih =>
    exact ih ((c.transition_step call).activeSince h (hlater call List.mem_cons_self))
      fun later hmem => hlater later (List.mem_cons_of_mem call hmem)

/-! ## Sweeps -/

theorem exists_of_mem_expired {now : UInt64} (h : server ∈ (c.sweep now).1.expired) :
    ∃ r ∈ c.state.backlog, r.server = server ∧
      c.policy.queueTimeout.millis < now.subSat r.lastRetry := by
  rw [sweep_eq] at h
  obtain ⟨r, hr, rfl⟩ := List.mem_map.mp h
  obtain ⟨hmem, hstale⟩ := List.mem_filter.mp hr
  refine ⟨r, hmem, rfl, ?_⟩
  simpa [isFresh] using hstale

theorem overdue_of_recovered {now : UInt64} (hv : c.state.Valid c.roster)
    (h : (c.sweep now).1.recovered = some server) :
    c.state.holder = some server ∧ ∃ started, c.state.history.get? server = some started ∧
      c.policy.maxRestart.millis < now.subSat started := by
  rw [sweep_eq] at h
  cases hfrees : c.frees (.sweep now) with
  | false => simp [hfrees] at h
  | true =>
    have hheld : c.state.holder = some server := by simpa [hfrees] using h
    obtain ⟨started, hstarted, hoverdue⟩ := isOverdue_of_valid hv hheld
    refine ⟨hheld, started, hstarted, ?_⟩
    simpa [frees, hheld, hoverdue] using hfrees

/-- A deadline that runs from a time after the request and is over by the retry time is shorter than
the wait for the place. -/
theorem deadline_lt {policy : Policy} {asked since now position limit : UInt64}
    (hsince : asked ≤ since) (hover : limit < now.subSat since)
    (hnow : now ≤ asked.addSat (policy.backoff.millis.mulSat position)) :
    limit.toNat < policy.backoff.millis.toNat * position.toNat ∧
      asked.toNat + limit.toNat < now.toNat := by
  rw [UInt64.le_iff_toNat_le] at hsince hnow
  rw [UInt64.lt_iff_toNat_lt, UInt64.toNat_subSat] at hover
  rw [UInt64.toNat_addSat, UInt64.toNat_mulSat] at hnow
  omega

/-! ## Runs -/

/-- What a sweep no later than the retry time can do to the backend that was told it. -/
theorem sweep_before_retry {policy : Policy} {roster : Option (List String)}
    {before between : List Call} {t retryAfter position now : UInt64} {reason : String}
    (hordered : Ordered (.request server t :: between ++ [.sweep now]))
    (hwait : (((new policy roster).run before).request server t).1 =
      .wait retryAfter (some position) reason)
    (hnow : now ≤ retryAfter) :
    let swept := (((new policy roster).run (before ++ .request server t :: between)).sweep now).1
    (server ∈ swept.expired →
      policy.queueTimeout.millis.toNat < policy.backoff.millis.toNat * position.toNat ∧
        t.toNat + policy.queueTimeout.millis.toNat < now.toNat) ∧
    (swept.recovered = some server →
      policy.maxRestart.millis.toNat < policy.backoff.millis.toNat * position.toNat ∧
        t.toNat + policy.maxRestart.millis.toNat < now.toNat) := by
  have hv := run_valid (c := new policy roster) (.initial roster)
  obtain ⟨hlater, -⟩ := List.pairwise_cons.mp hordered
  have hbetween : ∀ call ∈ between, t ≤ call.now := fun call hcall =>
    hlater call (List.mem_append_left _ hcall)
  -- The backend was last seen at the request, or later.
  have hactive := (activeSince_request (hv before) hwait).run hbetween
  rw [← run_cons, ← run_append] at hactive
  have hretry : retryAfter = t.addSat (policy.backoff.millis.mulSat position) := by
    obtain ⟨-, -, hrequest⟩ := request_of_position _ server t hwait
    rw [hrequest, waitAt, policy_enqueue, policy_run] at hwait
    injection hwait with hretry hposition
    rw [← hretry, ← Option.some.inj hposition]
    rfl
  rw [hretry] at hnow
  refine ⟨fun hexpired => ?_, fun hrecovered => ?_⟩
  · obtain ⟨r, hr, hserver, hover⟩ := exists_of_mem_expired hexpired
    rw [policy_run] at hover
    exact deadline_lt (hactive.waiting r hr hserver) hover hnow
  · obtain ⟨hheld, started, hstarted, hover⟩ := overdue_of_recovered (hv _) hrecovered
    rw [policy_run] at hover
    exact deadline_lt (hactive.holding hheld started hstarted) hover hnow

/-- **The retry time is kept up to place 20, and 10.** With the default timings, a sweep no later
than the retry time drops the waiting backend only if its place was beyond the 20th and ten minutes
have passed since it asked. It takes the slot from the backend only if its place was beyond the 10th
and five minutes have passed. -/
theorem retry_hint_kept (roster : Option (List String)) (before between : List Call)
    (server : String) (t retryAfter position now : UInt64) (reason : String)
    (hordered : Ordered (.request server t :: between ++ [.sweep now]))
    (hwait : (((new default roster).run before).request server t).1 =
      .wait retryAfter (some position) reason)
    (hnow : now ≤ retryAfter) :
    let swept := (((new default roster).run (before ++ .request server t :: between)).sweep now).1
    (server ∈ swept.expired → 20 < position.toNat ∧ t.toNat + 600_000 < now.toNat) ∧
    (swept.recovered = some server → 10 < position.toNat ∧ t.toNat + 300_000 < now.toNat) := by
  intro swept
  obtain ⟨hexpired, hrecovered⟩ := sweep_before_retry hordered hwait hnow
  have hbackoff : (default : Policy).backoff.millis.toNat = 30_000 := by decide +kernel
  have htimeout : (default : Policy).queueTimeout.millis.toNat = 600_000 := by decide +kernel
  have hrestart : (default : Policy).maxRestart.millis.toNat = 300_000 := by decide +kernel
  rw [hbackoff, htimeout] at hexpired
  rw [hbackoff, hrestart] at hrecovered
  refine ⟨fun h => ?_, fun h => ?_⟩
  · have := hexpired h
    omega
  · have := hrecovered h
    omega

/-- So many backends, named by numbers, ask at one time. -/
def asking (count : Nat) (now : UInt64) : List Call :=
  (List.range count).map fun i => .request (toString i) now

/-- So many backends, named by numbers, complete their restarts at one time, one after the other. -/
def completing (count : Nat) (now : UInt64) : List Call :=
  (List.range count).map fun i => .complete (toString i) now

/-- The backend at place 20 is still in the backlog at its retry time. The one at place 10 is
promoted early and still holds the slot at its retry time. -/
theorem retry_hint_kept_at_last_places :
    Ordered (.request "20" 0 :: [] ++ [.sweep 600_000]) ∧
      (((new default none).run (asking 20 0)).request "20" 0).1 =
        .wait 600_000 (some 20) "0 is restarting, you are #20 in line" ∧
      "20" ∉ (((new default none).run
        (asking 20 0 ++ .request "20" 0 :: [])).sweep 600_000).1.expired ∧
      Ordered (.request "10" 0 :: completing 10 0 ++ [.sweep 300_000]) ∧
      (((new default none).run (asking 10 0)).request "10" 0).1 =
        .wait 300_000 (some 10) "0 is restarting, you are #10 in line" ∧
      ((new default none).run (asking 10 0 ++ .request "10" 0 :: completing 10 0)).state.holder =
        some "10" ∧
      (((new default none).run
        (asking 10 0 ++ .request "10" 0 :: completing 10 0)).sweep 300_000).1.recovered ≠
          some "10" := by
  have hquiet : Ordered (.request "20" 0 :: [] ++ [.sweep 600_000]) := by
    unfold Ordered
    decide +kernel
  have hpromoted : Ordered (.request "10" 0 :: completing 10 0 ++ [.sweep 300_000]) := by
    unfold Ordered
    decide +kernel
  have hwait : (((new default none).run (asking 20 0)).request "20" 0).1 =
      .wait 600_000 (some 20) "0 is restarting, you are #20 in line" := by decide +kernel
  have hwait' : (((new default none).run (asking 10 0)).request "10" 0).1 =
      .wait 300_000 (some 10) "0 is restarting, you are #10 in line" := by decide +kernel
  have hkept := (retry_hint_kept none (asking 20 0) [] "20" 0 600_000 20 600_000 _ hquiet hwait
    (by decide)).1
  have hheld := (retry_hint_kept none (asking 10 0) (completing 10 0) "10" 0 300_000 10 300_000 _
    hpromoted hwait' (by decide)).2
  exact ⟨hquiet, hwait, fun h => absurd (hkept h).1 (by decide), hpromoted, hwait',
    by decide +kernel, fun h => absurd (hheld h).1 (by decide)⟩

/-- The backend at place 21 keeps quiet until its retry time, and is dropped before. The one at
place 11 is promoted early, because eleven restarts are over at once, and loses the slot before its
retry time. -/
theorem retry_hint_outlasted :
    (let before := asking 21 0
     let between : List Call := (asking 21 600_000).tail
     let now : UInt64 := 600_001
     Ordered (before ++ .request "21" 0 :: between ++ [.sweep now]) ∧
      (((new default none).run before).request "21" 0).1 =
        .wait 630_000 (some 21) "0 is restarting, you are #21 in line" ∧
      now ≤ 630_000 ∧
      "21" ∈ (((new default none).run
        (before ++ .request "21" 0 :: between)).sweep now).1.expired) ∧
    (let before := asking 11 0
     let between : List Call := completing 11 1
     let now : UInt64 := 300_002
     Ordered (before ++ .request "11" 0 :: between ++ [.sweep now]) ∧
      (((new default none).run before).request "11" 0).1 =
        .wait 330_000 (some 11) "0 is restarting, you are #11 in line" ∧
      ((new default none).run (before ++ .request "11" 0 :: between)).state.holder = some "11" ∧
      now ≤ 330_000 ∧
      (((new default none).run
        (before ++ .request "11" 0 :: between)).sweep now).1.recovered = some "11") := by
  unfold Ordered
  decide +kernel

end Coordinator

end GameHub.Restart
