import GameHub.Agent.Restart
import GameHub.Proofs.Restart.Records

/-!
# The retry time on both sides

A backend whose request has to wait is told when to ask again, and its agent works out from this how
long to be quiet. The hub computes with milliseconds that stop at the end of the clock, the agent
with durations that have no such end, so the two have to meet at the last moment of a cooldown.

**Theorem (`retry_time_exact`).** A backend that is cooling down is told the end of its cooldown.
Until something happens to it, it is told the same time again before that time, and is never sent
back to cool down from that time on. A backend that is told a place is told its wait for that place.
An agent that sleeps for its delay wakes up at the retry time or later, and so is done with the
cooldown.

What happens to a backend is read off the log (`Coordinator.log`): without an event of it, neither
its history changes nor does it become the holder.
-/

namespace GameHub

/-! ## The answer of the hub -/

namespace Restart.Coordinator

variable {c : Coordinator} {call : Call} {server : String} {now retryAfter : UInt64}

/-- A cooldown is the only reason to wait without a place. -/
theorem exists_cooling_answer_iff :
    (∃ reason, (c.request server now).1 = .wait retryAfter none reason) ↔
      Eligible c.roster server ∧ c.state.holder ≠ some server ∧
        ∃ last, c.state.history.get? server = some last ∧
          retryAfter = last.addSat c.policy.cooldown.millis ∧ now < retryAfter := by
  have hcooling : (∃ last, c.cooling server now = some (last, retryAfter)) ↔
      ∃ last, c.state.history.get? server = some last ∧
        retryAfter = last.addSat c.policy.cooldown.millis ∧ now < retryAfter := by
    rw [cooling]
    cases c.state.history.get? server with
    | none => simp
    | some last => simp; grind
  rw [eligible_iff, ← hcooling, request]
  cases Text.allBlank server
  · cases c.admits server
    · simp
    · by_cases hheld : c.state.holder = some server
      · simp [hheld]
      · cases hcool : c.cooling server now with
        | some times => simp [hheld, Prod.ext_iff, eq_comm]
        | none => cases hfree : c.state.holder <;> simp_all [waitAt]
  · simp

/-- A cooldown is answered without a change. -/
theorem snd_request_of_cooling {reason : String}
    (h : (c.request server now).1 = .wait retryAfter none reason) :
    (c.request server now).2 = c := by
  obtain ⟨heligible, hheld, last, hlast, rfl, hearly⟩ :=
    exists_cooling_answer_iff.mp ⟨reason, h⟩
  obtain ⟨hblank, hadmits⟩ := (c.eligible_iff server).mp heligible
  have hcool : c.cooling server now = some (last, last.addSat c.policy.cooldown.millis) := by
    rw [cooling, hlast]
    exact if_pos hearly
  simp [request, hblank, hadmits, hheld, hcool]

theorem retryAfter_of_position {position : UInt64} {reason : String}
    (h : (c.request server now).1 = .wait retryAfter (some position) reason) :
    retryAfter = now.addSat (c.policy.backoff.millis.mulSat position) := by
  obtain ⟨-, -, hrequest⟩ := c.request_of_position server now h
  rw [hrequest, waitAt, policy_enqueue] at h
  cases h
  rfl

/-! ## While nothing happens to the backend -/

theorem holder_step_of_quiet (hheld : c.state.holder ≠ some server)
    (hquiet : ∀ e ∈ c.events call, e.server ≠ server) :
    (c.step call).2.state.holder ≠ some server := by
  intro hnext
  have htaker : c.taker call = some server := by
    rw [taker, hnext]
    exact Option.filter_some_pos (decide_eq_true hheld)
  cases call <;> simp [events, htaker, Event.server] at hquiet

theorem holder_run_of_quiet {calls : List Call} (hheld : c.state.holder ≠ some server)
    (hquiet : ∀ e ∈ c.log calls, e.server ≠ server) :
    (c.run calls).state.holder ≠ some server := by
  induction calls generalizing c with
  | nil => exact hheld
  | cons call calls ih =>
    have hstep : (c.step call).2.state.holder ≠ some server :=
      holder_step_of_quiet hheld fun e he => hquiet e (List.mem_append_left _ he)
    exact ih hstep fun e he => hquiet e (List.mem_append_right _ he)

/-- A cooldown stays as it is. -/
theorem cooling_answer_run (hv : c.state.Valid c.roster) {reason : String}
    (h : (c.request server now).1 = .wait retryAfter none reason) {calls : List Call}
    (hquiet : ∀ e ∈ c.log calls, e.server ≠ server) (later again : UInt64) :
    (∃ reason', ((c.run calls).request server later).1 = .wait again none reason') ↔
      again = retryAfter ∧ later < retryAfter := by
  obtain ⟨heligible, hheld, last, hlast, hready, -⟩ := exists_cooling_answer_iff.mp ⟨reason, h⟩
  have hhistory : (c.run calls).state.history.get? server = some last := by
    rw [history_run hv, Event.lastTime?_eq_none_iff.mpr hquiet, Option.none_or, hlast]
  have hheld' := holder_run_of_quiet hheld hquiet
  rw [exists_cooling_answer_iff, roster_run, policy_run, hhistory]
  constructor
  · rintro ⟨-, -, last', hlast', rfl, hearly⟩
    obtain rfl := Option.some.inj hlast'
    exact ⟨hready.symm, hready ▸ hearly⟩
  · rintro ⟨rfl, hearly⟩
    exact ⟨heligible, hheld', last, rfl, hready, hearly⟩

end Restart.Coordinator

/-! ## The delay of the agent -/

namespace Agent

theorem retryDelay?_eq_some_iff {retryAfter now : UInt64} {minWait jitter delay : Duration} :
    retryDelay? retryAfter now minWait jitter = some delay ↔
      delay.nanoseconds =
        max ((retryAfter.toNat - now.toNat) * 1_000_000) minWait.nanoseconds +
          jitter.nanoseconds := by
  have hlonger : ((Duration.ofMillis (retryAfter.subSat now)).longer minWait).nanoseconds =
      max ((retryAfter.toNat - now.toNat) * 1_000_000) minWait.nanoseconds := by
    rw [Duration.longer, Duration.ofMillis, ← UInt64.toNat_subSat]
    split
    · next h => exact (Nat.max_eq_right (Nat.le_of_lt h)).symm
    · next h => exact (Nat.max_eq_left (Nat.le_of_not_lt h)).symm
  rw [retryDelay?, Duration.add?, hlonger, Duration.ofNanos?]
  have := delay.lt_limit
  split
  · rw [Option.some_inj, Duration.ext_iff]
    exact eq_comm
  · simp only [reduceCtorEq, false_iff]
    omega

theorem retryDelay?_eq_none_iff {retryAfter now : UInt64} {minWait jitter : Duration} :
    retryDelay? retryAfter now minWait jitter = none ↔
      0x10000000000000000 * 1_000_000_000 ≤
        max ((retryAfter.toNat - now.toNat) * 1_000_000) minWait.nanoseconds +
          jitter.nanoseconds := by
  rw [Option.eq_none_iff_forall_ne_some]
  constructor
  · intro hnone
    by_contra hlt
    exact hnone ⟨_, Nat.lt_of_not_le hlt⟩ (retryDelay?_eq_some_iff.mpr rfl)
  · intro hlimit delay hdelay
    have := retryDelay?_eq_some_iff.mp hdelay
    have := delay.lt_limit
    omega

/-- An agent that sleeps for its delay wakes up at the retry time or later. -/
theorem le_wakeUp {retryAfter now : UInt64} {minWait jitter delay : Duration}
    (h : retryDelay? retryAfter now minWait jitter = some delay) :
    retryAfter.toNat ≤ now.toNat + delay.nanoseconds / 1_000_000 := by
  have := retryDelay?_eq_some_iff.mp h
  omega

end Agent

/-! ## The result -/

/-- A product that is cut to the range before it is added, and the sum once more, come to the exact
time, cut once. -/
theorem toNat_addSat_mulSat (now position : UInt64) (d : Duration) :
    (now.addSat (d.millis.mulSat position)).toNat =
      min (now.toNat + d.nanoseconds / 1_000_000 * position.toNat) 0xFFFFFFFFFFFFFFFF := by
  rw [UInt64.toNat_addSat, UInt64.toNat_mulSat, Duration.toNat_millis]
  generalize d.nanoseconds / 1_000_000 = wait
  by_cases hwait : wait ≤ 0xFFFFFFFFFFFFFFFF
  · rw [Nat.min_eq_left hwait]
    generalize wait * position.toNat = product
    omega
  · have hcut : min wait 0xFFFFFFFFFFFFFFFF = 0xFFFFFFFFFFFFFFFF := by omega
    rw [hcut]
    rcases Nat.eq_zero_or_pos position.toNat with hzero | hpos
    · rw [hzero, Nat.mul_zero, Nat.mul_zero]
      omega
    · have hcut := Nat.le_mul_of_pos_right 0xFFFFFFFFFFFFFFFF hpos
      have hexact := Nat.le_mul_of_pos_right wait hpos
      generalize wait * position.toNat = product at *
      omega

open Restart Restart.Coordinator Agent

/-- **The retry time is exact, and the agent's delay reaches it.** -/
theorem retry_time_exact (policy : Policy) (roster : Option (List String)) (calls : List Call)
    (server : String) (now : UInt64) :
    let c := (new policy roster).run calls
    let next := (c.request server now).2
    (∀ retryAfter reason, (c.request server now).1 = .wait retryAfter none reason →
      (∃ last, c.state.history.get? server = some last ∧
        retryAfter.toNat =
          min (last.toNat + policy.cooldown.nanoseconds / 1_000_000) 0xFFFFFFFFFFFFFFFF) ∧
      now < retryAfter ∧
      ∀ more, (∀ e ∈ next.log more, e.server ≠ server) →
        (∀ later again, (∃ reason', ((next.run more).request server later).1 =
          .wait again none reason') ↔ again = retryAfter ∧ later < retryAfter) ∧
        ∀ clock minWait jitter delay, retryDelay? retryAfter clock minWait jitter = some delay →
          ∀ later : UInt64, clock.toNat + delay.nanoseconds / 1_000_000 ≤ later.toNat →
            ∀ again reason',
              ((next.run more).request server later).1 ≠ .wait again none reason') ∧
    (∀ retryAfter position reason,
      (c.request server now).1 = .wait retryAfter (some position) reason →
        retryAfter.toNat = min (now.toNat +
          policy.backoff.nanoseconds / 1_000_000 * position.toNat) 0xFFFFFFFFFFFFFFFF) ∧
    ∀ (retryAfter clock : UInt64) (minWait jitter : Duration),
      (retryDelay? retryAfter clock minWait jitter = none ↔
        0x10000000000000000 * 1_000_000_000 ≤
          max ((retryAfter.toNat - clock.toNat) * 1_000_000) minWait.nanoseconds +
            jitter.nanoseconds) ∧
      ∀ delay, retryDelay? retryAfter clock minWait jitter = some delay →
        retryAfter.toNat ≤ clock.toNat + delay.nanoseconds / 1_000_000 ∧
          minWait.nanoseconds ≤ delay.nanoseconds := by
  intro c next
  have hv : c.state.Valid c.roster := run_valid (c := new policy roster) (.initial roster) calls
  have hpolicy : c.policy = policy := policy_run ..
  refine ⟨fun retryAfter reason hanswer => ?_, fun retryAfter position reason hanswer => ?_,
    fun retryAfter clock minWait jitter =>
      ⟨retryDelay?_eq_none_iff, fun delay hdelay => ⟨le_wakeUp hdelay, ?_⟩⟩⟩
  · -- The answer to a backend that cools down leaves the coordinator as it was.
    have hnext : next = c := snd_request_of_cooling hanswer
    obtain ⟨-, -, last, hlast, hready, hearly⟩ := exists_cooling_answer_iff.mp ⟨reason, hanswer⟩
    refine ⟨⟨last, hlast, ?_⟩, hearly, fun more hquiet => ?_⟩
    · rw [hready, hpolicy, UInt64.toNat_addSat, Duration.toNat_millis]
      omega
    · rw [hnext] at hquiet ⊢
      have hagain := cooling_answer_run hv hanswer hquiet
      refine ⟨hagain, fun clock minWait jitter delay hdelay later hlater again reason' h => ?_⟩
      obtain ⟨-, htooEarly⟩ := (hagain later again).mp ⟨reason', h⟩
      -- The agent is awake at the retry time, when the answer is another one.
      have hawake := le_wakeUp hdelay
      rw [UInt64.lt_iff_toNat_lt] at htooEarly
      omega
  · rw [retryAfter_of_position hanswer, hpolicy, toNat_addSat_mulSat]
  · have := retryDelay?_eq_some_iff.mp hdelay
    omega

/-- A cooldown ends beyond the end of the clock. The agent asks again at the last moment, when
another backend has the slot, and is told a place. -/
theorem retry_time_exact_at_clock_end :
    let policy : Policy := ⟨.ofMillis 100, .ofMillis 30, .ofMillis 600, .ofMillis 300⟩
    let calls : List Call :=
      [.request "b" 0xFFFFFFFFFFFFFFF0, .complete "b" 0xFFFFFFFFFFFFFFF1]
    let more : List Call := [.request "a" 0xFFFFFFFFFFFFFFF3]
    let c := (new policy none).run calls
    let next := (c.request "b" 0xFFFFFFFFFFFFFFF2).2
    (c.request "b" 0xFFFFFFFFFFFFFFF2).1 = .wait 0xFFFFFFFFFFFFFFFF none
        "b restarted 0s ago, cooldown is 0s" ∧
      (∀ e ∈ next.log more, e.server ≠ "b") ∧
      retryDelay? 0xFFFFFFFFFFFFFFFF 0xFFFFFFFFFFFFFFF2 (.ofMillis 5) ⟨7, by decide⟩ =
        some ⟨13_000_007, by decide⟩ ∧
      (∀ again reason, ((next.run more).request "b" 0xFFFFFFFFFFFFFFFF).1 ≠
        .wait again none reason) ∧
      (((next.run more).request "b" 0xFFFFFFFFFFFFFFFE).1 =
          .wait 0xFFFFFFFFFFFFFFFF none "b restarted 0s ago, cooldown is 0s" ∧
        (0xFFFFFFFFFFFFFFFE : UInt64) < 0xFFFFFFFFFFFFFFFF) ∧
      (((new policy none).run [.request "a" 5]).request "b" 7).1 =
        .wait 37 (some 1) "a is restarting, you are #1 in line" ∧
      (37 : UInt64).toNat = min ((7 : UInt64).toNat +
        policy.backoff.nanoseconds / 1_000_000 * (1 : UInt64).toNat) 0xFFFFFFFFFFFFFFFF := by
  intro policy calls more c next
  have hanswer : (c.request "b" 0xFFFFFFFFFFFFFFF2).1 = .wait 0xFFFFFFFFFFFFFFFF none
      "b restarted 0s ago, cooldown is 0s" := by decide +kernel
  have hquiet : ∀ e ∈ next.log more, e.server ≠ "b" := by decide +kernel
  have hdelay : retryDelay? 0xFFFFFFFFFFFFFFFF 0xFFFFFFFFFFFFFFF2 (.ofMillis 5) ⟨7, by decide⟩ =
      some ⟨13_000_007, by decide⟩ := by decide +kernel
  have hplace : (((new policy none).run [.request "a" 5]).request "b" 7).1 =
      .wait 37 (some 1) "a is restarting, you are #1 in line" := by decide +kernel
  have hearly : ((next.run more).request "b" 0xFFFFFFFFFFFFFFFE).1 =
      .wait 0xFFFFFFFFFFFFFFFF none "b restarted 0s ago, cooldown is 0s" := by decide +kernel
  obtain ⟨-, -, hagain⟩ :=
    (retry_time_exact policy none calls "b" 0xFFFFFFFFFFFFFFF2).1 _ _ hanswer
  obtain ⟨hsame, hawake⟩ := hagain more hquiet
  exact ⟨hanswer, hquiet, hdelay, hawake _ _ _ _ hdelay 0xFFFFFFFFFFFFFFFF (by decide),
    ⟨hearly, ((hsame _ _).mp ⟨_, hearly⟩).2⟩, hplace,
    (retry_time_exact policy none [.request "a" 5] "b" 7).2.1 37 1 _ hplace⟩

end GameHub
