import GameHub.Proofs.Restart.Fairness

/-!
# Calls made twice

A datagram may arrive twice. The second call then finds the coordinator as the first one left it,
where its backend has just been given the slot, or put in the backlog, or has handed the slot on.

**Theorem (`repetition_harmless`).** In every state that a coordinator reaches, a request that is
made twice at one time is answered the same both times, and the second one changes nothing but the
count of retries of its own request in the backlog. A report of completion that is made twice changes
nothing the second time and is refused, so it never takes the slot from the backend that the first
one promoted.
-/

namespace GameHub.Restart

/-! ## Counting a retry -/

/-- The answer tells the backend its place in the backlog. -/
def Decision.isPlaced : Decision → Bool
  | .wait _ (some _) _ => true
  | _ => false

theorem Decision.isPlaced_iff {d : Decision} :
    d.isPlaced = true ↔
      ∃ retryAfter position reason, d = .wait retryAfter (some position) reason := by
  cases d with
  | wait retryAfter position reason => cases position <;> simp [isPlaced]
  | _ => simp [isPlaced]

/-- The same request with one more retry to its count, unless the count is full. -/
def Request.recounted (r : Request) : Request := { r with retries := r.retries.addSat 1 }

/-- The same state with one more retry to the count of a backend that waits. -/
def State.recounted (s : State) (server : String) : State :=
  { s with backlog := s.backlog.map fun r => if r.server = server then r.recounted else r }

theorem Request.retries_le_recounted (r : Request) : r.retries ≤ r.recounted.retries := by
  rw [recounted, UInt32.le_iff_toNat_le, UInt32.toNat_addSat]
  have := r.retries.toNat_lt
  have hone : (1 : UInt32).toNat = 1 := rfl
  omega

theorem Request.again_eq_recounted {r : Request} {now : UInt64} (h : r.lastRetry = now) :
    r.again now = r.recounted := by
  rw [again, recounted, ← h]

namespace Coordinator

variable {c : Coordinator} {server : String} {now : UInt64}

/-! ## Requests -/

theorem request_of_holder (heligible : Eligible c.roster server)
    (hheld : c.state.holder = some server) : c.request server now = (.allow, c) := by
  obtain ⟨hblank, hadmits⟩ := (c.eligible_iff server).mp heligible
  simp [request, hblank, hadmits, hheld]

theorem request_of_other {holder : String} (hheld : c.state.holder = some holder)
    (hother : holder ≠ server) (heligible : Eligible c.roster server)
    (hrested : Rested c.state c.policy server now) :
    c.request server now =
      ((c.enqueue server now).2.waitAt (c.enqueue server now).1 now,
        (c.enqueue server now).2) := by
  obtain ⟨hblank, hadmits⟩ := (c.eligible_iff server).mp heligible
  have hcool := (c.cooling_eq_none_iff server now).mpr hrested
  simp [request, hblank, hadmits, hheld, hother, hcool]

/-- A backend that has been put in the backlog keeps its place there. -/
theorem enqueue_enqueue (hnodup : c.state.waiting.Nodup) (server : String) (now : UInt64) :
    let queued := (c.enqueue server now).2
    queued.enqueue server now =
      ((c.enqueue server now).1, { queued with state := queued.state.recounted server }) := by
  intro queued
  have hindex : (queued.enqueue server now).1 = (c.enqueue server now).1 := by
    rw [fst_enqueue]
    exact (State.backlogIndex_eq_some_iff.mp (c.backlogIndex_enqueue server now)).2
  have hbacklog : (queued.enqueue server now).2.state.backlog =
      (queued.state.recounted server).backlog := by
    rw [backlog_enqueue _ _ _ (c.nodup_waiting_enqueue server now hnodup),
      if_pos (c.mem_waiting_enqueue server now)]
    refine List.map_congr_left fun r hr => ?_
    split
    · next hserver => exact Request.again_eq_recounted (lastRetry_enqueue hnodup hr hserver)
    · rfl
  refine Prod.ext hindex ?_
  rw [snd_enqueue, hbacklog]
  rfl

/-- A request that is made again at the same time gets the same answer. If a backend is told its
place, its retries are counted, and nothing changes otherwise. -/
theorem request_request (hnodup : c.state.waiting.Nodup) (server : String) (now : UInt64) :
    let once := c.request server now
    once.2.request server now =
      (once.1,
        if once.1.isPlaced then { once.2 with state := once.2.state.recounted server }
        else once.2) := by
  intro once
  have hanswered : Answered c server now once := c.answered_request server now
  generalize honce : once = answer at hanswered
  cases hanswered with
  | @unchanged d allowed unplaced =>
    rw [if_neg fun hplaced => ?_]
    · exact honce
    · obtain ⟨retryAfter, position, reason, hplace⟩ := Decision.isPlaced_iff.mp hplaced
      exact unplaced retryAfter position reason hplace
  | granted free eligible => exact request_of_holder eligible rfl
  | queued held other eligible rested =>
    -- The first request has left the backend in the backlog, as eligible and rested as before.
    let queued := (c.enqueue server now).2
    have hheld : queued.state.holder = some _ := (c.holder_enqueue server now).trans held
    have hrested : Rested queued.state queued.policy server now := by
      rw [Rested, history_enqueue, policy_enqueue]
      exact rested
    have heligible : Eligible queued.roster server := by
      rw [roster_enqueue]
      exact eligible
    rw [request_of_other hheld other heligible hrested, enqueue_enqueue hnodup]
    rfl

/-! ## Reports of completion -/

theorem complete_of_other (hother : c.state.holder ≠ some server) :
    c.complete server now = (.error ⟨server, c.state.holder⟩, c) :=
  if_neg hother

/-- Whoever reports the end of a restart does not have the slot afterwards. -/
theorem holder_complete_ne (hv : c.state.Valid c.roster) (server : String) (now : UInt64) :
    (c.complete server now).2.state.holder ≠ some server := by
  have ht := c.transition_complete server now
  by_cases hheld : c.state.holder = some server
  · exact ht.holder_ne_of_frees hv hheld (decide_eq_true hheld)
  · rw [complete_of_other hheld]
    exact hheld

theorem complete_complete (hv : c.state.Valid c.roster) (server : String) (now : UInt64) :
    let done := (c.complete server now).2
    done.complete server now = (.error ⟨server, done.state.holder⟩, done) :=
  complete_of_other (holder_complete_ne hv server now)

/-! ## The result -/

/-- **Repeated calls are harmless.** A request that is made twice at one time gets the same answer
both times, and the second one adds at most one to the count of retries of its own request in the
backlog. A report of completion that is made twice leaves the same state as one; the second one is
refused, and whoever was promoted by the first one keeps the slot. -/
theorem repetition_harmless (policy : Policy) (roster : Option (List String)) (calls : List Call)
    (server : String) (now : UInt64) :
    let c := (new policy roster).run calls
    let once := c.request server now
    let twice := once.2.request server now
    let done := c.complete server now
    let again := done.2.complete server now
    (twice.1 = once.1 ∧
      (once.1.isPlaced = true →
        twice.2 = { once.2 with state := once.2.state.recounted server }) ∧
      (once.1.isPlaced = false → twice.2 = once.2) ∧
      ∀ r ∈ once.2.state.backlog, r.retries ≤ r.recounted.retries) ∧
    again.2 = done.2 ∧ again.1 = .error ⟨server, done.2.state.holder⟩ ∧
      ∀ next, done.2.state.holder = some next → again.2.state.holder = some next := by
  intro c once twice done again
  have hv : c.state.Valid c.roster := run_valid (c := new policy roster) (.initial roster) calls
  have htwice : twice = (once.1,
      if once.1.isPlaced then { once.2 with state := once.2.state.recounted server }
      else once.2) := request_request hv.nodup server now
  have hagain : again = (.error ⟨server, done.2.state.holder⟩, done.2) := complete_complete hv ..
  rw [htwice, hagain]
  refine ⟨⟨rfl, fun hplaced => if_pos hplaced, fun hplaced => ?_, fun r _ => ?_⟩, rfl, rfl,
    fun next hnext => hnext⟩
  · exact if_neg (by simp [hplaced])
  · exact r.retries_le_recounted

/-- A backend that waits asks again, the holder asks again, and the holder reports the end of its
restart; each call is made twice. -/
theorem repetition_harmless_of_queued :
    let policy : Policy := ⟨.ofMillis 100, .ofMillis 30, .ofMillis 600, .ofMillis 300⟩
    let c := (new policy none).run [.request "a" 0, .request "b" 5]
    let once := c.request "b" 7
    let twice := once.2.request "b" 7
    let held := c.request "a" 7
    let done := c.complete "a" 9
    (once.1.isPlaced = true ∧ twice.1 = once.1 ∧
      once.2.state.backlog = [⟨"b", 5, 7, 1, .wait⟩] ∧
      twice.2 = { once.2 with state := once.2.state.recounted "b" } ∧
      (1 : UInt32) ≤ (Request.mk "b" 5 7 1 .wait).recounted.retries) ∧
    (held.1.isPlaced = false ∧ (held.2.request "a" 7).2 = held.2) ∧
    done.2.state.holder = some "b" ∧ (done.2.complete "a" 9).2.state.holder = some "b" := by
  intro policy c once twice held done
  have hplaced : once.1.isPlaced = true := by decide +kernel
  have hbacklog : once.2.state.backlog = [⟨"b", 5, 7, 1, .wait⟩] := by decide +kernel
  have hnext : done.2.state.holder = some "b" := by decide +kernel
  obtain ⟨⟨hsame, hcounted, -, hmore⟩, -⟩ :=
    repetition_harmless policy none [.request "a" 0, .request "b" 5] "b" 7
  obtain ⟨⟨-, -, hunchanged, -⟩, -⟩ :=
    repetition_harmless policy none [.request "a" 0, .request "b" 5] "a" 7
  obtain ⟨-, -, -, hkept⟩ :=
    repetition_harmless policy none [.request "a" 0, .request "b" 5] "a" 9
  exact ⟨⟨hplaced, hsame, hbacklog, hcounted hplaced,
      hmore ⟨"b", 5, 7, 1, .wait⟩ (hbacklog ▸ List.mem_cons_self)⟩,
    ⟨rfl, hunchanged rfl⟩, hnext, hkept "b" hnext⟩

end Coordinator

end GameHub.Restart
