import GameHub.Proofs.Restart.Exclusion
import Mathlib.Data.List.Basic

/-!
# First come, first served

The backlog is a line. A call puts at most one backend at its end, and takes others out without
changing the order of those who stay (`Transition.waiting_cases`). So whoever began to wait earlier
is ahead, and a place in the line only gets better.

The slot goes to the head of the line. A grant to a backend that asks cannot get past the line
either, because the slot is free only while nobody waits.

**Theorem (`backlog_fair`).** Of two backends that wait, the one that began earlier is ahead, and
the other one is not given the slot by a call that leaves the first one waiting. A backend that asks
is told its place in the line, and while it waits the place that it is told never gets worse.
-/

namespace GameHub.Restart

/-! ## Places in a line -/

section Line

variable {line shorter : List String} {a b : String}

theorem idxOf_le_of_sublist (hsub : shorter.Sublist line) (hnodup : line.Nodup)
    (ha : a ∈ shorter) : shorter.idxOf a ≤ line.idxOf a := by
  induction hsub with
  | slnil => exact Nat.le_refl _
  | @cons shorter line first hsub ih =>
    obtain ⟨hfirst, hline⟩ := List.nodup_cons.mp hnodup
    have hne : first ≠ a := fun h => hfirst (h ▸ hsub.subset ha)
    rw [List.idxOf_cons_ne line hne]
    exact Nat.le_succ_of_le (ih hline ha)
  | @cons_cons shorter line first hsub ih =>
    by_cases hfirst : first = a
    · rw [List.idxOf_cons_eq shorter hfirst]
      exact Nat.zero_le _
    · rw [List.idxOf_cons_ne shorter hfirst, List.idxOf_cons_ne line hfirst]
      have hmem : a ∈ shorter := (List.mem_cons.mp ha).resolve_left (Ne.symm hfirst)
      exact Nat.succ_le_succ (ih (List.nodup_cons.mp hnodup).2 hmem)

/-- Who leaves a line does not change the order of those who stay. -/
theorem idxOf_lt_of_sublist (hsub : shorter.Sublist line) (hnodup : line.Nodup)
    (ha : a ∈ shorter) (hb : b ∈ shorter) (hlt : line.idxOf a < line.idxOf b) :
    shorter.idxOf a < shorter.idxOf b := by
  have horder : shorter.Pairwise fun x y => line.idxOf x < line.idxOf y := by
    refine List.Pairwise.sublist hsub (List.pairwise_iff_getElem.mpr fun i j hi hj hij => ?_)
    rwa [hnodup.idxOf_getElem i hi, hnodup.idxOf_getElem j hj]
  have hia := List.idxOf_lt_length_iff.mpr ha
  have hib := List.idxOf_lt_length_iff.mpr hb
  by_contra hnot
  rcases Nat.lt_or_eq_of_le (Nat.le_of_not_lt hnot) with hba | hba
  · have hback := List.pairwise_iff_getElem.mp horder _ _ hib hia hba
    rw [List.getElem_idxOf hib, List.getElem_idxOf hia] at hback
    exact Nat.lt_asymm hlt hback
  · have hab : a = b := ((List.idxOf_inj hb).mp hba).symm
    exact Nat.lt_irrefl _ (hab ▸ hlt)

end Line

theorem State.backlogIndex_eq_some_iff {s : State} {server : String} {i : Nat} :
    s.backlogIndex server = some i ↔ server ∈ s.waiting ∧ s.waiting.idxOf server = i := by
  rw [State.backlogIndex, List.findIdx?_eq_some_iff_findIdx_eq, ← List.idxOf_lt_length_iff,
    List.idxOf, State.waiting, List.length_map, List.findIdx_map]
  constructor
  · rintro ⟨h, rfl⟩
    exact ⟨h, rfl⟩
  · rintro ⟨h, rfl⟩
    exact ⟨h, rfl⟩

namespace Coordinator

variable {c c' : Coordinator} {call : Call} {given : Option String} {server a b : String}

/-! ## One call -/

/-- Backends leave the line, or one joins at its end. -/
theorem Transition.waiting_cases (ht : Transition c call given c') (hv : c.state.Valid c.roster) :
    c'.state.waiting.Sublist c.state.waiting ∨
      ∃ name, name ∉ c.state.waiting ∧ c'.state.waiting = c.state.waiting ++ [name] := by
  cases ht with
  | @granted name now =>
    left
    exact (c.state.backlog_dequeue_sublist name).map _
  | @queued name holder now =>
    rw [waiting_enqueue]
    split
    · exact .inl (.refl _)
    · next hnot => exact .inr ⟨name, hnot, rfl⟩
  | kept => exact .inl (c.waiting_prepared_sublist call)
  | freed =>
    have hsub := c.waiting_prepared_sublist call
    rw [State.waiting_release _ _ (hv.nodup.sublist hsub)]
    exact .inl ((List.tail_sublist _).trans hsub)

theorem Transition.idxOf_le (ht : Transition c call given c') (hv : c.state.Valid c.roster)
    (hbefore : server ∈ c.state.waiting) (hafter : server ∈ c'.state.waiting) :
    c'.state.waiting.idxOf server ≤ c.state.waiting.idxOf server := by
  rcases ht.waiting_cases hv with hsub | ⟨name, -, happend⟩
  · exact idxOf_le_of_sublist hsub hv.nodup hafter
  · exact Nat.le_of_eq (by rw [happend, List.idxOf_append_of_mem hbefore])

/-- Those who stay keep their order. -/
theorem Transition.idxOf_lt (ht : Transition c call given c') (hv : c.state.Valid c.roster)
    (ha : a ∈ c.state.waiting) (hb : b ∈ c.state.waiting) (ha' : a ∈ c'.state.waiting)
    (hb' : b ∈ c'.state.waiting) (hlt : c.state.waiting.idxOf a < c.state.waiting.idxOf b) :
    c'.state.waiting.idxOf a < c'.state.waiting.idxOf b := by
  rcases ht.waiting_cases hv with hsub | ⟨name, -, happend⟩
  · exact idxOf_lt_of_sublist hsub hv.nodup ha' hb' hlt
  · rwa [happend, List.idxOf_append_of_mem ha, List.idxOf_append_of_mem hb]

/-- Who joins is behind all who were there. -/
theorem Transition.idxOf_lt_of_joined (ht : Transition c call given c')
    (hv : c.state.Valid c.roster) (ha : a ∈ c.state.waiting) (hb : b ∉ c.state.waiting)
    (hb' : b ∈ c'.state.waiting) :
    c'.state.waiting.idxOf a < c'.state.waiting.idxOf b := by
  rcases ht.waiting_cases hv with hsub | ⟨name, -, happend⟩
  · exact absurd (hsub.subset hb') hb
  · rw [happend, List.idxOf_append_of_mem ha, List.idxOf_append_of_notMem hb]
    have := List.idxOf_lt_length_iff.mpr ha
    omega

/-- Who is given the slot was ahead of everybody who still waits. -/
theorem Transition.idxOf_lt_of_given (ht : Transition c call (some b) c')
    (hv : c.state.Valid c.roster) (hb : b ∈ c.state.waiting) (ha' : a ∈ c'.state.waiting) :
    ¬ c.state.waiting.idxOf a < c.state.waiting.idxOf b := by
  generalize hgiven : some b = given at ht
  cases ht with
  | granted free =>
    rw [State.waiting, hv.backlog_of_free free] at hb
    exact absurd hb List.not_mem_nil
  | queued => cases hgiven
  | kept => cases hgiven
  | freed =>
    have hsub := c.waiting_prepared_sublist call
    rw [State.waiting_release _ _ (hv.nodup.sublist hsub)] at ha'
    obtain ⟨rest, hrest⟩ := List.head?_eq_some_iff.mp hgiven.symm
    intro hlt
    -- The order of the line would put somebody ahead of its head.
    have hhead := idxOf_lt_of_sublist hsub hv.nodup (List.mem_of_mem_tail ha')
      (hrest ▸ List.mem_cons_self) hlt
    rw [hrest, List.idxOf_cons_self] at hhead
    exact Nat.not_lt_zero _ hhead

/-! ## One stay in the line -/

/-- The backend waits after the calls, and has been waiting since the call with this number, counted
from zero. -/
structure WaitsSince (c : Coordinator) (server : String) (calls : List Call) (start : Nat) :
    Prop where
  lt_length : start < calls.length
  absent : server ∉ (c.run (calls.take start)).state.waiting
  present : ∀ i ≤ calls.length, start < i → server ∈ (c.run (calls.take i)).state.waiting

theorem transition_take (c : Coordinator) {calls : List Call} {i : Nat} (hi : i < calls.length) :
    Transition (c.run (calls.take i)) calls[i] ((c.run (calls.take i)).grantee calls[i])
      (c.run (calls.take (i + 1))) := by
  rw [List.take_succ_eq_append_getElem hi, run_concat]
  exact transition_step _ _

theorem WaitsSince.mem_waiting {calls : List Call} {start : Nat}
    (h : WaitsSince c server calls start) : server ∈ (c.run calls).state.waiting := by
  have hpresent := h.present calls.length (Nat.le_refl _) h.lt_length
  rwa [List.take_length] at hpresent

/-- Who began to wait earlier is ahead as long as both wait. -/
theorem WaitsSince.idxOf_lt {calls : List Call} {m n : Nat} (hv : c.state.Valid c.roster)
    (ha : WaitsSince c a calls m) (hb : WaitsSince c b calls n) (hmn : m < n) {i : Nat}
    (hi : n < i) (hlength : i ≤ calls.length) :
    (c.run (calls.take i)).state.waiting.idxOf a <
      (c.run (calls.take i)).state.waiting.idxOf b := by
  induction hi with
  | refl =>
    have ht := c.transition_take (i := n) hb.lt_length
    exact ht.idxOf_lt_of_joined (run_valid hv _) (ha.present n (Nat.le_of_lt hb.lt_length) hmn)
      hb.absent (hb.present (n + 1) hlength (Nat.lt_succ_self n))
  | @step i hi ih =>
    have hi : n < i := hi
    have hbefore : i < calls.length := hlength
    have ht := c.transition_take hbefore
    exact ht.idxOf_lt (run_valid hv _) (ha.present i (by omega) (by omega))
      (hb.present i (by omega) (by omega)) (ha.present (i + 1) hlength (by omega))
      (hb.present (i + 1) hlength (by omega)) (ih (by omega))

/-- A place in the line never gets worse. -/
theorem WaitsSince.idxOf_le {calls more : List Call} {start : Nat} (hv : c.state.Valid c.roster)
    (h : WaitsSince c server (calls ++ more) start) (hstart : start < calls.length) :
    (c.run (calls ++ more)).state.waiting.idxOf server ≤
      (c.run calls).state.waiting.idxOf server := by
  have hlater : ∀ i, calls.length ≤ i → i ≤ (calls ++ more).length →
      (c.run ((calls ++ more).take i)).state.waiting.idxOf server ≤
        (c.run calls).state.waiting.idxOf server := by
    intro i hi hlength
    induction hi with
    | refl => exact Nat.le_of_eq (by rw [List.take_left])
    | @step i hi ih =>
      have hi : calls.length ≤ i := hi
      have ht := c.transition_take (i := i) hlength
      have hstep := ht.idxOf_le (run_valid hv _) (h.present i (by omega) (by omega))
        (h.present (i + 1) hlength (by omega))
      exact Nat.le_trans hstep (ih (by omega))
  have hall := hlater (calls ++ more).length (by simp) (Nat.le_refl _)
  rwa [List.take_length] at hall

/-! ## The place that a backend is told -/

theorem fst_enqueue (c : Coordinator) (server : String) (now : UInt64) :
    (c.enqueue server now).1 = c.state.waiting.idxOf server := by
  rw [enqueue]
  cases h : c.state.backlogIndex server with
  | none =>
    rw [List.idxOf_of_notMem ((c.backlogIndex_eq_none_iff server).mp h), State.waiting,
      List.length_map]
  | some index => exact (State.backlogIndex_eq_some_iff.mp h).2.symm

theorem backlogIndex_enqueue (c : Coordinator) (server : String) (now : UInt64) :
    (c.enqueue server now).2.state.backlogIndex server = some (c.enqueue server now).1 := by
  rw [State.backlogIndex_eq_some_iff, waiting_enqueue, fst_enqueue]
  split
  · next hmem => exact ⟨hmem, rfl⟩
  · next hnot =>
    rw [List.idxOf_append_of_notMem hnot, List.idxOf_of_notMem hnot]
    simp

/-- A backend is told its place in the line, counted from one. -/
theorem position_of_request {now retryAfter position : UInt64} {reason : String}
    (h : (c.request server now).1 = .wait retryAfter (some position) reason) :
    ∃ i, (c.step (.request server now)).2.state.backlogIndex server = some i ∧
      position = UInt64.ofNat (i + 1) := by
  obtain ⟨-, -, hrequest⟩ := c.request_of_position server now h
  have hstep : (c.step (.request server now)).2 = (c.enqueue server now).2 :=
    congrArg Prod.snd hrequest
  rw [hstep, backlogIndex_enqueue]
  refine ⟨_, rfl, ?_⟩
  rw [hrequest, waitAt] at h
  injection h with hretry hposition
  exact (Option.some.inj hposition).symm

theorem backlogIndex_lt {s : State} {i : Nat} (h : s.backlogIndex server = some i) :
    i < s.backlog.length := by
  obtain ⟨hmem, rfl⟩ := State.backlogIndex_eq_some_iff.mp h
  have := List.idxOf_lt_length_iff.mpr hmem
  rwa [State.waiting, List.length_map] at this

theorem toNat_position {i length : Nat} (hi : i < length) (hfew : length < UInt64.size) :
    (UInt64.ofNat (i + 1)).toNat = i + 1 :=
  UInt64.toNat_ofNat_of_lt' (by omega)

/-! ## Runs -/

/-- **First come, first served.** While two backends wait, the one that began to wait earlier is
ahead of the other one, which no call gives the slot to and leaves the first one waiting. A backend
that asks is told its place in the backlog, counted from one, and the place that it is told does not
get worse while it waits. The limit of 2⁶⁴ backends is that of a list in memory. -/
theorem backlog_fair (policy : Policy) (roster : Option (List String)) :
    (∀ (calls : List Call) (a b : String) (m n : Nat),
      WaitsSince (new policy roster) a calls m → WaitsSince (new policy roster) b calls n →
      m < n →
        (∃ i j, ((new policy roster).run calls).state.backlogIndex a = some i ∧
          ((new policy roster).run calls).state.backlogIndex b = some j ∧ i < j) ∧
        ∀ call, ((new policy roster).run (calls ++ [call])).state.holder = some b →
          a ∉ ((new policy roster).run (calls ++ [call])).state.waiting) ∧
    (∀ (calls : List Call) (server : String) (now retryAfter position : UInt64) (reason : String),
      (((new policy roster).run calls).request server now).1 =
        .wait retryAfter (some position) reason →
      ((new policy roster).run (calls ++ [.request server now])).state.backlog.length <
        UInt64.size →
      ∃ i, ((new policy roster).run
          (calls ++ [.request server now])).state.backlogIndex server = some i ∧
        position.toNat = i + 1) ∧
    (∀ (before between : List Call) (server : String) (t u r₁ r₂ p₁ p₂ : UInt64)
      (reason₁ reason₂ : String) (start : Nat), start ≤ before.length →
      WaitsSince (new policy roster) server
        (before ++ .request server t :: between ++ [.request server u]) start →
      (((new policy roster).run before).request server t).1 = .wait r₁ (some p₁) reason₁ →
      (((new policy roster).run (before ++ .request server t :: between)).request server u).1 =
        .wait r₂ (some p₂) reason₂ →
      ((new policy roster).run (before ++ [.request server t])).state.backlog.length <
        UInt64.size →
      p₂ ≤ p₁) := by
  have hv := State.Valid.initial roster
  refine ⟨fun calls a b m n ha hb hmn => ?_, fun calls server now _ position _ h hfew => ?_,
    fun before between server t u _ _ p₁ p₂ _ _ start hstart hstay h₁ h₂ hfew => ?_⟩
  · have hlt := ha.idxOf_lt hv hb hmn hb.lt_length (Nat.le_refl _)
    rw [List.take_length] at hlt
    refine ⟨⟨_, _, State.backlogIndex_eq_some_iff.mpr ⟨ha.mem_waiting, rfl⟩,
      State.backlogIndex_eq_some_iff.mpr ⟨hb.mem_waiting, rfl⟩, hlt⟩, fun call hheld hmem => ?_⟩
    have hvalid := run_valid (c := new policy roster) hv calls
    have ht := ((new policy roster).run calls).transition_step call
    rw [run_concat] at hheld hmem
    have hgiven := (ht.given_or_held hheld).resolve_right fun hkept =>
      hvalid.holder_not_waiting b hkept.2 hb.mem_waiting
    rw [hgiven] at ht
    exact ht.idxOf_lt_of_given hvalid hb.mem_waiting hmem hlt
  · obtain ⟨i, hi, rfl⟩ := position_of_request h
    rw [← run_concat] at hi
    exact ⟨i, hi, toNat_position (backlogIndex_lt hi) hfew⟩
  · obtain ⟨i, hi, rfl⟩ := position_of_request h₁
    obtain ⟨j, hj, rfl⟩ := position_of_request h₂
    rw [← run_concat] at hi hj
    -- The states after the two requests are states of one stay.
    have hcalls : before ++ .request server t :: between ++ [.request server u] =
        (before ++ [.request server t]) ++ (between ++ [Call.request server u]) := by simp
    rw [hcalls] at hstay hj
    have hle := hstay.idxOf_le hv (by simp; omega)
    rw [(State.backlogIndex_eq_some_iff.mp hi).2,
      (State.backlogIndex_eq_some_iff.mp hj).2] at hle
    have hi' := backlogIndex_lt hi
    rw [UInt64.le_iff_toNat_le, toNat_position hi' hfew,
      toNat_position (Nat.lt_of_le_of_lt hle hi') hfew]
    exact Nat.succ_le_succ hle

/-- A backend is told place 2, then place 1 after a promotion. In another run the second of two
waiting backends gets the slot, in a sweep that drops the first one. -/
theorem backlog_fair_of_expired :
    let policy : Policy := ⟨.ofMillis 100, .ofMillis 30, .ofMillis 600, .ofMillis 300⟩
    let calls : List Call := [.request "a" 0, .request "b" 1, .request "c" 400]
    let before : List Call := [.request "a" 0, .request "b" 1]
    let between : List Call := [.complete "a" 5]
    let again := before ++ .request "c" 2 :: between ++ [.request "c" 6]
    WaitsSince (new policy none) "b" calls 1 ∧ WaitsSince (new policy none) "c" calls 2 ∧
      (∃ i j, ((new policy none).run calls).state.backlogIndex "b" = some i ∧
        ((new policy none).run calls).state.backlogIndex "c" = some j ∧ i < j) ∧
      ((new policy none).run (calls ++ [.sweep 650])).state.holder = some "c" ∧
      "b" ∉ ((new policy none).run (calls ++ [.sweep 650])).state.waiting ∧
      (((new policy none).run before).request "c" 2).1 =
        .wait 62 (some 2) "a is restarting, you are #2 in line" ∧
      (((new policy none).run (before ++ .request "c" 2 :: between)).request "c" 6).1 =
        .wait 36 (some 1) "b is restarting, you are #1 in line" ∧
      (∃ i, ((new policy none).run (before ++ [.request "c" 2])).state.backlogIndex "c" = some i ∧
        (2 : UInt64).toNat = i + 1) ∧
      WaitsSince (new policy none) "c" again 2 ∧ (1 : UInt64) ≤ 2 := by
  intro policy calls before between again
  have hb : WaitsSince (new policy none) "b" calls 1 :=
    ⟨by decide, by decide +kernel, by decide +kernel⟩
  have hc : WaitsSince (new policy none) "c" calls 2 :=
    ⟨by decide, by decide +kernel, by decide +kernel⟩
  have hagain : WaitsSince (new policy none) "c" again 2 :=
    ⟨by decide, by decide +kernel, by decide +kernel⟩
  have hheld : ((new policy none).run (calls ++ [.sweep 650])).state.holder = some "c" := by
    decide +kernel
  have hfirst : (((new policy none).run before).request "c" 2).1 =
      .wait 62 (some 2) "a is restarting, you are #2 in line" := by decide +kernel
  have hsecond : (((new policy none).run (before ++ .request "c" 2 :: between)).request "c" 6).1 =
      .wait 36 (some 1) "b is restarting, you are #1 in line" := by decide +kernel
  have hfew : ((new policy none).run (before ++ [.request "c" 2])).state.backlog.length <
      UInt64.size := by decide +kernel
  obtain ⟨horder, hposition, hbetter⟩ := backlog_fair policy none
  obtain ⟨hahead, hnext⟩ := horder calls "b" "c" 1 2 hb hc (by decide)
  exact ⟨hb, hc, hahead, hheld, hnext (.sweep 650) hheld, hfirst, hsecond,
    hposition before "c" 2 62 2 _ hfirst hfew, hagain,
    hbetter before between "c" 2 6 62 36 2 1 _ _ 2 (by decide) hagain hfirst hsecond hfew⟩

end Coordinator

end GameHub.Restart
