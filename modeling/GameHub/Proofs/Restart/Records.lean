import GameHub.Proofs.Restart.Exclusion

/-!
# What the coordinator remembers

Two maps remember what happened to each backend: when it last restarted, and its latest restarts
without permission. `Coordinator.log` tells the whole story of a run, one call after the other, from
who holds the slot before and after the call.

**Theorem (`records_of_log`).** After any run of a new coordinator the history of a backend is the
time of its last event, and its audit list is the newest 32 times at which it was reported. A
backend is in a map exactly if there was such an event, and a call without events changes nothing.

The step is `get?_history_step`, which is about `grantee`. That the grantee is the backend that
newly holds the slot (`taker_eq_grantee`) needs the invariant: nobody who waits is the holder.
-/

namespace GameHub.Restart

/-! ## Events -/

/-- What happened to a backend, and when. -/
inductive Event where
  /-- It asked for the slot and got it at once. -/
  | granted (server : String) (time : UInt64)
  /-- It waited and got the slot when it was handed on. -/
  | promoted (server : String) (time : UInt64)
  /-- It restarted without permission. -/
  | intruded (server : String) (time : UInt64)
  deriving DecidableEq, Repr

namespace Event

def server : Event → String
  | granted server _ | promoted server _ | intruded server _ => server

def time : Event → UInt64
  | granted _ time | promoted _ time | intruded _ time => time

/-- When a backend had its last event. -/
def lastTime? (name : String) (log : List Event) : Option UInt64 :=
  (log.filter (·.server = name)).getLast?.map (·.time)

variable {name : String} {log : List Event}

theorem lastTime?_append (name : String) (log more : List Event) :
    lastTime? name (log ++ more) = (lastTime? name more).or (lastTime? name log) := by
  rw [lastTime?, List.filter_append, List.getLast?_append, Option.map_or]
  rfl

theorem lastTime?_eq_none_iff : lastTime? name log = none ↔ ∀ e ∈ log, e.server ≠ name := by
  rw [lastTime?, Option.map_eq_none_iff, List.getLast?_eq_none_iff, List.filter_eq_nil_iff]
  simp

theorem lastTime?_of_simultaneous {now : UInt64} (h : ∀ e ∈ log, e.time = now) :
    lastTime? name log = if ∃ e ∈ log, e.server = name then some now else none := by
  split
  · next hmem =>
    obtain ⟨e, he, hname⟩ := hmem
    cases hlast : (log.filter (·.server = name)).getLast? with
    | none =>
      have hnil := List.getLast?_eq_none_iff.mp hlast
      exact absurd (decide_eq_true hname) (List.filter_eq_nil_iff.mp hnil e he)
    | some last =>
      have hlog := (List.mem_filter.mp (List.mem_of_getLast? hlast)).1
      rw [lastTime?, hlast, Option.map_some, h last hlog]
  · next hnone =>
    exact lastTime?_eq_none_iff.mpr fun e he hname => hnone ⟨e, he, hname⟩

end Event

/-! ## The newest of a list -/

/-- The last elements of a list, so many of them or all. -/
def newest {α : Type} (count : Nat) (xs : List α) : List α := xs.drop (xs.length - count)

/-- What was cut off before need not be kept for the next cut. -/
theorem newest_concat {α : Type} (count : Nat) (xs : List α) (x : α) :
    newest count (newest count xs ++ [x]) = newest count (xs ++ [x]) := by
  have hcut : newest count xs ++ [x] = (xs ++ [x]).drop (xs.length - count) := by
    rw [newest, List.drop_append_of_le_length (Nat.sub_le ..)]
  rw [newest, hcut, List.drop_drop, newest, List.length_drop, List.length_append,
    List.length_singleton]
  congr 1
  omega

namespace Coordinator

variable {c c' : Coordinator} {call : Call} {given : Option String} {name : String}

/-- The times at which a backend was reported to have restarted without permission. -/
def intrusions (name : String) (calls : List Call) : List UInt64 :=
  calls.filterMap fun
    | .unauthorized server now => if server = name then some now else none
    | _ => none

/-! ## The log -/

/-- The backend that holds the slot after a call and did not hold it before. -/
def taker (c : Coordinator) (call : Call) : Option String :=
  (c.step call).2.state.holder.filter (c.state.holder ≠ some ·)

/-- What a call did to backends, in order. -/
def events (c : Coordinator) (call : Call) : List Event :=
  let taker := (c.taker call).toList
  match call with
  | .request _ now => taker.map (.granted · now)
  | .complete _ now | .sweep now => taker.map (.promoted · now)
  | .unauthorized server now => .intruded server now :: taker.map (.promoted · now)

/-- What a run of calls did to backends, in order. -/
def log (c : Coordinator) : List Call → List Event
  | [] => []
  | call :: calls => c.events call ++ (c.step call).2.log calls

theorem taker_eq_grantee (hv : c.state.Valid c.roster) (call : Call) :
    c.taker call = c.grantee call := by
  have ht := c.transition_step call
  refine Option.ext fun name => ?_
  rw [taker, Option.filter_eq_some_iff, decide_eq_true_iff]
  constructor
  · rintro ⟨hheld, hnew⟩
    exact (ht.given_or_held hheld).resolve_right fun hkept => hnew hkept.2
  · intro hgiven
    rw [hgiven] at ht
    exact ⟨ht.holder_of_given, ht.not_holder_of_given hv⟩

theorem time_of_mem_events {e : Event} (h : e ∈ c.events call) : e.time = call.now := by
  cases call with
  | unauthorized server now =>
    rcases List.mem_cons.mp h with rfl | h
    · rfl
    · obtain ⟨taker, -, rfl⟩ := List.mem_map.mp h
      rfl
  | _ =>
    obtain ⟨taker, -, rfl⟩ := List.mem_map.mp h
    rfl

theorem exists_event_iff (hv : c.state.Valid c.roster) :
    (∃ e ∈ c.events call, e.server = name) ↔ c.Restarts call name := by
  rw [Restarts, ← taker_eq_grantee hv]
  cases call <;> simp [events, Event.server, Call.now, or_comm]

theorem lastTime?_events (hv : c.state.Valid c.roster) (call : Call) (name : String) :
    Event.lastTime? name (c.events call) =
      if c.Restarts call name then some call.now else none := by
  rw [Event.lastTime?_of_simultaneous fun e he => time_of_mem_events he]
  simp only [exists_event_iff hv]

theorem events_request (hv : c.state.Valid c.roster) (server : String) (now : UInt64) :
    c.events (.request server now) =
      if c.state.holder = none ∧ (c.request server now).1 = .allow then [.granted server now]
      else [] := by
  rw [events, taker_eq_grantee hv, grantee]
  split <;> rfl

/-- Only a backend that waits is promoted. -/
theorem waiting_of_promoted (hv : c.state.Valid c.roster) {server : String} {now : UInt64}
    (h : .promoted server now ∈ c.events call) : server ∈ c.state.waiting := by
  have htaker : c.taker call = some server ∧ ∀ name now, call ≠ .request name now := by
    cases call <;> simp [events] at h <;> exact ⟨h.1, nofun⟩
  have ht := c.transition_step call
  rw [← taker_eq_grantee hv, htaker.1] at ht
  generalize hgiven : some server = given at ht
  generalize (c.step call).2 = c' at ht
  cases ht with
  | granted => exact absurd rfl (htaker.2 _ _)
  | queued => cases hgiven
  | kept => cases hgiven
  | freed => exact (c.waiting_prepared_sublist call).subset (List.mem_of_head? hgiven.symm)

/-! ## One call -/

theorem Transition.unauthorized_eq (ht : Transition c call given c') :
    c'.state.unauthorized = (c.prepared call).unauthorized := by
  cases ht with
  | granted => rfl
  | queued => exact c.unauthorized_enqueue ..
  | kept => rfl
  | freed => exact State.unauthorized_release ..

/-- A call that is no report leaves both maps to the slot. -/
theorem prepared_records (c : Coordinator) (h : ∀ server now, call ≠ .unauthorized server now) :
    (c.prepared call).history = c.state.history ∧
      (c.prepared call).unauthorized = c.state.unauthorized := by
  cases call with
  | unauthorized server now => exact absurd rfl (h server now)
  | _ => exact ⟨rfl, rfl⟩

theorem Transition.history_eq (ht : Transition c call none c')
    (h : ∀ server now, call ≠ .unauthorized server now) :
    c'.state.history = c.state.history := by
  have hprepared := (c.prepared_records h).1
  generalize hgiven : none = given at ht
  cases ht with
  | granted => cases hgiven
  | queued => exact c.history_enqueue ..
  | kept => exact hprepared
  | freed =>
    -- Nobody waits, so nobody gets the slot.
    have hnil : (c.prepared call).backlog = [] :=
      List.map_eq_nil_iff.mp (List.head?_eq_none_iff.mp hgiven.symm)
    rw [State.release_of_nil _ _ hnil]
    exact hprepared

theorem history_step_of_quiet (hv : c.state.Valid c.roster) (h : c.events call = []) :
    (c.step call).2.state.history = c.state.history := by
  have hnone : ∀ server, ¬ c.Restarts call server := by
    intro server hrestarts
    obtain ⟨e, he, -⟩ := (exists_event_iff hv).mpr hrestarts
    rw [h] at he
    exact List.not_mem_nil he
  have ht := c.transition_step call
  rw [Option.eq_none_iff_forall_ne_some.mpr fun server hgrantee =>
    hnone server (.inl hgrantee)] at ht
  refine ht.history_eq ?_
  rintro server now rfl
  exact hnone server (.inr rfl)

theorem get?_unauthorized_step (c : Coordinator) (call : Call) (name : String) :
    (c.step call).2.state.unauthorized.get? name =
      if call = .unauthorized name call.now then
        some (newest auditLimit ((c.state.unauthorized.get? name).getD [] ++ [call.now]))
      else c.state.unauthorized.get? name := by
  rw [(c.transition_step call).unauthorized_eq]
  cases call with
  | unauthorized server now =>
    have haudit : (c.prepared (.unauthorized server now)).unauthorized =
        c.state.unauthorized.insert server
          (newest auditLimit ((c.state.unauthorized.get? server).getD [] ++ [now])) := rfl
    rw [haudit, NameMap.get?_insert]
    by_cases hname : server = name
    · rw [if_pos hname, if_pos (by rw [hname]; rfl), hname]
      rfl
    · rw [if_neg hname, if_neg (by simp [hname])]
  | _ => rw [if_neg (by simp), (c.prepared_records (by simp)).2]

/-! ## Runs -/

theorem history_run (hv : c.state.Valid c.roster) (calls : List Call) (name : String) :
    (c.run calls).state.history.get? name =
      (Event.lastTime? name (c.log calls)).or (c.state.history.get? name) := by
  induction calls generalizing c with
  | nil => rfl
  | cons call calls ih =>
    have hnext : (c.step call).2.state.Valid (c.step call).2.roster :=
      (c.transition_step call).valid hv
    rw [run_cons, ih hnext, get?_history_step, log, Event.lastTime?_append, lastTime?_events hv,
      Option.or_assoc]
    congr 1
    split <;> rfl

theorem intrusions_concat (name : String) (calls : List Call) (call : Call) :
    intrusions name (calls ++ [call]) =
      if call = .unauthorized name call.now then intrusions name calls ++ [call.now]
      else intrusions name calls := by
  rw [intrusions, List.filterMap_append]
  cases call with
  | unauthorized server now =>
    by_cases hname : server = name
    · simp [hname, Call.now, intrusions]
    · simp [hname, intrusions]
  | _ => simp [intrusions]

theorem unauthorized_run (policy : Policy) (roster : Option (List String)) (calls : List Call)
    (name : String) :
    ((new policy roster).run calls).state.unauthorized.get? name =
      if intrusions name calls = [] then none
      else some (newest auditLimit (intrusions name calls)) := by
  induction calls using List.reverseRecOn with
  | nil => rfl
  | append_singleton calls call ih =>
    rw [run_concat, get?_unauthorized_step, ih, intrusions_concat]
    by_cases hcall : call = .unauthorized name call.now
    · rw [if_pos hcall, if_pos hcall, if_neg (List.append_ne_nil_of_right_ne_nil _ (by simp))]
      by_cases hnil : intrusions name calls = []
      · rw [if_pos hnil, hnil]
        rfl
      · rw [if_neg hnil, Option.getD_some, newest_concat]
    · rw [if_neg hcall, if_neg hcall]

/-- **The records are what the log says.** The first part says what an event is, the others what the
maps hold after a run and what a next call leaves as it is. -/
theorem records_of_log (policy : Policy) (roster : Option (List String)) (calls : List Call) :
    let c := (new policy roster).run calls
    let log := (new policy roster).log calls
    (∀ server now, c.events (.request server now) =
        if c.state.holder = none ∧ (c.request server now).1 = .allow then [.granted server now]
        else []) ∧
    (∀ call server now, .promoted server now ∈ c.events call → server ∈ c.state.waiting) ∧
    (∀ name, c.state.history.get? name = Event.lastTime? name log ∧
      (c.state.history.get? name = none ↔ ∀ e ∈ log, e.server ≠ name)) ∧
    (∀ name, c.state.unauthorized.get? name =
        (if intrusions name calls = [] then none
          else some (newest 32 (intrusions name calls))) ∧
      (c.state.unauthorized.get? name = none ↔
        ∀ now, .unauthorized name now ∉ calls)) ∧
    ∀ call, (c.events call = [] → (c.step call).2.state.history = c.state.history) ∧
      ((∀ server now, call ≠ .unauthorized server now) →
        (c.step call).2.state.unauthorized = c.state.unauthorized) := by
  intro c log
  have hv : c.state.Valid c.roster := run_valid (c := new policy roster) (.initial roster) calls
  have hhistory : ∀ name, c.state.history.get? name = Event.lastTime? name log := by
    intro name
    rw [history_run (c := new policy roster) (.initial roster)]
    exact Option.or_none
  refine ⟨fun server now => events_request hv server now,
    fun call server now h => waiting_of_promoted hv h, fun name => ⟨hhistory name, ?_⟩,
    fun name => ⟨unauthorized_run policy roster calls name, ?_⟩,
    fun call => ⟨history_step_of_quiet hv, fun h => ?_⟩⟩
  · rw [hhistory, Event.lastTime?_eq_none_iff]
  · rw [unauthorized_run]
    have hnil : intrusions name calls = [] ↔ ∀ now, .unauthorized name now ∉ calls := by
      rw [intrusions, List.filterMap_eq_nil_iff]
      constructor
      · intro hnone now hmem
        simpa using hnone _ hmem
      · intro hnot call hmem
        cases call with
        | unauthorized server now =>
          have hname : server ≠ name := fun hname => hnot now (hname ▸ hmem)
          simp [hname]
        | _ => rfl
    rw [← hnil]
    split <;> simp_all
  · rw [(c.transition_step call).unauthorized_eq]
    exact (c.prepared_records h).2

/-- One backend waits until a sweep takes the slot from another, and a third one is reported 33
times. The new holder asks again, and nothing changes. -/
theorem records_of_log_after_sweep :
    let policy : Policy := ⟨.ofMillis 100, .ofMillis 30, .ofMillis 600, .ofMillis 300⟩
    let calls : List Call := .request "a" 0 :: .request "b" 5 ::
      ((List.range 33).map fun i => .unauthorized "c" (10 + UInt64.ofNat i)) ++ [.sweep 400]
    let c := (new policy none).run calls
    let again : Call := .request "b" 500
    c.state.history.get? "b" = some 400 ∧
      c.state.unauthorized.get? "c" =
        some ((List.range 32).map fun i => 11 + UInt64.ofNat i) ∧
      c.events again = [] ∧ (∀ server now, again ≠ .unauthorized server now) ∧
      (c.step again).2.state.history = c.state.history ∧
      (c.step again).2.state.unauthorized = c.state.unauthorized := by
  intro policy calls c again
  have hc : (new policy none).run calls = c := rfl
  obtain ⟨-, -, hhistory, haudits, hquiet⟩ := records_of_log policy none calls
  rw [hc] at hhistory haudits hquiet
  have hlast : c.state.history.get? "b" = some 400 := by
    rw [(hhistory "b").1]
    decide +kernel
  have hnewest : c.state.unauthorized.get? "c" =
      some ((List.range 32).map fun i => 11 + UInt64.ofNat i) := by
    rw [(haudits "c").1]
    decide +kernel
  have hevents : c.events again = [] := by decide +kernel
  have hrequest : ∀ server now, again ≠ .unauthorized server now := nofun
  exact ⟨hlast, hnewest, hevents, hrequest, (hquiet again).1 hevents, (hquiet again).2 hrequest⟩

end Coordinator

end GameHub.Restart
