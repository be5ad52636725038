import GameHub.Proofs.Restart.Transition

/-!
# The invariant of restart coordination

`State.Valid` collects what holds of the slot and the backlog between calls. Its parts need one
another: the slot is never idle while somebody waits because every call that frees it promotes the
head of the backlog, and the promoted backend leaves no second entry behind because every name is in
the backlog at most once.

**Theorem (`restart_state_valid`).** Every state that a coordinator reaches is valid, whatever the
policy, the roster, the names and the times of the calls.
-/

namespace GameHub.Restart

/-- What holds between calls. -/
structure State.Valid (roster : Option (List String)) (s : State) : Prop where
  /-- Every name is in the backlog at most once. -/
  nodup : s.waiting.Nodup
  /-- The holder of the slot is not in the backlog. -/
  holder_not_waiting : ∀ name, s.holder = some name → name ∉ s.waiting
  /-- The slot is never idle while somebody waits. -/
  backlog_of_free : s.holder = none → s.backlog = []
  /-- The holder has a start time. -/
  started : ∀ name, s.holder = some name → ∃ time, s.history.get? name = some time
  /-- Every entry of the backlog has the status of one that waits. -/
  waits : ∀ r ∈ s.backlog, r.status = .wait
  /-- The holder may take part. -/
  eligible_holder : ∀ name, s.holder = some name → Eligible roster name
  /-- Everybody in the backlog may take part. -/
  eligible_waiting : ∀ name ∈ s.waiting, Eligible roster name
  /-- Every audit list has between one and 32 times. -/
  audits : ∀ name times, s.unauthorized.get? name = some times → times ≠ [] ∧ times.length ≤ 32

namespace State.Valid

variable {roster : Option (List String)} {s : State}

theorem initial (roster : Option (List String)) : State.initial.Valid roster where
  nodup := List.nodup_nil
  holder_not_waiting _ h := by cases h
  backlog_of_free _ := rfl
  started _ h := by cases h
  waits _ h := (List.not_mem_nil h).elim
  eligible_holder _ h := by cases h
  eligible_waiting _ h := (List.not_mem_nil h).elim
  audits _ _ h := by cases h

/-! ## What keeps the holder -/

theorem of_sublist (h : s.Valid roster) {backlog : List Request}
    (hsub : backlog.Sublist s.backlog) : { s with backlog }.Valid roster := by
  have hnames : (backlog.map (·.server)).Sublist s.waiting := hsub.map _
  exact { h with
    nodup := h.nodup.sublist hnames
    holder_not_waiting := fun name hname hmem =>
      h.holder_not_waiting name hname (hnames.subset hmem)
    backlog_of_free := fun hfree => by
      have hnil := h.backlog_of_free hfree
      rw [hnil] at hsub
      exact List.sublist_nil.mp hsub
    waits := fun r hr => h.waits r (hsub.subset hr)
    eligible_waiting := fun name hname => h.eligible_waiting name (hnames.subset hname) }

theorem dequeue (h : s.Valid roster) (server : String) : (s.dequeue server).Valid roster :=
  h.of_sublist List.eraseP_sublist

theorem audit (h : s.Valid roster) (server : String) (now : UInt64) :
    (s.audit server now).Valid roster :=
  { h with
    started := fun name hname => by
      obtain ⟨time, htime⟩ := h.started name hname
      rw [history_audit, NameMap.get?_insert]
      split
      · exact ⟨now, rfl⟩
      · exact ⟨time, htime⟩
    audits := fun name times htimes => by
      simp only [State.audit, NameMap.get?_insert] at htimes
      split at htimes
      · -- The newest time is always kept, and the oldest ones go.
        obtain rfl := Option.some.inj htimes
        refine ⟨fun hnil => ?_, by simp [auditLimit]; omega⟩
        have hlength := congrArg List.length hnil
        simp [auditLimit] at hlength
        omega
      · exact h.audits name times htimes }

/-! ## What gives the slot away -/

/-- While the slot is free nobody waits, so a grant leaves the backlog empty. -/
theorem grant (h : s.Valid roster) {server : String} (now : UInt64) (hfree : s.holder = none)
    (he : Eligible roster server) : (s.grant server now).Valid roster := by
  have hnil : (s.grant server now).backlog = [] := by
    rw [backlog_grant, State.dequeue, h.backlog_of_free hfree, List.eraseP_nil]
  have hwaiting : (s.grant server now).waiting = [] := by rw [waiting, hnil, List.map_nil]
  exact {
    nodup := by rw [hwaiting]; exact List.nodup_nil
    holder_not_waiting := fun name _ => by rw [hwaiting]; exact List.not_mem_nil
    backlog_of_free := fun _ => hnil
    started := fun name hname => by
      obtain rfl := Option.some.inj hname
      exact ⟨now, by rw [history_grant, NameMap.get?_insert_self]⟩
    waits := fun r hr => (List.not_mem_nil (hnil ▸ hr)).elim
    eligible_holder := fun name hname => by
      obtain rfl := Option.some.inj hname
      exact he
    eligible_waiting := fun name hname => by simp [hwaiting] at hname
    audits := h.audits }

/-- The head of the backlog becomes the holder, and the rest stay. -/
theorem release (h : s.Valid roster) (now : UInt64) : (s.release now).2.Valid roster := by
  have hbacklog := backlog_release s now h.nodup
  have hwaiting := waiting_release s now h.nodup
  -- Whoever has the slot afterwards was the head of the backlog.
  have hhead : ∀ name, (s.release now).2.holder = some name →
      s.waiting = name :: s.waiting.tail := by
    intro name hname
    rw [holder_release] at hname
    obtain ⟨rest, hrest⟩ := List.head?_eq_some_iff.mp hname
    rw [hrest, List.tail_cons]
  exact {
    nodup := by rw [hwaiting]; exact h.nodup.sublist (List.tail_sublist _)
    holder_not_waiting := fun name hname => by
      have hnodup := h.nodup
      rw [hhead name hname] at hnodup
      rw [hwaiting]
      exact (List.nodup_cons.mp hnodup).1
    backlog_of_free := fun hfree => by
      rw [holder_release, List.head?_eq_none_iff, waiting, List.map_eq_nil_iff] at hfree
      rw [hbacklog, hfree, List.tail_nil]
    started := fun name hname => by
      rw [holder_release] at hname
      exact ⟨now, by rw [get?_history_release, if_pos hname]⟩
    waits := fun r hr => by
      rw [hbacklog] at hr
      exact h.waits r (List.mem_of_mem_tail hr)
    eligible_holder := fun name hname => by
      refine h.eligible_waiting name ?_
      rw [hhead name hname]
      exact List.mem_cons_self
    eligible_waiting := fun name hname => by
      rw [hwaiting] at hname
      exact h.eligible_waiting name (List.mem_of_mem_tail hname)
    audits := by rw [unauthorized_release]; exact h.audits }

end State.Valid

/-! ## Calls and runs -/

namespace Coordinator

variable {c c' : Coordinator} {call : Call} {given : Option String}

theorem valid_enqueue (h : c.state.Valid c.roster) {server holder : String} (now : UInt64)
    (hheld : c.state.holder = some holder) (hother : holder ≠ server)
    (he : Eligible c.roster server) : (c.enqueue server now).2.state.Valid c.roster where
  nodup := c.nodup_waiting_enqueue server now h.nodup
  holder_not_waiting name hname := by
    rw [holder_enqueue] at hname
    have hne : name ≠ server := fun h => hother (by rw [hheld] at hname; simp_all)
    rw [waiting_enqueue]
    split
    · exact h.holder_not_waiting name hname
    · rw [List.mem_append, List.mem_singleton]
      exact fun hmem => hmem.elim (h.holder_not_waiting name hname) hne
  backlog_of_free hfree := by simp [hheld] at hfree
  started := by rw [holder_enqueue, history_enqueue]; exact h.started
  waits r hr := by
    rcases mem_backlog_enqueue c server now hr with hr | ⟨r₀, hr₀, rfl⟩ | rfl
    · exact h.waits r hr
    · exact h.waits r₀ hr₀
    · rfl
  eligible_holder := by rw [holder_enqueue]; exact h.eligible_holder
  eligible_waiting name hname := by
    rw [waiting_enqueue] at hname
    split at hname
    · exact h.eligible_waiting name hname
    · rcases List.mem_append.mp hname with hname | hname
      · exact h.eligible_waiting name hname
      · obtain rfl := List.mem_singleton.mp hname
        exact he
  audits := by rw [unauthorized_enqueue]; exact h.audits

theorem valid_prepared (h : c.state.Valid c.roster) (call : Call) :
    (c.prepared call).Valid c.roster := by
  cases call with
  | request server now => exact h
  | complete server now => exact h
  | unauthorized server now => exact (h.audit server now).dequeue server
  | sweep now => exact h.of_sublist List.filter_sublist

theorem Transition.valid (ht : Transition c call given c') (h : c.state.Valid c.roster) :
    c'.state.Valid c'.roster := by
  rw [ht.roster_eq]
  cases ht with
  | granted free eligible => exact h.grant _ free eligible
  | queued held other eligible => exact valid_enqueue h _ held other eligible
  | kept => exact valid_prepared h call
  | freed => exact (valid_prepared h call).release call.now

theorem run_valid (h : c.state.Valid c.roster) (calls : List Call) :
    (c.run calls).state.Valid (c.run calls).roster := by
  induction calls generalizing c with
  | nil => exact h
  | cons call calls ih => exact ih ((c.transition_step call).valid h)

theorem run_new_valid (policy : Policy) (roster : Option (List String)) (calls : List Call) :
    ((new policy roster).run calls).state.Valid roster := by
  have h := run_valid (c := new policy roster) (.initial roster) calls
  rwa [roster_run] at h

theorem isOverdue_of_valid {roster : Option (List String)} (h : c.state.Valid roster)
    {holder : String} (hheld : c.state.holder = some holder) :
    ∃ started, c.state.history.get? holder = some started ∧
      ∀ now, c.isOverdue now holder = decide (c.policy.maxRestart.millis < now.subSat started) := by
  obtain ⟨started, hstarted⟩ := h.started holder hheld
  exact ⟨started, hstarted, fun now => by rw [isOverdue, hstarted]⟩

/-- **The state invariant.** Every reachable state is valid, and a sweep always finds the start time
of the holder. -/
theorem restart_state_valid (policy : Policy) (roster : Option (List String)) (calls : List Call) :
    ((new policy roster).run calls).state.Valid roster ∧
      ∀ holder, ((new policy roster).run calls).state.holder = some holder →
        ∃ started, ((new policy roster).run calls).state.history.get? holder = some started ∧
          ∀ now, ((new policy roster).run calls).isOverdue now holder =
            decide (policy.maxRestart.millis < now.subSat started) := by
  have h := run_new_valid policy roster calls
  refine ⟨h, fun holder hheld => ?_⟩
  have hoverdue := isOverdue_of_valid h hheld
  rwa [policy_run] at hoverdue

/-- One backend holds the slot and another one waits. -/
theorem restart_state_valid_while_held :
    let policy : Policy := ⟨.ofMillis 100, .ofMillis 30, .ofMillis 600, .ofMillis 300⟩
    let c := (new policy (some ["a", "b"])).run [.request "a" 5, .request "b" 7]
    c.state.holder = some "a" ∧ c.state.waiting = ["b"] ∧ c.state.Valid (some ["a", "b"]) ∧
      ∃ started, c.state.history.get? "a" = some started ∧
        ∀ now, c.isOverdue now "a" = decide (policy.maxRestart.millis < now.subSat started) := by
  intro policy c
  have hheld : c.state.holder = some "a" := by decide +kernel
  obtain ⟨hvalid, hstarted⟩ :=
    restart_state_valid policy (some ["a", "b"]) [.request "a" 5, .request "b" 7]
  exact ⟨hheld, by decide +kernel, hvalid, hstarted "a" hheld⟩

end Coordinator

end GameHub.Restart
