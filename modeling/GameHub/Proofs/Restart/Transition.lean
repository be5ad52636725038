import GameHub.Restart.Coordinator

/-!
# What a call changes

Every call on the coordinator does one of four things to the state: it gives a free slot to the
backend that asks, puts that backend in the backlog, keeps the holder of the slot, or takes the slot
from its holder and hands it on. `transition_step` says this once, and what follows about states
and runs is read off the four cases.

* `grantee` is the backend that a call gives the slot to.
* `Transition.holder` and `Transition.history` say who holds the slot after a call, and whose
  last restart it changes.
-/

namespace GameHub.Restart

/-! ## Changes of the state -/

namespace State

variable (s : State) (server : String) (now : UInt64)

/-- The backends in the backlog, first come first. -/
def waiting (s : State) : List String := s.backlog.map (·.server)

@[simp] theorem history_dequeue : (s.dequeue server).history = s.history := rfl

theorem backlog_dequeue_sublist : (s.dequeue server).backlog.Sublist s.backlog :=
  List.eraseP_sublist

@[simp] theorem waiting_dequeue : (s.dequeue server).waiting = s.waiting.erase server := by
  rw [waiting, waiting, List.erase_eq_eraseP', List.eraseP_map]
  congr 2

@[simp] theorem history_audit :
    (s.audit server now).history = s.history.insert server now := rfl

@[simp] theorem holder_grant : (s.grant server now).holder = some server := rfl

@[simp] theorem backlog_grant :
    (s.grant server now).backlog = (s.dequeue server).backlog := rfl

@[simp] theorem history_grant :
    (s.grant server now).history = s.history.insert server now := rfl

@[simp] theorem unauthorized_grant : (s.grant server now).unauthorized = s.unauthorized := rfl

/-! ## Handing the slot on -/

theorem release_of_nil (h : s.backlog = []) :
    s.release now = (none, { s with holder := none }) := by
  simp [release, promote, h]

theorem release_of_cons {next : Request} {rest : List Request} (h : s.backlog = next :: rest) :
    s.release now =
      (some next.server, { s with holder := none, backlog := rest }.grant next.server now) := by
  simp [release, promote, h]

theorem fst_release : (s.release now).1 = s.waiting.head? := by
  cases h : s.backlog with
  | nil => simp [release_of_nil s now h, waiting, h]
  | cons next rest => simp [release_of_cons s now h, waiting, h]

@[simp] theorem holder_release : (s.release now).2.holder = s.waiting.head? := by
  cases h : s.backlog with
  | nil => simp [release_of_nil s now h, waiting, h]
  | cons next rest => simp [release_of_cons s now h, waiting, h]

@[simp] theorem unauthorized_release : (s.release now).2.unauthorized = s.unauthorized := by
  cases h : s.backlog with
  | nil => simp [release_of_nil s now h]
  | cons next rest => simp [release_of_cons s now h]

theorem get?_history_release (name : String) :
    (s.release now).2.history.get? name =
      if s.waiting.head? = some name then some now else s.history.get? name := by
  cases h : s.backlog with
  | nil => simp [release_of_nil s now h, waiting, h]
  | cons next rest => simp [release_of_cons s now h, waiting, h, NameMap.get?_insert]

theorem backlog_release (h : s.waiting.Nodup) : (s.release now).2.backlog = s.backlog.tail := by
  cases hb : s.backlog with
  | nil => simp [release_of_nil s now hb, hb]
  | cons next rest =>
    have hnodup : (∀ r ∈ rest, ¬ r.server = next.server) ∧ (rest.map (·.server)).Nodup := by
      simpa [waiting, hb] using h
    simp only [release_of_cons s now hb, backlog_grant, dequeue, List.tail_cons]
    exact List.eraseP_of_forall_not (by simpa using hnodup.1)

theorem waiting_release (h : s.waiting.Nodup) : (s.release now).2.waiting = s.waiting.tail := by
  rw [waiting, backlog_release s now h, List.map_tail, waiting]

end State

/-! ## Asking for the slot -/

/-- Who may take part: something is left of the name after trimming, and it is on the roster if
there is one. -/
def Eligible (roster : Option (List String)) (server : String) : Prop :=
  Text.trim server ≠ "" ∧ ∀ names, roster = some names → server ∈ names

namespace Coordinator

variable (c : Coordinator) (server : String) (now : UInt64)

theorem eligible_iff :
    Eligible c.roster server ↔ Text.allBlank server = false ∧ c.admits server = true := by
  rw [Eligible, Ne, Text.trim_eq_empty_iff, Bool.not_eq_true, admits]
  cases c.roster <;> simp

/-- The cooldown of a backend is over, or it never restarted. -/
def Rested (s : State) (policy : Policy) (server : String) (now : UInt64) : Prop :=
  ∀ last, s.history.get? server = some last → last.addSat policy.cooldown.millis ≤ now

theorem cooling_eq_none_iff :
    c.cooling server now = none ↔ Rested c.state c.policy server now := by
  rw [cooling, Rested]
  cases c.state.history.get? server <;> simp

theorem backlogIndex_eq_none_iff :
    c.state.backlogIndex server = none ↔ server ∉ c.state.waiting := by
  simp [State.backlogIndex, State.waiting]

theorem waiting_enqueue :
    (c.enqueue server now).2.state.waiting =
      if server ∈ c.state.waiting then c.state.waiting else c.state.waiting ++ [server] := by
  rw [enqueue]
  cases h : c.state.backlogIndex server with
  | none =>
    rw [if_neg ((c.backlogIndex_eq_none_iff server).mp h)]
    simp [State.waiting, Request.first]
  | some index =>
    have hmem : server ∈ c.state.waiting :=
      Decidable.not_not.mp (mt (c.backlogIndex_eq_none_iff server).mpr (by simp [h]))
    rw [if_pos hmem]
    refine List.ext_getElem? fun i => ?_
    by_cases hi : index = i
    · simp only [State.waiting, List.getElem?_map, List.getElem?_modify, hi]
      cases c.state.backlog[i]? <;> rfl
    · simp [State.waiting, hi]

theorem mem_waiting_enqueue : server ∈ (c.enqueue server now).2.state.waiting := by
  rw [waiting_enqueue]
  split
  · assumption
  · exact List.mem_append_right _ List.mem_cons_self

theorem nodup_waiting_enqueue (hnodup : c.state.waiting.Nodup) :
    (c.enqueue server now).2.state.waiting.Nodup := by
  rw [waiting_enqueue]
  split
  · exact hnodup
  · next habsent =>
    rw [List.nodup_append]
    refine ⟨hnodup, List.pairwise_singleton _ _, fun a ha b hb hab => ?_⟩
    rw [List.mem_singleton.mp hb] at hab
    exact habsent (hab ▸ ha)

/-- Only the backlog changes. -/
theorem snd_enqueue :
    (c.enqueue server now).2 =
      { c with state.backlog := (c.enqueue server now).2.state.backlog } := by
  rw [enqueue]; cases c.state.backlogIndex server <;> rfl

/-- In a line in which every name stands once, to change the first request of a backend is to change
every one of them. -/
theorem modify_eq_map {line : List Request} (f : Request → Request)
    (hnodup : (line.map (·.server)).Nodup) {index : Nat}
    (h : line.findIdx? (·.server = server) = some index) :
    line.modify index f = line.map fun r => if r.server = server then f r else r := by
  induction line generalizing index with
  | nil => cases h
  | cons r rest ih =>
    obtain ⟨hfirst, hrest⟩ := List.nodup_cons.mp hnodup
    rw [List.findIdx?_cons] at h
    by_cases hr : r.server = server
    · obtain rfl : index = 0 := by simpa [hr, eq_comm] using h
      have hothers : ∀ r' ∈ rest, (if r'.server = server then f r' else r') = r' := by
        intro r' hr'
        refine if_neg fun hsame => hfirst ?_
        exact List.mem_map.mpr ⟨r', hr', hsame.trans hr.symm⟩
      rw [List.modify_zero_cons, List.map_cons, if_pos hr, List.map_congr_left hothers,
        List.map_id']
    · rw [if_neg (by simpa using hr)] at h
      obtain ⟨i, hi, rfl⟩ := Option.map_eq_some_iff.mp h
      rw [List.modify_succ_cons, List.map_cons, if_neg hr, ih hrest hi]

/-- A backend that waits has its request made again, and another one is put at the end. -/
theorem backlog_enqueue (hnodup : c.state.waiting.Nodup) :
    (c.enqueue server now).2.state.backlog =
      if server ∈ c.state.waiting then
        c.state.backlog.map fun r => if r.server = server then r.again now else r
      else c.state.backlog ++ [.first server now] := by
  rw [enqueue]
  cases h : c.state.backlogIndex server with
  | none => rw [if_neg ((c.backlogIndex_eq_none_iff server).mp h)]
  | some index =>
    have hmem : server ∈ c.state.waiting :=
      Decidable.not_not.mp (mt (c.backlogIndex_eq_none_iff server).mpr (by simp [h]))
    rw [if_pos hmem]
    exact modify_eq_map server _ hnodup h

/-- After a request that is queued, every request of the backend in the backlog is the one made just
now. -/
theorem lastRetry_enqueue {c : Coordinator} {server : String} {now : UInt64} {r : Request}
    (hnodup : c.state.waiting.Nodup) (hr : r ∈ (c.enqueue server now).2.state.backlog)
    (hserver : r.server = server) : r.lastRetry = now := by
  rw [backlog_enqueue c server now hnodup] at hr
  split at hr
  · obtain ⟨r₀, -, rfl⟩ := List.mem_map.mp hr
    split at hserver
    · next hsame => rw [if_pos hsame]; rfl
    · next hother => exact absurd hserver hother
  · next habsent =>
    rcases List.mem_append.mp hr with hr | hr
    · exact absurd (List.mem_map.mpr ⟨r, hr, hserver⟩) habsent
    · rw [List.mem_singleton.mp hr]
      rfl

/-- A request in the backlog was there before, perhaps made again, or is a first one. -/
theorem mem_backlog_enqueue {r : Request} (h : r ∈ (c.enqueue server now).2.state.backlog) :
    r ∈ c.state.backlog ∨ (∃ r₀ ∈ c.state.backlog, r = r₀.again now) ∨ r = .first server now := by
  rw [enqueue] at h
  cases hindex : c.state.backlogIndex server with
  | none =>
    simp only [hindex, List.mem_append, List.mem_singleton] at h
    exact h.imp_right Or.inr
  | some index =>
    simp only [hindex] at h
    obtain ⟨i, hi⟩ := List.mem_iff_getElem?.mp h
    rw [List.getElem?_modify] at hi
    obtain ⟨r₀, hr₀, rfl⟩ := Option.map_eq_some_iff.mp hi
    have hmem : r₀ ∈ c.state.backlog := List.mem_iff_getElem?.mpr ⟨i, hr₀⟩
    by_cases hindex : index = i
    · exact .inr (.inl ⟨r₀, hmem, by simp [hindex]⟩)
    · exact .inl (by simpa [hindex] using hmem)

@[simp] theorem policy_enqueue : (c.enqueue server now).2.policy = c.policy := by
  rw [enqueue]; cases c.state.backlogIndex server <;> rfl

@[simp] theorem roster_enqueue : (c.enqueue server now).2.roster = c.roster := by
  rw [enqueue]; cases c.state.backlogIndex server <;> rfl

@[simp] theorem holder_enqueue :
    (c.enqueue server now).2.state.holder = c.state.holder := by
  rw [enqueue]; cases c.state.backlogIndex server <;> rfl

@[simp] theorem history_enqueue :
    (c.enqueue server now).2.state.history = c.state.history := by
  rw [enqueue]; cases c.state.backlogIndex server <;> rfl

@[simp] theorem unauthorized_enqueue :
    (c.enqueue server now).2.state.unauthorized = c.state.unauthorized := by
  rw [enqueue]; cases c.state.backlogIndex server <;> rfl

/-- A request is allowed to the holder of the slot, and to a rested backend while the slot is
free. -/
theorem request_eq_allow_iff :
    (c.request server now).1 = .allow ↔ Eligible c.roster server ∧
      (c.state.holder = some server ∨
        c.state.holder = none ∧ Rested c.state c.policy server now) := by
  rw [eligible_iff, ← cooling_eq_none_iff, request]
  cases Text.allBlank server
  · cases c.admits server
    · simp
    · by_cases hheld : c.state.holder = some server
      · simp [hheld]
      · cases hcool : c.cooling server now with
        | some times => simp [hheld]
        | none => cases hfree : c.state.holder <;> simp_all [waitAt]
  · simp

theorem holder_request_of_allow (h : (c.request server now).1 = .allow) :
    (c.request server now).2.state.holder = some server := by
  obtain ⟨he, hheld⟩ := (c.request_eq_allow_iff server now).mp h
  obtain ⟨hblank, hadmits⟩ := (c.eligible_iff server).mp he
  rcases hheld with hheld | ⟨hfree, hrested⟩
  · simp [request, hblank, hadmits, hheld]
  · have hcool := (c.cooling_eq_none_iff server now).mpr hrested
    simp [request, hblank, hadmits, hfree, hcool]

/-- The ways in which a request is answered, and the coordinator that it leaves. -/
inductive Answered (c : Coordinator) (server : String) (now : UInt64) :
    Decision × Coordinator → Prop
  /-- Nothing changes. The backend is allowed only if it has the slot, and is told no place. -/
  | unchanged {d : Decision} (allowed : d = .allow → c.state.holder = some server)
      (unplaced : ∀ retryAfter position reason, d ≠ .wait retryAfter (some position) reason) :
      Answered c server now (d, c)
  /-- The slot is free, and the backend gets it. -/
  | granted (free : c.state.holder = none) (eligible : Eligible c.roster server)
      (rested : Rested c.state c.policy server now) :
      Answered c server now (.allow, { c with state := c.state.grant server now })
  /-- Another backend has the slot, and the one that asks is told its place. -/
  | queued {holder : String} (held : c.state.holder = some holder) (other : holder ≠ server)
      (eligible : Eligible c.roster server) (rested : Rested c.state c.policy server now) :
      Answered c server now
        ((c.enqueue server now).2.waitAt (c.enqueue server now).1 now, (c.enqueue server now).2)

theorem answered_request : Answered c server now (c.request server now) := by
  rw [request]
  split
  · exact .unchanged nofun nofun
  · next hblank =>
    split
    · exact .unchanged nofun nofun
    · next hadmits =>
      have heligible : Eligible c.roster server :=
        (c.eligible_iff server).mpr ⟨by simpa using hblank, by simpa using hadmits⟩
      split
      · next hheld => exact .unchanged (fun _ => hheld) nofun
      · next hheld =>
        split
        · exact .unchanged nofun nofun
        · next hcool =>
          have hrested := (c.cooling_eq_none_iff server now).mp hcool
          cases hholder : c.state.holder with
          | none => exact .granted hholder heligible hrested
          | some holder =>
            exact .queued hholder (fun h => hheld (h ▸ hholder)) heligible hrested

/-- A backend is told a position only while another one holds the slot, and then it is in the
backlog. -/
theorem request_of_position {retryAfter position : UInt64} {reason : String}
    (h : (c.request server now).1 = .wait retryAfter (some position) reason) :
    c.state.holder ≠ none ∧ c.state.holder ≠ some server ∧
      c.request server now =
        ((c.enqueue server now).2.waitAt (c.enqueue server now).1 now,
          (c.enqueue server now).2) := by
  have hanswered := c.answered_request server now
  generalize c.request server now = answer at h hanswered
  cases hanswered with
  | unchanged allowed unplaced => exact absurd h (unplaced _ _ _)
  | granted => cases h
  | queued held other => exact ⟨by simp [held], by simpa [held] using other, rfl⟩

end Coordinator

/-! ## The four kinds of change -/

namespace Coordinator

variable {c c' : Coordinator} {call : Call} {given : Option String}

def Call.now : Call → UInt64
  | .request _ now | .complete _ now | .unauthorized _ now | .sweep now => now

/-- The backend that a call is about. A sweep is about none. -/
def Call.server? : Call → Option String
  | .request server _ | .complete server _ | .unauthorized server _ => some server
  | .sweep _ => none

/-- The backend that a call gives the slot to: one that asks while the slot is free, or the one
that is promoted when the slot is handed on. -/
def grantee (c : Coordinator) : Call → Option String
  | .request server now =>
    if c.state.holder = none ∧ (c.request server now).1 = .allow then some server else none
  | .complete server now =>
    if c.state.holder = some server then (c.state.release now).1 else none
  | .unauthorized server now =>
    if c.state.holder = some server then
      (((c.state.audit server now).dequeue server).release now).1
    else none
  | .sweep now => (c.sweep now).1.promoted

/-- What a call does before it looks at the slot. -/
def prepared (c : Coordinator) : Call → State
  | .request _ _ | .complete _ _ => c.state
  | .unauthorized server now => (c.state.audit server now).dequeue server
  | .sweep now => { c.state with backlog := c.state.backlog.filter (c.isFresh now) }

/-- The call takes the slot from its holder. -/
def frees (c : Coordinator) : Call → Bool
  | .request _ _ => false
  | .complete server _ | .unauthorized server _ => c.state.holder = some server
  | .sweep now => c.state.holder.any (c.isOverdue now)

/-- The ways in which a call can change a coordinator, with the backend that it gives the slot
to. -/
inductive Transition (c : Coordinator) : Call → Option String → Coordinator → Prop
  /-- A free slot goes to the backend that asks for it. -/
  | granted {server : String} {now : UInt64} (free : c.state.holder = none)
      (eligible : Eligible c.roster server) (rested : Rested c.state c.policy server now) :
      Transition c (.request server now) (some server)
        { c with state := c.state.grant server now }
  /-- The slot is taken, and the backend that asks for it waits. -/
  | queued {server holder : String} {now : UInt64} (held : c.state.holder = some holder)
      (other : holder ≠ server) (eligible : Eligible c.roster server)
      (rested : Rested c.state c.policy server now) :
      Transition c (.request server now) none (c.enqueue server now).2
  /-- The slot stays with its holder. -/
  | kept {call : Call} (keeps : c.frees call = false) :
      Transition c call none { c with state := c.prepared call }
  /-- The slot is taken from its holder and handed on. -/
  | freed {call : Call} (frees : c.frees call = true) :
      Transition c call (c.prepared call).waiting.head?
        { c with state := ((c.prepared call).release call.now).2 }

theorem transition_request (c : Coordinator) (server : String) (now : UInt64) :
    Transition c (.request server now) (c.grantee (.request server now))
      (c.request server now).2 := by
  rw [grantee]
  have hanswered := c.answered_request server now
  generalize c.request server now = answer at hanswered
  cases hanswered with
  | unchanged allowed unplaced =>
    rw [if_neg fun h => by simp [allowed h.2] at h]
    exact .kept rfl
  | granted free eligible rested =>
    rw [if_pos ⟨free, rfl⟩]
    exact .granted free eligible rested
  | queued held other eligible rested =>
    rw [if_neg fun h => by simp [held] at h]
    exact .queued held other eligible rested

theorem transition_complete (c : Coordinator) (server : String) (now : UInt64) :
    Transition c (.complete server now) (c.grantee (.complete server now))
      (c.complete server now).2 := by
  by_cases hheld : c.state.holder = some server
  · rw [grantee, complete, if_pos hheld, if_pos hheld, State.fst_release]
    exact .freed (by simp [frees, hheld])
  · rw [grantee, complete, if_neg hheld, if_neg hheld]
    exact .kept (by simp [frees, hheld])

theorem transition_unauthorized (c : Coordinator) (server : String) (now : UInt64) :
    Transition c (.unauthorized server now) (c.grantee (.unauthorized server now))
      (c.unauthorized server now) := by
  by_cases hheld : c.state.holder = some server
  · have hheld' : ((c.state.audit server now).dequeue server).holder = some server := hheld
    rw [grantee, unauthorized, if_pos hheld, if_pos hheld', State.fst_release]
    exact .freed (by simp [frees, hheld])
  · have hheld' : ((c.state.audit server now).dequeue server).holder ≠ some server := hheld
    rw [grantee, unauthorized, if_neg hheld, if_neg hheld']
    exact .kept (by simp [frees, hheld])

theorem sweep_eq (c : Coordinator) (now : UInt64) :
    c.sweep now =
      (⟨(c.state.backlog.filter fun r => !c.isFresh now r).map (·.server),
        if c.frees (.sweep now) then c.state.holder else none,
        if c.frees (.sweep now) then ((c.prepared (.sweep now)).release now).1 else none⟩,
        { c with
          state := if c.frees (.sweep now) then ((c.prepared (.sweep now)).release now).2
            else c.prepared (.sweep now) }) := by
  -- Whether the holder is overdue depends on the history and the policy only.
  have hoverdue : ∀ slot backlog holder, isOverdue ⟨c.policy, c.roster,
      ⟨slot, backlog, c.state.history, c.state.unauthorized⟩⟩ now holder =
        c.isOverdue now holder := fun _ _ _ => rfl
  rw [sweep, List.partition_eq_filter_filter]
  cases hholder : c.state.holder with
  | none =>
    have hfrees : c.frees (.sweep now) = false := by simp [frees, hholder]
    simp only [hholder, hfrees, prepared, Bool.false_eq_true, if_false]
    rfl
  | some holder =>
    have hfrees : c.frees (.sweep now) = c.isOverdue now holder := by simp [frees, hholder]
    cases h : c.isOverdue now holder <;>
      simp only [hholder, hfrees, hoverdue, h, prepared, Bool.false_eq_true, if_false, if_true] <;>
      rfl

theorem transition_sweep (c : Coordinator) (now : UInt64) :
    Transition c (.sweep now) (c.grantee (.sweep now)) (c.sweep now).2 := by
  rw [grantee, sweep_eq]
  cases h : c.frees (.sweep now) with
  | false => exact .kept h
  | true =>
    simp only [if_true, State.fst_release]
    exact .freed h

/-- **Every call is one of the four transitions.** -/
theorem transition_step (c : Coordinator) (call : Call) :
    Transition c call (c.grantee call) (c.step call).2 := by
  cases call with
  | request server now => exact c.transition_request server now
  | complete server now => exact c.transition_complete server now
  | unauthorized server now => exact c.transition_unauthorized server now
  | sweep now => exact c.transition_sweep now

/-! ## What follows from the transition -/

@[simp] theorem holder_prepared (c : Coordinator) (call : Call) :
    (c.prepared call).holder = c.state.holder := by
  cases call <;> rfl

theorem backlog_prepared_sublist (c : Coordinator) (call : Call) :
    (c.prepared call).backlog.Sublist c.state.backlog := by
  cases call with
  | request server now => exact .refl _
  | complete server now => exact .refl _
  | unauthorized server now => exact State.backlog_dequeue_sublist _ server
  | sweep now => exact List.filter_sublist

theorem waiting_prepared_sublist (c : Coordinator) (call : Call) :
    (c.prepared call).waiting.Sublist c.state.waiting :=
  (c.backlog_prepared_sublist call).map _

theorem get?_history_prepared (c : Coordinator) (call : Call) (name : String) :
    (c.prepared call).history.get? name =
      if call = .unauthorized name call.now then some call.now
      else c.state.history.get? name := by
  cases call with
  | unauthorized server now => simp [prepared, Call.now, NameMap.get?_insert]
  | _ => simp [prepared]

theorem Transition.policy_eq (h : Transition c call given c') : c'.policy = c.policy := by
  cases h <;> simp

theorem Transition.roster_eq (h : Transition c call given c') : c'.roster = c.roster := by
  cases h <;> simp

theorem Transition.holder (h : Transition c call given c') :
    c'.state.holder = if c.frees call then given else given.or c.state.holder := by
  cases h with
  | granted free => simp [frees]
  | queued held => simp [frees]
  | kept keeps => simp [keeps]
  | freed frees => simp [frees]

theorem Transition.holder_of_given {server : String} (h : Transition c call (some server) c') :
    c'.state.holder = some server := by
  rw [h.holder, Option.some_or, ite_self]

/-- A call changes the history of the backend that it gives the slot to, and of the one that
restarted without it. -/
theorem Transition.history (h : Transition c call given c') (name : String) :
    c'.state.history.get? name =
      if given = some name ∨ call = .unauthorized name call.now then some call.now
      else c.state.history.get? name := by
  cases h with
  | granted => simp [Call.now, NameMap.get?_insert]
  | queued => simp
  | kept => simp [get?_history_prepared]
  | freed =>
    rw [State.get?_history_release, get?_history_prepared]
    by_cases hnext : (c.prepared call).waiting.head? = some name
    · rw [if_pos hnext, if_pos (.inl hnext)]
    · rw [if_neg hnext]
      simp only [hnext, false_or]

/-- A call counts as a restart of a backend that gets the slot or that restarted without it. -/
def Restarts (c : Coordinator) (call : Call) (server : String) : Prop :=
  c.grantee call = some server ∨ call = .unauthorized server call.now

instance (c : Coordinator) (call : Call) (server : String) : Decidable (c.Restarts call server) :=
  inferInstanceAs (Decidable (_ ∨ _))

/-- The history of a backend is the time of the last call that counts as a restart of it. -/
theorem get?_history_step (c : Coordinator) (call : Call) (name : String) :
    (c.step call).2.state.history.get? name =
      if c.Restarts call name then some call.now else c.state.history.get? name :=
  (c.transition_step call).history name

/-! ## Runs -/

@[simp] theorem run_nil (c : Coordinator) : c.run [] = c := rfl

@[simp] theorem run_cons (c : Coordinator) (call : Call) (calls : List Call) :
    c.run (call :: calls) = (c.step call).2.run calls := rfl

theorem run_append (c : Coordinator) (calls more : List Call) :
    c.run (calls ++ more) = (c.run calls).run more :=
  List.foldl_append

theorem run_concat (c : Coordinator) (calls : List Call) (call : Call) :
    c.run (calls ++ [call]) = ((c.run calls).step call).2 :=
  run_append c calls [call]

@[simp] theorem policy_run (c : Coordinator) (calls : List Call) :
    (c.run calls).policy = c.policy := by
  induction calls generalizing c with
  | nil => rfl
  | cons call calls ih => exact (ih _).trans (c.transition_step call).policy_eq

@[simp] theorem roster_run (c : Coordinator) (calls : List Call) :
    (c.run calls).roster = c.roster := by
  induction calls generalizing c with
  | nil => rfl
  | cons call calls ih => exact (ih _).trans (c.transition_step call).roster_eq

end Coordinator

end GameHub.Restart
