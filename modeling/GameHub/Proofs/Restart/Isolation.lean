import GameHub.Proofs.Restart.Records

/-!
# Calls keep to their backend

A backend that asks for the slot, reports the end of its restart or is reported itself changes what
the coordinator remembers of that backend. Of the others it changes nothing, with one exception: if
the call takes the slot from its holder, the head of the backlog gets it.

**Theorem (`calls_isolated`).** In every state that a coordinator reaches, a call that gains its
backend nothing leaves the coordinator as it is, and the hold of the slot goes on from where it
began. Any other call spares all backends but its own and, if it frees the slot, the one that is
promoted.

What is spared is a relation between two states (`State.Spares`). For the backlog it is an equation
of lists, which covers the fields of the requests that stay and their order at once.
-/

namespace GameHub.Restart

/-! ## What is left alone -/

namespace State

/-- The request of a backend in the backlog. -/
def requestOf? (s : State) (server : String) : Option Request :=
  s.backlog.find? (·.server = server)

/-- Of the backends other than these, two states remember the same. -/
structure Spares (touched : List String) (s s' : State) : Prop where
  audits : ∀ name ∉ touched, s'.unauthorized.get? name = s.unauthorized.get? name
  history : ∀ name ∉ touched, s'.history.get? name = s.history.get? name
  /-- Their requests stand in the same order. -/
  backlog : s'.backlog.filter (·.server ∉ touched) = s.backlog.filter (·.server ∉ touched)

namespace Spares

variable {touched more : List String} {s s' s'' : State}

theorem trans (h : Spares touched s s') (h' : Spares touched s' s'') : Spares touched s s'' where
  audits name hname := (h'.audits name hname).trans (h.audits name hname)
  history name hname := (h'.history name hname).trans (h.history name hname)
  backlog := h'.backlog.trans h.backlog

theorem mono (h : Spares touched s s') (hsub : touched ⊆ more) : Spares more s s' where
  audits name hname := h.audits name fun hmem => hname (hsub hmem)
  history name hname := h.history name fun hmem => hname (hsub hmem)
  backlog := by
    have hfilter (rs : List Request) : rs.filter (·.server ∉ more) =
        (rs.filter (·.server ∉ touched)).filter (·.server ∉ more) := by
      rw [List.filter_filter]
      refine List.filter_congr fun r _ => ?_
      by_cases hmore : r.server ∈ more
      · simp [hmore]
      · simp [hmore, mt (@hsub r.server) hmore]
    rw [hfilter, hfilter s.backlog, h.backlog]

/-- The request of a backend that is spared is the same, with all its fields. -/
theorem requestOf?_eq (h : Spares touched s s') {name : String} (hname : name ∉ touched) :
    s'.requestOf? name = s.requestOf? name := by
  have hfind (rs : List Request) : rs.find? (·.server = name) =
      (rs.filter (·.server ∉ touched)).find? (·.server = name) := by
    rw [List.find?_filter]
    congr 1
    funext r
    by_cases hr : r.server = name
    · simp [hr, hname]
    · simp [hr]
  rw [requestOf?, requestOf?, hfind, hfind s.backlog, h.backlog]

end Spares

variable (s : State) (server : String) (now : UInt64)

theorem spares_dequeue : Spares [server] s (s.dequeue server) where
  audits _ _ := rfl
  history _ _ := rfl
  backlog := by
    simp only [dequeue, List.mem_singleton]
    induction s.backlog with
    | nil => rfl
    | cons r rest ih =>
      by_cases hr : r.server = server
      · rw [List.eraseP_cons_of_pos (by simpa using hr),
          List.filter_cons_of_neg (by simpa using hr)]
      · rw [List.eraseP_cons_of_neg (by simpa using hr),
          List.filter_cons_of_pos (by simpa using hr),
          List.filter_cons_of_pos (by simpa using hr), ih]

theorem spares_audit : Spares [server] s (s.audit server now) where
  audits _ hname := NameMap.get?_insert_of_ne _ _ (List.ne_of_not_mem_cons hname)
  history _ hname := NameMap.get?_insert_of_ne _ _ (List.ne_of_not_mem_cons hname)
  backlog := rfl

theorem spares_grant : Spares [server] s (s.grant server now) where
  audits _ _ := rfl
  history _ hname := NameMap.get?_insert_of_ne _ _ (List.ne_of_not_mem_cons hname)
  backlog := (s.spares_dequeue server).backlog

/-- To hand the slot on touches the head of the backlog. -/
theorem spares_release : Spares s.waiting.head?.toList s (s.release now).2 := by
  cases h : s.backlog with
  | nil =>
    rw [release_of_nil s now h]
    exact ⟨fun _ _ => rfl, fun _ _ => rfl, rfl⟩
  | cons next rest =>
    have hhead : s.waiting.head? = some next.server := by rw [waiting, h]; rfl
    have htaken : Spares [next.server] s { s with holder := none, backlog := rest } :=
      ⟨fun _ _ => rfl, fun _ _ => rfl, by simp [h]⟩
    rw [release_of_cons s now h, hhead]
    exact htaken.trans (spares_grant ..)

theorem requestOf?_eq_none_iff : s.requestOf? server = none ↔ server ∉ s.waiting := by
  simp [requestOf?, waiting]

end State

/-! ## One call -/

namespace Coordinator

variable {c c' : Coordinator} {call : Call} {given : Option String} {server : String}

/-- The call gains its backend nothing: it is denied, or has to wait for the end of its cooldown, or
has the slot already, or reports the end of a restart without having the slot. -/
def GainsNothing (c : Coordinator) : Call → Prop
  | .request server now =>
    (∃ reason, (c.request server now).1 = .deny reason) ∨
    (∃ retryAfter reason, (c.request server now).1 = .wait retryAfter none reason) ∨
    c.state.holder = some server ∧ (c.request server now).1 = .allow
  | .complete server now => ∃ e, (c.complete server now).1 = .error e
  | .unauthorized .. | .sweep _ => False

theorem step_of_gainsNothing (h : c.GainsNothing call) : (c.step call).2 = c := by
  cases call with
  | request server now =>
    show (c.request server now).2 = c
    have hanswered := c.answered_request server now
    rw [GainsNothing] at h
    generalize c.request server now = answer at h hanswered
    cases hanswered with
    | unchanged => rfl
    | granted free => simp [free] at h
    | queued held other => simp [held, other, waitAt] at h
  | complete server now =>
    show (c.complete server now).2 = c
    obtain ⟨e, he⟩ := h
    rw [complete] at he ⊢
    split at he
    · cases he
    · next hheld => rw [if_neg hheld]
  | unauthorized server now => exact h.elim
  | sweep now => exact h.elim

theorem spares_enqueue (hnodup : c.state.waiting.Nodup) (server : String) (now : UInt64) :
    c.state.Spares [server] (c.enqueue server now).2.state where
  audits _ _ := by rw [unauthorized_enqueue]
  history _ _ := by rw [history_enqueue]
  backlog := by
    rw [backlog_enqueue c server now hnodup]
    split
    · -- Only requests that are filtered out are made again.
      induction c.state.backlog with
      | nil => rfl
      | cons r rest ih =>
        rw [List.map_cons]
        by_cases hr : r.server = server
        · rw [if_pos hr, List.filter_cons_of_neg (by simpa [Request.again] using hr),
            List.filter_cons_of_neg (by simpa using hr), ih]
        · rw [if_neg hr, List.filter_cons_of_pos (by simpa using hr),
            List.filter_cons_of_pos (by simpa using hr), ih]
    · simp [Request.first]

theorem spares_prepared (c : Coordinator) (hserver : call.server? = some server) :
    c.state.Spares [server] (c.prepared call) := by
  cases call with
  | unauthorized name now =>
    obtain rfl := Option.some.inj hserver
    exact (State.spares_audit ..).trans (State.spares_dequeue ..)
  | sweep now => cases hserver
  | _ => exact ⟨fun _ _ => rfl, fun _ _ => rfl, rfl⟩

theorem holder_of_frees (hserver : call.server? = some server) (hfrees : c.frees call = true) :
    c.state.holder = some server := by
  cases call with
  | sweep now => cases hserver
  | request name now => cases hfrees
  | _ =>
    obtain rfl := Option.some.inj hserver
    exact of_decide_eq_true hfrees

/-- The one who loses the slot was not in line for it. -/
theorem waiting_prepared_of_frees (hv : c.state.Valid c.roster)
    (hserver : call.server? = some server) (hfrees : c.frees call = true) :
    (c.prepared call).waiting = c.state.waiting := by
  have habsent := hv.holder_not_waiting server (holder_of_frees hserver hfrees)
  cases call with
  | unauthorized name now =>
    obtain rfl := Option.some.inj hserver
    exact (State.waiting_dequeue ..).trans (List.erase_of_not_mem habsent)
  | sweep now => cases hserver
  | _ => rfl

/-- A call touches its own backend and the one that it promotes. -/
theorem Transition.spares (ht : Transition c call given c') (hv : c.state.Valid c.roster)
    (hserver : call.server? = some server) :
    c.state.Spares (server :: if c.frees call then c.state.waiting.head?.toList else [])
      c'.state := by
  cases ht with
  | granted =>
    obtain rfl := Option.some.inj hserver
    exact State.spares_grant ..
  | queued =>
    obtain rfl := Option.some.inj hserver
    exact spares_enqueue hv.nodup ..
  | kept keeps =>
    rw [keeps]
    exact c.spares_prepared hserver
  | freed frees =>
    rw [if_pos frees]
    have hrelease := (c.prepared call).spares_release call.now
    rw [waiting_prepared_of_frees hv hserver frees] at hrelease
    exact ((c.spares_prepared hserver).mono (by simp)).trans (hrelease.mono (by simp))

/-- Whether another backend has the slot changes only for the one that is promoted. -/
theorem Transition.holder_eq_iff (ht : Transition c call given c') (hv : c.state.Valid c.roster)
    (hserver : call.server? = some server) {other : String} (hother : other ≠ server)
    (hnext : c.frees call = true → c.state.waiting.head? ≠ some other) :
    c'.state.holder = some other ↔ c.state.holder = some other := by
  cases ht with
  | granted free =>
    obtain rfl := Option.some.inj hserver
    simp [free, Ne.symm hother]
  | queued => rw [holder_enqueue]
  | kept => rw [holder_prepared]
  | freed frees =>
    rw [State.holder_release, waiting_prepared_of_frees hv hserver frees,
      holder_of_frees hserver frees]
    simp [hnext frees, Ne.symm hother]

/-- A call of a backend frees the slot exactly if the backend had it and lost it. -/
theorem frees_iff_lost (hv : c.state.Valid c.roster) (hserver : call.server? = some server) :
    c.frees call = true ↔
      c.state.holder = some server ∧ (c.step call).2.state.holder ≠ some server := by
  have ht := c.transition_step call
  constructor
  · intro hfrees
    have hheld := holder_of_frees hserver hfrees
    exact ⟨hheld, ht.holder_ne_of_frees hv hheld hfrees⟩
  · rintro ⟨hheld, hlost⟩
    by_contra hkeeps
    exact hlost (ht.holder_of_not_frees hheld (by simpa using hkeeps))

/-- The backend that a call promotes: the head of the backlog if the backend of the call loses the
slot, and nobody otherwise. -/
def promoted (c : Coordinator) (call : Call) (server : String) : Option String :=
  if c.state.holder = some server ∧ (c.step call).2.state.holder ≠ some server then
    c.state.waiting.head?
  else none

/-- What happens to a backend that is promoted. -/
structure TakesOver (next : String) (now : UInt64) (s s' : State) : Prop where
  holder : s'.holder = some next
  history : s'.history.get? next = some now
  audits : s'.unauthorized.get? next = s.unauthorized.get? next
  request : s'.requestOf? next = none

theorem Transition.state_of_frees (ht : Transition c call given c')
    (hfrees : c.frees call = true) : c'.state = ((c.prepared call).release call.now).2 := by
  cases ht with
  | freed => rfl
  | kept keeps => simp [hfrees] at keeps
  | _ => cases hfrees

theorem Transition.takesOver (ht : Transition c call given c') (hv : c.state.Valid c.roster)
    (hserver : call.server? = some server) (hfrees : c.frees call = true) {next : String}
    (hnext : c.state.waiting.head? = some next) :
    next ≠ server ∧ TakesOver next call.now c.state c'.state := by
  have hother : next ≠ server := by
    rintro rfl
    exact hv.holder_not_waiting next (holder_of_frees hserver hfrees) (List.mem_of_head? hnext)
  have hwaiting := waiting_prepared_of_frees hv hserver hfrees
  have hnodup : (c.prepared call).waiting.Nodup := by rw [hwaiting]; exact hv.nodup
  have haudits := (c.spares_prepared hserver).audits next (by simpa using hother)
  rw [← hwaiting] at hnext
  obtain ⟨rest, hrest⟩ := List.head?_eq_some_iff.mp hnext
  rw [ht.state_of_frees hfrees]
  refine ⟨hother, ⟨?_, ?_, ?_, ?_⟩⟩
  · rw [State.holder_release, hnext]
  · rw [State.get?_history_release, if_pos hnext]
  · rw [State.unauthorized_release, haudits]
  · rw [State.requestOf?_eq_none_iff, State.waiting_release _ _ hnodup, hrest]
    rw [hrest] at hnodup
    exact (List.nodup_cons.mp hnodup).1

/-! ## Reachable coordinators -/

/-- A call that changes nothing does not end a hold, and does not begin it anew. -/
theorem HeldSince.of_step_eq {calls : List Call} {holder : String} {since : UInt64}
    (hv : (c.run calls).state.Valid (c.run calls).roster) (h : HeldSince c holder calls since)
    (hsame : ((c.run calls).step call).2 = c.run calls) :
    HeldSince c holder (calls ++ [call]) since := by
  have hheld := h.holder_history.1
  refine .kept h ?_ ?_
  · rw [← taker_eq_grantee hv, taker, hsame, hheld]
    simp
  · rw [run_concat, hsame]
    exact hheld

/-- **Calls keep to their backend.** A call that gains its backend nothing changes nothing, and
whoever holds the slot holds it from the same time as before. A request, a report of completion and
a report of a restart without permission leave all other backends alone: their audit lists, their
histories, their requests with all fields and the order of these, and whether they have the slot.
The one exception is the head of the backlog, which takes over if the call frees the slot. -/
theorem calls_isolated (policy : Policy) (roster : Option (List String)) (calls : List Call)
    (call : Call) :
    let c := (new policy roster).run calls
    let after := (c.step call).2
    (c.GainsNothing call → after = c ∧
      ∀ holder since, HeldSince (new policy roster) holder calls since →
        HeldSince (new policy roster) holder (calls ++ [call]) since) ∧
    ∀ server, call.server? = some server →
      let promoted := c.promoted call server
      c.state.Spares (server :: promoted.toList) after.state ∧
      (∀ other, other ≠ server → promoted ≠ some other →
        after.state.requestOf? other = c.state.requestOf? other ∧
        (after.state.holder = some other ↔ c.state.holder = some other)) ∧
      ∀ next, promoted = some next →
        next ≠ server ∧ TakesOver next call.now c.state after.state := by
  intro c after
  have hv : c.state.Valid c.roster := run_valid (c := new policy roster) (.initial roster) calls
  have ht : Transition c call (c.grantee call) after := c.transition_step call
  refine ⟨fun hnothing => ?_, fun server hserver => ?_⟩
  · have hsame : after = c := step_of_gainsNothing hnothing
    exact ⟨hsame, fun holder since hsince => hsince.of_step_eq hv hsame⟩
  · intro promoted
    have hlost := frees_iff_lost hv hserver
    have hspares := ht.spares hv hserver
    -- Another backend gains the slot only in a call that frees it.
    by_cases hfrees : c.frees call = true
    · have hpromoted : promoted = c.state.waiting.head? := if_pos (hlost.mp hfrees)
      rw [if_pos hfrees, ← hpromoted] at hspares
      refine ⟨hspares, fun other hother hnext => ⟨hspares.requestOf?_eq ?_, ?_⟩,
        fun next hnext => ?_⟩
      · simpa [hother, eq_comm] using hnext
      · exact ht.holder_eq_iff hv hserver hother fun _ => hpromoted ▸ hnext
      · exact ht.takesOver hv hserver hfrees (hpromoted ▸ hnext)
    · have hpromoted : promoted = none := if_neg (mt hlost.mpr hfrees)
      rw [if_neg hfrees] at hspares
      rw [hpromoted]
      refine ⟨hspares, fun other hother _ => ⟨hspares.requestOf?_eq ?_, ?_⟩, nofun⟩
      · simpa using hother
      · exact ht.holder_eq_iff hv hserver hother fun h => absurd h hfrees

/-- One backend has the slot and two wait. The first of these reports the end of a restart that it
has not begun, and then the holder is reported to have restarted without permission. -/
theorem calls_isolated_of_promoted :
    let policy : Policy := ⟨.ofMillis 100, .ofMillis 30, .ofMillis 600, .ofMillis 300⟩
    let calls : List Call := [.request "a" 0, .request "b" 5, .request "c" 7]
    let c := (new policy none).run calls
    let report : Call := .complete "b" 10
    let intrusion : Call := .unauthorized "a" 20
    let after := (c.step intrusion).2
    (c.GainsNothing report ∧ (c.step report).2 = c ∧ HeldSince (new policy none) "a" calls 0 ∧
      HeldSince (new policy none) "a" (calls ++ [report]) 0) ∧
    intrusion.server? = some "a" ∧ c.promoted intrusion "a" = some "b" ∧
      c.state.Spares ["a", "b"] after.state ∧
      after.state.requestOf? "c" = some (.first "c" 7) ∧
      (after.state.holder = some "c" ↔ c.state.holder = some "c") ∧
      TakesOver "b" 20 c.state after.state := by
  intro policy calls c report intrusion after
  have hc : (new policy none).run calls = c := rfl
  have hnothing : c.GainsNothing report := ⟨⟨"b", some "a"⟩, rfl⟩
  have hgranted : HeldSince (new policy none) "a" ([] ++ [.request "a" 0]) 0 :=
    .granted (by decide +kernel)
  have hkept : HeldSince (new policy none) "a" ([.request "a" 0] ++ [.request "b" 5]) 0 :=
    .kept hgranted (by decide +kernel) (by decide +kernel)
  have hheld : HeldSince (new policy none) "a"
      ([.request "a" 0, .request "b" 5] ++ [.request "c" 7]) 0 :=
    .kept hkept (by decide +kernel) (by decide +kernel)
  have hpromoted : c.promoted intrusion "a" = some "b" := by decide +kernel
  have hwaits : c.state.requestOf? "c" = some (.first "c" 7) := by decide +kernel
  obtain ⟨hsame, hsince⟩ := (calls_isolated policy none calls report).1 hnothing
  obtain ⟨hspares, hothers, hnext⟩ := (calls_isolated policy none calls intrusion).2 "a" rfl
  rw [hc] at hspares hothers hnext
  rw [hpromoted] at hspares hothers hnext
  obtain ⟨hrequest, hholder⟩ := hothers "c" (by decide) (by decide)
  exact ⟨⟨hnothing, hsame, hheld, hsince "a" 0 hheld⟩, rfl, hpromoted, hspares,
    hrequest.trans hwaits, hholder, (hnext "b" rfl).2⟩

end Coordinator

end GameHub.Restart
