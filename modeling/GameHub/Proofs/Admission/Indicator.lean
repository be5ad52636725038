import GameHub.Proofs.Admission.Content
import GameHub.Proofs.Admission.Refinement
import Mathlib.Data.List.Induction

/-!
# No standing text is left behind

A player in line has a text on the screen that tells its place. It stays there until it is replaced
or cleared, so whatever takes an entry out of the line has to clear it, and nothing may write it
again afterwards.

**Theorem (`no_ghost_indicator`).** If the last signal that set or cleared the text of a player set
it, then the player is in line, or a pass dropped its entry because the player was gone, and the
player has not been in line since. And no call that asks who is there sends a signal to anyone who
is not.

The run is taken apart at its end, and a call gives two facts: whoever is shown a place is in line
after the call (`isQueued_of_shown`), and whoever leaves the line in a call is cleared in it, or
gone (`cleared_or_gone`). The first needs that a pass writes places last, from the ledger that it
leaves.
Neither needs that a player has only one entry or that a decision was made before it is handed back,
so the desk may be any.
-/

namespace GameHub

open Backend

/-- The signal sets or clears the standing text of the player. -/
def Signal.indicates (subject : PlayerId) : Signal → Bool
  | .notice _ _ => false
  | .progress s _ | .clear s => s = subject

namespace Admission

/-- The last signal that set or cleared the standing text of a player. -/
def lastIndicator (subject : PlayerId) (signals : List Signal) : Option Signal :=
  (signals.filter (·.indicates subject)).getLast?

theorem lastIndicator_append (subject : PlayerId) (first later : List Signal) :
    lastIndicator subject (first ++ later) =
      (lastIndicator subject later).or (lastIndicator subject first) := by
  rw [lastIndicator, List.filter_append, List.getLast?_append]
  rfl

theorem mem_of_lastIndicator {subject : PlayerId} {signals : List Signal} {signal : Signal}
    (h : lastIndicator subject signals = some signal) : signal ∈ signals :=
  List.mem_of_mem_filter (List.mem_of_getLast? h)

theorem lastIndicator_eq_none {subject : PlayerId} {signals : List Signal} :
    lastIndicator subject signals = none ↔
      ∀ signal ∈ signals, signal.indicates subject = false := by
  simp [lastIndicator]

/-- Who is there, as a call is told. -/
def Call.live? : Call → Option (PlayerId → Bool)
  | .position _ live | .reconcile _ live | .refresh live | .requeue _ _ live => some live
  | _ => none

/-! ## The operations of the queue -/

/-- A player who is found in the heap array loses one entry. -/
theorem find_removeAt (ledger : Ledger) (subject : PlayerId) :
    (ledger.find subject).bind ledger.removeAt = none ∨
    ∃ taken rest, (ledger.find subject).bind ledger.removeAt = some (taken, rest) ∧
      taken.ticket.subject = subject ∧ ledger.tickets.Perm (taken.ticket :: rest.tickets) := by
  rcases ledger.removeAt_findIdx? (·.subject = subject) with
    ⟨hnone, -⟩ | ⟨taken, rest, hsome, htaken, -, hperm⟩
  · exact .inl hnone
  · exact .inr ⟨taken, rest, hsome, of_decide_eq_true htaken, hperm⟩

namespace Queue

variable {q : Queue} {subject other : PlayerId} {live : PlayerId → Bool} {signal : Signal}
  {ledger : Ledger}

/-- Places are told to those in line who are there. -/
theorem subject_of_mem_progressSignals (h : signal ∈ progressSignals ledger live) :
    live signal.subject = true ∧ ∃ t ∈ ledger.tickets, t.subject = signal.subject := by
  obtain ⟨⟨e, i⟩, hmem, rfl⟩ := List.mem_map.mp h
  obtain ⟨he, hlive⟩ := List.mem_filter.mp (List.fst_mem_of_mem_zipIdx hmem)
  exact ⟨hlive, e.ticket, List.mem_map_of_mem ((perm_sortBy ..).mem_iff.mp he), rfl⟩

theorem isQueued_enqueue (rank : Rank) (target : String) (now : UInt64) (backends : Registry)
    (h : q.isQueued subject = true) :
    (q.enqueue other rank target now backends).queue.isQueued subject = true := by
  obtain ⟨t, ht, hsubject⟩ := isQueued_iff.mp h
  rw [isQueued_iff, enqueue]
  rcases find_removeAt q.ledger other with hnone | ⟨taken, rest, hsome, htaken, hperm⟩
  · rw [hnone]
    exact ⟨t, (q.ledger.push_perm ..).mem_iff.mpr (List.mem_cons_of_mem _ ht), hsubject⟩
  · rw [hsome]
    rcases List.mem_cons.mp (hperm.mem_iff.mp ht) with rfl | hrest
    · -- The old entry of the player who joins makes way for the new one.
      refine ⟨_, (rest.push_perm other rank now target).mem_iff.mpr List.mem_cons_self, ?_⟩
      exact htaken.symm.trans hsubject
    · exact ⟨t, (rest.push_perm ..).mem_iff.mpr (List.mem_cons_of_mem _ hrest), hsubject⟩

theorem remove_clears (h : q.isQueued subject = true)
    (hafter : (q.remove other).queue.isQueued subject = false) :
    .clear subject ∈ (q.remove other).signals := by
  obtain ⟨t, ht, hsubject⟩ := isQueued_iff.mp h
  rw [remove] at hafter ⊢
  rcases find_removeAt q.ledger other with hnone | ⟨taken, rest, hsome, htaken, hperm⟩
  · rw [hnone] at hafter
    exact absurd (h.symm.trans hafter) Bool.noConfusion
  · rw [hsome] at hafter ⊢
    rcases List.mem_cons.mp (hperm.mem_iff.mp ht) with rfl | hrest
    · rw [← htaken, hsubject]
      exact List.mem_cons_self
    · exact absurd ((isQueued_iff.mpr ⟨t, hrest, hsubject⟩).symm.trans hafter)
        Bool.noConfusion

section Scan

variable {policy : Policy} {snapshot : List Record} {e : Entry}

theorem live_of_judge (h : judge policy snapshot live e ≠ .gone) : live e.subject = true := by
  by_contra hgone
  rw [Bool.not_eq_true] at hgone
  exact h (by simp [judge, hgone])

/-- Along the way a pass tells nobody a place, and nobody who is gone anything. -/
theorem mem_signals_scan (entries : List Entry)
    (h : signal ∈ (scan policy snapshot live ledger entries).signals) :
    live signal.subject = true ∧ ∀ text, signal ≠ .progress signal.subject text := by
  induction entries generalizing ledger with
  | nil => exact absurd h List.not_mem_nil
  | cons e rest ih =>
    -- Only a player without a backend and the one who is admitted are told anything.
    rw [scan] at h
    cases hjudge : judge policy snapshot live e with
    | wait =>
      rw [hjudge] at h
      exact ih h
    | gone =>
      rw [hjudge] at h
      exact ih h
    | unknownTarget =>
      have hlive := live_of_judge (hjudge.trans_ne Verdict.noConfusion)
      rw [hjudge] at h
      rcases List.mem_cons.mp h with rfl | h
      · exact ⟨hlive, fun _ => Signal.noConfusion⟩
      rcases List.mem_cons.mp h with rfl | h
      · exact ⟨hlive, fun _ => Signal.noConfusion⟩
      · exact ih h
    | serve backend =>
      have hlive := live_of_judge (hjudge.trans_ne Verdict.noConfusion)
      simp only [hjudge] at h
      cases htake : take ledger e with
      | none =>
        rw [htake] at h
        exact absurd h List.not_mem_nil
      | some found =>
        rw [htake] at h
        obtain rfl := List.mem_singleton.mp h
        refine ⟨?_, fun _ => Signal.noConfusion⟩
        exact (take_perm htake).1 ▸ hlive

/-- Whoever is not in line after a pass has been cleared, or is gone. -/
theorem scan_clears (entries : List Entry) (h : ∃ t ∈ ledger.tickets, t.subject = subject)
    (hafter : ∀ t ∈ (scan policy snapshot live ledger entries).ledger.tickets,
      t.subject ≠ subject) :
    .clear subject ∈ (scan policy snapshot live ledger entries).signals ∨
      live subject = false := by
  obtain ⟨t, ht, hsubject⟩ := h
  induction entries generalizing ledger with
  | nil => exact absurd hsubject (hafter t ht)
  | cons e rest ih =>
    obtain ⟨dropped, hdrop, hdropped⟩ := drop_perm ledger e
    -- The ticket belongs to the player of the first entry, or it is left for the rest of the pass.
    have hparts := List.mem_append.mp (hdrop.mem_iff.mp ht)
    rw [scan] at hafter ⊢
    cases hjudge : judge policy snapshot live e with
    | wait =>
      rw [hjudge] at hafter
      exact ih hafter ht
    | gone =>
      rw [hjudge] at hafter
      rcases hparts with hmem | hmem
      · exact .inr (hsubject ▸ hdropped t hmem ▸ not_live_of_gone hjudge)
      · exact ih hafter hmem
    | unknownTarget =>
      rw [hjudge] at hafter
      rcases hparts with hmem | hmem
      · rw [← hsubject, hdropped t hmem]
        exact .inl (List.mem_cons_of_mem _ List.mem_cons_self)
      · exact (ih hafter hmem).imp_left fun h =>
          List.mem_cons_of_mem _ (List.mem_cons_of_mem _ h)
    | serve backend =>
      simp only [hjudge] at hafter ⊢
      cases htake : take ledger e with
      | none =>
        rw [htake] at hafter
        exact absurd hsubject (hafter t ht)
      | some found =>
        rw [htake] at hafter
        rcases List.mem_cons.mp ((take_perm htake).2.mem_iff.mp ht) with rfl | hmem
        · rw [← hsubject]
          exact .inl List.mem_cons_self
        · exact absurd hsubject (hafter t hmem)

end Scan

end Queue

/-! ## One call -/

namespace Desk

variable {d : Desk} {call : Call} {subject : PlayerId} {text : String} {signal : Signal}

theorem isQueued_of_shown (h : .progress subject text ∈ (d.step call).1.signals) :
    (d.step call).2.queue.isQueued subject = true := by
  cases call with
  | enqueue other rank target now backends =>
    exact Signal.noConfusion (List.mem_singleton.mp h)
  | remove other =>
    rw [step, Queue.remove] at h
    split at h
    · exact Signal.noConfusion (List.mem_singleton.mp h)
    · exact absurd h List.not_mem_nil
  | reconcile snapshot live =>
    rw [Queue.isQueued_iff]
    -- The pass shows no place by itself; the renewal after it does.
    rcases List.mem_append.mp h with h | h
    · exact absurd rfl ((Queue.mem_signals_scan _ h).2 text)
    · split at h
      · exact (Queue.subject_of_mem_progressSignals h).2
      · exact absurd h List.not_mem_nil
  | refresh live => exact Queue.isQueued_iff.mpr (Queue.subject_of_mem_progressSignals h).2
  | requeue number error live =>
    rw [step] at h ⊢
    cases hnumber : d.decisions[number]? with
    | none =>
      rw [hnumber] at h
      exact absurd h List.not_mem_nil
    | some decision =>
      simp only [hnumber, Queue.requeue] at h ⊢
      split at h
      · exact absurd h List.not_mem_nil
      · next hdone =>
        rw [if_neg hdone, Queue.isQueued_iff]
        rcases List.mem_cons.mp h with h | h
        · exact Signal.noConfusion h
        · exact (Queue.subject_of_mem_progressSignals h).2
  | _ => exact absurd h List.not_mem_nil

theorem cleared_or_gone (h : d.queue.isQueued subject = true)
    (hafter : (d.step call).2.queue.isQueued subject = false) :
    .clear subject ∈ (d.step call).1.signals ∨
      ∃ snapshot live, call = .reconcile snapshot live ∧ live subject = false := by
  cases call with
  | enqueue other rank target now backends =>
    exact absurd ((Queue.isQueued_enqueue rank target now backends h).symm.trans hafter)
      Bool.noConfusion
  | remove other => exact .inl (Queue.remove_clears h hafter)
  | reconcile snapshot live =>
    have hgone : ∀ t ∈ (d.step (.reconcile snapshot live)).2.queue.ledger.tickets,
        t.subject ≠ subject := by
      intro t ht hsubject
      exact absurd ((Queue.isQueued_iff.mpr ⟨t, ht, hsubject⟩).symm.trans hafter)
        Bool.noConfusion
    rcases Queue.scan_clears _ (Queue.isQueued_iff.mp h) hgone with hclear | hdead
    · exact .inl (List.mem_append_left _ hclear)
    · exact .inr ⟨snapshot, live, rfl, hdead⟩
  | requeue number error live =>
    -- A decision that is handed back takes nobody out of the line.
    refine absurd hafter ?_
    rw [step, Bool.not_eq_false]
    cases hnumber : d.decisions[number]? with
    | none => exact h
    | some decision =>
      obtain ⟨t, ht, hsubject⟩ := Queue.isQueued_iff.mp h
      by_cases hrefused : live decision.entry.subject = false ∨
          d.queue.isQueued decision.entry.subject = true
      · dsimp only
        rw [Queue.requeue_refused decision error hrefused]
        exact h
      · rw [not_or, Bool.not_eq_false, Bool.not_eq_true] at hrefused
        have hperm := Queue.requeue_perm decision error hrefused.1 hrefused.2
        exact Queue.isQueued_iff.mpr
          ⟨t, hperm.mem_iff.mpr (List.mem_cons_of_mem _ ht), hsubject⟩
  | _ => exact absurd (h.symm.trans hafter) Bool.noConfusion

theorem live_of_sent {live : PlayerId → Bool} (hlive : call.live? = some live)
    (h : signal ∈ (d.step call).1.signals) : live signal.subject = true := by
  cases call with
  | position other live' => exact absurd h List.not_mem_nil
  | reconcile snapshot live' =>
    obtain rfl := Option.some.inj hlive
    rcases List.mem_append.mp h with h | h
    · exact (Queue.mem_signals_scan _ h).1
    · split at h
      · exact (Queue.subject_of_mem_progressSignals h).1
      · exact absurd h List.not_mem_nil
  | refresh live' =>
    obtain rfl := Option.some.inj hlive
    exact (Queue.subject_of_mem_progressSignals h).1
  | requeue number error live' =>
    obtain rfl := Option.some.inj hlive
    rw [step] at h
    cases hnumber : d.decisions[number]? with
    | none =>
      rw [hnumber] at h
      exact absurd h List.not_mem_nil
    | some decision =>
      simp only [hnumber, Queue.requeue] at h
      split at h
      · exact absurd h List.not_mem_nil
      · next hdone =>
        rcases List.mem_cons.mp h with rfl | h
        · simp only [Bool.or_eq_true, Bool.not_eq_true', not_or, Bool.not_eq_false] at hdone
          exact hdone.1
        · exact (Queue.subject_of_mem_progressSignals h).1
  | _ => cases hlive

/-! ## Runs -/

/-- All signals of a run, in the order in which they are sent. -/
def sent (d : Desk) (calls : List Call) : List Signal := (d.run calls).1.flatMap (·.signals)

theorem sent_concat (d : Desk) (calls : List Call) (call : Call) :
    d.sent (calls ++ [call]) = d.sent calls ++ ((d.run calls).2.step call).1.signals := by
  rw [sent, fst_run_append, List.flatMap_append]
  exact congrArg (d.sent calls ++ ·) (List.append_nil _)

/-- A pass has dropped the entry of the player, whom it took for gone, and the player has not been
in line since. -/
def DroppedAsGone (d : Desk) (calls : List Call) (subject : PlayerId) : Prop :=
  ∃ before snapshot live after, calls = before ++ .reconcile snapshot live :: after ∧
    live subject = false ∧ (d.run before).2.queue.isQueued subject = true ∧
    ∀ since, since <+: after →
      (d.run (before ++ .reconcile snapshot live :: since)).2.queue.isQueued subject = false

theorem DroppedAsGone.concat {calls : List Call} (h : d.DroppedAsGone calls subject)
    (hafter : (d.run (calls ++ [call])).2.queue.isQueued subject = false) :
    d.DroppedAsGone (calls ++ [call]) subject := by
  obtain ⟨before, snapshot, live, after, rfl, hgone, hqueued, hsince⟩ := h
  refine ⟨before, snapshot, live, after ++ [call], by simp, hgone, hqueued, fun since h => ?_⟩
  rcases List.prefix_concat_iff.mp h with rfl | h
  · simpa using hafter
  · exact hsince since h

theorem queued_or_dropped (calls : List Call)
    (h : lastIndicator subject (d.sent calls) = some (.progress subject text)) :
    (d.run calls).2.queue.isQueued subject = true ∨ d.DroppedAsGone calls subject := by
  induction calls using List.reverseRecOn with
  | nil => cases h
  | append_singleton calls call ih =>
    by_cases hafter : (d.run (calls ++ [call])).2.queue.isQueued subject = true
    · exact .inl hafter
    rw [Bool.not_eq_true] at hafter
    have hstep := hafter
    rw [snd_run_append] at hstep
    rw [sent_concat, lastIndicator_append, Option.or_eq_some_iff] at h
    rcases h with hlast | ⟨hnone, hlast⟩
    · -- The text was set in this call, so the player is in line after it.
      exact absurd ((isQueued_of_shown (mem_of_lastIndicator hlast)).symm.trans hstep)
        Bool.noConfusion
    rcases ih hlast with hqueued | hdropped
    · refine .inr ?_
      -- A player who leaves in this call without a clearing signal was dropped by its pass.
      rcases cleared_or_gone hqueued hstep with hclear | ⟨snapshot, live, rfl, hgone⟩
      · have hquiet := lastIndicator_eq_none.mp hnone _ hclear
        simp [Signal.indicates] at hquiet
      · refine ⟨calls, snapshot, live, [], rfl, hgone, hqueued, fun since h => ?_⟩
        rw [List.prefix_nil.mp h]
        exact hafter
    · exact .inr (hdropped.concat hafter)

/-- **No standing text is left behind.** -/
theorem no_ghost_indicator (d : Desk) (calls : List Call) :
    (∀ subject text,
      lastIndicator subject (d.sent calls) = some (.progress subject text) →
      (d.run calls).2.queue.isQueued subject = true ∨ d.DroppedAsGone calls subject) ∧
    ∀ call live, call.live? = some live →
      ∀ signal ∈ ((d.run calls).2.step call).1.signals, live signal.subject = true :=
  ⟨fun _ _ => queued_or_dropped calls, fun _ _ hlive _ => live_of_sent hlive⟩

/-- Two players wait for a full backend, and the second one vanishes. -/
theorem no_ghost_indicator_of_vanished :
    let lobby : Record := ⟨"lobby", "lobby", "10.0.0.2:25565", none, .up 10 10, 0, none⟩
    let here : PlayerId → Bool := (· != 2)
    let calls : List Call := [.enqueue 1 .player "lobby" 10 default,
      .enqueue 2 .player "lobby" 20 default, .refresh fun _ => true, .reconcile [lobby] here]
    let d := Desk.new default
    lastIndicator 1 (d.sent calls) =
      some (.progress 1 "Queue for lobby: position 1/1 (next)") ∧
    lastIndicator 2 (d.sent calls) =
      some (.progress 2 "Queue for lobby: position 2/2 (short wait)") ∧
    (d.run calls).2.queue.isQueued 1 = true ∧ d.DroppedAsGone calls 2 ∧
    ∀ signal ∈ ((d.run calls).2.step (.refresh here)).1.signals, here signal.subject = true := by
  intro lobby here calls d
  have hfirst : lastIndicator 1 (d.sent calls) =
      some (.progress 1 "Queue for lobby: position 1/1 (next)") := by decide +kernel
  have hsecond : lastIndicator 2 (d.sent calls) =
      some (.progress 2 "Queue for lobby: position 2/2 (short wait)") := by decide +kernel
  have hgone : (d.run calls).2.queue.isQueued 2 = false := by decide +kernel
  obtain ⟨hshown, hlive⟩ := no_ghost_indicator d calls
  refine ⟨hfirst, hsecond, by decide +kernel, (hshown 2 _ hsecond).resolve_left ?_,
    hlive (.refresh here) here rfl⟩
  simp [hgone]

end Desk

end Admission

end GameHub
