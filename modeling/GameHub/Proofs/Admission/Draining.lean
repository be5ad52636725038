import GameHub.Proofs.Admission.Content
import GameHub.Proofs.Admission.Pass

/-!
# Draining the line

A pass admits one player, because a transfer takes time. Here passes are made one after the other
while the backends and the players who are there stay as they are.

**Theorem (`drains`).** The passes admit the admissible tickets one by one, in the order of the
line, whatever stands between them. The pass after the last of them drops what is left of the bad
tickets. From then on the line is that of the tickets that have to wait, in their old order, and a
pass changes nothing at all, not even the layout of the heap array.

A ticket is admissible or not by itself, so what one pass does can be said of two filters of the
line: it takes the head of the admissible tickets and leaves those that wait alone (`walk_filter`).
-/

namespace GameHub.Admission

open Backend

/-- The player is there and its backend is known, but has no room for its rank. -/
def Waits (policy : Policy) (snapshot : List Record) (live : PlayerId → Bool) (t : Ticket) : Prop :=
  ¬ Bad snapshot live t ∧ ¬ Admissible policy snapshot live t

instance (policy : Policy) (snapshot : List Record) (live : PlayerId → Bool) (t : Ticket) :
    Decidable (Waits policy snapshot live t) :=
  inferInstanceAs (Decidable (_ ∧ _))

/-! ## One pass -/

section Pass

variable {policy : Policy} {snapshot : List Record} {live : PlayerId → Bool}

/-- A walk takes the first admissible ticket, and leaves those that wait where they are. -/
theorem walk_filter (policy : Policy) (snapshot : List Record) (live : PlayerId → Bool)
    (tickets : List Ticket) :
    (Line.walk policy snapshot live tickets).kept.filter
        (fun t => Admissible policy snapshot live t) =
      (tickets.filter fun t => Admissible policy snapshot live t).tail ∧
    (Line.walk policy snapshot live tickets).kept.filter (fun t => Waits policy snapshot live t) =
      tickets.filter fun t => Waits policy snapshot live t := by
  induction tickets with
  | nil => exact ⟨rfl, rfl⟩
  | cons t rest ih =>
    by_cases h : Admissible policy snapshot live t
    · obtain ⟨hlive, record, hbackend, hroom⟩ := id h
      have hwaits : ¬ Waits policy snapshot live t := fun hwaits => hwaits.2 h
      rw [walk_cons_of_admissible hlive hbackend hroom, List.filter_cons_of_pos (by simpa using h),
        List.filter_cons_of_neg (by simpa using hwaits), List.tail_cons]
      exact ⟨rfl, rfl⟩
    · rw [(walk_cons_of_not_admissible h rest).1, List.filter_append, List.filter_append, ih.1,
        ih.2]
      by_cases hbad : Bad snapshot live t
      · have hwaits : ¬ Waits policy snapshot live t := fun hwaits => hwaits.1 hbad
        simp [h, hbad, hwaits]
      · have hwaits : Waits policy snapshot live t := ⟨hbad, h⟩
        simp [h, hbad, hwaits]

/-- Without an admissible ticket a walk drops all bad ones. -/
theorem kept_of_no_admissible {tickets : List Ticket}
    (h : (tickets.filter fun t => Admissible policy snapshot live t) = []) :
    (Line.walk policy snapshot live tickets).kept =
      tickets.filter fun t => Waits policy snapshot live t := by
  have hnone : ∀ t ∈ tickets, ¬ Admissible policy snapshot live t := by
    simpa [List.filter_eq_nil_iff] using h
  have hwalk := (walk_append_of_not_admissible hnone []).1
  rw [List.append_nil, Line.walk, List.append_nil] at hwalk
  rw [hwalk]
  refine List.filter_congr fun t ht => ?_
  simp [Waits, hnone t ht]

theorem judge_eq_wait {e : Entry} (h : Waits policy snapshot live e.ticket) :
    Queue.judge policy snapshot live e = .wait := by
  cases hjudge : Queue.judge policy snapshot live e with
  | wait => rfl
  | gone => exact absurd (.inl (Queue.not_live_of_gone hjudge)) h.1
  | unknownTarget =>
    exact absurd (bad_iff.mpr (.inr (Queue.backendIn_of_unknownTarget hjudge))) h.1
  | serve backend =>
    have hlive : live e.ticket.subject = true := Bool.of_not_eq_false fun hgone => h.1 (.inl hgone)
    have hbackend := backendIn_eq_some_iff.mp (Queue.backendIn_of_serve hjudge)
    have hroom := Policy.capacity_eq_place_iff.mp (Queue.place_of_serve hjudge)
    exact absurd ⟨hlive, backend, hbackend, hroom⟩ h.2

theorem Queue.scan_of_wait {entries : List Entry}
    (h : ∀ e ∈ entries, Queue.judge policy snapshot live e = .wait) (ledger : Ledger) :
    Queue.scan policy snapshot live ledger entries = ⟨ledger, [], false, none⟩ := by
  induction entries with
  | nil => rfl
  | cons e rest ih =>
    rw [Queue.scan, h e List.mem_cons_self]
    exact ih fun e he => h e (List.mem_cons_of_mem _ he)

/-- A pass along players who all have to wait does nothing. -/
theorem Queue.reconcile_of_waits {q : Queue}
    (h : ∀ e ∈ q.entries, Waits q.policy snapshot live e.ticket) :
    q.reconcile snapshot live = ⟨none, q, []⟩ := by
  have hscan := Queue.scan_of_wait (fun e he => judge_eq_wait (h e he)) q.ledger
  rw [Queue.reconcile, hscan]
  rfl

end Pass

/-! ## Passes one after the other -/

/-- The queue after so many passes. -/
def Queue.afterPasses (q : Queue) (snapshot : List Record) (live : PlayerId → Bool) : Nat → Queue
  | 0 => q
  | n + 1 => ((q.afterPasses snapshot live n).reconcile snapshot live).queue

/-- The line after so many passes. -/
def Line.afterPasses (l : Line) (policy : Policy) (snapshot : List Record)
    (live : PlayerId → Bool) : Nat → Line
  | 0 => l
  | n + 1 => (l.afterPasses policy snapshot live n).after policy snapshot live

section Passes

variable {q : Queue} {l : Line} (policy : Policy) (snapshot : List Record)
  (live : PlayerId → Bool)

@[simp] theorem Queue.policy_afterPasses (n : Nat) :
    (q.afterPasses snapshot live n).policy = q.policy := by
  induction n with
  | zero => rfl
  | succ n ih => exact ih

theorem Line.Distinct.afterPasses (hd : l.Distinct) (n : Nat) :
    (l.afterPasses policy snapshot live n).Distinct := by
  induction n with
  | zero => exact hd
  | succ n ih => exact ih.sublist ((Line.walk_kept_sublist ..).map _)

theorem Models.afterPasses (h : Models q l) (hd : l.Distinct) (n : Nat) :
    Models (q.afterPasses snapshot live n) (l.afterPasses q.policy snapshot live n) := by
  induction n with
  | zero => exact h
  | succ n ih =>
    have hnext := (ih.reconcile (hd.afterPasses q.policy snapshot live n) snapshot live).2.2
    rwa [Queue.policy_afterPasses] at hnext

/-- After so many passes as many of the admissible tickets are gone from the front. -/
theorem Line.filter_afterPasses (l : Line) (n : Nat) :
    (l.afterPasses policy snapshot live n).tickets.filter
        (fun t => Admissible policy snapshot live t) =
      (l.tickets.filter fun t => Admissible policy snapshot live t).drop n ∧
    (l.afterPasses policy snapshot live n).tickets.filter
        (fun t => Waits policy snapshot live t) =
      l.tickets.filter fun t => Waits policy snapshot live t := by
  induction n with
  | zero => exact ⟨rfl, rfl⟩
  | succ n ih =>
    obtain ⟨hadmissible, hwaits⟩ :=
      walk_filter policy snapshot live (l.afterPasses policy snapshot live n).tickets
    refine ⟨hadmissible.trans ?_, hwaits.trans ih.2⟩
    rw [ih.1, List.tail_drop]

/-- When the admissible tickets are gone, one more pass leaves those that wait. -/
theorem Line.tickets_afterPasses (l : Line) {n : Nat}
    (h : (l.tickets.filter fun t => Admissible policy snapshot live t).length < n) :
    (l.afterPasses policy snapshot live n).tickets =
      l.tickets.filter fun t => Waits policy snapshot live t := by
  cases n with
  | zero => exact absurd h (Nat.not_lt_zero _)
  | succ n =>
    obtain ⟨hadmissible, hwaits⟩ := l.filter_afterPasses policy snapshot live n
    rw [List.drop_of_length_le (Nat.le_of_lt_succ h)] at hadmissible
    exact (kept_of_no_admissible hadmissible).trans hwaits

end Passes

/-! ## The result -/

namespace Desk

/-- **The line drains.** Pass after pass admits one player, those who are admissible in their order,
and then only those are left who have to wait. -/
theorem drains (policy : Policy) (calls : List Call) (snapshot : List Record)
    (live : PlayerId → Bool) :
    let queue := ((Desk.new policy).run calls).2.queue
    let line := queue.entries.map Entry.ticket
    let admissible := line.filter fun t => Admissible policy snapshot live t
    (∀ n, ((queue.afterPasses snapshot live n).reconcile snapshot live).result.map
      (·.entry.ticket) = admissible[n]?) ∧
    ∀ n, admissible.length < n →
      (queue.afterPasses snapshot live n).entries.map Entry.ticket =
        line.filter (fun t => ¬ Bad snapshot live t ∧ ¬ Admissible policy snapshot live t) ∧
      (queue.afterPasses snapshot live n).reconcile snapshot live =
        ⟨none, queue.afterPasses snapshot live n, []⟩ := by
  intro queue line admissible
  obtain ⟨l, hmodels, hd⟩ := exists_models_run policy calls
  have hpolicy : queue.policy = policy := policy_run (Desk.new policy) calls
  have hline : line = l.tickets := hmodels.sorted_eq hd
  -- The passes are made on the list of tickets, which the queue stands for after each of them.
  have hpasses := hmodels.afterPasses snapshot live hd
  rw [hpolicy] at hpasses
  have hdistinct := hd.afterPasses policy snapshot live
  constructor
  · intro n
    have hoffer := ((hpasses n).reconcile (hdistinct n) snapshot live).1
    rw [Queue.policy_afterPasses, hpolicy] at hoffer
    calc ((queue.afterPasses snapshot live n).reconcile snapshot live).result.map (·.entry.ticket)
        = (((queue.afterPasses snapshot live n).reconcile snapshot live).result.map
            Decision.offer).map (·.ticket) := by rw [Option.map_map]; rfl
      _ = (admissible.drop n).head? := by
          rw [hoffer, offer_walk, ← List.head?_filter, (Line.filter_afterPasses ..).1, ← hline]
      _ = admissible[n]? := List.head?_drop
  · intro n hn
    have hleft : (queue.afterPasses snapshot live n).entries.map Entry.ticket =
        line.filter fun t => Waits policy snapshot live t := by
      rw [Queue.entries, (hpasses n).sorted_eq (hdistinct n), hline]
      exact Line.tickets_afterPasses policy snapshot live _ (hline ▸ hn)
    -- All who can be admitted are through, so everybody left has to wait.
    refine ⟨hleft, Queue.reconcile_of_waits fun e he => ?_⟩
    have hmem : e.ticket ∈ line.filter fun t => Waits policy snapshot live t :=
      hleft ▸ List.mem_map_of_mem he
    rw [Queue.policy_afterPasses, hpolicy]
    exact of_decide_eq_true (List.mem_filter.mp hmem).2

/-- Of seven players two can be admitted. One of them is behind a player who is gone and one for an
unknown backend, the other one is behind two who have to wait. -/
theorem drains_past_those_who_wait :
    let policy : Policy := ⟨2, .moderator⟩
    let calls : List Call := [.enqueue 1 .admin "lobby" 0 default,
      .enqueue 2 .admin "nowhere" 10 default, .enqueue 3 .moderator "lobby" 20 default,
      .enqueue 4 .moderator "arena" 30 default, .enqueue 5 .player "nowhere" 4 default,
      .enqueue 6 .player "lobby" 5 default, .enqueue 7 .player "hall" 6 default]
    let snapshot : List Record :=
      [⟨"arena", "arena", "10.0.0.3:25565", none, .up 5 5, 0, none⟩,
        ⟨"lobby", "lobby", "10.0.0.2:25565", none, .up 9 10, 0, none⟩,
        ⟨"hall", "hall", "10.0.0.4:25565", none, .up 0 10, 0, none⟩]
    let live : PlayerId → Bool := (· ≠ 1)
    let queue := ((Desk.new policy).run calls).2.queue
    let admissible := (queue.entries.map Entry.ticket).filter fun t =>
      Admissible policy snapshot live t
    let admitted (n : Nat) :=
      ((queue.afterPasses snapshot live n).reconcile snapshot live).result.map (·.entry.ticket)
    admissible.length < 3 ∧ admitted 0 = some ⟨3, .moderator, 20, "lobby", 2⟩ ∧
      admitted 1 = some ⟨7, .player, 6, "hall", 6⟩ ∧ admitted 2 = none ∧
      (queue.afterPasses snapshot live 3).entries.map Entry.ticket =
        [⟨4, .moderator, 30, "arena", 3⟩, ⟨6, .player, 5, "lobby", 5⟩] ∧
      (queue.afterPasses snapshot live 3).reconcile snapshot live =
        ⟨none, queue.afterPasses snapshot live 3, []⟩ := by
  intro policy calls snapshot live queue admissible admitted
  have hadmissible : admissible =
      [⟨3, .moderator, 20, "lobby", 2⟩, ⟨7, .player, 6, "hall", 6⟩] := by decide +kernel
  have hlength : admissible.length < 3 := by rw [hadmissible]; decide
  obtain ⟨hresult, hleft⟩ := drains policy calls snapshot live
  obtain ⟨hline, hfixed⟩ := hleft 3 hlength
  have hadmitted (n : Nat) : admitted n = admissible[n]? := hresult n
  rw [hadmissible] at hadmitted
  exact ⟨hlength, hadmitted 0, hadmitted 1, hadmitted 2, hline.trans (by decide +kernel), hfixed⟩

end Desk

end GameHub.Admission
