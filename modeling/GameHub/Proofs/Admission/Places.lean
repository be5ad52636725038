import GameHub.Proofs.Admission.Refinement

/-!
# Places in line

A player learns its place in two ways. Whoever asks is told how many of the heap array are ahead;
the text on the screen numbers a sorted copy of the line. Both leave out those who are gone, and
both give the same number.

**Theorem (`places_agree`).** The place of a player is its index among the players who are there, in
the order of service and counted from one. So the places are the numbers from one to the count of
those players, each of them once. A refresh tells all of them their place and the count; a pass and
a decision that goes back end with the same signals for the line that they leave if they changed it,
and tell nobody a place if they did not.

The two counts are brought together on the plain line, where the order is strict because no two
tickets are of one insertion (`Models.position_eq`, `Models.progress_eq`).
-/

namespace GameHub.Admission

open Backend

/-! ## Places in a plain line -/

namespace Line

variable {l : Line} {subject : PlayerId} {live : PlayerId → Bool} {place : Nat}

/-- The tickets of the players who are there. -/
def present (l : Line) (live : PlayerId → Bool) : List Ticket := l.tickets.filter (live ·.subject)

theorem nodup_present (l : Line) (live : PlayerId → Bool) :
    ((l.present live).map (·.subject)).Nodup :=
  l.unique.sublist (List.filter_sublist.map _)

theorem position_eq_some_iff : l.position subject live = some place ↔
    ∃ i, place = i + 1 ∧ (l.present live)[i]?.map (·.subject) = some subject := by
  rw [position, Option.map_eq_some_iff]
  constructor
  · rintro ⟨i, hfound, rfl⟩
    obtain ⟨hi, hsubject, -⟩ := List.findIdx?_eq_some_iff_getElem.mp hfound
    refine ⟨i, rfl, ?_⟩
    rw [present, List.getElem?_eq_getElem hi, Option.map_some, of_decide_eq_true hsubject]
  · rintro ⟨i, rfl, hsubject⟩
    obtain ⟨t, ht, hsubject⟩ := Option.map_eq_some_iff.mp hsubject
    obtain ⟨hi, rfl⟩ := List.getElem?_eq_some_iff.mp ht
    refine ⟨i, List.findIdx?_eq_some_iff_getElem.mpr ⟨hi, decide_eq_true hsubject, ?_⟩, rfl⟩
    -- Nobody ahead is the same player.
    intro j hj hsame
    have hne := List.pairwise_iff_getElem.mp (List.pairwise_map.mp (l.nodup_present live)) j i
      (Nat.lt_trans hj hi) hi hj
    exact hne ((of_decide_eq_true hsame).trans hsubject.symm)

theorem position_eq_none_iff : l.position subject live = none ↔
    subject ∉ (l.present live).map (·.subject) := by
  rw [position, Option.map_eq_none_iff, List.findIdx?_eq_none_iff, present]
  simp

end Line

/-! ## Places in the queue -/

namespace Queue

/-- The entries of the players who are there, in the order of service. -/
def present (q : Queue) (live : PlayerId → Bool) : List Entry := q.entries.filter (live ·.subject)

/-- The signals tell every player who is there its place, in the order of the line. -/
structure TellsPlaces (q : Queue) (live : PlayerId → Bool) (signals : List Signal) : Prop where
  length : signals.length = (q.present live).length
  signal : ∀ (i : Nat) (e : Entry), (q.present live)[i]? = some e →
    ∃ place, q.position e.subject live = some place ∧ signals[i]? =
      some (.progress e.subject (Notice.progress e.target place (q.present live).length))

/-- The signals end with the places of the players, and nobody is told a place before that. -/
def EndsWithPlaces (q : Queue) (live : PlayerId → Bool) (signals : List Signal) : Prop :=
  ∃ first places, signals = first ++ places ∧
    (∀ signal ∈ first, ∀ text, signal ≠ .progress signal.subject text) ∧
    q.TellsPlaces live places

end Queue

namespace Models

variable {q : Queue} {l : Line}

theorem present_eq (h : Models q l) (hd : l.Distinct) (live : PlayerId → Bool) :
    (q.present live).map Entry.ticket = l.present live := by
  rw [Line.present, ← h.sorted_eq hd, List.filter_map]
  rfl

theorem position_eq_some_iff (h : Models q l) (hd : l.Distinct) {subject : PlayerId}
    {live : PlayerId → Bool} {place : Nat} : q.position subject live = some place ↔
      ∃ i, place = i + 1 ∧ (q.present live)[i]?.map (·.subject) = some subject := by
  rw [h.position_eq hd, Line.position_eq_some_iff, ← h.present_eq hd live]
  simp only [List.getElem?_map, Option.map_map]
  rfl

theorem position_eq_none_iff (h : Models q l) (hd : l.Distinct) {subject : PlayerId}
    {live : PlayerId → Bool} : q.position subject live = none ↔
      subject ∉ (q.present live).map (·.subject) := by
  rw [h.position_eq hd, Line.position_eq_none_iff, ← h.present_eq hd live, List.map_map]
  rfl

/-- The places are counted from one without gaps. -/
theorem exists_position_iff (h : Models q l) (hd : l.Distinct) {live : PlayerId → Bool}
    {place : Nat} : (∃ subject, q.position subject live = some place) ↔
      1 ≤ place ∧ place ≤ (q.present live).length := by
  constructor
  · rintro ⟨subject, hplace⟩
    obtain ⟨i, rfl, hsubject⟩ := (h.position_eq_some_iff hd).mp hplace
    obtain ⟨e, he, -⟩ := Option.map_eq_some_iff.mp hsubject
    obtain ⟨hi, -⟩ := List.getElem?_eq_some_iff.mp he
    exact ⟨Nat.le_add_left .., hi⟩
  · rintro ⟨hpos, hle⟩
    have hi : place - 1 < (q.present live).length := by omega
    refine ⟨(q.present live)[place - 1].subject, (h.position_eq_some_iff hd).mpr ?_⟩
    refine ⟨place - 1, by omega, ?_⟩
    rw [List.getElem?_eq_getElem hi, Option.map_some]

/-- No two players are at one place. -/
theorem position_inj (h : Models q l) (hd : l.Distinct) {live : PlayerId → Bool} {place : Nat}
    {subject other : PlayerId} (hsubject : q.position subject live = some place)
    (hother : q.position other live = some place) : subject = other := by
  obtain ⟨i, rfl, hi⟩ := (h.position_eq_some_iff hd).mp hsubject
  obtain ⟨j, hij, hj⟩ := (h.position_eq_some_iff hd).mp hother
  obtain rfl : i = j := by omega
  exact Option.some_inj.mp (hi.symm.trans hj)

theorem tellsPlaces (h : Models q l) (hd : l.Distinct) (live : PlayerId → Bool) :
    q.TellsPlaces live (Queue.progressSignals q.ledger live) := by
  have hsignals : Queue.progressSignals q.ledger live =
      (q.present live).zipIdx.map fun p =>
        .progress p.1.subject (Notice.progress p.1.target (p.2 + 1) (q.present live).length) := rfl
  refine ⟨by rw [hsignals, List.length_map, List.length_zipIdx], fun i e he => ?_⟩
  refine ⟨i + 1, (h.position_eq_some_iff hd).mpr ⟨i, rfl, by rw [he, Option.map_some]⟩, ?_⟩
  rw [hsignals, List.getElem?_map, List.getElem?_zipIdx, he]
  simp

end Models

/-! ## Passes -/

namespace Line

variable {policy : Policy} {snapshot : List Record} {live : PlayerId → Bool}
  {tickets : List Ticket}

/-- A walk that changed nothing has passed all tickets without a word. -/
theorem walk_of_not_changed (h : (walk policy snapshot live tickets).changed = false) :
    walk policy snapshot live tickets = ⟨tickets, [], false, none⟩ := by
  fun_induction walk policy snapshot live tickets with
  | case1 => rfl
  | case2 => cases h
  | case3 t rest _ _ _ _ later ih =>
    have hlater : later = ⟨rest, [], false, none⟩ := ih h
    rw [hlater]
  | case4 => cases h
  | case5 => cases h

theorem length_kept_of_changed (h : (walk policy snapshot live tickets).changed = true) :
    (walk policy snapshot live tickets).kept.length < tickets.length := by
  fun_induction walk policy snapshot live tickets with
  | case1 => cases h
  | case2 t rest => exact Nat.lt_succ_self _
  | case3 t rest _ _ _ _ later ih => exact Nat.succ_lt_succ (ih h)
  | case4 t rest => exact Nat.lt_succ_of_le (walk_kept_sublist ..).length_le
  | case5 t rest => exact Nat.lt_succ_of_le (walk_kept_sublist ..).length_le

/-- Along the way a walk tells nobody a place. -/
theorem not_progress_of_mem_walk {signal : Signal}
    (h : signal ∈ (walk policy snapshot live tickets).signals) (text : String) :
    signal ≠ .progress signal.subject text := by
  fun_induction walk policy snapshot live tickets with
  | case1 => exact absurd h List.not_mem_nil
  | case2 =>
    rw [List.mem_singleton.mp h]
    exact Signal.noConfusion
  | case3 t rest _ _ _ _ later ih => exact ih h
  | case4 t rest _ _ later ih =>
    rcases List.mem_cons.mp h with rfl | h
    · exact Signal.noConfusion
    rcases List.mem_cons.mp h with rfl | h
    · exact Signal.noConfusion
    · exact ih h
  | case5 t rest _ _ ih => exact ih h

end Line

namespace Models

variable {q : Queue} {l : Line} {live : PlayerId → Bool}

/-- A pass tells the places that it leaves if it dropped or admitted somebody, and else nothing. -/
theorem reconcile_places (h : Models q l) (hd : l.Distinct) (snapshot : List Record)
    (live : PlayerId → Bool) :
    let outcome := q.reconcile snapshot live
    let unchanged := outcome.result = none ∧
      outcome.queue.entries.map Entry.ticket = q.entries.map Entry.ticket
    (unchanged → outcome.signals = []) ∧
      (¬ unchanged → outcome.queue.EndsWithPlaces live outcome.signals) := by
  intro outcome unchanged
  obtain ⟨hoffer, hsignals, hmodels⟩ := h.reconcile hd snapshot live
  have hafter : (l.after q.policy snapshot live).Distinct :=
    hd.sublist ((Line.walk_kept_sublist ..).map _)
  have hline : outcome.queue.entries.map Entry.ticket =
      (Line.walk q.policy snapshot live l.tickets).kept := hmodels.sorted_eq hafter
  have hbefore : q.entries.map Entry.ticket = l.tickets := h.sorted_eq hd
  cases hchanged : (Line.walk q.policy snapshot live l.tickets).changed with
  | false =>
    rw [Line.walk_of_not_changed hchanged] at hoffer hsignals hline
    refine ⟨fun _ => hsignals, fun hnot => absurd ⟨?_, ?_⟩ hnot⟩
    · exact Option.map_eq_none_iff.mp hoffer
    · rw [hline, hbefore]
  | true =>
    refine ⟨fun hsame => ?_, fun _ => ?_⟩
    · -- A pass that changed anything leaves fewer tickets.
      have hshorter := Line.length_kept_of_changed hchanged
      rw [← hline, hsame.2, hbefore] at hshorter
      exact absurd hshorter (Nat.lt_irrefl _)
    · rw [hchanged, if_pos rfl, ← hmodels.progress_eq hafter] at hsignals
      exact ⟨_, _, hsignals, fun signal => Line.not_progress_of_mem_walk,
        hmodels.tellsPlaces hafter live⟩

/-- A decision that goes back tells the places that it leaves, or nothing if it is refused. -/
theorem requeue_places (h : Models q l) (decision : Decision)
    (hd : (l.put decision.entry.ticket).Distinct) (error : TransferError)
    (live : PlayerId → Bool) :
    let outcome := q.requeue decision error live
    (outcome.result = false → outcome.signals = []) ∧
      (outcome.result = true → outcome.queue.EndsWithPlaces live outcome.signals) := by
  intro outcome
  cases hdone : live decision.entry.subject && !l.isQueued decision.entry.subject with
  | false =>
    have hrefused : outcome = ⟨false, q, []⟩ := h.requeue_refused decision error live hdone
    rw [hrefused]
    exact ⟨fun _ => rfl, fun hnot => absurd hnot Bool.false_ne_true⟩
  | true =>
    obtain ⟨hresult, hsignals, hmodels⟩ := h.requeue_done decision error live hdone hd
    refine ⟨fun hnot => absurd (hresult.symm.trans hnot) Bool.noConfusion, fun _ => ?_⟩
    rw [← hmodels.progress_eq hd] at hsignals
    refine ⟨[_], _, hsignals, fun signal hsignal text => ?_, hmodels.tellsPlaces hd live⟩
    rw [List.mem_singleton.mp hsignal]
    exact Signal.noConfusion

end Models

/-! ## The result -/

namespace Desk

/-- **Places agree.** The place that a player is told, the texts on the screens and the size of the
line are about the same count, and the texts are renewed whenever it changes. -/
theorem places_agree (policy : Policy) (calls : List Call) (live : PlayerId → Bool) :
    let desk := ((Desk.new policy).run calls).2
    let queue := desk.queue
    let present := queue.present live
    (∀ subject i, queue.position subject live = some (i + 1) ↔
      present[i]?.map (·.subject) = some subject) ∧
    (∀ subject, queue.position subject live = none ↔ subject ∉ present.map (·.subject)) ∧
    (∀ place, (∃ subject, queue.position subject live = some place) ↔
      1 ≤ place ∧ place ≤ present.length) ∧
    (∀ place subject other, queue.position subject live = some place →
      queue.position other live = some place → subject = other) ∧
    present.length ≤ queue.size ∧ queue.TellsPlaces live (queue.refresh live).signals ∧
    (∀ snapshot, let outcome := queue.reconcile snapshot live
      let unchanged := outcome.result = none ∧
        outcome.queue.entries.map Entry.ticket = queue.entries.map Entry.ticket
      (unchanged → outcome.signals = []) ∧
        (¬ unchanged → outcome.queue.EndsWithPlaces live outcome.signals)) ∧
    ∀ decision ∈ desk.decisions, ∀ error, let outcome := queue.requeue decision error live
      (outcome.result = false → outcome.signals = []) ∧
        (outcome.result = true → outcome.queue.EndsWithPlaces live outcome.signals) := by
  intro desk queue present
  obtain ⟨-, hrefines, hnumbered⟩ := (Refines.new policy).run (.new policy) calls
  have hmodels : Models queue ((PlainDesk.new policy).run calls).2.line := hrefines.models
  have hd := hnumbered.distinct
  refine ⟨fun subject i => ?_, fun subject => hmodels.position_eq_none_iff hd,
    fun place => hmodels.exists_position_iff hd,
    fun place subject other => hmodels.position_inj hd, ?_, hmodels.tellsPlaces hd live,
    fun snapshot => hmodels.reconcile_places hd snapshot live,
    fun decision hdecision error => ?_⟩
  · rw [hmodels.position_eq_some_iff hd]
    constructor
    · rintro ⟨j, hij, hsubject⟩
      obtain rfl := Nat.succ_inj.mp hij
      exact hsubject
    · exact fun hsubject => ⟨i, rfl, hsubject⟩
  · have hlength : queue.entries.length = queue.size := by
      rw [hmodels.size_eq, ← hmodels.sorted_eq hd, List.length_map]
      rfl
    exact hlength ▸ List.length_filter_le ..
  · have hoffer : decision.offer ∈ ((PlainDesk.new policy).run calls).2.offers :=
      hrefines.offers ▸ List.mem_map_of_mem hdecision
    exact hmodels.requeue_places decision (hnumbered.of_return hoffer).distinct error live

/-- A player has been admitted, and of three who wait one is gone and one wants an unknown backend.
A pass drops those two, and the first player may come back. -/
theorem places_agree_of_returned :
    let lobby : Record := ⟨"lobby", "lobby", "10.0.0.2:25565", none, .up 3 10, 0, none⟩
    let full : Record := { lobby with status := .up 10 10 }
    let calls : List Call := [.enqueue 1 .admin "lobby" 5 default,
      .reconcile [lobby] fun _ => true, .enqueue 2 .player "lobby" 10 default,
      .enqueue 3 .player "lobby" 10 default, .enqueue 4 .player "nowhere" 7 default]
    let live : PlayerId → Bool := (· ≠ 2)
    let decision : Decision := ⟨⟨1, .admin, 5, "lobby", 0, 0⟩, "lobby", "10.0.0.2:25565"⟩
    let desk := ((Desk.new default).run calls).2
    let pass := desk.queue.reconcile [full] live
    let back := desk.queue.requeue decision (.rejected "full") live
    (desk.queue.present live)[1]?.map (·.subject) = some 3 ∧
      desk.queue.position 3 live = some 2 ∧
      pass.queue.entries.map Entry.ticket ≠ desk.queue.entries.map Entry.ticket ∧
      pass.queue.EndsWithPlaces live pass.signals ∧
      decision ∈ desk.decisions ∧ back.result = true ∧
      back.queue.EndsWithPlaces live back.signals := by
  intro lobby full calls live decision desk pass back
  have hplace : (desk.queue.present live)[1]?.map (·.subject) = some 3 := by decide +kernel
  have hchanged : pass.queue.entries.map Entry.ticket ≠ desk.queue.entries.map Entry.ticket := by
    decide +kernel
  have hdecision : decision ∈ desk.decisions := by decide +kernel
  have hback : back.result = true := by decide +kernel
  obtain ⟨hposition, -, -, -, -, -, hpass, hrequeue⟩ := places_agree default calls live
  exact ⟨hplace, (hposition 3 1).mpr hplace, hchanged,
    (hpass [full]).2 fun hsame => hchanged hsame.2, hdecision, hback,
    (hrequeue decision hdecision (.rejected "full")).2 hback⟩

end Desk

end GameHub.Admission
