import GameHub.Proofs.Admission.Line
import GameHub.Proofs.Keyed

/-!
# The admission queue refines a plain line

`Models` ties a queue to a line: the heap array holds the same tickets in some order, and both
number the next insertion alike. Every operation of the queue keeps it and answers as the line does,
because each of them scans the array for a player or for one insertion, counts, or sorts. What that
needs of the order is that no two tickets in line were inserted as the same number.
-/

namespace GameHub.Admission

open Backend

/-- The heap of the queue holds the tickets of the line. -/
structure Models (q : Queue) (l : Line) : Prop where
  content : q.ledger.tickets.Perm l.tickets
  nextSeq : q.ledger.nextSeq = l.nextSeq

/-- No two tickets in line come from the same insertion. -/
def Line.Distinct (l : Line) : Prop := (l.tickets.map (·.seq)).Nodup

namespace Models

variable {q : Queue} {l : Line}

theorem empty (policy : Policy) : Models (.empty policy) .empty := ⟨.refl _, rfl⟩

/-! ## Looking at the line -/

/-- Sorting brings the heap into the order of the line, whatever its layout was. -/
theorem sorted_eq (h : Models q l) (hd : l.Distinct) :
    q.ledger.sorted.map Entry.ticket = l.tickets :=
  Ledger.sorted_tickets_eq h.content hd l.sorted

theorem size_eq (h : Models q l) : q.size = l.tickets.length := by
  rw [Queue.size, ← Ledger.length_tickets, h.content.length_eq]

/-- The player is found by a scan of the array exactly if the line has a ticket for the player, and
what is left when the entry is taken out is the line without the player. -/
theorem removeAt_find (h : Models q l) (subject : PlayerId) :
    ((q.ledger.find subject).bind q.ledger.removeAt = none ∧ l.isQueued subject = false ∧
      q.ledger.tickets.Perm (l.without subject).tickets) ∨
    ∃ taken rest, (q.ledger.find subject).bind q.ledger.removeAt = some (taken, rest) ∧
      l.isQueued subject = true ∧ rest.nextSeq = l.nextSeq ∧
      rest.tickets.Perm (l.without subject).tickets := by
  rcases q.ledger.removeAt_findIdx? (·.subject = subject) with
    ⟨hnone, hother⟩ | ⟨taken, rest, hsome, htaken, hseq, hperm⟩
  · have hnot : ∀ t ∈ l.tickets, t.subject ≠ subject := by
      intro t ht
      exact of_decide_eq_false (hother t (h.content.mem_iff.mpr ht))
    have hqueued : l.isQueued subject = false := by simpa [Line.isQueued] using hnot
    refine .inl ⟨hnone, hqueued, ?_⟩
    rw [Line.tickets_without hqueued]
    exact h.content
  · have hsubject : taken.ticket.subject = subject := of_decide_eq_true htaken
    have hcons := h.content.symm.trans hperm
    have hmem : taken.ticket ∈ l.tickets := hcons.mem_iff.mpr List.mem_cons_self
    refine .inr ⟨taken, rest, hsome, ?_, hseq.trans h.nextSeq, ?_⟩
    · exact List.any_eq_true.mpr ⟨taken.ticket, hmem, decide_eq_true hsubject⟩
    · rw [← hsubject]
      exact perm_filter_of_perm_cons hcons l.unique

theorem isQueued_eq (h : Models q l) (subject : PlayerId) :
    q.isQueued subject = l.isQueued subject := by
  rw [Queue.isQueued, Ledger.find, Array.findIdx?_isSome, Line.isQueued, ← h.content.any_eq,
    Ledger.tickets, List.any_map, Ledger.toList, Array.any_toList]
  rfl

theorem progress_eq (h : Models q l) (hd : l.Distinct) (live : PlayerId → Bool) :
    Queue.progressSignals q.ledger live = l.progress live := by
  have hwaiting : l.tickets.filter (live ·.subject) =
      (q.ledger.sorted.filter (live ·.subject)).map Entry.ticket := by
    rw [← h.sorted_eq hd, List.filter_map]
    rfl
  simp only [Queue.progressSignals, Line.progress, hwaiting, List.zipIdx_map, List.map_map,
    List.length_map]
  rfl

end Models

/-! ## Places in the line -/

namespace Line

variable {l : Line} {before after : List Ticket} {t : Ticket}

theorem Distinct.before_of_front (hd : l.Distinct) (hl : l.tickets = before ++ t :: after) :
    ∀ u ∈ before, u.subject ≠ t.subject ∧ u.Before t := by
  intro u hu
  have hsorted := l.sorted
  have hunique := l.unique
  have hseq : (l.tickets.map (·.seq)).Nodup := hd
  rw [hl] at hsorted hunique hseq
  rw [List.map_append, List.map_cons, List.nodup_append] at hunique hseq
  have hle := (List.pairwise_append.mp hsorted).2.2 u hu t List.mem_cons_self
  refine ⟨hunique.2.2 _ (List.mem_map_of_mem hu) _ List.mem_cons_self, ?_⟩
  exact Ticket.before_of_notAfter hle (hseq.2.2 _ (List.mem_map_of_mem hu) _ List.mem_cons_self)

theorem not_before_of_back (hl : l.tickets = before ++ t :: after) :
    ∀ u ∈ after, ¬ u.Before t := by
  intro u hu
  have hsorted := l.sorted
  rw [hl] at hsorted
  exact Ticket.notAfter_iff.mp
    ((List.pairwise_cons.mp (List.pairwise_append.mp hsorted).2.1).1 u hu)

/-- Those who are served before a ticket are those in front of it. -/
theorem Distinct.filter_before_eq (hd : l.Distinct) (hl : l.tickets = before ++ t :: after)
    (p : Ticket → Bool) :
    l.tickets.filter (fun u => u.subject != t.subject && decide (u.Before t) && p u) =
      before.filter p := by
  have hfront : before.filter (fun u => u.subject != t.subject && decide (u.Before t) && p u) =
      before.filter p := by
    refine List.filter_congr fun u hu => ?_
    obtain ⟨hsubject, hbefore⟩ := hd.before_of_front hl u hu
    simp [hsubject, hbefore]
  have hback : after.filter (fun u => u.subject != t.subject && decide (u.Before t) && p u) =
      [] := by
    refine List.filter_eq_nil_iff.mpr fun u hu => ?_
    simp [not_before_of_back hl u hu]
  rw [hl, List.filter_append, List.filter_cons_of_neg (by simp), hfront, hback, List.append_nil]

/-- A place is counted by the live ones in front. -/
theorem Distinct.position_eq (hd : l.Distinct) (hl : l.tickets = before ++ t :: after)
    {live : PlayerId → Bool} (hlive : live t.subject = true) :
    l.position t.subject live = some ((before.filter (live ·.subject)).length + 1) := by
  have hfront : ∀ u ∈ before.filter (live ·.subject), decide (u.subject = t.subject) = false :=
    fun u hu => decide_eq_false (hd.before_of_front hl u (List.mem_of_mem_filter hu)).1
  have hself : (t :: after).filter (live ·.subject) = t :: after.filter (live ·.subject) :=
    List.filter_cons_of_pos hlive
  have hfirst : (t :: after.filter (live ·.subject)).findIdx? (·.subject = t.subject) = some 0 := by
    rw [List.findIdx?_cons, if_pos (decide_eq_true rfl)]
  rw [position, hl, List.filter_append, hself, List.findIdx?_append,
    List.findIdx?_eq_none_iff.mpr hfront, hfirst]
  rw [Option.none_or, Option.map_some, Option.map_some, Nat.zero_add]

theorem position_eq_none {subject : PlayerId} {live : PlayerId → Bool}
    (h : ∀ t ∈ l.tickets, live t.subject = true → t.subject ≠ subject) :
    l.position subject live = none := by
  refine Option.map_eq_none_iff.mpr (List.findIdx?_eq_none_iff.mpr fun t ht => ?_)
  obtain ⟨hmem, hlive⟩ := List.mem_filter.mp ht
  exact decide_eq_false (h t hmem hlive)

end Line

namespace Models

variable {q : Queue} {l : Line}

theorem length_filter_ahead (h : Models q l) (e : Entry) (live : PlayerId → Bool) :
    (l.tickets.filter fun u =>
      u.subject != e.ticket.subject && decide (u.Before e.ticket) && live u.subject).length =
    (q.ledger.toList.filter fun other =>
      other.subject != e.subject && other.precedes e && live other.subject).length := by
  rw [← (h.content.filter _).length_eq, Ledger.tickets, List.filter_map, List.length_map]
  refine congrArg List.length (List.filter_congr fun other _ => ?_)
  have hprecedes : other.precedes e = decide (other.ticket.Before e.ticket) := by
    rw [Bool.eq_iff_iff, decide_eq_true_iff, Entry.precedes_iff]
  rw [hprecedes]
  rfl

theorem position_eq (h : Models q l) (hd : l.Distinct) (subject : PlayerId)
    (live : PlayerId → Bool) : q.position subject live = l.position subject live := by
  by_cases hlive : live subject = true
  · cases hfind : q.ledger.find subject with
    | none =>
      have hqueued := h.isQueued_eq subject
      rw [Queue.isQueued, hfind, Option.isSome_none] at hqueued
      have hnot : ∀ t ∈ l.tickets, live t.subject = true → t.subject ≠ subject :=
        fun t ht _ hsubject => List.any_eq_false.mp hqueued.symm t ht (decide_eq_true hsubject)
      rw [Line.position_eq_none hnot, Queue.position, if_neg (by simp [hlive]), hfind]
      rfl
    | some i =>
      obtain ⟨hi, hsubject, -⟩ := Array.findIdx?_eq_some_iff_getElem.mp hfind
      have hmem : q.ledger.heap[i].ticket ∈ l.tickets := by
        refine h.content.mem_iff.mp (q.ledger.mem_tickets.mpr ⟨q.ledger.heap[i], ?_, rfl⟩)
        exact Array.mem_toList_iff.mpr (Array.getElem_mem hi)
      -- The heap compares with all live tickets; in the list those ahead are those in front.
      obtain ⟨before, after, hl⟩ := List.append_of_mem hmem
      have hsubject : q.ledger.heap[i].ticket.subject = subject := of_decide_eq_true hsubject
      subst hsubject
      rw [hd.position_eq hl hlive, ← hd.filter_before_eq hl, h.length_filter_ahead,
        Queue.position, if_neg (by simp [hlive]), hfind]
      show (q.ledger.get? i).bind _ = _
      rw [Ledger.get?, Array.getElem?_eq_getElem hi]
      rfl
  · have hnot : ∀ t ∈ l.tickets, live t.subject = true → t.subject ≠ subject :=
      fun t _ ht hsubject => hlive (hsubject ▸ ht)
    rw [Line.position_eq_none hnot, Queue.position, if_pos (by simp [hlive])]

/-! ## Joining and leaving -/

/-- Adding an entry where its player is not in line puts its ticket in the line. -/
theorem place {ledger : Ledger} {e : Entry} (policy : Policy)
    (hcontent : ledger.tickets.Perm (l.without e.subject).tickets)
    (hseq : ledger.nextSeq = max l.nextSeq (e.seq + 1)) :
    Models ⟨ledger.place e, policy⟩ (l.put e.ticket) where
  content := ((ledger.place_perm e).trans (hcontent.cons _)).trans (perm_insertBy ..).symm
  nextSeq := hseq

theorem push {cleared : Ledger} (policy : Policy) (subject : PlayerId) (rank : Rank)
    (target : String) (now : UInt64) (hcontent : cleared.tickets.Perm (l.without subject).tickets)
    (hseq : cleared.nextSeq = l.nextSeq) :
    Models ⟨(cleared.push subject rank now target).2, policy⟩
      (l.put ⟨subject, rank, now, target, l.nextSeq⟩) := by
  rw [← hseq]
  exact @place l { cleared with nextSeq := cleared.nextSeq + 1 }
    ⟨subject, rank, now, target, cleared.nextSeq, 0⟩ policy hcontent (by simp [hseq])

theorem enqueue (h : Models q l) (subject : PlayerId) (rank : Rank) (target : String)
    (now : UInt64) (backends : Registry) :
    Models (q.enqueue subject rank target now backends).queue
      (l.put ⟨subject, rank, now, target, l.nextSeq⟩) := by
  rw [Queue.enqueue]
  rcases h.removeAt_find subject with ⟨hnone, -, hperm⟩ | ⟨taken, rest, hsome, -, hseq, hperm⟩
  · rw [hnone]
    exact push q.policy subject rank target now hperm h.nextSeq
  · rw [hsome]
    exact push q.policy subject rank target now hperm hseq

theorem remove (h : Models q l) (subject : PlayerId) :
    (q.remove subject).result = l.isQueued subject ∧
    (q.remove subject).signals = (if l.isQueued subject then [.clear subject] else []) ∧
    Models (q.remove subject).queue (if l.isQueued subject then l.without subject else l) := by
  rw [Queue.remove]
  rcases h.removeAt_find subject with
    ⟨hnone, hqueued, -⟩ | ⟨taken, rest, hsome, hqueued, hseq, hperm⟩
  · rw [hnone, hqueued]
    exact ⟨rfl, rfl, h⟩
  · rw [hsome, hqueued]
    exact ⟨rfl, rfl, hperm, hseq⟩

end Models

/-! ## Going through the line -/

/-- A pass over the rest of the entries has done what a walk along their tickets does. The tickets
that the walk has passed are still in the ledger. -/
structure Follows (passed : List Ticket) (nextSeq : Nat) (pass : Queue.Pass) (walk : Line.Walk) :
    Prop where
  content : pass.ledger.tickets.Perm (passed ++ walk.kept)
  nextSeq : pass.ledger.nextSeq = nextSeq
  signals : pass.signals = walk.signals
  changed : pass.changed = walk.changed
  offer : pass.admitted.map Decision.offer = walk.offer

theorem take_eq {ledger : Ledger} {e : Entry} {others : List Ticket}
    (hcontent : ledger.tickets.Perm (e.ticket :: others))
    (hseq : ((e.ticket :: others).map (·.seq)).Nodup) :
    ∃ taken rest, Queue.take ledger e = some (taken, rest) ∧ taken.ticket = e.ticket ∧
      rest.nextSeq = ledger.nextSeq ∧ rest.tickets.Perm others := by
  rcases ledger.removeAt_findIdx? (fun t => t.subject = e.subject && t.seq = e.seq) with
    ⟨-, hother⟩ | ⟨taken, rest, hsome, htaken, hnext, hperm⟩
  · have hself := hother e.ticket (hcontent.mem_iff.mpr List.mem_cons_self)
    simp [Entry.ticket] at hself
  · obtain ⟨-, htaken⟩ := Bool.and_eq_true_iff.mp htaken
    have hmem : taken.ticket ∈ e.ticket :: others :=
      hcontent.mem_iff.mp (hperm.mem_iff.mpr List.mem_cons_self)
    have hticket : taken.ticket = e.ticket :=
      List.inj_on_of_nodup_map hseq hmem List.mem_cons_self (of_decide_eq_true htaken)
    rw [hticket] at hperm
    exact ⟨taken, rest, hsome, hticket, hnext, (hperm.symm.trans hcontent).cons_inv⟩

theorem drop_eq {ledger : Ledger} {e : Entry} {others : List Ticket}
    (hcontent : ledger.tickets.Perm (e.ticket :: others))
    (hseq : ((e.ticket :: others).map (·.seq)).Nodup) :
    (Queue.drop ledger e).nextSeq = ledger.nextSeq ∧ (Queue.drop ledger e).tickets.Perm others := by
  obtain ⟨taken, rest, htake, -, hnext, hperm⟩ := take_eq hcontent hseq
  rw [Queue.drop, htake]
  exact ⟨hnext, hperm⟩

section Scan

variable (policy : Policy) (snapshot : List Record) (live : PlayerId → Bool)

/-- The walk looks at the same things as the judgement. -/
theorem walk_cons (e : Entry) (rest : List Ticket) :
    Line.walk policy snapshot live (e.ticket :: rest) =
      let later := Line.walk policy snapshot live rest
      match Queue.judge policy snapshot live e with
      | .gone => { later with changed := true }
      | .unknownTarget =>
        { later with
          signals := .notice e.subject (Notice.invalidTarget e.target) :: .clear e.subject ::
            later.signals
          changed := true }
      | .wait => { later with kept := e.ticket :: later.kept }
      | .serve backend =>
        ⟨rest, [.clear e.subject], true, some ⟨e.ticket, backend.id, backend.address⟩⟩ := by
  rw [Line.walk, Queue.judge, show e.ticket.subject = e.subject from rfl,
    show e.ticket.target = e.target from rfl, show e.ticket.rank = e.rank from rfl]
  by_cases hlive : live e.subject = true
  · rw [if_pos hlive, if_neg (by simp [hlive])]
    cases Queue.backendIn snapshot e.target with
    | none => rfl
    | some backend => cases hcapacity : policy.capacity e.rank backend.status <;> simp [hcapacity]
  · rw [if_neg hlive, if_pos (by simp [hlive])]

/-- The pass over the heap does what the walk along the list does. -/
theorem scan_follows (ledger : Ledger) (entries : List Entry) (passed : List Ticket)
    (hcontent : ledger.tickets.Perm (passed ++ entries.map Entry.ticket))
    (hseq : ((passed ++ entries.map Entry.ticket).map (·.seq)).Nodup) :
    Follows passed ledger.nextSeq (Queue.scan policy snapshot live ledger entries)
      (Line.walk policy snapshot live (entries.map Entry.ticket)) := by
  induction entries generalizing ledger passed with
  | nil => exact ⟨hcontent, rfl, rfl, rfl, rfl⟩
  | cons e rest ih =>
    -- `passed` are the tickets that the pass has looked at and left where they are.
    have hfront := @List.perm_middle _ e.ticket passed (rest.map Entry.ticket)
    have hcontent' := hcontent.trans hfront
    have hseq' := (hfront.map (·.seq)).nodup_iff.mp hseq
    rw [List.map_cons, walk_cons, Queue.scan]
    cases Queue.judge policy snapshot live e with
    | gone =>
      obtain ⟨hnext, hdrop⟩ := drop_eq hcontent' hseq'
      have hrest := ih _ passed hdrop (List.nodup_cons.mp hseq').2
      exact ⟨hrest.content, hrest.nextSeq.trans hnext, hrest.signals, rfl, hrest.offer⟩
    | unknownTarget =>
      obtain ⟨hnext, hdrop⟩ := drop_eq hcontent' hseq'
      have hrest := ih _ passed hdrop (List.nodup_cons.mp hseq').2
      exact ⟨hrest.content, hrest.nextSeq.trans hnext, by simp [hrest.signals], rfl, hrest.offer⟩
    | wait =>
      have hrest := ih ledger (passed ++ [e.ticket]) (by simpa using hcontent) (by simpa using hseq)
      exact ⟨by simpa using hrest.content, hrest.nextSeq, hrest.signals, hrest.changed, hrest.offer⟩
    | serve backend =>
      obtain ⟨taken, served, htake, hticket, hnext, hperm⟩ := take_eq hcontent' hseq'
      have hsubject : taken.subject = e.subject := congrArg Ticket.subject hticket
      simp only [htake]
      exact ⟨hperm, hnext, by rw [hsubject], rfl, by simp [Decision.offer, hticket]⟩

end Scan

namespace Models

variable {q : Queue} {l : Line}

theorem reconcile (h : Models q l) (hd : l.Distinct) (snapshot : List Record)
    (live : PlayerId → Bool) :
    (q.reconcile snapshot live).result.map Decision.offer =
      (Line.walk q.policy snapshot live l.tickets).offer ∧
    (q.reconcile snapshot live).signals = (Line.walk q.policy snapshot live l.tickets).signals ++
      (if (Line.walk q.policy snapshot live l.tickets).changed then
        (l.after q.policy snapshot live).progress live else []) ∧
    Models (q.reconcile snapshot live).queue (l.after q.policy snapshot live) := by
  have hsorted : q.entries.map Entry.ticket = l.tickets := h.sorted_eq hd
  have hfollows := scan_follows q.policy snapshot live q.ledger q.entries []
    (by simpa [hsorted] using h.content) (by simpa [hsorted, Line.Distinct] using hd)
  rw [hsorted] at hfollows
  have hmodels : Models (q.reconcile snapshot live).queue (l.after q.policy snapshot live) :=
    ⟨hfollows.content, hfollows.nextSeq.trans h.nextSeq⟩
  have hafter : (l.after q.policy snapshot live).Distinct :=
    hd.sublist ((Line.walk_kept_sublist ..).map _)
  refine ⟨hfollows.offer, ?_, hmodels⟩
  rw [← hmodels.progress_eq hafter, ← hfollows.signals, ← hfollows.changed]
  rfl

theorem requeue_refused (h : Models q l) (decision : Decision) (error : TransferError)
    (live : PlayerId → Bool)
    (hrefused : (live decision.entry.subject && !l.isQueued decision.entry.subject) = false) :
    q.requeue decision error live = ⟨false, q, []⟩ := by
  rw [← h.isQueued_eq] at hrefused
  rw [Queue.requeue, if_pos]
  cases hlive : live decision.entry.subject with
  | false => rfl
  | true => simpa [hlive] using hrefused

theorem requeue_done (h : Models q l) (decision : Decision) (error : TransferError)
    (live : PlayerId → Bool)
    (hdone : (live decision.entry.subject && !l.isQueued decision.entry.subject) = true)
    (hd : (l.put decision.entry.ticket).Distinct) :
    (q.requeue decision error live).result = true ∧
    (q.requeue decision error live).signals =
      .notice decision.entry.subject (Notice.transferFailed decision.backend error.message) ::
        (l.put decision.entry.ticket).progress live ∧
    Models (q.requeue decision error live).queue (l.put decision.entry.ticket) := by
  obtain ⟨hlive, hqueued⟩ := Bool.and_eq_true_iff.mp hdone
  have hmodels : Models { q with ledger := q.ledger.restore decision.entry }
      (l.put decision.entry.ticket) := by
    refine place q.policy ?_ (by rw [h.nextSeq])
    rw [Line.tickets_without (by simpa using hqueued)]
    exact h.content
  rw [← h.isQueued_eq] at hqueued
  have hif : ¬ (!live decision.entry.subject || q.isQueued decision.entry.subject) = true := by
    simpa [hlive] using hqueued
  rw [Queue.requeue, if_neg hif]
  refine ⟨rfl, ?_, hmodels⟩
  rw [← hmodels.progress_eq hd]

end Models

end GameHub.Admission
