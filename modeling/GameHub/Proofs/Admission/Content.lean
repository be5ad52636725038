import GameHub.Proofs.Admission.Models
import Mathlib.Data.List.Perm.Subperm

/-!
# What the admission queue does to its content

The tickets in line after each operation, whatever their order. Joining replaces the ticket of the
player, leaving takes it out, and a pass along the line parts the tickets into those that are
dropped, the one that is admitted, and those that stay. Nothing here needs more of the line than
one ticket for each player.
-/

namespace GameHub

open Backend

namespace Ledger

variable {l : Ledger}

theorem push_perm (l : Ledger) (subject : PlayerId) (rank : Rank) (joinTime : UInt64)
    (target : String) : (l.push subject rank joinTime target).2.tickets.Perm
      (⟨subject, rank, joinTime, target, l.nextSeq⟩ :: l.tickets) :=
  place_perm { l with nextSeq := l.nextSeq + 1 } ⟨subject, rank, joinTime, target, l.nextSeq, 0⟩

theorem removeAt_find (h : (l.tickets.map (·.subject)).Nodup) (subject : PlayerId) :
    ((l.find subject).bind l.removeAt = none ∧
      l.tickets.Perm (l.tickets.filter (·.subject ≠ subject))) ∨
    ∃ taken rest, (l.find subject).bind l.removeAt = some (taken, rest) ∧
      rest.nextSeq = l.nextSeq ∧ rest.tickets.Perm (l.tickets.filter (·.subject ≠ subject)) := by
  rcases l.removeAt_findIdx? (·.subject = subject) with
    ⟨hnone, hother⟩ | ⟨taken, rest, hsome, htaken, hseq, hperm⟩
  · refine .inl ⟨hnone, .of_eq (List.filter_eq_self.mpr fun t ht => ?_).symm⟩
    exact decide_eq_true (of_decide_eq_false (hother t ht))
  · refine .inr ⟨taken, rest, hsome, hseq, ?_⟩
    rw [← show taken.ticket.subject = subject from of_decide_eq_true htaken]
    exact perm_filter_of_perm_cons hperm h

end Ledger

namespace Admission.Queue

variable {q : Queue}

theorem isQueued_iff {subject : PlayerId} :
    q.isQueued subject = true ↔ ∃ t ∈ q.ledger.tickets, t.subject = subject := by
  rw [isQueued, Ledger.find, Array.findIdx?_isSome, Array.any_eq_true', Ledger.tickets,
    Ledger.toList]
  simp [Entry.ticket]

theorem entries_perm (q : Queue) : (q.entries.map Entry.ticket).Perm q.ledger.tickets :=
  (perm_sortBy ..).map Entry.ticket

/-! ## Joining and leaving -/

theorem enqueue_perm (h : (q.ledger.tickets.map (·.subject)).Nodup) (subject : PlayerId)
    (rank : Rank) (target : String) (now : UInt64) (backends : Registry) :
    (q.enqueue subject rank target now backends).queue.ledger.tickets.Perm
      (⟨subject, rank, now, target, q.ledger.nextSeq⟩ ::
        q.ledger.tickets.filter (·.subject ≠ subject)) := by
  rw [enqueue]
  rcases Ledger.removeAt_find h subject with ⟨hnone, hperm⟩ | ⟨taken, rest, hsome, hseq, hperm⟩
  · rw [hnone]
    exact (q.ledger.push_perm ..).trans (hperm.cons _)
  · rw [hsome, ← hseq]
    exact (rest.push_perm ..).trans (hperm.cons _)

theorem remove_perm (h : (q.ledger.tickets.map (·.subject)).Nodup) (subject : PlayerId) :
    (q.remove subject).queue.ledger.tickets.Perm
      (q.ledger.tickets.filter (·.subject ≠ subject)) := by
  rw [remove]
  rcases Ledger.removeAt_find h subject with ⟨hnone, hperm⟩ | ⟨taken, rest, hsome, -, hperm⟩
  · rw [hnone]
    exact hperm
  · rw [hsome]
    exact hperm

theorem remove_subperm (h : (q.ledger.tickets.map (·.subject)).Nodup) (subject : PlayerId) :
    (q.remove subject).queue.ledger.tickets.Subperm q.ledger.tickets :=
  (remove_perm h subject).subperm.trans List.filter_sublist.subperm

/-! ## Going through the line -/

section Scan

variable {policy : Policy} {snapshot : List Record} {live : PlayerId → Bool} {e : Entry}

theorem backendIn_id {target : String} {backend : Record}
    (h : backendIn snapshot target = some backend) : backend.id = target := by
  simpa using List.find?_some h

theorem backendIn_isSome_iff {target : String} :
    (backendIn snapshot target).isSome = true ↔ target ∈ snapshot.map (·.id) := by
  simp [backendIn, List.find?_isSome]

theorem not_live_of_gone (h : judge policy snapshot live e = .gone) : live e.subject = false := by
  rw [judge] at h
  split at h
  · next hgone => simpa using hgone
  · split at h
    · cases h
    · split at h <;> cases h

theorem backendIn_of_unknownTarget (h : judge policy snapshot live e = .unknownTarget) :
    backendIn snapshot e.target = none := by
  rw [judge] at h
  split at h
  · cases h
  · split at h
    · assumption
    · split at h <;> cases h

theorem backendIn_of_serve {backend : Record} (h : judge policy snapshot live e = .serve backend) :
    backendIn snapshot e.target = some backend := by
  rw [judge] at h
  split at h
  · cases h
  · split at h
    · cases h
    · next hbackend =>
      split at h
      · obtain rfl := Verdict.serve.inj h
        exact hbackend
      · cases h

theorem place_of_serve {backend : Record} (h : judge policy snapshot live e = .serve backend) :
    policy.capacity e.rank backend.status = .place := by
  rw [judge] at h
  split at h
  · cases h
  · split at h
    · cases h
    · split at h
      · next hplace =>
        obtain rfl := Verdict.serve.inj h
        exact hplace
      · cases h

end Scan

/-- The entry that is taken out is the one of the same player. -/
theorem take_perm {ledger rest : Ledger} {e taken : Entry}
    (h : take ledger e = some (taken, rest)) :
    taken.subject = e.subject ∧ ledger.tickets.Perm (taken.ticket :: rest.tickets) := by
  rcases ledger.removeAt_findIdx? (fun t => t.subject = e.subject && t.seq = e.seq) with
    ⟨hnone, -⟩ | ⟨taken', rest', hsome, htaken, -, hperm⟩
  · cases hnone.symm.trans h
  · obtain ⟨rfl, rfl⟩ := Prod.mk.inj (Option.some.inj (hsome.symm.trans h))
    exact ⟨of_decide_eq_true (Bool.and_eq_true_iff.mp htaken).1, hperm⟩

/-- What is dropped are tickets of the same player. -/
theorem drop_perm (ledger : Ledger) (e : Entry) :
    ∃ dropped, ledger.tickets.Perm (dropped ++ (drop ledger e).tickets) ∧
      ∀ t ∈ dropped, t.subject = e.subject := by
  rw [drop]
  cases htake : take ledger e with
  | none => exact ⟨[], .refl _, fun _ ht => absurd ht List.not_mem_nil⟩
  | some found =>
    obtain ⟨hsubject, hperm⟩ := take_perm htake
    exact ⟨[found.1.ticket], hperm, fun t ht => by rwa [List.mem_singleton.mp ht]⟩

/-- A pass along entries parts tickets into those that it drops, the one that it admits, and those
that stay. -/
structure Parts (snapshot : List Record) (live : PlayerId → Bool) (entries : List Entry)
    (tickets : List Ticket) (pass : Pass) (dropped : List Ticket) : Prop where
  content : tickets.Perm
    (dropped ++ (pass.admitted.toList.map (·.entry.ticket) ++ pass.ledger.tickets))
  dropped : ∀ t ∈ dropped, ∃ e ∈ entries, t.subject = e.subject ∧
    (live e.subject = true → backendIn snapshot e.target = none)
  admitted : ∀ d ∈ pass.admitted, ∃ e ∈ entries, d.entry.subject = e.subject ∧
    d.backend = e.target

namespace Parts

variable {snapshot : List Record} {live : PlayerId → Bool} {rest : List Entry} {pass : Pass}
  {tickets dropped : List Ticket} {ledger : Ledger}

theorem nothing (snapshot : List Record) (live : PlayerId → Bool) (entries : List Entry)
    (ledger : Ledger) : Parts snapshot live entries ledger.tickets ⟨ledger, [], false, none⟩ [] :=
  ⟨.refl _, fun _ ht => absurd ht List.not_mem_nil, fun _ hd => by cases hd⟩

theorem cons (h : Parts snapshot live rest tickets pass dropped) (e : Entry) :
    Parts snapshot live (e :: rest) tickets pass dropped := by
  refine ⟨h.content, fun t ht => ?_, fun d hd => ?_⟩
  · obtain ⟨e', he', hbad⟩ := h.dropped t ht
    exact ⟨e', List.mem_cons_of_mem e he', hbad⟩
  · obtain ⟨e', he', hgood⟩ := h.admitted d hd
    exact ⟨e', List.mem_cons_of_mem e he', hgood⟩

theorem drop {e : Entry} (h : Parts snapshot live rest (drop ledger e).tickets pass dropped)
    (hbad : live e.subject = true → backendIn snapshot e.target = none) :
    ∃ dropped, Parts snapshot live (e :: rest) ledger.tickets pass dropped := by
  obtain ⟨first, hfirst, hsubject⟩ := drop_perm ledger e
  refine ⟨first ++ dropped, ?_, fun t ht => ?_, (h.cons e).admitted⟩
  · rw [List.append_assoc]
    exact hfirst.trans (h.content.append_left first)
  · rcases List.mem_append.mp ht with ht | ht
    · exact ⟨e, List.mem_cons_self, hsubject t ht, hbad⟩
    · exact (h.cons e).dropped t ht

end Parts

theorem scan_parts (policy : Policy) (snapshot : List Record) (live : PlayerId → Bool)
    (ledger : Ledger) (entries : List Entry) :
    ∃ dropped, Parts snapshot live entries ledger.tickets
      (scan policy snapshot live ledger entries) dropped := by
  induction entries generalizing ledger with
  | nil => exact ⟨[], .nothing ..⟩
  | cons e rest ih =>
    -- The verdict on the first entry; where the pass goes on, the rest has its parts.
    rw [scan]
    cases hjudge : judge policy snapshot live e with
    | wait =>
      obtain ⟨dropped, hparts⟩ := ih ledger
      exact ⟨dropped, hparts.cons e⟩
    | gone =>
      obtain ⟨dropped, hparts⟩ := ih (drop ledger e)
      obtain ⟨all, hall⟩ := hparts.drop fun hlive =>
        absurd (not_live_of_gone hjudge) (by simp [hlive])
      exact ⟨all, hall.content, hall.dropped, hall.admitted⟩
    | unknownTarget =>
      obtain ⟨dropped, hparts⟩ := ih (drop ledger e)
      obtain ⟨all, hall⟩ := hparts.drop fun _ => backendIn_of_unknownTarget hjudge
      exact ⟨all, hall.content, hall.dropped, hall.admitted⟩
    | serve backend =>
      cases htake : take ledger e with
      | none => exact ⟨[], .nothing ..⟩
      | some found =>
        -- The pass ends with the first ticket that is served.
        obtain ⟨hsubject, hperm⟩ := take_perm htake
        refine ⟨[], hperm, fun _ ht => absurd ht List.not_mem_nil, fun d hd => ?_⟩
        obtain rfl := Option.mem_some.mp hd
        exact ⟨e, List.mem_cons_self, hsubject, backendIn_id (backendIn_of_serve hjudge)⟩

/-- With one ticket for each player the verdict on an entry is one on its ticket: who is dropped is
gone or wants an unknown backend, and who is admitted goes to the backend on the ticket. -/
theorem reconcile_perm (h : (q.ledger.tickets.map (·.subject)).Nodup) (snapshot : List Record)
    (live : PlayerId → Bool) :
    ∃ dropped, q.ledger.tickets.Perm
        (dropped ++ ((q.reconcile snapshot live).result.toList.map (·.entry.ticket) ++
          (q.reconcile snapshot live).queue.ledger.tickets)) ∧
      (∀ t ∈ dropped, live t.subject = true → backendIn snapshot t.target = none) ∧
      ∀ d ∈ (q.reconcile snapshot live).result, d.backend = d.entry.target := by
  obtain ⟨dropped, hparts⟩ := scan_parts q.policy snapshot live q.ledger q.entries
  have hentry : ∀ e ∈ q.entries, ∀ t ∈ q.ledger.tickets, t.subject = e.subject →
      e.ticket = t := by
    intro e he t ht hsubject
    have hmem := q.entries_perm.mem_iff.mp (List.mem_map_of_mem he)
    exact List.inj_on_of_nodup_map h hmem ht hsubject.symm
  refine ⟨dropped, hparts.content, fun t ht hlive => ?_, fun d hd => ?_⟩
  · obtain ⟨e, he, hsubject, hbad⟩ := hparts.dropped t ht
    have ht' := hparts.content.mem_iff.mpr (List.mem_append_left _ ht)
    rw [← hentry e he t ht' hsubject]
    exact hbad (hsubject ▸ hlive)
  · obtain ⟨e, he, hsubject, hbackend⟩ := hparts.admitted d hd
    have hticket : d.entry.ticket ∈ q.ledger.tickets := by
      refine hparts.content.mem_iff.mpr (List.mem_append_right _ (List.mem_append_left _ ?_))
      exact List.mem_map_of_mem (Option.mem_toList.mpr hd)
    rw [hbackend]
    exact congrArg Ticket.target (hentry e he _ hticket hsubject)

/-- A pass makes no tickets. -/
theorem reconcile_subperm (h : (q.ledger.tickets.map (·.subject)).Nodup) (snapshot : List Record)
    (live : PlayerId → Bool) :
    ((q.reconcile snapshot live).result.toList.map (·.entry.ticket) ++
      (q.reconcile snapshot live).queue.ledger.tickets).Subperm q.ledger.tickets := by
  obtain ⟨dropped, hperm, -, -⟩ := reconcile_perm h snapshot live
  exact (List.sublist_append_right ..).subperm.trans hperm.symm.subperm

/-- What is said in a decision when an entry is served at a backend. -/
structure Serves (d : Decision) (e : Entry) (record : Record) : Prop where
  subject : d.entry.subject = e.subject
  backend : d.backend = record.id
  address : d.address = record.address

theorem scan_serves {policy : Policy} {snapshot : List Record} {live : PlayerId → Bool}
    {ledger : Ledger} {entries : List Entry} {d : Decision}
    (h : (scan policy snapshot live ledger entries).admitted = some d) :
    ∃ e ∈ entries, ∃ backend, judge policy snapshot live e = .serve backend ∧
      Serves d e backend := by
  induction entries generalizing ledger with
  | nil => cases h
  | cons e rest ih =>
    -- The decision comes from a later entry unless this one is served.
    have hlater {ledger : Ledger} (h : (scan policy snapshot live ledger rest).admitted = some d) :
        ∃ e' ∈ e :: rest, ∃ backend, judge policy snapshot live e' = .serve backend ∧
          Serves d e' backend := by
      obtain ⟨e', he', hserves⟩ := ih h
      exact ⟨e', List.mem_cons_of_mem e he', hserves⟩
    rw [scan] at h
    cases hjudge : judge policy snapshot live e with
    | wait => exact hlater (by simpa only [hjudge] using h)
    | gone => exact hlater (by simpa only [hjudge] using h)
    | unknownTarget => exact hlater (by simpa only [hjudge] using h)
    | serve backend =>
      simp only [hjudge] at h
      split at h
      · cases h
      · next htake =>
        obtain rfl := Option.some.inj h
        exact ⟨e, List.mem_cons_self, backend, hjudge, (take_perm htake).1, rfl, rfl⟩

/-- Whoever is admitted goes to the backend on the ticket, which has a place for its rank. -/
theorem reconcile_serves (hsubjects : (q.ledger.tickets.map (·.subject)).Nodup)
    {snapshot : List Record} {live : PlayerId → Bool} {d : Decision}
    (h : (q.reconcile snapshot live).result = some d) :
    d.entry.ticket ∈ q.ledger.tickets ∧ ∃ backend,
      backendIn snapshot d.entry.target = some backend ∧
      q.policy.capacity d.entry.rank backend.status = .place ∧
      d.backend = backend.id ∧ d.address = backend.address := by
  have hparts := reconcile_subperm hsubjects snapshot live
  rw [h] at hparts
  have hticket : d.entry.ticket ∈ q.ledger.tickets :=
    hparts.subset (List.mem_append_left _ List.mem_cons_self)
  obtain ⟨e, he, backend, hserve, hsame⟩ := scan_serves h
  have hentry : d.entry.ticket = e.ticket := by
    have hmem := q.entries_perm.mem_iff.mp (List.mem_map_of_mem he)
    exact List.inj_on_of_nodup_map hsubjects hticket hmem hsame.subject
  have htarget : d.entry.target = e.target := congrArg Ticket.target hentry
  have hrank : d.entry.rank = e.rank := congrArg Ticket.rank hentry
  rw [htarget, hrank]
  exact ⟨hticket, backend, backendIn_of_serve hserve, place_of_serve hserve, hsame.backend,
    hsame.address⟩

/-- Whoever is admitted goes to a backend that has a place for some rank. -/
theorem reconcile_place {snapshot : List Record} {live : PlayerId → Bool} {d : Decision}
    (h : (q.reconcile snapshot live).result = some d) :
    ∃ backend ∈ snapshot, backend.id = d.backend ∧
      ∃ rank, q.policy.capacity rank backend.status = .place := by
  obtain ⟨e, -, backend, hserve, hsame⟩ := scan_serves h
  refine ⟨backend, ?_, hsame.backend.symm, e.rank, place_of_serve hserve⟩
  exact List.mem_reverse.mp (List.mem_of_find?_eq_some (backendIn_of_serve hserve))

/-! ## Coming back -/

theorem requeue_refused (d : Decision) (error : TransferError) {live : PlayerId → Bool}
    (h : live d.entry.subject = false ∨ q.isQueued d.entry.subject = true) :
    (q.requeue d error live).queue = q := by
  have hif : (!live d.entry.subject || q.isQueued d.entry.subject) = true := by
    rcases h with h | h <;> simp [h]
  rw [requeue, if_pos hif]

theorem requeue_perm (d : Decision) (error : TransferError) {live : PlayerId → Bool}
    (hlive : live d.entry.subject = true) (hqueued : q.isQueued d.entry.subject = false) :
    (q.requeue d error live).queue.ledger.tickets.Perm (d.entry.ticket :: q.ledger.tickets) := by
  have hif : ¬ (!live d.entry.subject || q.isQueued d.entry.subject) = true := by
    simp [hlive, hqueued]
  rw [requeue, if_neg hif]
  exact Ledger.place_perm _ d.entry

/-- At most the ticket of the decision is added. -/
theorem requeue_subperm (d : Decision) (error : TransferError) (live : PlayerId → Bool) :
    (q.requeue d error live).queue.ledger.tickets.Subperm (d.entry.ticket :: q.ledger.tickets) := by
  by_cases hrefused : live d.entry.subject = false ∨ q.isQueued d.entry.subject = true
  · rw [requeue_refused d error hrefused]
    exact .cons_self
  · rw [not_or, Bool.not_eq_false, Bool.not_eq_true] at hrefused
    exact (requeue_perm d error hrefused.1 hrefused.2).subperm

/-! ## One player

What the operations do to the tickets of a player, who has at most one. -/

/-- The tickets of a player in line. -/
def ticketsOf (q : Queue) (subject : PlayerId) : List Ticket :=
  q.ledger.tickets.filter (·.subject = subject)

section One

variable {subject other : PlayerId}

theorem mem_ticketsOf {t : Ticket} :
    t ∈ q.ticketsOf subject ↔ t ∈ q.ledger.tickets ∧ t.subject = subject := by
  rw [ticketsOf, List.mem_filter, decide_eq_true_iff]

/-- The only ticket of a player. -/
theorem ticketsOf_eq_singleton (h : (q.ledger.tickets.map (·.subject)).Nodup) {t : Ticket}
    (ht : t ∈ q.ledger.tickets) : q.ticketsOf t.subject = [t] := by
  have hperm := List.perm_cons_erase ht
  have hothers := perm_filter_of_perm_cons hperm h
  have hself : ((q.ledger.tickets.erase t).filter (·.subject = t.subject)) = [] := by
    refine List.filter_eq_nil_iff.mpr fun u hu => ?_
    have hne := of_decide_eq_true (List.mem_filter.mp (hothers.mem_iff.mp hu)).2
    simpa using hne
  refine List.perm_singleton.mp ((hperm.filter _).trans (.of_eq ?_))
  rw [List.filter_cons_of_pos (by simp), hself]

theorem filter_subject_filter_ne (hne : subject ≠ other) (tickets : List Ticket) :
    (tickets.filter (·.subject ≠ other)).filter (·.subject = subject) =
      tickets.filter (·.subject = subject) := by
  rw [List.filter_filter]
  refine List.filter_congr fun t _ => ?_
  by_cases ht : t.subject = subject
  · simp [ht, hne]
  · simp [ht]

theorem ticketsOf_enqueue_of_ne (h : (q.ledger.tickets.map (·.subject)).Nodup)
    (hne : subject ≠ other) (rank : Rank) (target : String) (now : UInt64) (backends : Registry) :
    ((q.enqueue other rank target now backends).queue.ticketsOf subject).Perm
      (q.ticketsOf subject) := by
  refine ((enqueue_perm h other rank target now backends).filter _).trans (.of_eq ?_)
  rw [List.filter_cons_of_neg (by simpa using hne.symm), filter_subject_filter_ne hne]
  rfl

theorem ticketsOf_enqueue (h : (q.ledger.tickets.map (·.subject)).Nodup) (rank : Rank)
    (target : String) (now : UInt64) (backends : Registry) :
    (q.enqueue subject rank target now backends).queue.ticketsOf subject =
      [⟨subject, rank, now, target, q.ledger.nextSeq⟩] := by
  refine List.perm_singleton.mp
    (((enqueue_perm h subject rank target now backends).filter _).trans (.of_eq ?_))
  rw [List.filter_cons_of_pos (by simp), List.filter_filter, List.filter_eq_nil_iff.mpr]
  intro t _
  simp

theorem ticketsOf_remove_of_ne (h : (q.ledger.tickets.map (·.subject)).Nodup)
    (hne : subject ≠ other) :
    ((q.remove other).queue.ticketsOf subject).Perm (q.ticketsOf subject) :=
  ((remove_perm h other).filter _).trans (.of_eq (filter_subject_filter_ne hne _))

theorem ticketsOf_requeue_of_ne {d : Decision} (hne : d.entry.subject ≠ subject)
    (error : TransferError) (live : PlayerId → Bool) :
    ((q.requeue d error live).queue.ticketsOf subject).Perm (q.ticketsOf subject) := by
  by_cases hrefused : live d.entry.subject = false ∨ q.isQueued d.entry.subject = true
  · rw [requeue_refused d error hrefused]
  · rw [not_or, Bool.not_eq_false, Bool.not_eq_true] at hrefused
    refine ((requeue_perm d error hrefused.1 hrefused.2).filter _).trans (.of_eq ?_)
    exact List.filter_cons_of_neg fun hsame => hne (of_decide_eq_true hsame)

/-- A pass keeps the ticket of a player who is there and wants a known backend, or admits it. -/
theorem ticketsOf_reconcile (h : (q.ledger.tickets.map (·.subject)).Nodup)
    {snapshot : List Record} {live : PlayerId → Bool} (hlive : live subject = true)
    (hknown : ∀ t ∈ q.ticketsOf subject, t.target ∈ snapshot.map (·.id)) :
    (q.ticketsOf subject).Perm
      (((q.reconcile snapshot live).result.toList.map (·.entry.ticket)).filter
          (·.subject = subject) ++ (q.reconcile snapshot live).queue.ticketsOf subject) := by
  obtain ⟨dropped, hperm, hdropped, -⟩ := reconcile_perm h snapshot live
  have hnone : dropped.filter (·.subject = subject) = [] := by
    refine List.filter_eq_nil_iff.mpr fun t ht hsubject => ?_
    have hsubject : t.subject = subject := of_decide_eq_true hsubject
    have hmem := hperm.mem_iff.mpr (List.mem_append_left _ ht)
    have hbackend := backendIn_isSome_iff.mpr (hknown t (mem_ticketsOf.mpr ⟨hmem, hsubject⟩))
    rw [hdropped t ht (hsubject ▸ hlive)] at hbackend
    cases hbackend
  refine (hperm.filter _).trans (.of_eq ?_)
  rw [List.filter_append, hnone, List.nil_append, List.filter_append]
  rfl

end One

end Admission.Queue

end GameHub
