import GameHub.Proofs.Admission.Refinement

/-!
# A pass along the line

What a pass does is said here from the line alone, without going along it. A ticket is bad if its
player is gone or nobody knows its backend, and admissible if its player is there and the backend
has room for its rank. Room is counted in exact numbers, and of two records with one id the later
one counts.

**Theorem (`reconcile_exact`).** A pass admits the first admissible ticket of the line, if there is
one, to the backend on it. It drops the bad tickets ahead of that one, or all of them if there is
none. All other tickets stay as they are and where they are.

The heap is reshuffled whenever a ticket is taken out while the pass goes along a sorted copy.
`Models.reconcile` has dealt with this: what is left to look at is a walk along a list.
-/

namespace GameHub.Admission

open Backend

/-! ## Room at a backend -/

/-- A backend has room for a rank: it is online, a place is free, and one that is not kept for
higher ranks unless the rank is among them. -/
structure HasRoom (policy : Policy) (rank : Rank) (status : Status) : Prop where
  online : status.online = true
  free : status.current.toNat < status.max.toNat
  unreserved : policy.adminThreshold.level ≤ rank.level ∨
    status.current.toNat + policy.reservedSlots.toNat < status.max.toNat

instance (policy : Policy) (rank : Rank) (status : Status) :
    Decidable (HasRoom policy rank status) :=
  decidable_of_iff (status.online = true ∧ status.current.toNat < status.max.toNat ∧
    (policy.adminThreshold.level ≤ rank.level ∨
      status.current.toNat + policy.reservedSlots.toNat < status.max.toNat))
    ⟨fun ⟨honline, hfree, hunreserved⟩ => ⟨honline, hfree, hunreserved⟩,
      fun h => ⟨h.online, h.free, h.unreserved⟩⟩

theorem Policy.capacity_eq_place_iff {policy : Policy} {rank : Rank} {status : Status} :
    policy.capacity rank status = .place ↔ HasRoom policy rank status := by
  have hfree : status.isFull = false ↔ status.current.toNat < status.max.toNat := by
    rw [Status.isFull, decide_eq_false_iff_not, UInt32.le_iff_toNat_le, Nat.not_le]
  have hopen : policy.openLimit status ≤ status.current ↔
      ¬ status.current.toNat + policy.reservedSlots.toNat < status.max.toNat := by
    rw [openLimit, UInt32.le_iff_toNat_le, UInt32.toNat_subSat]
    omega
  have hrank : rank.atLeast policy.adminThreshold = true ↔
      policy.adminThreshold.level ≤ rank.level := decide_eq_true_iff
  have hparts : HasRoom policy rank status ↔ status.online = true ∧ status.isFull = false ∧
      (rank.atLeast policy.adminThreshold = true ∨
        ¬ policy.openLimit status ≤ status.current) := by
    rw [hfree, hopen, hrank, Decidable.not_not]
    exact ⟨fun h => ⟨h.online, h.free, h.unreserved⟩, fun ⟨honline, hfree, hunreserved⟩ =>
      ⟨honline, hfree, hunreserved⟩⟩
  rw [hparts, capacity]
  cases status.online <;> cases status.isFull <;> cases rank.atLeast policy.adminThreshold <;>
    by_cases h : policy.openLimit status ≤ status.current <;> simp [h]

/-- The record of a backend in a snapshot is the last one with its id. -/
def IsBackend (snapshot : List Record) (id : String) (record : Record) : Prop :=
  ∃ earlier later, snapshot = earlier ++ record :: later ∧ record.id = id ∧
    ∀ other ∈ later, other.id ≠ id

theorem backendIn_eq_some_iff {snapshot : List Record} {id : String} {record : Record} :
    Queue.backendIn snapshot id = some record ↔ IsBackend snapshot id record := by
  rw [Queue.backendIn, List.find?_eq_some_iff_append, decide_eq_true_iff, IsBackend]
  constructor
  · rintro ⟨hid, later, earlier, hsplit, hlater⟩
    refine ⟨earlier.reverse, later.reverse, ?_, hid, fun other hother => ?_⟩
    · rw [← List.reverse_reverse snapshot, hsplit]
      simp
    · simpa using hlater other (List.mem_reverse.mp hother)
  · rintro ⟨earlier, later, rfl, hid, hlater⟩
    refine ⟨hid, later.reverse, earlier.reverse, by simp, fun other hother => ?_⟩
    simpa using hlater other (List.mem_reverse.mp hother)

instance (snapshot : List Record) (id : String) (record : Record) :
    Decidable (IsBackend snapshot id record) :=
  decidable_of_iff _ backendIn_eq_some_iff

/-! ## Tickets in a pass -/

section Tickets

variable (policy : Policy) (snapshot : List Record) (live : PlayerId → Bool)

/-- The player is gone, or no record has the id on the ticket. -/
def Bad (t : Ticket) : Prop := live t.subject = false ∨ t.target ∉ snapshot.map (·.id)

instance (t : Ticket) : Decidable (Bad snapshot live t) := inferInstanceAs (Decidable (_ ∨ _))

/-- The player is there, and the backend on the ticket has room for its rank. -/
def Admissible (t : Ticket) : Prop :=
  live t.subject = true ∧
    ∃ record, IsBackend snapshot t.target record ∧ HasRoom policy t.rank record.status

instance (t : Ticket) : Decidable (Admissible policy snapshot live t) :=
  decidable_of_iff (live t.subject = true ∧ ∃ record ∈ snapshot,
    IsBackend snapshot t.target record ∧ HasRoom policy t.rank record.status) <| by
    refine and_congr_right fun _ => exists_congr fun record => and_iff_right_of_imp ?_
    rintro ⟨⟨earlier, later, rfl, -⟩, -⟩
    exact List.mem_append_right _ List.mem_cons_self

variable {policy snapshot live}

theorem bad_iff {t : Ticket} :
    Bad snapshot live t ↔ live t.subject = false ∨ Queue.backendIn snapshot t.target = none := by
  rw [Bad, Queue.backendIn, List.find?_eq_none]
  simp

/-- The walk passes a ticket that is not admissible, and drops it if it is bad. -/
theorem walk_cons_of_not_admissible {t : Ticket} (h : ¬ Admissible policy snapshot live t)
    (rest : List Ticket) :
    (Line.walk policy snapshot live (t :: rest)).kept =
        [t].filter (fun u => ¬ Bad snapshot live u) ++
          (Line.walk policy snapshot live rest).kept ∧
      (Line.walk policy snapshot live (t :: rest)).offer =
        (Line.walk policy snapshot live rest).offer := by
  rw [Line.walk]
  by_cases hlive : live t.subject = true
  · cases hbackend : Queue.backendIn snapshot t.target with
    | none =>
      have hbad : Bad snapshot live t := bad_iff.mpr (.inr hbackend)
      simp [hlive, hbad]
    | some record =>
      have hgood : ¬ Bad snapshot live t := fun hbad => by simp [bad_iff, hlive, hbackend] at hbad
      have hfull : ¬ policy.capacity t.rank record.status = .place := fun hplace =>
        h ⟨hlive, record, backendIn_eq_some_iff.mp hbackend, Policy.capacity_eq_place_iff.mp hplace⟩
      simp [hlive, hgood, hfull]
  · have hbad : Bad snapshot live t := .inl (Bool.not_eq_true _ ▸ hlive)
    simp [hlive, hbad]

theorem walk_append_of_not_admissible {ahead : List Ticket}
    (h : ∀ t ∈ ahead, ¬ Admissible policy snapshot live t) (rest : List Ticket) :
    (Line.walk policy snapshot live (ahead ++ rest)).kept =
        ahead.filter (fun u => ¬ Bad snapshot live u) ++
          (Line.walk policy snapshot live rest).kept ∧
      (Line.walk policy snapshot live (ahead ++ rest)).offer =
        (Line.walk policy snapshot live rest).offer := by
  induction ahead with
  | nil => exact ⟨rfl, rfl⟩
  | cons t ahead ih =>
    obtain ⟨hkept, hoffer⟩ := ih fun u hu => h u (List.mem_cons_of_mem t hu)
    obtain ⟨hfirst, hsame⟩ := walk_cons_of_not_admissible (h t List.mem_cons_self) (ahead ++ rest)
    rw [List.cons_append, hfirst, hsame, hkept, hoffer, ← List.append_assoc, ← List.filter_append]
    exact ⟨rfl, rfl⟩

/-- The walk ends at a ticket that is admissible. -/
theorem walk_cons_of_admissible {t : Ticket} {record : Record} (hlive : live t.subject = true)
    (hbackend : IsBackend snapshot t.target record) (hroom : HasRoom policy t.rank record.status)
    (rest : List Ticket) :
    Line.walk policy snapshot live (t :: rest) =
      ⟨rest, [.clear t.subject], true, some ⟨t, record.id, record.address⟩⟩ := by
  rw [Line.walk, if_pos hlive, backendIn_eq_some_iff.mpr hbackend]
  exact if_pos (Policy.capacity_eq_place_iff.mpr hroom)

/-- The walk serves the first ticket that is admissible. -/
theorem offer_walk (tickets : List Ticket) :
    (Line.walk policy snapshot live tickets).offer.map (·.ticket) =
      tickets.find? fun t => Admissible policy snapshot live t := by
  induction tickets with
  | nil => rfl
  | cons t rest ih =>
    by_cases h : Admissible policy snapshot live t
    · obtain ⟨hlive, record, hbackend, hroom⟩ := id h
      rw [walk_cons_of_admissible hlive hbackend hroom, List.find?_cons_of_pos (by simpa using h),
        Option.map_some]
    · rw [(walk_cons_of_not_admissible h rest).2, ih, List.find?_cons_of_neg (by simpa using h)]

end Tickets

/-! ## The result -/

namespace Desk

/-- **What a pass does**, from the line before it: with the first admissible ticket, and without
one. Nothing else about the queue changes. -/
theorem reconcile_exact (policy : Policy) (calls : List Call) (snapshot : List Record)
    (live : PlayerId → Bool) :
    let queue := ((Desk.new policy).run calls).2.queue
    let outcome := queue.reconcile snapshot live
    let line := queue.entries.map Entry.ticket
    let after := outcome.queue.entries.map Entry.ticket
    (∀ ahead t behind record, line = ahead ++ t :: behind →
      (∀ u ∈ ahead, ¬ Admissible policy snapshot live u) →
      live t.subject = true → IsBackend snapshot t.target record →
      HasRoom policy t.rank record.status →
        outcome.result.map Decision.offer = some ⟨t, record.id, record.address⟩ ∧
        after = ahead.filter (fun u => ¬ Bad snapshot live u) ++ behind) ∧
    ((∀ t ∈ line, ¬ Admissible policy snapshot live t) →
      outcome.result = none ∧ after = line.filter fun u => ¬ Bad snapshot live u) ∧
    outcome.queue.policy = policy ∧ outcome.queue.ledger.nextSeq = queue.ledger.nextSeq := by
  intro queue outcome line after
  obtain ⟨-, hrefines, hnumbered⟩ := (Refines.new policy).run (.new policy) calls
  have hpolicy : queue.policy = policy := policy_run (Desk.new policy) calls
  have hd := hnumbered.distinct
  obtain ⟨hoffer, -, hmodels⟩ := hrefines.models.reconcile hd snapshot live
  rw [show ((Desk.new policy).run calls).2.queue.policy = policy from hpolicy] at hoffer hmodels
  have hline : line = ((PlainDesk.new policy).run calls).2.line.tickets :=
    hrefines.models.sorted_eq hd
  have hafter : after = (Line.walk policy snapshot live line).kept := by
    rw [hline]
    exact hmodels.sorted_eq (hd.sublist ((Line.walk_kept_sublist ..).map _))
  rw [← hline] at hoffer
  refine ⟨fun ahead t behind record hsplit hahead hlive hbackend hroom => ?_, fun hnone => ?_,
    hpolicy, hmodels.nextSeq.trans hrefines.models.nextSeq.symm⟩
  · have hwalk := walk_append_of_not_admissible hahead (t :: behind)
    rw [walk_cons_of_admissible hlive hbackend hroom, ← hsplit] at hwalk
    exact ⟨hoffer.trans hwalk.2, hafter.trans hwalk.1⟩
  · have hwalk := walk_append_of_not_admissible hnone []
    rw [List.append_nil, Line.walk, List.append_nil] at hwalk
    exact ⟨Option.map_eq_none_iff.mp (hoffer.trans hwalk.2), hafter.trans hwalk.1⟩

/-- A moderator gets the last place of the lobby, past a player who is gone, one for an unknown
backend and one for a full backend. When only the full backend is known, nobody is admitted. -/
theorem reconcile_exact_of_last_place :
    let policy : Policy := ⟨2, .moderator⟩
    let calls : List Call := [.enqueue 6 .player "lobby" 5 default,
      .enqueue 5 .player "nowhere" 4 default, .enqueue 4 .moderator "lobby" 30 default,
      .enqueue 3 .moderator "arena" 20 default, .enqueue 2 .admin "nowhere" 10 default,
      .enqueue 1 .admin "lobby" 0 default]
    let arena : Backend.Record := ⟨"arena", "arena", "10.0.0.3:25565", none, .up 5 5, 0, none⟩
    let lobby : Backend.Record := ⟨"lobby", "lobby", "10.0.0.2:25565", none, .up 9 10, 0, none⟩
    let snapshot := [{ lobby with status := .offline }, arena, lobby]
    let live : PlayerId → Bool := (· ≠ 1)
    let queue := ((Desk.new policy).run calls).2.queue
    let line := queue.entries.map Entry.ticket
    let ahead : List Ticket := [⟨1, .admin, 0, "lobby", 5⟩, ⟨2, .admin, 10, "nowhere", 4⟩,
      ⟨3, .moderator, 20, "arena", 3⟩]
    let served : Ticket := ⟨4, .moderator, 30, "lobby", 2⟩
    let behind : List Ticket := [⟨5, .player, 4, "nowhere", 1⟩, ⟨6, .player, 5, "lobby", 0⟩]
    line = ahead ++ served :: behind ∧ (∀ u ∈ ahead, ¬ Admissible policy snapshot live u) ∧
      live served.subject = true ∧ IsBackend snapshot served.target lobby ∧
      HasRoom policy served.rank lobby.status ∧
      (queue.reconcile snapshot live).result.map Decision.offer =
        some ⟨served, "lobby", "10.0.0.2:25565"⟩ ∧
      (queue.reconcile snapshot live).queue.entries.map Entry.ticket =
        ⟨3, .moderator, 20, "arena", 3⟩ :: behind ∧
      (∀ t ∈ line, ¬ Admissible policy [arena] live t) ∧
      (queue.reconcile [arena] live).result = none ∧
      (queue.reconcile [arena] live).queue.entries.map Entry.ticket =
        [⟨3, .moderator, 20, "arena", 3⟩] := by
  intro policy calls arena lobby snapshot live queue line ahead served behind
  have hline : line = ahead ++ served :: behind := by decide +kernel
  have hahead : ∀ u ∈ ahead, ¬ Admissible policy snapshot live u := by decide +kernel
  have hbackend : IsBackend snapshot served.target lobby := by decide +kernel
  have hroom : HasRoom policy served.rank lobby.status := by decide +kernel
  have hnone : ∀ t ∈ line, ¬ Admissible policy [arena] live t := by decide +kernel
  obtain ⟨hresult, hafter⟩ := (reconcile_exact policy calls snapshot live).1 ahead served behind
    lobby hline hahead rfl hbackend hroom
  obtain ⟨hnobody, hkept⟩ := (reconcile_exact policy calls [arena] live).2.1 hnone
  have hfull : ahead.filter (fun u => ¬ Bad snapshot live u) ++ behind =
      ⟨3, .moderator, 20, "arena", 3⟩ :: behind := by decide +kernel
  have hrest : (line.filter fun u => ¬ Bad [arena] live u) =
      [⟨3, .moderator, 20, "arena", 3⟩] := by decide +kernel
  exact ⟨hline, hahead, rfl, hbackend, hroom, hresult, hafter.trans hfull, hnone, hnobody,
    hkept.trans hrest⟩

end Desk

end GameHub.Admission
