import GameHub.Proofs.Admission.Refinement

/-!
# The order of arrivals decides ties only

Players join and leave, each of them once, and no two who join have both the rank and the join time
in common. In which order that happens does not show in the line afterwards.

**Theorem (`standings_of_moves_perm`).** From any queue that is reached, a permutation of the moves
leaves the same players in line, with the same ranks, join times and targets at every place, and so
at the same positions for any set of live players.

The tickets carry different numbers in the two runs, so the lines differ. They are equal up to the
numbers that are given out during the moves: `Ticket.capped` lowers all of these to one number. That
keeps the order of service (`Ticket.notAfter_capped`). What the line then holds is computed from the
moves, whatever their order (`PlainDesk.perm_capped_run`), and these tickets can be put in order in
one way only.
-/

namespace GameHub

/-! ## Capped tickets -/

namespace Ticket

variable {a b : Ticket}

/-- The ticket with its number lowered to a bound. -/
def capped (bound : Nat) (t : Ticket) : Ticket := { t with seq := min t.seq bound }

theorem capped_of_le {bound : Nat} (h : a.seq ≤ bound) : a.capped bound = a := by
  rw [capped, Nat.min_eq_left h]

/-- Tickets that the bound makes equal in number stay in the order of ranks and join times. -/
theorem notAfter_capped (bound : Nat) (h : a.notAfter b = true) :
    (a.capped bound).notAfter (b.capped bound) = true := by
  rw [notAfter_iff, before_iff] at *
  simp only [capped]
  omega

theorem key_eq_of_notAfter (hab : a.notAfter b = true) (hba : b.notAfter a = true) :
    (a.rank, a.joinTime) = (b.rank, b.joinTime) := by
  rw [notAfter_iff, before_iff] at *
  have hrank : a.rank.level = b.rank.level := by omega
  have htime : a.joinTime.toNat = b.joinTime.toNat := by omega
  rw [Rank.level_inj hrank, UInt64.toNat_inj.mp htime]

end Ticket

namespace Admission

/-! ## Moves -/

/-- A player joins the line, or leaves it. -/
inductive Move where
  | join (subject : PlayerId) (rank : Rank) (target : String) (now : UInt64) (backends : Registry)
  | leave (subject : PlayerId)

namespace Move

def call : Move → Call
  | join subject rank target now backends => .enqueue subject rank target now backends
  | leave subject => .remove subject

def subject : Move → PlayerId
  | join subject .. => subject
  | leave subject => subject

/-- What places a player who joins, before the number is looked at. -/
def key? : Move → Option (Rank × UInt64)
  | join _ rank _ now _ => some (rank, now)
  | leave _ => none

/-- The ticket of a player who joins, with a given number. -/
def ticket? (seq : Nat) : Move → Option Ticket
  | join subject rank target now _ => some ⟨subject, rank, now, target, seq⟩
  | leave _ => none

theorem map_ticket?_eq (seq : Nat) (m : Move) :
    (m.ticket? seq).map (fun t => (t.rank, t.joinTime)) = m.key? := by
  cases m with
  | join subject rank target now backends => rfl
  | leave subject => rfl

theorem of_ticket?_eq_some {seq : Nat} {m : Move} {t : Ticket} (h : m.ticket? seq = some t) :
    t.subject = m.subject ∧ t.seq = seq := by
  cases m with
  | join subject rank target now backends =>
    obtain rfl := Option.some_inj.mp h
    exact ⟨rfl, rfl⟩
  | leave subject => cases h

end Move

/-- What tickets become by moves, in some order: those who move lose their tickets, and those who
join get new ones. -/
def moved (seq : Nat) (moves : List Move) (tickets : List Ticket) : List Ticket :=
  moves.filterMap (Move.ticket? seq) ++ tickets.filter (·.subject ∉ moves.map Move.subject)

theorem moved_perm {seq : Nat} {moves moves' : List Move} (hperm : moves.Perm moves')
    (tickets : List Ticket) : (moved seq moves tickets).Perm (moved seq moves' tickets) := by
  have hsame : ∀ t ∈ tickets, decide (t.subject ∉ moves.map Move.subject) =
      decide (t.subject ∉ moves'.map Move.subject) :=
    fun t _ => by simp only [(hperm.map Move.subject).mem_iff]
  rw [moved, moved, List.filter_congr hsame]
  exact (hperm.filterMap _).append_right _

/-- One move and then the others, if nobody moves twice. -/
theorem moved_cons_perm {seq : Nat} {m : Move} {moves : List Move}
    (hsubjects : ((m :: moves).map Move.subject).Nodup) (tickets : List Ticket) :
    (moved seq moves (moved seq [m] tickets)).Perm (moved seq (m :: moves) tickets) := by
  have hnew : ([m].filterMap (Move.ticket? seq)).filter (·.subject ∉ moves.map Move.subject) =
      [m].filterMap (Move.ticket? seq) := by
    refine List.filter_eq_self.mpr fun t ht => decide_eq_true ?_
    obtain ⟨m', hm', ht⟩ := List.mem_filterMap.mp ht
    rw [(Move.of_ticket?_eq_some ht).1, List.mem_singleton.mp hm']
    exact (List.nodup_cons.mp hsubjects).1
  have hold : (tickets.filter (·.subject ∉ [m].map Move.subject)).filter
      (·.subject ∉ moves.map Move.subject) =
      tickets.filter (·.subject ∉ (m :: moves).map Move.subject) := by
    rw [List.filter_filter]
    refine List.filter_congr fun t _ => ?_
    simp [Bool.and_comm]
  rw [moved, moved, moved, List.filter_append, hnew, hold,
    show m :: moves = [m] ++ moves from rfl, List.filterMap_append, List.append_assoc]
  exact List.perm_append_comm_assoc ..

namespace PlainDesk

variable {d : PlainDesk} {bound : Nat}

/-- The tickets in line, with the numbers from a bound on taken for one number. -/
def capped (d : PlainDesk) (bound : Nat) : List Ticket := d.line.tickets.map (·.capped bound)

theorem sorted_capped (d : PlainDesk) (bound : Nat) :
    (d.capped bound).Pairwise (·.notAfter ·) :=
  List.pairwise_map.mpr (d.line.sorted.imp (Ticket.notAfter_capped bound))

theorem capped_without (subject : PlayerId) :
    (d.line.without subject).tickets.map (·.capped bound) =
      (d.capped bound).filter (·.subject ∉ [subject]) := by
  rw [capped, List.filter_map]
  refine congrArg _ (List.filter_congr fun t _ => ?_)
  simp [Ticket.capped]

/-- What one move does. -/
theorem perm_capped_step (h : bound ≤ d.line.nextSeq) (m : Move) :
    ((d.step m.call).2.capped bound).Perm (moved bound [m] (d.capped bound)) := by
  cases m with
  | join subject rank target now backends =>
    let t : Ticket := ⟨subject, rank, now, target, d.line.nextSeq⟩
    have hperm := (@perm_insertBy _ Ticket.notAfter t (d.line.without subject).tickets).map
      (·.capped bound)
    have ht : t.capped bound = ⟨subject, rank, now, target, bound⟩ := by
      rw [Ticket.capped, Nat.min_eq_right h]
    rw [List.map_cons, ht, capped_without] at hperm
    exact hperm
  | leave subject =>
    have htickets : (d.step (.remove subject)).2.line.tickets =
        (d.line.without subject).tickets := by
      rw [step]
      split
      · rfl
      · next hqueued => exact (Line.tickets_without (eq_false_of_ne_true hqueued)).symm
    rw [Move.call, capped, htickets, capped_without]
    exact .refl _

/-- What all moves do. -/
theorem perm_capped_run (h : bound ≤ d.line.nextSeq) {moves : List Move}
    (hsubjects : (moves.map Move.subject).Nodup) :
    ((d.run (moves.map Move.call)).2.capped bound).Perm (moved bound moves (d.capped bound)) := by
  induction moves generalizing d with
  | nil => simp [moved, run]
  | cons m moves ih =>
    -- The next number only grows, so later tickets are lowered to the bound as well.
    have hnext := Nat.le_trans h (nextSeq_le_step d m.call)
    have hrest := ih hnext (List.nodup_cons.mp hsubjects).2
    refine (hrest.trans ?_).trans (moved_cons_perm hsubjects _)
    exact (perm_capped_step h m).filter _ |>.append_left _

namespace Numbered

/-- No number of a ticket in line has to be lowered to the next one. -/
theorem capped_nextSeq (hn : d.Numbered) : d.capped d.line.nextSeq = d.line.tickets := by
  refine (List.map_congr_left fun t ht => ?_).trans (List.map_id _)
  exact Ticket.capped_of_le (Nat.le_of_lt (hn.fresh t (List.mem_append_left _ ht)))

/-- No two tickets after the moves are served at the same time: a new one follows the old ones that
it ties with, and no two new ones tie. -/
theorem eq_of_mem_moved (hn : d.Numbered) {moves : List Move}
    (hkeys : (moves.filterMap Move.key?).Nodup) {a b : Ticket}
    (ha : a ∈ moved d.line.nextSeq moves d.line.tickets)
    (hb : b ∈ moved d.line.nextSeq moves d.line.tickets)
    (hab : a.notAfter b = true) (hba : b.notAfter a = true) : a = b := by
  have hseq := Ticket.seq_eq_of_notAfter hab hba
  have hnew : ∀ t ∈ moves.filterMap (Move.ticket? d.line.nextSeq), t.seq = d.line.nextSeq := by
    intro t ht
    obtain ⟨m, -, ht⟩ := List.mem_filterMap.mp ht
    exact (Move.of_ticket?_eq_some ht).2
  have hold : ∀ t ∈ d.line.tickets, t.seq < d.line.nextSeq :=
    fun t ht => hn.fresh t (List.mem_append_left _ ht)
  -- Equal numbers leave two new tickets, which the keys tell apart, or two old ones.
  rcases List.mem_append.mp ha with ha | ha <;> rcases List.mem_append.mp hb with hb | hb
  · have hdistinct : ((moves.filterMap (Move.ticket? d.line.nextSeq)).map
        fun t => (t.rank, t.joinTime)).Nodup := by
      rw [List.map_filterMap]
      simpa only [Move.map_ticket?_eq] using hkeys
    exact List.inj_on_of_nodup_map hdistinct ha hb (Ticket.key_eq_of_notAfter hab hba)
  · have hlt := hold b (List.mem_of_mem_filter hb)
    have heq := hnew a ha
    omega
  · have hlt := hold a (List.mem_of_mem_filter ha)
    have heq := hnew b hb
    omega
  · exact List.inj_on_of_nodup_map hn.distinct (List.mem_of_mem_filter ha)
      (List.mem_of_mem_filter hb) hseq

/-- The capped tickets after the moves do not depend on the order of the moves. -/
theorem capped_run_eq (hn : d.Numbered) {moves moves' : List Move} (hperm : moves.Perm moves')
    (hsubjects : (moves.map Move.subject).Nodup) (hkeys : (moves.filterMap Move.key?).Nodup) :
    (d.run (moves.map Move.call)).2.capped d.line.nextSeq =
      (d.run (moves'.map Move.call)).2.capped d.line.nextSeq := by
  have hsubjects' := (hperm.map Move.subject).nodup_iff.mp hsubjects
  have hrun := perm_capped_run (Nat.le_refl d.line.nextSeq) hsubjects
  have hrun' := perm_capped_run (Nat.le_refl d.line.nextSeq) hsubjects'
  rw [hn.capped_nextSeq] at hrun hrun'
  have hperm' := hrun'.trans (moved_perm hperm.symm _)
  refine (hrun.trans hperm'.symm).eq_of_pairwise (fun a b ha hb hab hba => ?_)
    (sorted_capped ..) (sorted_capped ..)
  exact hn.eq_of_mem_moved hkeys (hrun.mem_iff.mp ha) (hperm'.mem_iff.mp hb) hab hba

end Numbered

end PlainDesk

/-! ## The result -/

/-- A place depends only on who is in line. -/
theorem Line.position_congr {l l' : Line}
    (h : l.tickets.map (·.subject) = l'.tickets.map (·.subject)) (subject : PlayerId)
    (live : PlayerId → Bool) : l.position subject live = l'.position subject live := by
  have hplace : ∀ l : Line, l.position subject live =
      (((l.tickets.map (·.subject)).filter live).findIdx? (· = subject)).map (· + 1) := by
    intro l
    rw [Line.position, List.filter_map, List.findIdx?_map]
    rfl
  rw [hplace, hplace, h]

namespace Desk

/-- **Moves of different players can be made in any order.** If no two of those who join have both
the rank and the join time in common, the line has the same entries at every place afterwards, up to
numbers and positions in the heap array, and everybody has the same place among the live ones. Those
who were in line before may tie with those who join, and may be among those who move. -/
theorem standings_of_moves_perm (policy : Policy) (calls : List Call) {moves moves' : List Move}
    (hperm : moves.Perm moves') (hsubjects : (moves.map Move.subject).Nodup)
    (hkeys : (moves.filterMap Move.key?).Nodup) :
    let d := ((Desk.new policy).run calls).2
    let q := (d.run (moves.map Move.call)).2.queue
    let q' := (d.run (moves'.map Move.call)).2.queue
    q.entries.map (fun e => (e.subject, e.rank, e.joinTime, e.target)) =
      q'.entries.map (fun e => (e.subject, e.rank, e.joinTime, e.target)) ∧
    ∀ subject live, q.position subject live = q'.position subject live := by
  intro d q q'
  obtain ⟨-, hrefines, hnumbered⟩ := (Refines.new policy).run (.new policy) calls
  obtain ⟨-, hq, hn⟩ := hrefines.run hnumbered (moves.map Move.call)
  obtain ⟨-, hq', hn'⟩ := hrefines.run hnumbered (moves'.map Move.call)
  have hcapped := hnumbered.capped_run_eq hperm hsubjects hkeys
  refine ⟨?_, fun subject live => ?_⟩
  · have htickets : q.entries.map Entry.ticket = _ := hq.models.sorted_eq hn.distinct
    have htickets' : q'.entries.map Entry.ticket = _ := hq'.models.sorted_eq hn'.distinct
    rw [PlainDesk.capped, PlainDesk.capped, ← htickets, ← htickets'] at hcapped
    simpa [Function.comp_def, Ticket.capped, Entry.ticket] using
      congrArg (List.map fun t => (t.subject, t.rank, t.joinTime, t.target)) hcapped
  · rw [hq.models.position_eq hn.distinct, hq'.models.position_eq hn'.distinct]
    refine Line.position_congr ?_ subject live
    simpa [PlainDesk.capped, Function.comp_def, Ticket.capped] using
      congrArg (List.map (·.subject)) hcapped

/-- Players 1 and 5 are in line when 3 comes with their rank and join time, 1 leaves, and 2 comes
again with a lower rank. All of it can happen the other way round. -/
theorem standings_of_moves_perm_of_ties :
    let calls : List Call := [.enqueue 1 .player "a" 10 default, .enqueue 2 .admin "a" 10 default,
      .enqueue 5 .player "c" 10 default]
    let moves : List Move := [.join 3 .player "b" 10 default, .leave 1,
      .join 4 .supporter "a" 30 default, .join 2 .player "b" 20 default]
    let d := ((Desk.new default).run calls).2
    let q := (d.run (moves.map Move.call)).2.queue
    let q' := (d.run (moves.reverse.map Move.call)).2.queue
    moves.Perm moves.reverse ∧ (moves.map Move.subject).Nodup ∧
      (moves.filterMap Move.key?).Nodup ∧ q.ledger ≠ q'.ledger ∧
      q.entries.map (·.subject) = [4, 5, 3, 2] ∧ q'.entries.map (·.subject) = [4, 5, 3, 2] := by
  intro calls moves d q q'
  have hperm : moves.Perm moves.reverse := (List.reverse_perm moves).symm
  have hsubjects : (moves.map Move.subject).Nodup := by decide
  have hkeys : (moves.filterMap Move.key?).Nodup := by decide
  have hq : q.entries.map (·.subject) = [4, 5, 3, 2] := by decide +kernel
  have hsame := congrArg (List.map Prod.fst)
    (standings_of_moves_perm default calls hperm hsubjects hkeys).1
  rw [List.map_map, List.map_map] at hsame
  exact ⟨hperm, hsubjects, hkeys, by decide +kernel, hq, hsame.symm.trans hq⟩

end Desk

end Admission

end GameHub
