import GameHub.Admission.Queue
import GameHub.Proofs.Ledger.Order

/-!
# A plain line

The reference that the admission queue is measured by. A `Line` is a list of tickets in the order of
service, with at most one ticket for a player, and the number of the next insertion. It has no heap,
and every operation works on the list.

`PlainDesk` is a line together with the offers that it has made, so that an offer that came to
nothing can be handed back.
-/

namespace GameHub.Admission

open Backend

/-- A player who is sent to a backend, without the position in the heap array. -/
structure Offer where
  ticket : Ticket
  backend : String
  address : String
  deriving DecidableEq, Repr

def Decision.offer (d : Decision) : Offer := ⟨d.entry.ticket, d.backend, d.address⟩

/-- Players in the order of service. -/
structure Line where
  tickets : List Ticket
  nextSeq : Nat
  sorted : tickets.Pairwise (·.notAfter ·)
  unique : (tickets.map (·.subject)).Nodup

namespace Line

def empty : Line := ⟨[], 0, .nil, .nil⟩

/-! ## Joining and leaving -/

/-- The line when players may have left it. -/
def restrict (l : Line) (tickets : List Ticket) (h : tickets.Sublist l.tickets) : Line where
  tickets := tickets
  nextSeq := l.nextSeq
  sorted := l.sorted.sublist h
  unique := l.unique.sublist (h.map _)

def without (l : Line) (subject : PlayerId) : Line :=
  l.restrict (l.tickets.filter (·.subject ≠ subject)) List.filter_sublist

/-- Puts a ticket in its place, instead of the one that its player had. -/
def put (l : Line) (t : Ticket) : Line where
  tickets := insertBy Ticket.notAfter t (l.without t.subject).tickets
  nextSeq := max l.nextSeq (t.seq + 1)
  sorted := @pairwise_insertBy _ Ticket.notAfter (fun _ _ _ => Ticket.notAfter_trans)
    Ticket.notAfter_total t _ (l.without t.subject).sorted
  unique := by
    have hperm := (@perm_insertBy _ Ticket.notAfter t (l.without t.subject).tickets).map (·.subject)
    refine hperm.nodup_iff.mpr (List.nodup_cons.mpr ⟨?_, (l.without t.subject).unique⟩)
    simp [without, restrict]

/-! ## Looking at the line -/

def isQueued (l : Line) (subject : PlayerId) : Bool := l.tickets.any (·.subject = subject)

theorem tickets_without {l : Line} {subject : PlayerId} (h : l.isQueued subject = false) :
    (l.without subject).tickets = l.tickets := by
  refine List.filter_eq_self.mpr fun t ht => decide_eq_true fun hsubject => ?_
  exact List.any_eq_false.mp h t ht (decide_eq_true hsubject)

/-- The place of a player in the line of the live ones, counted from one. -/
def position (l : Line) (subject : PlayerId) (live : PlayerId → Bool) : Option Nat :=
  ((l.tickets.filter (live ·.subject)).findIdx? (·.subject = subject)).map (· + 1)

def progress (l : Line) (live : PlayerId → Bool) : List Signal :=
  let waiting := l.tickets.filter (live ·.subject)
  waiting.zipIdx.map fun (t, i) =>
    .progress t.subject (Notice.progress t.target (i + 1) waiting.length)

/-! ## Serving the line -/

/-- What a walk along the line comes to. -/
structure Walk where
  /-- The tickets that stay. -/
  kept : List Ticket
  signals : List Signal
  /-- A ticket was dropped or served. -/
  changed : Bool
  offer : Option Offer

/-- Drops the tickets of players who are gone and those for unknown backends, keeps those that have
to wait, and ends with the first that is served. -/
def walk (policy : Policy) (snapshot : List Record) (live : PlayerId → Bool) :
    List Ticket → Walk
  | [] => ⟨[], [], false, none⟩
  | t :: rest =>
    if live t.subject then
      match Queue.backendIn snapshot t.target with
      | some backend =>
        if policy.capacity t.rank backend.status = .place then
          ⟨rest, [.clear t.subject], true, some ⟨t, backend.id, backend.address⟩⟩
        else
          let later := walk policy snapshot live rest
          { later with kept := t :: later.kept }
      | none =>
        let later := walk policy snapshot live rest
        { later with
          signals := .notice t.subject (Notice.invalidTarget t.target) :: .clear t.subject ::
            later.signals
          changed := true }
    else { walk policy snapshot live rest with changed := true }

theorem walk_kept_sublist (policy : Policy) (snapshot : List Record) (live : PlayerId → Bool)
    (tickets : List Ticket) : (walk policy snapshot live tickets).kept.Sublist tickets := by
  fun_induction walk policy snapshot live tickets with
  | case1 => exact .slnil
  | case2 t rest => exact List.sublist_cons_self t rest
  | case3 t rest _ _ _ _ _ ih => exact ih.cons_cons t
  | case4 t rest _ _ _ ih => exact ih.cons t
  | case5 t rest _ _ ih => exact ih.cons t

def after (l : Line) (policy : Policy) (snapshot : List Record) (live : PlayerId → Bool) : Line :=
  l.restrict (walk policy snapshot live l.tickets).kept (walk_kept_sublist ..)

end Line

/-! ## Calls -/

/-- A call on an admission queue. -/
inductive Call where
  | enqueue (subject : PlayerId) (rank : Rank) (target : String) (now : UInt64)
    (backends : Registry)
  | remove (subject : PlayerId)
  | position (subject : PlayerId) (live : PlayerId → Bool)
  | isQueued (subject : PlayerId)
  | size
  | entries
  | reconcile (snapshot : List Record) (live : PlayerId → Bool)
  | refresh (live : PlayerId → Bool)
  /-- Hands back a copy of a decision, by its number in the order in which they were made. -/
  | requeue (number : Nat) (error : TransferError) (live : PlayerId → Bool)

/-- The answers to the calls. -/
inductive Answer where
  | done
  | said (yes : Bool)
  | place (position : Option Nat)
  | count (n : Nat)
  | tickets (tickets : List Ticket)
  | offered (offer : Option Offer)

/-- The answer to a call, and the signals that it sends. -/
structure Reply where
  answer : Answer
  signals : List Signal

/-- A line with the offers that it has made, oldest first. -/
structure PlainDesk where
  policy : Policy
  line : Line
  offers : List Offer

namespace PlainDesk

/-- Nobody has called yet. -/
def new (policy : Policy) : PlainDesk := ⟨policy, .empty, []⟩

/-- Answers a call from the list alone. -/
def step (d : PlainDesk) : Call → Reply × PlainDesk
  | .enqueue subject rank target now backends =>
    (⟨.done, [.notice subject (Notice.joined target ((backends.get? target).map (·.status)))]⟩,
      { d with line := d.line.put ⟨subject, rank, now, target, d.line.nextSeq⟩ })
  | .remove subject =>
    if d.line.isQueued subject then
      (⟨.said true, [.clear subject]⟩, { d with line := d.line.without subject })
    else (⟨.said false, []⟩, d)
  | .position subject live => (⟨.place (d.line.position subject live), []⟩, d)
  | .isQueued subject => (⟨.said (d.line.isQueued subject), []⟩, d)
  | .size => (⟨.count d.line.tickets.length, []⟩, d)
  | .entries => (⟨.tickets d.line.tickets, []⟩, d)
  | .reconcile snapshot live =>
    let walk := Line.walk d.policy snapshot live d.line.tickets
    let line := d.line.after d.policy snapshot live
    (⟨.offered walk.offer, walk.signals ++ if walk.changed then line.progress live else []⟩,
      { d with line, offers := d.offers ++ walk.offer.toList })
  | .refresh live => (⟨.done, d.line.progress live⟩, d)
  | .requeue number error live =>
    match d.offers[number]? with
    | none => (⟨.done, []⟩, d)
    | some offer =>
      let subject := offer.ticket.subject
      if live subject && !d.line.isQueued subject then
        let line := d.line.put offer.ticket
        (⟨.said true, .notice subject (Notice.transferFailed offer.backend error.message) ::
          line.progress live⟩, { d with line })
      else (⟨.said false, []⟩, d)

/-- The replies to a run of calls, and the desk after it. -/
def run (d : PlainDesk) : List Call → List Reply × PlainDesk
  | [] => ([], d)
  | call :: calls =>
    ((d.step call).1 :: ((d.step call).2.run calls).1, ((d.step call).2.run calls).2)

end PlainDesk

end GameHub.Admission
