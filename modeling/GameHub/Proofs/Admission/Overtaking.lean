import GameHub.Proofs.Admission.Pass

/-!
# Nobody is overtaken on the way to one backend

A pass skips those whom their backend cannot take now and goes on to those behind them. So a place
that is kept for high ranks might go to somebody behind a player who waits for the same backend.

**Theorem (`no_overtaking`).** It does not. Whoever is admitted is the first of those who are there
and want that backend, so nobody among them has a higher rank, and nobody of the same rank has
waited longer. And if a backend has room for a player then it has room for every player ahead who
wants it.

Room at a backend only grows with the rank (`HasRoom.of_le`), and the ranks only fall along the
line. So ahead of an admissible ticket every other ticket for the same backend is admissible, unless
its player is gone (`Admissible.of_before`), and the pass would have ended there.
-/

namespace GameHub.Admission

open Backend

section Room

variable {policy : Policy} {snapshot : List Record} {live : PlayerId → Bool} {status : Status}

theorem HasRoom.of_le {rank higher : Rank} (h : HasRoom policy rank status)
    (hle : rank.level ≤ higher.level) : HasRoom policy higher status := by
  refine ⟨h.online, h.free, ?_⟩
  cases h.unreserved with
  | inl hrank => exact .inl (Nat.le_trans hrank hle)
  | inr hopen => exact .inr hopen

/-- Ahead of a ticket that is admissible, so is every ticket for the same backend whose player is
there. -/
theorem Admissible.of_before {t u : Ticket} (h : Admissible policy snapshot live u)
    (hbefore : t.Before u) (hlive : live t.subject = true) (htarget : t.target = u.target) :
    Admissible policy snapshot live t := by
  obtain ⟨-, record, hbackend, hroom⟩ := h
  exact ⟨hlive, record, htarget ▸ hbackend, hroom.of_le (Ticket.level_le_of_before hbefore)⟩

/-- A pass admits the first admissible ticket of the line. -/
theorem Models.reconcile_first {q : Queue} {l : Line} (h : Models q l) (hd : l.Distinct)
    {decision : Decision} (hdecision : (q.reconcile snapshot live).result = some decision) :
    Admissible q.policy snapshot live decision.entry.ticket ∧
      ∀ t ∈ l.tickets, t.Before decision.entry.ticket → ¬ Admissible q.policy snapshot live t := by
  have hoffer := (h.reconcile hd snapshot live).1
  rw [hdecision, Option.map_some] at hoffer
  have hfirst : (Line.walk q.policy snapshot live l.tickets).offer.map (·.ticket) =
      l.tickets.find? fun t => Admissible q.policy snapshot live t := offer_walk l.tickets
  rw [← hoffer, Option.map_some, eq_comm, List.find?_eq_some_iff_append] at hfirst
  obtain ⟨hadmissible, ahead, behind, hl, hahead⟩ := hfirst
  refine ⟨of_decide_eq_true hadmissible, ?_⟩
  intro t ht hbefore hother
  rw [hl] at ht
  rcases List.mem_append.mp ht with ht | ht
  · have hnot := hahead t ht
    simp [hother] at hnot
  · rcases List.mem_cons.mp ht with rfl | ht
    · exact Ticket.not_before_self _ hbefore
    · exact Line.not_before_of_back hl t ht hbefore

end Room

/-! ## The result -/

namespace Desk

/-- **No overtaking on the same backend**, by the one who is admitted and by the rule for reserved
places. -/
theorem no_overtaking (policy : Policy) (calls : List Call) (snapshot : List Record)
    (live : PlayerId → Bool) :
    let queue := ((Desk.new policy).run calls).2.queue
    (∀ decision, (queue.reconcile snapshot live).result = some decision →
      ∀ other ∈ queue.entries, live other.subject = true → other.target = decision.entry.target →
        other.precedes decision.entry = false ∧
        other.rank.level ≤ decision.entry.rank.level ∧
        (other.rank = decision.entry.rank → decision.entry.joinTime ≤ other.joinTime)) ∧
    ∀ x ∈ queue.entries, ∀ y ∈ queue.entries, x.precedes y = true → x.target = y.target →
      ∀ record, IsBackend snapshot y.target record →
        policy.capacity y.rank record.status = .place →
        policy.capacity x.rank record.status = .place := by
  intro queue
  obtain ⟨l, hmodels, hd⟩ := exists_models_run policy calls
  constructor
  · intro decision hdecision other hother hlive htarget
    obtain ⟨hadmissible, hfirst⟩ := hmodels.reconcile_first hd hdecision
    have hmem : other.ticket ∈ l.tickets := hmodels.sorted_eq hd ▸ List.mem_map_of_mem hother
    have hnot : ¬ other.ticket.Before decision.entry.ticket := by
      intro hbefore
      exact hfirst _ hmem hbefore (hadmissible.of_before hbefore hlive htarget)
    refine ⟨?_, ?_, Ticket.joinTime_le_of_not_before hnot⟩
    · rwa [← Bool.not_eq_true, Entry.precedes_iff]
    · by_contra hhigher
      exact hnot (.inl (Nat.lt_of_not_le hhigher))
  · intro x _ y _ hprecedes _ record _ hplace
    have hbefore := (Entry.precedes_iff x y).mp hprecedes
    have hroom := Policy.capacity_eq_place_iff.mp hplace
    exact Policy.capacity_eq_place_iff.mpr (hroom.of_le (Ticket.level_le_of_before hbefore))

/-- An administrator is gone, and a moderator gets the last place of the lobby, ahead of another
one and of a player who came before both. -/
theorem no_overtaking_on_reserved_place :
    let policy : Policy := ⟨2, .moderator⟩
    let lobby : Record := ⟨"lobby", "lobby", "10.0.0.2:25565", none, .up 9 10, 0, none⟩
    let calls : List Call := [.enqueue 4 .player "lobby" 5 default,
      .enqueue 3 .moderator "lobby" 30 default, .enqueue 2 .moderator "lobby" 20 default,
      .enqueue 1 .admin "lobby" 50 default]
    let live : PlayerId → Bool := (· ≠ 1)
    let queue := ((Desk.new policy).run calls).2.queue
    let first : Decision := ⟨⟨2, .moderator, 20, "lobby", 2, 0⟩, "lobby", "10.0.0.2:25565"⟩
    (queue.reconcile [lobby] live).result = some first ∧
      (∀ other ∈ queue.entries, live other.subject = true → other.target = "lobby" →
        other.precedes first.entry = false) ∧
      ∃ x ∈ queue.entries, ∃ y ∈ queue.entries, x.precedes y = true ∧ x.target = y.target ∧
        IsBackend [lobby] y.target lobby ∧ policy.capacity y.rank lobby.status = .place ∧
        policy.capacity x.rank lobby.status = .place := by
  intro policy lobby calls live queue first
  have hfirst : (queue.reconcile [lobby] live).result = some first := by decide +kernel
  have hx : ⟨2, .moderator, 20, "lobby", 2, 1⟩ ∈ queue.entries := by decide +kernel
  have hy : ⟨3, .moderator, 30, "lobby", 1, 2⟩ ∈ queue.entries := by decide +kernel
  have hbackend : IsBackend [lobby] "lobby" lobby := by decide +kernel
  obtain ⟨hadmitted, hrule⟩ := no_overtaking policy calls [lobby] live
  refine ⟨hfirst, fun other hother hlive htarget =>
    (hadmitted first hfirst other hother hlive htarget).1, ?_⟩
  exact ⟨_, hx, _, hy, by decide +kernel, rfl, hbackend, by decide +kernel,
    hrule _ hx _ hy (by decide +kernel) rfl lobby hbackend (by decide +kernel)⟩

end Desk

end GameHub.Admission
