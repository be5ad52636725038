import GameHub.Proofs.Ledger.Content
import Mathlib.Data.List.Nodup

/-!
# The order of service

`Ticket.Before` says who is served first: the higher rank, then the earlier arrival, then the
earlier insertion. It is what the comparison of entries computes (`precedes_iff`), and the sorted
ledger is its content in this order (`sorted_tickets`), whatever the layout of the heap array.
-/

namespace GameHub

/-- `a` is served before `b`. -/
def Ticket.Before (a b : Ticket) : Prop :=
  b.rank.level < a.rank.level ∨ a.rank = b.rank ∧
    (a.joinTime < b.joinTime ∨ a.joinTime = b.joinTime ∧ a.seq < b.seq)

instance (a b : Ticket) : Decidable (a.Before b) := by unfold Ticket.Before; infer_instance

/-- `a` is not served after `b`. -/
def Ticket.notAfter (a b : Ticket) : Bool := !decide (b.Before a)

namespace Ticket

variable {a b c : Ticket}

/-- The order of service on numbers. -/
theorem before_iff : a.Before b ↔ b.rank.level < a.rank.level ∨ a.rank.level = b.rank.level ∧
    (a.joinTime.toNat < b.joinTime.toNat ∨
      a.joinTime.toNat = b.joinTime.toNat ∧ a.seq < b.seq) := by
  have hrank : a.rank = b.rank ↔ a.rank.level = b.rank.level :=
    ⟨congrArg Rank.level, Rank.level_inj⟩
  rw [Before, hrank, UInt64.lt_iff_toNat_lt, UInt64.toNat_inj]

theorem notAfter_iff : a.notAfter b = true ↔ ¬ b.Before a := by
  rw [notAfter, Bool.not_eq_true', decide_eq_false_iff_not]

theorem notAfter_trans (hab : a.notAfter b = true) (hbc : b.notAfter c = true) :
    a.notAfter c = true := by
  rw [notAfter_iff, before_iff] at *
  omega

theorem notAfter_total (a b : Ticket) : a.notAfter b = true ∨ b.notAfter a = true := by
  rw [notAfter_iff, notAfter_iff, before_iff, before_iff]
  omega

theorem seq_eq_of_notAfter (hab : a.notAfter b = true) (hba : b.notAfter a = true) :
    a.seq = b.seq := by
  rw [notAfter_iff, before_iff] at *
  omega

theorem before_of_notAfter (h : a.notAfter b = true) (hne : a.seq ≠ b.seq) : a.Before b := by
  rw [notAfter_iff, before_iff] at h
  rw [before_iff]
  omega

theorem not_before_self (a : Ticket) : ¬ a.Before a := by
  rw [before_iff]
  omega

/-- Ranks fall along the line. -/
theorem level_le_of_before (h : a.Before b) : b.rank.level ≤ a.rank.level := by
  rw [before_iff] at h
  omega

/-- Of one rank the earlier arrival is served first. -/
theorem joinTime_le_of_not_before (h : ¬ b.Before a) (hrank : b.rank = a.rank) :
    a.joinTime ≤ b.joinTime := by
  rw [before_iff, hrank] at h
  rw [UInt64.le_iff_toNat_le]
  omega

end Ticket

/-! ## Entries -/

namespace Entry

theorem order_eq (a b : Entry) : a.order b = (compare b.rank.level a.rank.level).then
    ((compare a.joinTime b.joinTime).then (compare a.seq b.seq)) := rfl

theorem precedes_iff (a b : Entry) : a.precedes b = true ↔ a.ticket.Before b.ticket := by
  rw [precedes, beq_iff_eq, order_eq, Ordering.then_eq_lt, Ordering.then_eq_lt,
    Nat.compare_eq_lt, Nat.compare_eq_eq, Nat.compare_eq_lt, Std.compare_eq_lt,
    Std.compare_eq_iff_eq, Ticket.before_iff, UInt64.lt_iff_toNat_lt, ← UInt64.toNat_inj, eq_comm]
  rfl

theorem notAfter_ticket (a b : Entry) : a.ticket.notAfter b.ticket = a.notAfter b := by
  rw [Bool.eq_iff_iff, Ticket.notAfter_iff, notAfter, order_eq, Ordering.isLE_then_iff_or,
    Ordering.isLE_then_iff_or, Nat.compare_eq_lt, Nat.compare_eq_eq, Std.compare_eq_lt,
    Std.compare_eq_iff_eq, Nat.isLE_compare, Ticket.before_iff, UInt64.lt_iff_toNat_lt,
    ← UInt64.toNat_inj]
  simp only [ticket]
  omega

end Entry

/-! ## Sorting -/

namespace Ledger

theorem sorted_tickets (l : Ledger) :
    l.sorted.map Entry.ticket = sortBy Ticket.notAfter l.tickets :=
  map_sortBy Entry.notAfter_ticket l.toList

/-- Tickets with distinct numbers can be put in the order of service in one way only. -/
theorem sorted_tickets_eq {l : Ledger} {ts : List Ticket} (hperm : l.tickets.Perm ts)
    (hseqs : (ts.map (·.seq)).Nodup) (hts : ts.Pairwise (·.notAfter ·)) :
    l.sorted.map Entry.ticket = ts := by
  have hsorted := @pairwise_sortBy _ Ticket.notAfter (fun _ _ _ => Ticket.notAfter_trans)
    Ticket.notAfter_total l.tickets
  have hsort := (@perm_sortBy _ Ticket.notAfter l.tickets).trans hperm
  rw [sorted_tickets]
  refine hsort.eq_of_pairwise (fun a b ha hb hab hba => ?_) hsorted hts
  exact List.inj_on_of_nodup_map hseqs (hsort.mem_iff.mp ha) hb
    (Ticket.seq_eq_of_notAfter hab hba)

end Ledger

end GameHub
