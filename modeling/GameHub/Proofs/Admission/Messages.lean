import GameHub.Proofs.Admission.Content
import GameHub.Proofs.Text.Wording

/-!
# How long the signals are

Every operation of the queue tells players something about the backend that they want to reach. Its
name stands in a text twice at most, or once beside the reason of a failure. So the texts are as
long as the targets of the tickets in line allow.
-/

namespace GameHub

open Backend

/-- The text of the signal, if it has one, takes at most so many bytes. -/
def Signal.Within (bytes : Nat) : Signal → Prop
  | notice _ text | progress _ text => text.utf8ByteSize ≤ bytes
  | clear _ => True

namespace Admission.Queue

variable {q : Queue} {ledger : Ledger} {live : PlayerId → Bool} {bytes : Nat} {signal : Signal}

theorem progressSignals_within (htargets : ∀ t ∈ ledger.tickets, t.target.utf8ByteSize ≤ bytes)
    (hsize : ledger.size < UInt64.size) (h : signal ∈ progressSignals ledger live) :
    signal.Within (2 * bytes + 290) := by
  obtain ⟨⟨e, place⟩, hmem, rfl⟩ := List.mem_map.mp h
  have he := (List.mem_filter.mp (List.fst_mem_of_mem_zipIdx hmem)).1
  have htarget := htargets e.ticket (List.mem_map_of_mem ((perm_sortBy ..).mem_iff.mp he))
  have hplace := List.snd_lt_of_mem_zipIdx hmem
  have hwaiting : (ledger.sorted.filter fun e => live e.subject).length ≤ ledger.size := by
    refine (List.length_filter_le ..).trans (Nat.le_of_eq ?_)
    exact (perm_sortBy ..).length_eq.trans Array.length_toList
  change e.target.utf8ByteSize ≤ bytes at htarget
  exact (Notice.size_progress_le e.target (by omega) (by omega)).trans (by omega)

theorem enqueue_within {subject : PlayerId} {rank : Rank} {target : String} {now : UInt64}
    {backends : Registry} (htarget : target.utf8ByteSize ≤ bytes)
    (h : signal ∈ (q.enqueue subject rank target now backends).signals) :
    signal.Within (2 * bytes + 290) := by
  obtain rfl := List.mem_singleton.mp h
  exact (Notice.size_joined_le target _).trans (by omega)

theorem remove_within {subject : PlayerId} (h : signal ∈ (q.remove subject).signals) :
    signal.Within bytes := by
  rw [remove] at h
  split at h
  · obtain rfl := List.mem_singleton.mp h
    trivial
  · exact absurd h List.not_mem_nil

theorem scan_within {policy : Policy} {snapshot : List Record} {entries : List Entry}
    (htargets : ∀ e ∈ entries, e.target.utf8ByteSize ≤ bytes)
    (h : signal ∈ (scan policy snapshot live ledger entries).signals) :
    signal.Within (2 * bytes + 290) := by
  induction entries generalizing ledger with
  | nil => exact absurd h List.not_mem_nil
  | cons e rest ih =>
    have hrest := fun e' he' => htargets e' (List.mem_cons_of_mem e he')
    rw [scan] at h
    cases hverdict : judge policy snapshot live e with
    | wait | gone =>
      rw [hverdict] at h
      exact ih hrest h
    | unknownTarget =>
      rw [hverdict] at h
      rcases List.mem_cons.mp h with rfl | h
      · -- The one text that repeats the name of the target.
        have htarget := htargets e List.mem_cons_self
        exact (Nat.le_of_eq (Notice.size_invalidTarget e.target)).trans (by omega)
      rcases List.mem_cons.mp h with rfl | h
      · trivial
      · exact ih hrest h
    | serve backend =>
      rw [hverdict] at h
      dsimp only at h
      split at h
      · exact absurd h List.not_mem_nil
      · obtain rfl := List.mem_singleton.mp h
        trivial

theorem reconcile_within {snapshot : List Record}
    (hsubjects : (q.ledger.tickets.map (·.subject)).Nodup)
    (htargets : ∀ t ∈ q.ledger.tickets, t.target.utf8ByteSize ≤ bytes)
    (hsize : q.size < UInt64.size) (h : signal ∈ (q.reconcile snapshot live).signals) :
    signal.Within (2 * bytes + 290) := by
  have hrest := (List.sublist_append_right ..).subperm.trans
    (reconcile_subperm hsubjects snapshot live)
  have hlength := hrest.length_le
  rw [Ledger.length_tickets, Ledger.length_tickets] at hlength
  rcases List.mem_append.mp h with h | h
  · exact scan_within (fun e he => htargets e.ticket
      (q.entries_perm.mem_iff.mp (List.mem_map_of_mem he))) h
  · split at h
    · exact progressSignals_within (fun t ht => htargets t (hrest.subset ht))
        (Nat.lt_of_le_of_lt hlength hsize) h
    · exact absurd h List.not_mem_nil

theorem requeue_within {d : Decision} {error : TransferError}
    (htargets : ∀ t ∈ d.entry.ticket :: q.ledger.tickets, t.target.utf8ByteSize ≤ bytes)
    (hbackend : d.backend.utf8ByteSize ≤ bytes)
    (herror : error.message.utf8ByteSize ≤ bytes + 50) (hsize : q.size + 1 < UInt64.size)
    (h : signal ∈ (q.requeue d error live).signals) : signal.Within (2 * bytes + 290) := by
  rw [requeue] at h
  split at h
  · exact absurd h List.not_mem_nil
  rcases List.mem_cons.mp h with rfl | h
  · exact (Nat.le_of_eq (Notice.size_transferFailed ..)).trans (by omega)
  · have hperm : (q.ledger.restore d.entry).tickets.Perm (d.entry.ticket :: q.ledger.tickets) :=
      Ledger.place_perm _ d.entry
    have hlength := hperm.length_eq
    rw [List.length_cons, Ledger.length_tickets, Ledger.length_tickets] at hlength
    exact progressSignals_within (fun t ht => htargets t (hperm.mem_iff.mp ht))
      (hlength ▸ hsize) h

end Admission.Queue

end GameHub
