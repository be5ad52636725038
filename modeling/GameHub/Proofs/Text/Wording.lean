import GameHub.Admission.Error
import GameHub.Notice
import GameHub.Restart.State
import Mathlib.Data.Nat.Digits.Defs

/-!
# How long the texts are

Every text that the hub words is made of fixed words, of numbers below `2 ^ 64`, and of names and
reasons that somebody else chose. So its length is known up to these: a name or a reason stands in
one text once, or at most twice.
-/

namespace GameHub

/-! ## Letters and digits -/

theorem utf8ByteSize_ofList_le (cs : List Char) :
    (String.ofList cs).utf8ByteSize ≤ 4 * cs.length := by
  induction cs with
  | nil => exact Nat.zero_le _
  | cons c cs ih =>
    have := c.utf8Size_le_four
    rw [String.ofList_cons, String.utf8ByteSize_append, String.utf8ByteSize_singleton,
      List.length_cons]
    omega

theorem utf8ByteSize_replicate {c : Char} (h : c.utf8Size = 1) (n : Nat) :
    (String.ofList (List.replicate n c)).utf8ByteSize = n := by
  induction n with
  | zero => rfl
  | succ n ih =>
    rw [List.replicate_succ, String.ofList_cons, String.utf8ByteSize_append,
      String.utf8ByteSize_singleton, ih, h, Nat.add_comm]

/-- A number of 64 bits has at most twenty digits. -/
theorem utf8ByteSize_toString_le {n : Nat} (h : n < UInt64.size) :
    (toString n).utf8ByteSize ≤ 80 := by
  have hdigits : (Nat.toDigits 10 n).length ≤ 20 :=
    (Nat.length_toDigits_le_iff (by decide) (by decide)).mpr (Nat.lt_of_lt_of_le h (by decide))
  have := utf8ByteSize_ofList_le (Nat.toDigits 10 n)
  rw [Nat.toString_eq_ofList_toDigits]
  omega

theorem utf8ByteSize_word_le (n : UInt64) : (toString n).utf8ByteSize ≤ 80 :=
  utf8ByteSize_toString_le n.toNat_lt

theorem utf8ByteSize_halfWord_le (n : UInt32) : (toString n).utf8ByteSize ≤ 80 :=
  utf8ByteSize_toString_le (Nat.lt_trans n.toNat_lt (by decide))

/-! ## What players are told -/

namespace Notice

theorem size_label_le (band : WaitBand) : band.label.utf8ByteSize ≤ 13 := by
  cases band <;> decide +kernel

theorem size_progress_le (target : String) {position size : Nat}
    (hposition : position < UInt64.size) (hsize : size < UInt64.size) :
    (progress target position size).utf8ByteSize ≤ target.utf8ByteSize + 198 := by
  have hposition := utf8ByteSize_toString_le hposition
  have hsize := utf8ByteSize_toString_le hsize
  have hlabel := size_label_le (.ofPosition position)
  unfold progress
  simp only [String.utf8ByteSize_append]
  change 10 + target.utf8ByteSize + 11 + (toString position).utf8ByteSize + 1 +
    (toString size).utf8ByteSize + 2 + (WaitBand.ofPosition position).label.utf8ByteSize + 1 ≤ _
  omega

theorem size_availability_le (target : String) (status : Option Backend.Status) :
    (availability target status).utf8ByteSize ≤ target.utf8ByteSize + 211 := by
  unfold availability
  cases status with
  | none =>
    simp only [String.utf8ByteSize_append]
    change target.utf8ByteSize + 58 ≤ _
    omega
  | some status =>
    have hcurrent := utf8ByteSize_halfWord_le status.current
    have hmax := utf8ByteSize_halfWord_le status.max
    dsimp only
    split_ifs
    · simp only [String.utf8ByteSize_append]
      change target.utf8ByteSize + 45 ≤ _
      omega
    · simp only [String.utf8ByteSize_append]
      change target.utf8ByteSize + 10 + (toString status.current).utf8ByteSize + 1 +
        (toString status.max).utf8ByteSize + 40 ≤ _
      omega
    · simp only [String.utf8ByteSize_append]
      change target.utf8ByteSize + 12 + (toString status.current).utf8ByteSize + 1 +
        (toString status.max).utf8ByteSize + 1 ≤ _
      omega

theorem size_joined_le (target : String) (status : Option Backend.Status) :
    (joined target status).utf8ByteSize ≤ 2 * target.utf8ByteSize + 290 := by
  have havailability := size_availability_le target status
  unfold joined
  simp only [String.utf8ByteSize_append]
  change 21 + target.utf8ByteSize + 2 + (availability target status).utf8ByteSize + 2 + 54 ≤ _
  omega

theorem size_invalidTarget (target : String) :
    (invalidTarget target).utf8ByteSize = target.utf8ByteSize + 61 := by
  unfold invalidTarget
  simp only [String.utf8ByteSize_append]
  change 12 + target.utf8ByteSize + 49 = _
  omega

theorem size_transferFailed (target reason : String) :
    (transferFailed target reason).utf8ByteSize =
      target.utf8ByteSize + reason.utf8ByteSize + 56 := by
  unfold transferFailed
  simp only [String.utf8ByteSize_append]
  change 12 + target.utf8ByteSize + 9 + reason.utf8ByteSize + 35 = _
  omega

theorem size_sending (target : String) :
    (sending target).utf8ByteSize = target.utf8ByteSize + 18 := by
  unfold sending
  simp only [String.utf8ByteSize_append]
  change 15 + target.utf8ByteSize + 3 = _
  omega

end Notice

theorem Admission.TransferError.size_rejected (reason : String) :
    (TransferError.rejected reason).message.utf8ByteSize = 31 + reason.utf8ByteSize := by
  unfold message
  exact String.utf8ByteSize_append ..

/-! ## What backends are told -/

namespace Restart

/-- The error names the backend that reported and the one that holds the slot. -/
theorem UnexpectedCompletion.size_message (e : UnexpectedCompletion) :
    e.message.utf8ByteSize =
      e.reported.utf8ByteSize + (e.holder.getD "").utf8ByteSize + 61 := by
  obtain ⟨reported, holder⟩ := e
  cases holder with
  | none =>
    unfold message
    simp only [String.utf8ByteSize_append]
    change 1 + reported.utf8ByteSize + 35 + 25 = reported.utf8ByteSize + 0 + 61
    omega
  | some name =>
    have hholder : s!"'{name}' holds the restart slot".utf8ByteSize =
        1 + name.utf8ByteSize + 24 := by
      simp only [String.utf8ByteSize_append]
      rfl
    unfold message
    simp only [String.utf8ByteSize_append]
    change 1 + reported.utf8ByteSize + 35 + s!"'{name}' holds the restart slot".utf8ByteSize =
      reported.utf8ByteSize + name.utf8ByteSize + 61
    omega

end Restart

end GameHub
