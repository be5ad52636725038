import GameHub.Text.Blank
import GameHub.Text.Number

/-!
# Texts that write a count

`Writes` says which texts write which count, without an algorithm: blanks, perhaps a plus sign, some
decimal digits, blanks. Trimming the text and reading what is left finds just these counts
(`count?_trim`).
-/

namespace GameHub.Text

/-- A number as people write it: some decimal digits after an optional plus sign. -/
def Numeral (word : List Char) (n : Nat) : Prop :=
  ∃ sign digits, word = sign ++ digits ∧ (sign = [] ∨ sign = ['+']) ∧ digits ≠ [] ∧
    (∀ c ∈ digits, c.isDigit = true) ∧ Nat.ofDigitChars 10 digits 0 = n

/-- The text has a count in it, and blanks around. -/
def Writes (text : String) (n : UInt32) : Prop :=
  ∃ before word after, text.toList = before ++ word ++ after ∧
    (∀ c ∈ before ++ after, isBlank c = true) ∧ Numeral word n.toNat

/-! ## Trimming -/

/-- What trimming takes away is blank. -/
theorem exists_toList_eq_trim (s : String) :
    ∃ before after, s.toList = before ++ (trim s).toList ++ after ∧
      ∀ c ∈ before ++ after, isBlank c = true := by
  let rest := s.toList.dropWhile isBlank
  refine ⟨s.toList.takeWhile isBlank, (rest.reverse.takeWhile isBlank).reverse, ?_, ?_⟩
  · have hrest : rest = (rest.reverse.dropWhile isBlank).reverse ++
        (rest.reverse.takeWhile isBlank).reverse := by
      rw [← List.reverse_append, List.takeWhile_append_dropWhile, List.reverse_reverse]
    rw [trim, String.toList_ofList, List.append_assoc, ← hrest, List.takeWhile_append_dropWhile]
  · intro c hc
    rcases List.mem_append.mp hc with hc | hc
    · exact List.all_eq_true.mp List.all_takeWhile c hc
    · exact List.all_eq_true.mp List.all_takeWhile c (List.mem_reverse.mp hc)

theorem dropWhile_append_of_not_blank {blanks word : List Char}
    (hblanks : ∀ c ∈ blanks, isBlank c = true) (hword : ∀ c ∈ word, isBlank c = false)
    (hne : word ≠ []) (rest : List Char) :
    (blanks ++ word ++ rest).dropWhile isBlank = word ++ rest := by
  rw [List.append_assoc, List.dropWhile_append_of_pos hblanks]
  cases word with
  | nil => exact absurd rfl hne
  | cons c word =>
    exact List.dropWhile_cons_of_neg (Bool.eq_false_iff.mp (hword c List.mem_cons_self))

/-- A word without blanks is left of what it stands in. -/
theorem trim_of_toList_eq {s : String} {before word after : List Char}
    (hs : s.toList = before ++ word ++ after) (hblanks : ∀ c ∈ before ++ after, isBlank c = true)
    (hword : ∀ c ∈ word, isBlank c = false) (hne : word ≠ []) : (trim s).toList = word := by
  have hfront := dropWhile_append_of_not_blank
    (fun c hc => hblanks c (List.mem_append_left _ hc)) hword hne after
  have hback := @dropWhile_append_of_not_blank after.reverse word.reverse
    (fun c hc => hblanks c (List.mem_append_right _ (List.mem_reverse.mp hc)))
    (fun c hc => hword c (List.mem_reverse.mp hc)) (List.reverse_ne_nil_iff.mpr hne) []
  rw [List.append_nil, List.append_nil] at hback
  rw [trim, String.toList_ofList, hs, hfront, List.reverse_append, hback, List.reverse_reverse]

/-! ## Reading -/

theorem not_blank_of_isDigit {c : Char} (h : c.isDigit = true) : isBlank c = false := by
  have hrange : 48 ≤ c.toNat ∧ c.toNat ≤ 57 := by
    simpa [Char.isDigit, UInt32.le_iff_toNat_le] using h
  simp [isBlank]
  omega

theorem Numeral.not_blank {word : List Char} {n : Nat} (h : Numeral word n) :
    word ≠ [] ∧ ∀ c ∈ word, isBlank c = false := by
  obtain ⟨sign, digits, rfl, hsign, hne, hdigits, -⟩ := h
  refine ⟨fun hnil => hne (List.append_eq_nil_iff.mp hnil).2, fun c hc => ?_⟩
  rcases List.mem_append.mp hc with hc | hc
  · rcases hsign with rfl | rfl
    · exact absurd hc List.not_mem_nil
    · rw [List.mem_singleton.mp hc]
      decide
  · exact not_blank_of_isDigit (hdigits c hc)

theorem decimal?_eq_some_iff {digits : List Char} {n : Nat} :
    decimal? digits = some n ↔
      digits ≠ [] ∧ (∀ c ∈ digits, c.isDigit = true) ∧ Nat.ofDigitChars 10 digits 0 = n := by
  rw [decimal?, Nat.ofDigitChars_eq_foldl]
  simp [decimalFrom, and_assoc]

/-- The bound on a count cuts off no count. -/
theorem bounded_eq_some_iff {n : Nat} {count : UInt32} :
    (if n < UInt32.size then some (UInt32.ofNat n) else none) = some count ↔ n = count.toNat := by
  constructor
  · intro h
    split at h
    · next hn => rw [← Option.some_inj.mp h, UInt32.toNat_ofNat_of_lt' hn]
    · cases h
  · rintro rfl
    rw [if_pos count.toNat_lt, UInt32.ofNat_toNat]

theorem count?_eq_some_iff {s : String} {n : UInt32} :
    count? s = some n ↔ Numeral s.toList n.toNat := by
  simp only [count?, Option.bind_eq_some_iff, bounded_eq_some_iff, exists_eq_right,
    decimal?_eq_some_iff]
  constructor
  · intro h
    split at h
    · next digits hs => exact ⟨['+'], digits, hs, .inr rfl, h⟩
    · exact ⟨[], s.toList, rfl, .inl rfl, h⟩
  · rintro ⟨sign, digits, hs, rfl | rfl, h⟩
    · rw [hs, List.nil_append]
      split
      · exact absurd (h.2.1 '+' List.mem_cons_self) (by decide)
      · exact h
    · rw [hs]
      exact h

/-- A count is read from the texts that write it, and from no others. -/
theorem count?_trim {s : String} {n : UInt32} : count? (trim s) = some n ↔ Writes s n := by
  rw [count?_eq_some_iff]
  constructor
  · intro h
    obtain ⟨before, after, hs, hblanks⟩ := exists_toList_eq_trim s
    exact ⟨before, _, after, hs, hblanks, h⟩
  · rintro ⟨before, word, after, hs, hblanks, hword⟩
    rwa [trim_of_toList_eq hs hblanks hword.not_blank.2 hword.not_blank.1]

end GameHub.Text
