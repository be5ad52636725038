/-!
# Blank characters

The characters with the Unicode property White_Space, and what is left of a text when they are
dropped from both ends. A name counts as given only if something is left.
-/

namespace GameHub.Text

/-- The character has the property White_Space. -/
def isBlank (c : Char) : Bool :=
  let n := c.toNat
  (0x9 ≤ n && n ≤ 0xD) || n = 0x20 || n = 0x85 || n = 0xA0 || n = 0x1680
    || (0x2000 ≤ n && n ≤ 0x200A) || n = 0x2028 || n = 0x2029 || n = 0x202F || n = 0x205F
    || n = 0x3000

/-- The text without the blanks at its ends. -/
def trim (s : String) : String :=
  String.ofList ((s.toList.dropWhile isBlank).reverse.dropWhile isBlank).reverse

/-- Nothing but blanks. -/
def allBlank (s : String) : Bool := s.toList.all isBlank

/-- A text is blank exactly when nothing is left after trimming. -/
theorem trim_eq_empty_iff {s : String} : trim s = "" ↔ allBlank s = true := by
  have hdrop : ∀ l : List Char, l.dropWhile isBlank = [] ↔ l.all isBlank = true := by
    intro l
    induction l with
    | nil => simp
    | cons c l ih => by_cases hc : isBlank c <;> simp [hc, ih]
  have hend : (s.toList.dropWhile isBlank).all isBlank = s.toList.all isBlank := by
    conv => rhs; rw [← List.takeWhile_append_dropWhile (p := isBlank) (l := s.toList)]
    rw [List.all_append, List.all_takeWhile, Bool.true_and]
  rw [trim, String.ofList_eq_empty_iff, List.reverse_eq_nil_iff, hdrop, List.all_reverse, hend,
    allBlank]

end GameHub.Text
