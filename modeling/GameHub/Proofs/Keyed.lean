import Mathlib.Data.List.Nodup

/-!
# Lists with a key

Elements that are known by a key which no two of them share: a look-up finds every element, and
taking one out is leaving out its key.
-/

namespace GameHub

variable {α β : Type} [DecidableEq β] {f : α → β}

/-- A look-up by a key that no two elements share finds every element. -/
theorem find?_key_eq_some_iff {l : List α} (h : (l.map f).Nodup) {b : β} {a : α} :
    l.find? (f · = b) = some a ↔ a ∈ l ∧ f a = b := by
  constructor
  · intro hfind
    exact ⟨List.mem_of_find?_eq_some hfind, by simpa using List.find?_some hfind⟩
  · rintro ⟨hmem, hkey⟩
    cases hfind : l.find? (f · = b) with
    | none => exact absurd hkey (by simpa using List.find?_eq_none.mp hfind a hmem)
    | some found =>
      have hfound : f found = b := by simpa using List.find?_some hfind
      have hsame := List.inj_on_of_nodup_map h (List.mem_of_find?_eq_some hfind) hmem
      rw [hsame (hfound.trans hkey.symm)]

/-- What is left of a list when one element is taken out, if the element is known by a key. -/
theorem perm_filter_of_perm_cons {a : α} {as bs : List α} (h : as.Perm (a :: bs))
    (hf : (as.map f).Nodup) : bs.Perm (as.filter (f · ≠ f a)) := by
  have hnodup : ((a :: bs).map f).Nodup := (h.map f).nodup_iff.mp hf
  have hother : ∀ b ∈ bs, f b ≠ f a := by
    intro b hb heq
    exact (List.nodup_cons.mp hnodup).1 (List.mem_map.mpr ⟨b, hb, heq⟩)
  refine ((h.filter _).trans (.of_eq ?_)).symm
  rw [List.filter_cons_of_neg (by simp), List.filter_eq_self]
  exact fun b hb => decide_eq_true (hother b hb)

end GameHub
