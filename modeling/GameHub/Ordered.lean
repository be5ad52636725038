/-!
# Putting lists in order

Sorting by insertion. `sortBy` keeps the elements (`perm_sortBy`), puts them in order
(`pairwise_sortBy`), and leaves those that the order does not tell apart as they stood
(`filter_sortBy`). It commutes with maps that keep the order (`map_sortBy`).
-/

namespace GameHub

variable {α : Type} {le : α → α → Bool}

/-- Puts an element in front of the first one that it does not have to follow. -/
def insertBy (le : α → α → Bool) (a : α) : List α → List α
  | [] => [a]
  | b :: rest => if le a b then a :: b :: rest else b :: insertBy le a rest

/-- The elements in order. -/
def sortBy (le : α → α → Bool) (as : List α) : List α := as.foldr (insertBy le) []

theorem perm_insertBy (a : α) (as : List α) : (insertBy le a as).Perm (a :: as) := by
  induction as with
  | nil => exact .refl _
  | cons b rest ih =>
    rw [insertBy]
    split
    · exact .refl _
    · exact (ih.cons b).trans (.swap a b rest)

/-- The other elements stay as they stood. -/
theorem insertBy_split (le : α → α → Bool) (a : α) (as : List α) :
    ∃ ahead behind, as = ahead ++ behind ∧ insertBy le a as = ahead ++ a :: behind := by
  induction as with
  | nil => exact ⟨[], [], rfl, rfl⟩
  | cons b rest ih =>
    rw [insertBy]
    split
    · exact ⟨[], b :: rest, rfl, rfl⟩
    · obtain ⟨ahead, behind, hrest, hinsert⟩ := ih
      exact ⟨b :: ahead, behind, congrArg (b :: ·) hrest, congrArg (b :: ·) hinsert⟩

theorem perm_sortBy (as : List α) : (sortBy le as).Perm as := by
  induction as with
  | nil => exact .refl _
  | cons a rest ih => exact (perm_insertBy a _).trans (ih.cons a)

theorem pairwise_insertBy (htrans : ∀ a b c, le a b → le b c → le a c)
    (htotal : ∀ a b, le a b ∨ le b a) (a : α) {as : List α} (h : as.Pairwise (le · ·)) :
    (insertBy le a as).Pairwise (le · ·) := by
  induction as with
  | nil => exact List.pairwise_singleton ..
  | cons b rest ih =>
    obtain ⟨hb, hrest⟩ := List.pairwise_cons.mp h
    rw [insertBy]
    split
    · next hab =>
      refine List.pairwise_cons.mpr ⟨fun c hc => ?_, h⟩
      rcases List.mem_cons.mp hc with rfl | hc
      · exact hab
      · exact htrans a b c hab (hb c hc)
    · next hab =>
      refine List.pairwise_cons.mpr ⟨fun c hc => ?_, ih hrest⟩
      rcases List.mem_cons.mp ((perm_insertBy a rest).mem_iff.mp hc) with rfl | hc
      · exact (htotal c b).resolve_left hab
      · exact hb c hc

theorem pairwise_sortBy (htrans : ∀ a b c, le a b → le b c → le a c)
    (htotal : ∀ a b, le a b ∨ le b a) (as : List α) : (sortBy le as).Pairwise (le · ·) := by
  induction as with
  | nil => exact .nil
  | cons a rest ih => exact pairwise_insertBy htrans htotal a ih

/-- Of elements that do not have to follow one another, a new one comes first. -/
theorem filter_insertBy {p : α → Bool} (h : ∀ a b, p a → p b → le a b) (a : α) (as : List α) :
    (insertBy le a as).filter p = (a :: as).filter p := by
  induction as with
  | nil => rfl
  | cons b rest ih =>
    rw [insertBy]
    split
    · rfl
    · next hab =>
      have hp : ¬(p a ∧ p b) := fun ⟨ha, hb⟩ => hab (h a b ha hb)
      by_cases ha : p a <;> by_cases hb : p b <;> simp_all

theorem filter_sortBy {p : α → Bool} (h : ∀ a b, p a → p b → le a b) (as : List α) :
    (sortBy le as).filter p = as.filter p := by
  induction as with
  | nil => rfl
  | cons a rest ih =>
    have := filter_insertBy h a (sortBy le rest)
    rw [List.filter_cons, ih, ← List.filter_cons] at this
    exact this

section Map

variable {β : Type} {f : α → β} {le' : β → β → Bool}

theorem map_insertBy (h : ∀ a b, le' (f a) (f b) = le a b) (a : α) (as : List α) :
    (insertBy le a as).map f = insertBy le' (f a) (as.map f) := by
  induction as with
  | nil => rfl
  | cons b rest ih =>
    rw [List.map_cons, insertBy, insertBy, h]
    split
    · rfl
    · rw [List.map_cons, ih]

theorem map_sortBy (h : ∀ a b, le' (f a) (f b) = le a b) (as : List α) :
    (sortBy le as).map f = sortBy le' (as.map f) := by
  induction as with
  | nil => rfl
  | cons a rest ih => exact (map_insertBy h a _).trans (congrArg (insertBy le' (f a)) ih)

end Map

end GameHub
