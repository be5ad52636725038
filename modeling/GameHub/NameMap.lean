/-!
# Maps from names

Finite maps with texts as keys, kept in the order of the keys. The order is that of code points,
which is also the order of the UTF-8 bytes. A map is its list of entries in strictly increasing
order, so two maps with the same entries are equal.

The lemmas say what each operation does to look-up (`get?_empty` and `get?_insert`), that look-up
finds every entry (`get?_of_mem`) and nothing else (`isSome_get?_iff`), and that the entries of a
map make that map again (`ofList_entries`).
-/

namespace GameHub

/-- A map from texts to values of `α`. -/
structure NameMap (α : Type) where
  entries : List (String × α)
  sorted : entries.Pairwise (fun a b => a.1 < b.1)
  deriving DecidableEq

namespace NameMap

variable {α : Type}

/-- The map without entries. -/
def empty : NameMap α := ⟨[], List.Pairwise.nil⟩

instance : Inhabited (NameMap α) := ⟨empty⟩
instance [Repr α] : Repr (NameMap α) := ⟨fun m p => reprPrec m.entries p⟩

/-! ## Look-up -/

/-- The value of the first entry with the key. -/
def lookUp (key : String) : List (String × α) → Option α
  | [] => none
  | (k, v) :: rest => if k = key then some v else lookUp key rest

/-- The value of a key. -/
def get? (m : NameMap α) (key : String) : Option α := lookUp key m.entries

/-! ## Insertion -/

/-- Puts an entry at its place, instead of one with the same key. -/
def insertSorted (key : String) (value : α) : List (String × α) → List (String × α)
  | [] => [(key, value)]
  | (k, v) :: rest =>
    if key < k then (key, value) :: (k, v) :: rest
    else if key = k then (key, value) :: rest
    else (k, v) :: insertSorted key value rest

theorem mem_insertSorted {key : String} {value : α} {entries : List (String × α)}
    {e : String × α} (h : e ∈ insertSorted key value entries) : e = (key, value) ∨ e ∈ entries := by
  induction entries with
  | nil => simpa [insertSorted] using h
  | cons head rest ih =>
    obtain ⟨k, v⟩ := head
    rw [insertSorted] at h
    split at h
    · grind
    · split at h <;> grind

theorem lt_of_not_lt {a b : String} (h : ¬a < b) (hne : a ≠ b) : b < a := by
  rcases Decidable.em (b < a) with h' | h'
  · exact h'
  · exact absurd (String.le_antisymm (String.not_lt.mp h') (String.not_lt.mp h)) hne

theorem sorted_insertSorted (key : String) (value : α) {entries : List (String × α)}
    (h : entries.Pairwise (fun a b => a.1 < b.1)) :
    (insertSorted key value entries).Pairwise (fun a b => a.1 < b.1) := by
  induction entries with
  | nil => simp [insertSorted]
  | cons head rest ih =>
    obtain ⟨k, v⟩ := head
    obtain ⟨hk, hrest⟩ := List.pairwise_cons.mp h
    -- The entry goes in front of the head, in its place, or behind it.
    rw [insertSorted]
    split
    · next hlt =>
      refine List.pairwise_cons.mpr ⟨fun e he => ?_, h⟩
      rcases List.mem_cons.mp he with rfl | he
      · exact hlt
      · exact String.lt_trans hlt (hk e he)
    · next hlt =>
      split
      · next heq => subst heq; exact List.pairwise_cons.mpr ⟨hk, hrest⟩
      · next hne =>
        refine List.pairwise_cons.mpr ⟨fun e he => ?_, ih hrest⟩
        rcases mem_insertSorted he with rfl | he
        · exact lt_of_not_lt hlt hne
        · exact hk e he

/-- The map with the value for the key, whatever it held before. -/
def insert (m : NameMap α) (key : String) (value : α) : NameMap α :=
  ⟨insertSorted key value m.entries, sorted_insertSorted key value m.sorted⟩

/-- The map of a list of entries; of entries with one key the last counts. -/
def ofList (entries : List (String × α)) : NameMap α :=
  entries.foldl (fun m e => m.insert e.1 e.2) empty

@[simp]
theorem get?_empty (key : String) : (empty : NameMap α).get? key = none := rfl

theorem lookUp_insertSorted_self (key : String) (value : α) (entries : List (String × α)) :
    lookUp key (insertSorted key value entries) = some value := by
  induction entries with
  | nil => simp [insertSorted, lookUp]
  | cons head rest ih =>
    obtain ⟨k, v⟩ := head
    rw [insertSorted]
    split
    · simp [lookUp]
    · split
      · simp [lookUp]
      · next hne => simp [lookUp, Ne.symm hne, ih]

theorem lookUp_insertSorted_of_ne {key other : String} (value : α) (h : other ≠ key)
    (entries : List (String × α)) :
    lookUp other (insertSorted key value entries) = lookUp other entries := by
  induction entries with
  | nil => simp [insertSorted, lookUp, Ne.symm h]
  | cons head rest ih =>
    obtain ⟨k, v⟩ := head
    rw [insertSorted]
    split
    · simp [lookUp, Ne.symm h]
    · split
      · next heq => subst heq; simp [lookUp, Ne.symm h]
      · by_cases hk : k = other <;> simp [lookUp, hk, ih]

theorem get?_insert_self (m : NameMap α) (key : String) (value : α) :
    (m.insert key value).get? key = some value :=
  lookUp_insertSorted_self key value m.entries

theorem get?_insert_of_ne (m : NameMap α) {key other : String} (value : α) (h : other ≠ key) :
    (m.insert key value).get? other = m.get? other :=
  lookUp_insertSorted_of_ne value h m.entries

theorem get?_insert (m : NameMap α) (key other : String) (value : α) :
    (m.insert key value).get? other = if key = other then some value else m.get? other := by
  by_cases h : key = other
  · subst h
    rw [if_pos rfl, get?_insert_self]
  · rw [if_neg h, get?_insert_of_ne m value (Ne.symm h)]

/-! ## Lists of entries -/

theorem get?_of_mem {m : NameMap α} {e : String × α} (h : e ∈ m.entries) :
    m.get? e.1 = some e.2 := by
  obtain ⟨entries, sorted⟩ := m
  rw [get?]
  induction entries with
  | nil => exact (List.not_mem_nil h).elim
  | cons head rest ih =>
    obtain ⟨hhead, hrest⟩ := List.pairwise_cons.mp sorted
    rcases List.mem_cons.mp h with rfl | h
    · simp [lookUp]
    · have hne : head.1 ≠ e.1 := fun heq => String.lt_irrefl _ (heq ▸ hhead e h)
      simpa [lookUp, hne] using ih hrest h

theorem isSome_get?_iff {m : NameMap α} {key : String} :
    (m.get? key).isSome = true ↔ key ∈ m.entries.map (·.1) := by
  rw [get?]
  induction m.entries with
  | nil => simp [lookUp]
  | cons head rest ih =>
    by_cases hk : head.1 = key
    · simp [lookUp, hk]
    · simp [lookUp, hk, ih, Ne.symm hk]

theorem nodup_keys (m : NameMap α) : (m.entries.map (·.1)).Nodup := by
  refine List.pairwise_map.mpr (m.sorted.imp fun {a b} hlt heq => ?_)
  rw [heq] at hlt
  exact String.lt_irrefl _ hlt

theorem eq_of_entries {m n : NameMap α} (h : m.entries = n.entries) : m = n := by
  cases m
  cases n
  simpa using h

theorem insertSorted_of_last {key : String} (value : α) {entries : List (String × α)}
    (h : ∀ e ∈ entries, e.1 < key) :
    insertSorted key value entries = entries ++ [(key, value)] := by
  induction entries with
  | nil => rfl
  | cons e entries ih =>
    have hlt := h e List.mem_cons_self
    have hne : key ≠ e.1 := fun heq => String.lt_irrefl _ (heq ▸ hlt)
    rw [insertSorted, if_neg (String.lt_asymm hlt), if_neg hne,
      ih fun e he => h e (List.mem_cons_of_mem _ he), List.cons_append]

/-- Entries that come in order end up in the same order. -/
theorem entries_foldl_insert {m : NameMap α} {entries : List (String × α)}
    (h : (m.entries ++ entries).Pairwise (fun a b => a.1 < b.1)) :
    (entries.foldl (fun m e => m.insert e.1 e.2) m).entries = m.entries ++ entries := by
  induction entries generalizing m with
  | nil => exact (List.append_nil _).symm
  | cons e entries ih =>
    have hlast : ∀ d ∈ m.entries, d.1 < e.1 := fun d hd =>
      (List.pairwise_append.mp h).2.2 d hd e List.mem_cons_self
    have hinsert : (m.insert e.1 e.2).entries = m.entries ++ [e] :=
      insertSorted_of_last e.2 hlast
    rw [List.foldl_cons, ih (by rw [hinsert]; simpa using h), hinsert, List.append_assoc,
      List.singleton_append]

theorem ofList_entries (m : NameMap α) : ofList m.entries = m :=
  eq_of_entries (entries_foldl_insert (m := empty) m.sorted)

end NameMap

end GameHub
