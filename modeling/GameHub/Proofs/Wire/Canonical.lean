import GameHub.Proofs.Wire.Reads
import Mathlib.Data.List.Perm.Subperm

/-!
# Only one way to write a value

`Takes r bytes front rest a` says that a reader, given these bytes, takes the front of them for the
value `a`, and would take the same front for it anywhere. A codec is `Canonical` if what its reader
takes is what its writer would have put there: no two byte strings stand for one value. Like `Reads`
this passes from the parts of a value to the whole, with no bound on its size, because a count that
was read fits its eight bytes.

Maps are the exception. Their entries can stand in any order and more than once for a key, and only
ascending entries are written back as they were (`entries_ofList_eq_iff`).
-/

namespace GameHub

/-! ## Entries of a map -/

namespace NameMap

variable {α : Type}

/-- The entries come in the order of their keys, and no key comes twice. -/
def Ascending (entries : List (String × α)) : Prop := entries.Pairwise (·.1 < ·.1)

instance (entries : List (String × α)) : Decidable (Ascending entries) :=
  inferInstanceAs (Decidable (entries.Pairwise (·.1 < ·.1)))

/-- Making a map of entries loses nothing exactly if they ascend. -/
theorem entries_ofList_eq_iff {entries : List (String × α)} :
    (ofList entries).entries = entries ↔ Ascending entries := by
  constructor
  · intro h
    rw [← h]
    exact (ofList entries).sorted
  · intro h
    exact entries_foldl_insert (m := empty) h

theorem insertSorted_subperm (key : String) (value : α) (entries : List (String × α)) :
    (insertSorted key value entries).Subperm ((key, value) :: entries) := by
  induction entries with
  | nil => exact .refl _
  | cons e rest ih =>
    rw [insertSorted]
    split
    · exact .refl _
    · split
      · exact ((List.sublist_cons_self e rest).cons_cons _).subperm
      · exact ((List.subperm_cons e).mpr ih).trans (List.Perm.swap _ _ _).subperm

theorem foldl_insert_subperm (m : NameMap α) (entries : List (String × α)) :
    (entries.foldl (fun m e => m.insert e.1 e.2) m).entries.Subperm (m.entries ++ entries) := by
  induction entries generalizing m with
  | nil => exact (List.append_nil _ ▸ .refl _)
  | cons e rest ih =>
    refine (ih (m.insert e.1 e.2)).trans ?_
    refine ((insertSorted_subperm e.1 e.2 m.entries).append (.refl rest)).trans ?_
    exact List.perm_middle.symm.subperm

/-- A map holds some of the entries that it was made of. -/
theorem entries_ofList_subperm (entries : List (String × α)) :
    (ofList entries).entries.Subperm entries :=
  foldl_insert_subperm empty entries

end NameMap

namespace Wire

/-! ## Readers -/

/-- The reader finds the value at the front of the bytes, and finds it in that front anywhere. -/
structure Takes {α : Type} (r : Reader α) (bytes front rest : List UInt8) (a : α) : Prop where
  split : bytes = front ++ rest
  reads : Reads r front a

namespace Takes

variable {α β : Type} {r : Reader α} {bytes front more middle rest : List UInt8} {a : α} {b : β}

theorem pure (a : α) (bytes : List UInt8) : Takes (Pure.pure a) bytes [] bytes a :=
  ⟨rfl, .pure a⟩

theorem bind {f : α → Reader β} (hr : Takes r bytes front middle a)
    (hf : Takes (f a) middle more rest b) : Takes (r >>= f) bytes (front ++ more) rest b where
  split := by rw [hr.split, hf.split, List.append_assoc]
  reads := hr.reads.bind hf.reads

theorem then_pure {f : α → Reader β} (hr : Takes r bytes front rest a)
    (hf : f a = Pure.pure b) : Takes (r >>= f) bytes front rest b :=
  ⟨hr.split, hr.reads.then_pure hf⟩

theorem eq_ok (h : Takes r bytes front rest a) : r bytes = .ok (a, rest) := by
  rw [h.split]
  exact h.reads.whole rest

end Takes

theorem bind_of_ok {α β : Type} {r : Reader α} {f : α → Reader β} {bytes middle : List UInt8}
    {a : α} (h : r bytes = .ok (a, middle)) : (r >>= f) bytes = f a middle := by
  rw [Reads.bind_apply, h]
  rfl

/-- What a sequence of two readers found was found by one after the other. -/
theorem bind_eq_ok {α β : Type} {r : Reader α} {f : α → Reader β} {bytes rest : List UInt8} {b : β}
    (h : (r >>= f) bytes = .ok (b, rest)) :
    ∃ a middle, r bytes = .ok (a, middle) ∧ f a middle = .ok (b, rest) := by
  rw [Reads.bind_apply] at h
  cases hr : r bytes with
  | error e => rw [hr] at h; cases h
  | ok p => exact ⟨p.1, p.2, rfl, by rw [hr] at h; exact h⟩

theorem splitFrom_eq_some {done : List UInt8} {n : Nat} {bytes front rest : List UInt8}
    (h : splitFrom done n bytes = some (front, rest)) :
    ∃ taken, bytes = taken ++ rest ∧ taken.length = n ∧ front = done.reverse ++ taken := by
  induction n generalizing done bytes with
  | zero =>
    rw [splitFrom] at h
    obtain ⟨rfl, rfl⟩ := Prod.mk.inj (Option.some.inj h)
    exact ⟨[], rfl, rfl, (List.append_nil _).symm⟩
  | succ n ih => cases bytes with
    | nil => cases h
    | cons b bytes =>
      obtain ⟨taken, rfl, rfl, rfl⟩ := ih h
      exact ⟨b :: taken, rfl, rfl, by simp⟩

theorem takes_readBytes {n : Nat} {bytes front rest : List UInt8}
    (h : readBytes n bytes = .ok (front, rest)) :
    front.length = n ∧ Takes (readBytes n) bytes front rest front := by
  rw [readBytes] at h
  split at h
  · next hsplit =>
    obtain ⟨rfl, rfl⟩ := Prod.mk.inj (Except.ok.inj h)
    obtain ⟨taken, rfl, hlength, rfl⟩ := splitFrom_eq_some hsplit
    exact ⟨hlength, rfl, reads_readBytes hlength⟩
  · cases h

theorem takes_readByte {b : UInt8} {bytes rest : List UInt8}
    (h : readByte bytes = .ok (b, rest)) : Takes readByte bytes [b] rest b := by
  cases bytes with
  | nil => cases h
  | cons _ _ =>
    obtain ⟨rfl, rfl⟩ := Prod.mk.inj (Except.ok.inj h)
    exact ⟨rfl, reads_readByte _⟩

theorem littleEndian_ofLittleEndian (bytes : List UInt8) :
    littleEndian bytes.length (ofLittleEndian bytes) = bytes := by
  induction bytes with
  | nil => rfl
  | cons b bytes ih =>
    have hb := b.toNat_lt
    have hlow : UInt8.ofNat (b.toNat + 256 * ofLittleEndian bytes) = b := by
      rw [← UInt8.toNat_inj, UInt8.toNat_ofNat']
      omega
    rw [List.length_cons, ofLittleEndian, littleEndian, hlow,
      show (b.toNat + 256 * ofLittleEndian bytes) / 256 = ofLittleEndian bytes by omega, ih]

theorem ofLittleEndian_lt (bytes : List UInt8) :
    ofLittleEndian bytes < Nat.pow 256 bytes.length := by
  induction bytes with
  | nil => exact Nat.zero_lt_one
  | cons b bytes ih =>
    have hb := b.toNat_lt
    have hpow : Nat.pow 256 (bytes.length + 1) = 256 * Nat.pow 256 bytes.length := Nat.mul_comm _ _
    rw [ofLittleEndian, List.length_cons, hpow]
    omega

/-- Bytes that are read for a number are its bytes. -/
theorem takes_number {width : Nat} {bytes front rest : List UInt8}
    (h : readBytes width bytes = .ok (front, rest)) :
    ofLittleEndian front < Nat.pow 256 width ∧
      Takes (readBytes width) bytes (littleEndian width (ofLittleEndian front)) rest front := by
  obtain ⟨rfl, htakes⟩ := takes_readBytes h
  rw [littleEndian_ofLittleEndian]
  exact ⟨ofLittleEndian_lt front, htakes⟩

/-! ## Codecs -/

namespace Codec

variable {α β : Type} {c : Codec α} {bytes rest : List UInt8} {b : β}

/-- What is read is what would have been written. -/
def Canonical (c : Codec α) : Prop :=
  ∀ ⦃bytes a rest⦄, c.decode bytes = .ok (a, rest) → Takes c.decode bytes (c.encode a) rest a

theorem Canonical.bind_eq_ok (hc : c.Canonical) {f : α → Reader β}
    (h : (c.decode >>= f) bytes = .ok (b, rest)) :
    ∃ a middle, Takes c.decode bytes (c.encode a) middle a ∧ f a middle = .ok (b, rest) := by
  obtain ⟨a, middle, ha, h⟩ := Wire.bind_eq_ok h
  exact ⟨a, middle, hc ha, h⟩

theorem canonical_u32 : u32.Canonical := by
  intro bytes n rest h
  obtain ⟨front, middle, hfront, h⟩ := Wire.bind_eq_ok h
  obtain ⟨hlt, htakes⟩ := takes_number hfront
  obtain ⟨rfl, rfl⟩ := Prod.mk.inj (Except.ok.inj h)
  show Takes _ _ (littleEndian 4 (UInt32.ofNat _).toNat) _ _
  rw [UInt32.toNat_ofNat_of_lt' hlt]
  exact htakes.then_pure rfl

theorem canonical_u64 : u64.Canonical := by
  intro bytes n rest h
  obtain ⟨front, middle, hfront, h⟩ := Wire.bind_eq_ok h
  obtain ⟨hlt, htakes⟩ := takes_number hfront
  obtain ⟨rfl, rfl⟩ := Prod.mk.inj (Except.ok.inj h)
  show Takes _ _ (littleEndian 8 (UInt64.ofNat _).toNat) _ _
  rw [UInt64.toNat_ofNat_of_lt' hlt]
  exact htakes.then_pure rfl

theorem canonical_bool : bool.Canonical := by
  intro bytes b rest h
  obtain ⟨byte, middle, hbyte, h⟩ := Wire.bind_eq_ok h
  have htakes := takes_readByte hbyte
  split at h
  · next hzero =>
    subst hzero
    obtain ⟨rfl, rfl⟩ := Prod.mk.inj (Except.ok.inj h)
    exact htakes.then_pure rfl
  · split at h
    · next hone =>
      subst hone
      obtain ⟨rfl, rfl⟩ := Prod.mk.inj (Except.ok.inj h)
      exact htakes.then_pure rfl
    · cases h

/-- A count that was read fits its eight bytes. -/
theorem count_eq_ok {n : Nat} (h : count.decode bytes = .ok (n, rest)) :
    n < UInt64.size ∧ Takes count.decode bytes (count.encode n) rest n := by
  obtain ⟨word, middle, hword, h⟩ := canonical_u64.bind_eq_ok h
  obtain ⟨rfl, rfl⟩ := Prod.mk.inj (Except.ok.inj h)
  refine ⟨word.toNat_lt, ?_⟩
  show Takes _ _ (u64.encode (UInt64.ofNat word.toNat)) _ _
  rw [UInt64.ofNat_toNat]
  exact hword.then_pure rfl

theorem canonical_text : text.Canonical := by
  intro bytes s rest h
  obtain ⟨n, middle, hn, h⟩ := Wire.bind_eq_ok h
  obtain ⟨-, hcount⟩ := count_eq_ok hn
  obtain ⟨front, middle, hfront, htext⟩ := Wire.bind_eq_ok h
  obtain ⟨rfl, htakes⟩ := takes_readBytes hfront
  cases hdecode : Text.Utf8.decode front with
  | error cause => rw [hdecode] at htext; cases htext
  | ok t =>
    rw [hdecode] at htext
    obtain ⟨rfl, rfl⟩ := Prod.mk.inj (Except.ok.inj htext)
    obtain rfl := Text.Utf8.encode_of_decode hdecode
    exact hcount.bind (htakes.then_pure (by rw [hdecode]))

theorem canonical_option (hc : c.Canonical) : (option c).Canonical := by
  intro bytes o rest h
  obtain ⟨tag, middle, htag, h⟩ := Wire.bind_eq_ok h
  have htakes := takes_readByte htag
  split at h
  · next hzero =>
    subst hzero
    obtain ⟨rfl, rfl⟩ := Prod.mk.inj (Except.ok.inj h)
    exact htakes.then_pure rfl
  · split at h
    · next hone =>
      subst hone
      obtain ⟨a, middle, ha, h⟩ := hc.bind_eq_ok h
      obtain ⟨rfl, rfl⟩ := Prod.mk.inj (Except.ok.inj h)
      exact htakes.bind (ha.then_pure rfl)
    · cases h

theorem readMany_eq_ok (hc : c.Canonical) {n : Nat} {done as : List α}
    (h : readMany c.decode done n bytes = .ok (as, rest)) :
    ∃ read : List α, as = done.reverse ++ read ∧ read.length = n ∧
      bytes = read.flatMap c.encode ++ rest ∧ ∀ a ∈ read, Reads c.decode (c.encode a) a := by
  induction n generalizing done bytes with
  | zero =>
    obtain ⟨rfl, rfl⟩ := Prod.mk.inj (Except.ok.inj h)
    exact ⟨[], (List.append_nil _).symm, rfl, rfl, fun _ ha => absurd ha List.not_mem_nil⟩
  | succ n ih =>
    obtain ⟨a, middle, ha, h⟩ := hc.bind_eq_ok h
    obtain ⟨read, rfl, rfl, hmiddle, hread⟩ := ih h
    refine ⟨a :: read, by simp, rfl, ?_, List.forall_mem_cons.mpr ⟨ha.reads, hread⟩⟩
    rw [ha.split, hmiddle, List.flatMap_cons, List.append_assoc]

theorem list_eq_ok (hc : c.Canonical) {as : List α}
    (h : (list c).decode bytes = .ok (as, rest)) :
    as.length < UInt64.size ∧ (∀ a ∈ as, Reads c.decode (c.encode a) a) ∧
      bytes = (list c).encode as ++ rest := by
  obtain ⟨n, middle, hn, h⟩ := Wire.bind_eq_ok h
  obtain ⟨hlt, hcount⟩ := count_eq_ok hn
  obtain ⟨read, rfl, rfl, hmiddle, hread⟩ := readMany_eq_ok hc h
  refine ⟨hlt, hread, ?_⟩
  show bytes = count.encode _ ++ _ ++ rest
  rw [hcount.split, hmiddle, List.append_assoc]

theorem canonical_list (hc : c.Canonical) : (list c).Canonical := by
  intro bytes as rest h
  obtain ⟨hfew, hread, hsplit⟩ := list_eq_ok hc h
  exact ⟨hsplit, reads_list hfew hread⟩

theorem canonical_pair {d : Codec β} (hc : c.Canonical) (hd : d.Canonical) :
    (pair c d).Canonical := by
  intro bytes p rest h
  obtain ⟨a, middle, ha, h⟩ := hc.bind_eq_ok h
  obtain ⟨b, middle, hb, h⟩ := hd.bind_eq_ok h
  obtain ⟨rfl, rfl⟩ := Prod.mk.inj (Except.ok.inj h)
  exact ha.bind (hb.then_pure rfl)

/-- The index that was read is one of an alternative. -/
theorem variant_bind_eq_ok {alternatives : Nat} {f : Nat → Reader β}
    (h : ((variant alternatives).decode >>= f) bytes = .ok (b, rest)) :
    ∃ i middle, i < alternatives ∧
      Takes (variant alternatives).decode bytes ((variant alternatives).encode i) middle i ∧
      f i middle = .ok (b, rest) := by
  obtain ⟨i, middle, hi, h⟩ := Wire.bind_eq_ok h
  obtain ⟨index, middle, hindex, hi⟩ := canonical_u32.bind_eq_ok hi
  split at hi
  · next hlt =>
    obtain ⟨rfl, rfl⟩ := Prod.mk.inj (Except.ok.inj hi)
    refine ⟨index.toNat, middle, hlt, ?_, h⟩
    show Takes _ _ (u32.encode (UInt32.ofNat index.toNat)) _ _
    rw [UInt32.ofNat_toNat]
    exact hindex.then_pure (if_pos hlt)
  · cases hi

/-! ## What is lost in maps -/

/-- A value that was read from the front of some bytes is written again in no more bytes, from which
it is read back; they are the same bytes exactly if `same`. -/
structure Rewrites (c : Codec α) (front : List UInt8) (a : α) (same : Prop) : Prop where
  reads : Reads c.decode (c.encode a) a
  length_le : (c.encode a).length ≤ front.length
  eq_iff : c.encode a = front ↔ same

theorem length_flatMap_le {f : α → List β} {l l' : List α} (h : l.Subperm l') :
    (l.flatMap f).length ≤ (l'.flatMap f).length := by
  obtain ⟨m, hperm, hsub⟩ := h
  rw [← (hperm.flatMap_right f).length_eq]
  clear hperm
  induction hsub with
  | slnil => exact Nat.le_refl _
  | cons a _ ih =>
    rw [List.flatMap_cons, List.length_append]
    omega
  | cons_cons a _ ih =>
    rw [List.flatMap_cons, List.flatMap_cons, List.length_append, List.length_append]
    omega

theorem nameMap_eq_ok (hc : c.Canonical) {m : NameMap α}
    (h : (nameMap c).decode bytes = .ok (m, rest)) :
    ∃ entries, m = .ofList entries ∧
      (list (pair text c)).decode bytes = .ok (entries, rest) ∧
      bytes = (list (pair text c)).encode entries ++ rest ∧
      Rewrites (nameMap c) ((list (pair text c)).encode entries) m
        (NameMap.Ascending entries) := by
  obtain ⟨entries, middle, hentries, h⟩ := Wire.bind_eq_ok h
  obtain ⟨rfl, rfl⟩ := Prod.mk.inj (Except.ok.inj h)
  obtain ⟨hfew, hread, hsplit⟩ := list_eq_ok (canonical_pair canonical_text hc) hentries
  have hsubperm := NameMap.entries_ofList_subperm entries
  have hwritten : Reads (list (pair text c)).decode _ (NameMap.ofList entries).entries :=
    reads_list (Nat.lt_of_le_of_lt hsubperm.length_le hfew) fun e he =>
      hread e (hsubperm.subset he)
  refine ⟨entries, rfl, hentries, hsplit, ?_, ?_, ?_⟩
  · exact hwritten.then_pure (by rw [NameMap.ofList_entries])
  · show (count.encode _ ++ _).length ≤ (count.encode _ ++ _).length
    rw [List.length_append, List.length_append, count.length_encode, count.length_encode]
    exact Nat.add_le_add_left (length_flatMap_le hsubperm) _
  · rw [← NameMap.entries_ofList_eq_iff]
    constructor
    · intro hsame
      -- The same bytes cannot be read as two lists of entries.
      have hback := hwritten.whole middle
      rw [show (list (pair text c)).encode (NameMap.ofList entries).entries = _ from hsame,
        ← hsplit, hentries] at hback
      exact (Prod.mk.inj (Except.ok.inj hback)).1.symm
    · intro hsame
      exact congrArg (list (pair text c)).encode hsame

end Codec

end Wire

end GameHub
