import GameHub.Proofs.Wire.Utf8
import GameHub.Wire.Codec

/-!
# Reading values back

`Reads r bytes a` says that a reader finds the value `a` in exactly these bytes: whatever follows
them is left, and whatever lacks some of them at the end makes the reader run out of bytes. Reading
one value after the other joins the bytes (`Reads.bind`), so what holds of the parts of a value
holds of the whole.

A codec is `Sound` if its reader finds every value in what its writer wrote, as long as that is
shorter than 2⁶⁴ bytes. Beyond that the count in front of a list would not fit its eight bytes.
-/

namespace GameHub.Wire

/-- The reader takes exactly these bytes for the value, and no part of them for any value. -/
structure Reads {α : Type} (r : Reader α) (bytes : List UInt8) (a : α) : Prop where
  whole : ∀ rest, r (bytes ++ rest) = .ok (a, rest)
  cut : ∀ front, front <+: bytes → front ≠ bytes → r front = .error .outOfBytes

namespace Reads

variable {α β : Type} {r : Reader α} {bytes more : List UInt8} {a : α} {b : β}

theorem bind_apply (r : Reader α) (f : α → Reader β) (bytes : List UInt8) :
    (r >>= f) bytes = (r bytes).bind fun p => f p.1 p.2 := rfl

theorem pure (a : α) : Reads (Pure.pure a) [] a where
  whole _ := rfl
  cut _ hpre hne := absurd (List.prefix_nil.mp hpre) hne

theorem bind {f : α → Reader β} (hr : Reads r bytes a) (hf : Reads (f a) more b) :
    Reads (r >>= f) (bytes ++ more) b where
  whole rest := by
    rw [bind_apply, List.append_assoc, hr.whole]
    exact hf.whole rest
  cut front hpre hne := by
    obtain ⟨back, hback⟩ := hpre
    rw [bind_apply]
    -- The cut is either inside the bytes of the first reader or behind them.
    rcases List.append_eq_append_iff.mp hback with ⟨lost, hbytes, -⟩ | ⟨kept, hfront, hmore⟩
    · by_cases hlost : lost = []
      · rw [hlost, List.append_nil] at hbytes
        have hmore : more ≠ [] := fun hnil => hne (by rw [hnil, List.append_nil, hbytes])
        have hwhole := hr.whole []
        rw [List.append_nil] at hwhole
        rw [← hbytes, hwhole]
        exact hf.cut [] List.nil_prefix (Ne.symm hmore)
      · have hcut : front ≠ bytes := fun h => hlost (by simpa [h] using hbytes)
        rw [hr.cut front ⟨lost, hbytes.symm⟩ hcut]
        rfl
    · rw [hfront, hr.whole]
      refine hf.cut kept ⟨back, hmore.symm⟩ fun hall => hne ?_
      rw [hfront, hall]

/-- A reader that goes on without more bytes. -/
theorem then_pure {f : α → Reader β} (hr : Reads r bytes a) (hf : f a = Pure.pure b) :
    Reads (r >>= f) bytes b := by
  have h := hr.bind (hf ▸ pure b)
  rwa [List.append_nil] at h

end Reads

/-! ## Bytes and numbers -/

theorem splitFrom_append (done front rest : List UInt8) :
    splitFrom done front.length (front ++ rest) = some (done.reverse ++ front, rest) := by
  induction front generalizing done with
  | nil => simp [splitFrom]
  | cons b front ih => simp [splitFrom, ih]

theorem splitFrom_of_short (done : List UInt8) {n : Nat} {bytes : List UInt8}
    (h : bytes.length < n) : splitFrom done n bytes = none := by
  induction bytes generalizing done n with
  | nil => cases n with
    | zero => omega
    | succ n => rfl
  | cons b bytes ih => cases n with
    | zero => omega
    | succ n => exact ih (b :: done) (Nat.lt_of_succ_lt_succ h)

theorem length_lt_of_cut {front bytes : List UInt8} (hpre : front <+: bytes)
    (hne : front ≠ bytes) : front.length < bytes.length :=
  Nat.lt_of_le_of_ne hpre.length_le fun h => hne (hpre.eq_of_length h)

theorem reads_readBytes {n : Nat} {bytes : List UInt8} (h : bytes.length = n) :
    Reads (readBytes n) bytes bytes where
  whole rest := by
    subst h
    rw [readBytes, splitFrom_append]
    rfl
  cut front hpre hne := by
    have := length_lt_of_cut hpre hne
    rw [readBytes, splitFrom_of_short [] (by omega)]

theorem reads_readByte (b : UInt8) : Reads readByte [b] b where
  whole _ := rfl
  cut front hpre hne := by
    have := length_lt_of_cut hpre hne
    rw [List.length_singleton, Nat.lt_one_iff, List.length_eq_zero_iff] at this
    rw [this]
    rfl

theorem reads_readMany {α : Type} {read : Reader α} {encode : α → List UInt8} {as : List α}
    (h : ∀ a ∈ as, Reads read (encode a) a) (done : List α) :
    Reads (readMany read done as.length) (as.flatMap encode) (done.reverse ++ as) := by
  induction as generalizing done with
  | nil =>
    rw [List.append_nil]
    exact .pure done.reverse
  | cons a as ih =>
    have hrest := ih (fun b hb => h b (List.mem_cons_of_mem a hb)) (a :: done)
    rw [List.reverse_cons, List.append_assoc, List.singleton_append] at hrest
    exact (h a List.mem_cons_self).bind hrest

/-! ## Codecs -/

namespace Codec

theorem reads_u32 (n : UInt32) : Reads u32.decode (u32.encode n) n := by
  refine (reads_readBytes (length_littleEndian 4 _)).then_pure ?_
  rw [ofLittleEndian_littleEndian, Nat.mod_eq_of_lt n.toNat_lt, UInt32.ofNat_toNat]

theorem reads_u64 (n : UInt64) : Reads u64.decode (u64.encode n) n := by
  refine (reads_readBytes (length_littleEndian 8 _)).then_pure ?_
  rw [ofLittleEndian_littleEndian, Nat.mod_eq_of_lt n.toNat_lt, UInt64.ofNat_toNat]

theorem reads_bool (b : Bool) : Reads bool.decode (bool.encode b) b := by
  refine (reads_readByte _).then_pure ?_
  cases b <;> rfl

theorem reads_count {n : Nat} (h : n < UInt64.size) : Reads count.decode (count.encode n) n := by
  refine (reads_u64 (UInt64.ofNat n)).then_pure ?_
  rw [UInt64.toNat_ofNat_of_lt' h]

theorem reads_variant {alternatives i : Nat} (h : i < alternatives)
    (hfew : alternatives ≤ UInt32.size) :
    Reads (variant alternatives).decode ((variant alternatives).encode i) i := by
  have hi : (UInt32.ofNat i).toNat = i := UInt32.toNat_ofNat_of_lt' (by omega)
  refine (reads_u32 (UInt32.ofNat i)).then_pure ?_
  rw [hi, if_pos h]

/-- What is written is read back, and nothing shorter is. -/
def Sound {α : Type} (c : Codec α) : Prop :=
  ∀ a, c.size a < UInt64.size → Reads c.decode (c.encode a) a

theorem sound_u64 : u64.Sound := fun n _ => reads_u64 n

theorem sound_text : text.Sound := by
  intro s hsize
  have hlength : (Text.Utf8.encode s).length < UInt64.size := by
    rw [Text.Utf8.length_encode]
    exact Nat.lt_of_le_of_lt (Nat.le_add_left _ 8) hsize
  refine (reads_count hlength).bind ((reads_readBytes rfl).then_pure ?_)
  rw [Text.Utf8.decode_encode]

theorem sound_option {α : Type} {c : Codec α} (hc : c.Sound) : (option c).Sound := by
  intro o hsize
  cases o with
  | none => exact (reads_readByte 0).then_pure rfl
  | some a =>
    have ha : c.size a < UInt64.size := Nat.lt_of_le_of_lt (Nat.le_add_left _ 1) hsize
    exact (reads_readByte 1).bind ((hc a ha).then_pure rfl)

theorem size_le_foldr {α : Type} (size : α → Nat) {as : List α} {a : α} (h : a ∈ as) :
    size a ≤ as.foldr (size · + ·) 0 := by
  induction as with
  | nil => exact (List.not_mem_nil h).elim
  | cons b as ih =>
    rw [List.foldr_cons]
    rcases List.mem_cons.mp h with rfl | h
    · omega
    · have := ih h
      omega

theorem length_le_foldr {α : Type} {size : α → Nat} (hsize : ∀ a, 0 < size a) (as : List α) :
    as.length ≤ as.foldr (size · + ·) 0 := by
  induction as with
  | nil => exact Nat.le_refl 0
  | cons a as ih =>
    have := hsize a
    rw [List.length_cons, List.foldr_cons]
    omega

theorem reads_list {α : Type} {c : Codec α} {as : List α} (hfew : as.length < UInt64.size)
    (h : ∀ a ∈ as, Reads c.decode (c.encode a) a) :
    Reads (list c).decode ((list c).encode as) as :=
  (reads_count hfew).bind (reads_readMany h [])

/-- Every value takes a byte, so the size bounds the count. -/
theorem sound_list {α : Type} {c : Codec α} (hc : c.Sound) (hpos : ∀ a, 0 < c.size a) :
    (list c).Sound := by
  intro as hsize
  change 8 + as.foldr (c.size · + ·) 0 < UInt64.size at hsize
  have hvalues : ∀ a ∈ as, Reads c.decode (c.encode a) a := by
    intro a ha
    have := size_le_foldr c.size ha
    exact hc a (by omega)
  have hlength := length_le_foldr hpos as
  exact reads_list (by omega) hvalues

theorem sound_pair {α β : Type} {a : Codec α} {b : Codec β} (ha : a.Sound) (hb : b.Sound) :
    (pair a b).Sound := by
  intro p hsize
  change a.size p.1 + b.size p.2 < UInt64.size at hsize
  exact (ha p.1 (by omega)).bind ((hb p.2 (by omega)).then_pure rfl)

theorem sound_nameMap {α : Type} {c : Codec α} (hc : c.Sound) : (nameMap c).Sound := by
  intro m hsize
  have hpos : ∀ e : String × α, 0 < (pair text c).size e := by
    intro e
    change 0 < 8 + _ + _
    omega
  refine (sound_list (sound_pair sound_text hc) hpos m.entries hsize).then_pure ?_
  rw [NameMap.ofList_entries]

end Codec

end GameHub.Wire
