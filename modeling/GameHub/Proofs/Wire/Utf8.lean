import GameHub.Text.Utf8

/-!
# Reading UTF-8 back

Decoding undoes encoding (`decode_encode`), and nothing else is decoded (`encode_of_decode`). A
character is encoded in one to four bytes, and each width has its own lemma in both directions: the
first byte is one that announces so many bytes, the others lie in the ranges that it allows, and the
bits add up to the code point. The ranges leave no second way to write a character.
-/

namespace GameHub.Text.Utf8

/-! ## One step -/

theorem decodeFrom_cons {b : UInt8} {lead : Lead} {tail rest : List UInt8} {point : Nat}
    (hlead : lead? b = some lead)
    (htail : readTail lead.tails lead.low lead.high 1 lead.bits tail = .code point rest)
    (index : Nat) (done : List Char) :
    decodeFrom index done (b :: tail) =
      decodeFrom (index + 1 + lead.tails) (Char.ofNat point :: done) rest := by
  rw [decodeFrom, hlead]
  dsimp only
  split
  · next h =>
    rw [htail] at h
    cases h
    rfl
  · next h => rw [htail] at h; cases h
  · next h => rw [htail] at h; cases h

theorem readTail_succ {tails : Nat} {low high : UInt8} {seen point n : Nat} {bytes : List UInt8}
    (hn : n < 256) (hlow : low.toNat ≤ n) (hhigh : n ≤ high.toNat) :
    readTail (tails + 1) low high seen point (UInt8.ofNat n :: bytes) =
      readTail tails 0x80 0xBF (seen + 1) (64 * point + (n - 0x80)) bytes := by
  have hb : (UInt8.ofNat n).toNat = n := UInt8.toNat_ofNat_of_lt' hn
  have hlow' : low ≤ UInt8.ofNat n := UInt8.le_iff_toNat_le.mpr (by omega)
  have hhigh' : UInt8.ofNat n ≤ high := UInt8.le_iff_toNat_le.mpr (by omega)
  rw [readTail, if_pos ⟨hlow', hhigh'⟩, hb]

/-- What a first byte says, on numbers. -/
theorem lead?_ofNat {n : Nat} (hn : n < 256) :
    lead? (UInt8.ofNat n) =
      if n < 0x80 then some ⟨0, n, 0x80, 0xBF⟩
      else if n < 0xC2 then none
      else if n < 0xE0 then some ⟨1, n - 0xC0, 0x80, 0xBF⟩
      else if n < 0xF0 then
        some ⟨2, n - 0xE0, if n = 0xE0 then 0xA0 else 0x80, if n = 0xED then 0x9F else 0xBF⟩
      else if n < 0xF5 then
        some ⟨3, n - 0xF0, if n = 0xF0 then 0x90 else 0x80, if n = 0xF4 then 0x8F else 0xBF⟩
      else none := by
  simp only [lead?, UInt8.lt_iff_toNat_lt, ← UInt8.toNat_inj, UInt8.toNat_ofNat_of_lt' hn]
  rfl

/-! ## The four widths -/

section Widths

variable {v : Nat} (index : Nat) (done : List Char) (rest : List UInt8)

theorem decodeFrom_one (h : v < 0x80) :
    decodeFrom index done (UInt8.ofNat v :: rest) =
      decodeFrom (index + 1) (Char.ofNat v :: done) rest := by
  have hlead : lead? (UInt8.ofNat v) = some ⟨0, v, 0x80, 0xBF⟩ := by
    rw [lead?_ofNat (by omega), if_pos h]
  exact decodeFrom_cons hlead rfl index done

theorem decodeFrom_two (h : 0x80 ≤ v) (h' : v < 0x800) :
    decodeFrom index done
        (UInt8.ofNat (v / 64 % 32 + 192) :: UInt8.ofNat (v % 64 + 128) :: rest) =
      decodeFrom (index + 1 + 1) (Char.ofNat v :: done) rest := by
  have hlead : lead? (UInt8.ofNat (v / 64 % 32 + 192)) = some ⟨1, v / 64, 0x80, 0xBF⟩ := by
    rw [lead?_ofNat (by omega), if_neg (by omega), if_neg (by omega), if_pos (by omega),
      show v / 64 % 32 + 192 - 192 = v / 64 by omega]
  have htail : readTail 1 0x80 0xBF 1 (v / 64) (UInt8.ofNat (v % 64 + 128) :: rest) =
      .code v rest := by
    rw [readTail_succ (by omega) (by simp) (by simp; omega), readTail,
      show 64 * (v / 64) + (v % 64 + 128 - 0x80) = v by omega]
  exact decodeFrom_cons hlead htail index done

theorem decodeFrom_three (h : 0x800 ≤ v) (h' : v < 0x10000)
    (hvalid : v < 0xD800 ∨ 0xDFFF < v) :
    decodeFrom index done (UInt8.ofNat (v / 4096 % 16 + 224) ::
        UInt8.ofNat (v / 64 % 64 + 128) :: UInt8.ofNat (v % 64 + 128) :: rest) =
      decodeFrom (index + 1 + 2) (Char.ofNat v :: done) rest := by
  have hlead : lead? (UInt8.ofNat (v / 4096 % 16 + 224)) = some ⟨2, v / 4096,
      if v / 4096 = 0 then 0xA0 else 0x80, if v / 4096 = 13 then 0x9F else 0xBF⟩ := by
    rw [lead?_ofNat (by omega), if_neg (by omega), if_neg (by omega), if_neg (by omega),
      if_pos (by omega), show v / 4096 % 16 = v / 4096 by omega]
    simp
  have hlow : (if v / 4096 = 0 then (0xA0 : UInt8) else 0x80).toNat ≤ v / 64 % 64 + 128 := by
    split
    · simp
      omega
    · simp
  have hhigh : v / 64 % 64 + 128 ≤ (if v / 4096 = 13 then (0x9F : UInt8) else 0xBF).toNat := by
    split <;> (simp; omega)
  have htail : readTail 2 (if v / 4096 = 0 then 0xA0 else 0x80)
      (if v / 4096 = 13 then 0x9F else 0xBF) 1 (v / 4096)
      (UInt8.ofNat (v / 64 % 64 + 128) :: UInt8.ofNat (v % 64 + 128) :: rest) = .code v rest := by
    rw [readTail_succ (by omega) hlow hhigh, readTail_succ (by omega) (by simp) (by simp; omega),
      readTail, show 64 * (64 * (v / 4096) + (v / 64 % 64 + 128 - 0x80)) +
        (v % 64 + 128 - 0x80) = v by omega]
  exact decodeFrom_cons hlead htail index done

theorem decodeFrom_four (h : 0x10000 ≤ v) (h' : v < 0x110000) :
    decodeFrom index done (UInt8.ofNat (v / 262144 % 8 + 240) ::
        UInt8.ofNat (v / 4096 % 64 + 128) :: UInt8.ofNat (v / 64 % 64 + 128) ::
        UInt8.ofNat (v % 64 + 128) :: rest) =
      decodeFrom (index + 1 + 3) (Char.ofNat v :: done) rest := by
  have hlead : lead? (UInt8.ofNat (v / 262144 % 8 + 240)) = some ⟨3, v / 262144,
      if v / 262144 = 0 then 0x90 else 0x80, if v / 262144 = 4 then 0x8F else 0xBF⟩ := by
    rw [lead?_ofNat (by omega), if_neg (by omega), if_neg (by omega), if_neg (by omega),
      if_neg (by omega), if_pos (by omega), show v / 262144 % 8 = v / 262144 by omega]
    simp
  -- The second byte has a narrower range behind the least and the greatest lead.
  have hlow : (if v / 262144 = 0 then (0x90 : UInt8) else 0x80).toNat ≤
      v / 4096 % 64 + 128 := by
    split
    · simp
      omega
    · simp
  have hhigh : v / 4096 % 64 + 128 ≤
      (if v / 262144 = 4 then (0x8F : UInt8) else 0xBF).toNat := by
    split <;> (simp; omega)
  have htail : readTail 3 (if v / 262144 = 0 then 0x90 else 0x80)
      (if v / 262144 = 4 then 0x8F else 0xBF) 1 (v / 262144)
      (UInt8.ofNat (v / 4096 % 64 + 128) :: UInt8.ofNat (v / 64 % 64 + 128) ::
        UInt8.ofNat (v % 64 + 128) :: rest) = .code v rest := by
    rw [readTail_succ (by omega) hlow hhigh, readTail_succ (by omega) (by simp) (by simp; omega),
      readTail_succ (by omega) (by simp) (by simp; omega), readTail,
      show 64 * (64 * (64 * (v / 262144) + (v / 4096 % 64 + 128 - 0x80)) +
        (v / 64 % 64 + 128 - 0x80)) + (v % 64 + 128 - 0x80) = v by omega]
  exact decodeFrom_cons hlead htail index done

end Widths

/-! ## Texts -/

theorem decodeFrom_encodeChar (c : Char) (index : Nat) (done : List Char) (rest : List UInt8) :
    decodeFrom index done (String.utf8EncodeChar c ++ rest) =
      decodeFrom (index + (String.utf8EncodeChar c).length) (c :: done) rest := by
  have hvalid : c.val.toNat < 0xD800 ∨ 0xDFFF < c.val.toNat ∧ c.val.toNat < 0x110000 := c.valid
  have hchar : Char.ofNat c.val.toNat = c := Char.ofNat_toNat c
  rw [String.utf8EncodeChar]
  split
  · have h := @decodeFrom_one c.val.toNat index done rest (by omega)
    rwa [hchar] at h
  · split
    · have h := @decodeFrom_two c.val.toNat index done rest (by omega) (by omega)
      rwa [hchar] at h
    · split
      · have h := @decodeFrom_three c.val.toNat index done rest (by omega) (by omega) (by omega)
        rwa [hchar] at h
      · have h := @decodeFrom_four c.val.toNat index done rest (by omega) (by omega)
        rwa [hchar] at h

theorem decodeFrom_encode (cs done : List Char) (index : Nat) :
    decodeFrom index done (cs.flatMap String.utf8EncodeChar) = .ok (done.reverse ++ cs) := by
  induction cs generalizing done index with
  | nil => rw [List.flatMap_nil, decodeFrom, List.append_nil]
  | cons c cs ih =>
    rw [List.flatMap_cons, decodeFrom_encodeChar, ih, List.reverse_cons, List.append_assoc,
      List.singleton_append]

/-- Decoding gives back the text that was encoded. -/
theorem decode_encode (s : String) : decode (encode s) = .ok s := by
  rw [decode, encode, decodeFrom_encode, List.reverse_nil, List.nil_append]
  exact congrArg Except.ok String.ofList_toList

/-! ## The four widths, backwards -/

theorem toNat_ofNat {v : Nat} (h : v.isValidChar) : (Char.ofNat v).val.toNat = v := by
  rw [Char.ofNat, dif_pos h]
  rfl

section Characters

variable {n t u w : Nat}

theorem encodeChar_one (h : n < 0x80) :
    String.utf8EncodeChar (Char.ofNat n) = [UInt8.ofNat n] := by
  rw [String.utf8EncodeChar, toNat_ofNat (.inl (by omega)), if_pos (by omega)]

theorem encodeChar_two (h : 0xC2 ≤ n) (h' : n < 0xE0) (ht : 0x80 ≤ t) (ht' : t ≤ 0xBF) :
    String.utf8EncodeChar (Char.ofNat (64 * (n - 0xC0) + (t - 0x80))) =
      [UInt8.ofNat n, UInt8.ofNat t] := by
  generalize hv : 64 * (n - 0xC0) + (t - 0x80) = v
  rw [String.utf8EncodeChar, toNat_ofNat (.inl (by omega)), if_neg (by omega), if_pos (by omega),
    show v / 64 % 32 + 192 = n by omega, show v % 64 + 128 = t by omega]

theorem encodeChar_three (h : 0xE0 ≤ n) (h' : n < 0xF0)
    (ht : (if n = 0xE0 then 0xA0 else 0x80) ≤ t) (ht' : t ≤ if n = 0xED then 0x9F else 0xBF)
    (hu : 0x80 ≤ u) (hu' : u ≤ 0xBF) :
    String.utf8EncodeChar
        (Char.ofNat (64 * (64 * (n - 0xE0) + (t - 0x80)) + (u - 0x80))) =
      [UInt8.ofNat n, UInt8.ofNat t, UInt8.ofNat u] := by
  generalize hv : 64 * (64 * (n - 0xE0) + (t - 0x80)) + (u - 0x80) = v
  have hlow : 0x80 ≤ t ∧ 0x800 ≤ v := by split at ht <;> omega
  have hhigh : t ≤ 0xBF ∧ (v < 0xD800 ∨ 0xDFFF < v) := by split at ht' <;> omega
  have hvalid : v.isValidChar := hhigh.2.imp_right fun h => ⟨h, by omega⟩
  rw [String.utf8EncodeChar, toNat_ofNat hvalid, if_neg (by omega), if_neg (by omega),
    if_pos (by omega), show v / 4096 % 16 + 224 = n by omega, show v / 64 % 64 + 128 = t by omega,
    show v % 64 + 128 = u by omega]

theorem encodeChar_four (h : 0xF0 ≤ n) (h' : n < 0xF5)
    (ht : (if n = 0xF0 then 0x90 else 0x80) ≤ t) (ht' : t ≤ if n = 0xF4 then 0x8F else 0xBF)
    (hu : 0x80 ≤ u) (hu' : u ≤ 0xBF) (hw : 0x80 ≤ w) (hw' : w ≤ 0xBF) :
    String.utf8EncodeChar (Char.ofNat
        (64 * (64 * (64 * (n - 0xF0) + (t - 0x80)) + (u - 0x80)) + (w - 0x80))) =
      [UInt8.ofNat n, UInt8.ofNat t, UInt8.ofNat u, UInt8.ofNat w] := by
  generalize hv : 64 * (64 * (64 * (n - 0xF0) + (t - 0x80)) + (u - 0x80)) + (w - 0x80) = v
  have hlow : 0x80 ≤ t ∧ 0x10000 ≤ v := by split at ht <;> omega
  have hhigh : t ≤ 0xBF ∧ v < 0x110000 := by split at ht' <;> omega
  rw [String.utf8EncodeChar, toNat_ofNat (.inr (by omega)), if_neg (by omega), if_neg (by omega),
    if_neg (by omega), show v / 262144 % 8 + 240 = n by omega,
    show v / 4096 % 64 + 128 = t by omega, show v / 64 % 64 + 128 = u by omega,
    show v % 64 + 128 = w by omega]

end Characters

/-! ## Nothing but encodings is decoded -/

/-- A continuation byte that was read lies in the range that it had to. -/
theorem readTail_succ_eq_code {tails : Nat} {low high : UInt8} {seen point code : Nat}
    {bytes rest : List UInt8}
    (h : readTail (tails + 1) low high seen point bytes = .code code rest) :
    ∃ n tail, bytes = UInt8.ofNat n :: tail ∧ low.toNat ≤ n ∧ n ≤ high.toNat ∧
      readTail tails 0x80 0xBF (seen + 1) (64 * point + (n - 0x80)) tail = .code code rest := by
  cases bytes with
  | nil => cases h
  | cons b tail =>
    rw [readTail] at h
    split at h
    · next hrange =>
      refine ⟨b.toNat, tail, by rw [UInt8.ofNat_toNat], ?_, ?_, h⟩
      · exact UInt8.le_iff_toNat_le.mp hrange.1
      · exact UInt8.le_iff_toNat_le.mp hrange.2
    · cases h

/-- The bytes from which a character was read are its encoding. -/
theorem encodeChar_of_readTail {n : Nat} (hn : n < 256) {lead : Lead}
    (hlead : lead? (UInt8.ofNat n) = some lead) {tail rest : List UInt8} {point : Nat}
    (htail : readTail lead.tails lead.low lead.high 1 lead.bits tail = .code point rest) :
    UInt8.ofNat n :: tail = String.utf8EncodeChar (Char.ofNat point) ++ rest := by
  -- By the number of bytes that the lead asks for.
  rw [lead?_ofNat hn] at hlead
  split at hlead
  · obtain rfl := Option.some.inj hlead
    obtain ⟨rfl, rfl⟩ := Tail.code.inj htail
    rw [encodeChar_one (by assumption)]
    rfl
  · split at hlead
    · cases hlead
    · split at hlead
      · obtain rfl := Option.some.inj hlead
        obtain ⟨t, tail, rfl, ht, ht', htail⟩ := readTail_succ_eq_code htail
        obtain ⟨rfl, rfl⟩ := Tail.code.inj htail
        rw [encodeChar_two (by omega) (by assumption) ht ht']
        rfl
      · split at hlead
        · obtain rfl := Option.some.inj hlead
          obtain ⟨t, tail, rfl, ht, ht', htail⟩ := readTail_succ_eq_code htail
          obtain ⟨u, tail, rfl, hu, hu', htail⟩ := readTail_succ_eq_code htail
          obtain ⟨rfl, rfl⟩ := Tail.code.inj htail
          rw [apply_ite UInt8.toNat] at ht ht'
          rw [encodeChar_three (by omega) (by assumption) ht ht' hu hu']
          rfl
        · split at hlead
          · obtain rfl := Option.some.inj hlead
            obtain ⟨t, tail, rfl, ht, ht', htail⟩ := readTail_succ_eq_code htail
            obtain ⟨u, tail, rfl, hu, hu', htail⟩ := readTail_succ_eq_code htail
            obtain ⟨w, tail, rfl, hw, hw', htail⟩ := readTail_succ_eq_code htail
            obtain ⟨rfl, rfl⟩ := Tail.code.inj htail
            rw [apply_ite UInt8.toNat] at ht ht'
            rw [encodeChar_four (by omega) (by assumption) ht ht' hu hu' hw hw']
            rfl
          · cases hlead

theorem encode_of_decodeFrom {index : Nat} {done cs : List Char} {bytes : List UInt8}
    (h : decodeFrom index done bytes = .ok cs) :
    ∃ more, cs = done.reverse ++ more ∧ more.flatMap String.utf8EncodeChar = bytes := by
  fun_induction decodeFrom index done bytes with
  | case1 =>
    obtain rfl := Except.ok.inj h
    exact ⟨[], (List.append_nil _).symm, rfl⟩
  | case2 => cases h
  | case3 index done b tail lead hlead point rest htail ih =>
    obtain ⟨more, rfl, rfl⟩ := ih h
    refine ⟨Char.ofNat point :: more, by simp, ?_⟩
    rw [← UInt8.ofNat_toNat (x := b)] at hlead ⊢
    exact (encodeChar_of_readTail b.toNat_lt hlead htail).symm
  | case4 => cases h
  | case5 => cases h

/-- Bytes that are decoded are the encoding of the text that they give. -/
theorem encode_of_decode {bytes : List UInt8} {s : String} (h : decode bytes = .ok s) :
    encode s = bytes := by
  rw [decode] at h
  cases hchars : decodeFrom 0 [] bytes with
  | error e => rw [hchars] at h; cases h
  | ok cs =>
    rw [hchars] at h
    obtain rfl := Except.ok.inj h
    obtain ⟨more, rfl, rfl⟩ := encode_of_decodeFrom hchars
    rw [encode, String.toList_ofList]

end GameHub.Text.Utf8
