import Mathlib.Data.List.Basic
import Mathlib.Data.List.TakeWhile
import GameHub.Json.Lexer
import GameHub.Json.Printer

/-!
# Printed values, cut into tokens

Both layouts of a value are cut into the same tokens, `Json.tokens`: they differ in blanks alone,
and a blank is no token.

Numbers and words have no mark at their end. They are read up to the first character that cannot
continue them, so what follows a value matters: it has to end it (`Ended`). In a printed value a
comma, a bracket, a blank or the end of the text does.

A number that is not natural is kept as it was written, so a value may hold one that nobody could
have written. A value is legible (`Json.Legible`) if it holds none, and a text is only ever cut into
legible tokens (`legible_of_lexFrom`).
-/

namespace GameHub.Json

/-! ## The tokens of a value -/

mutual

/-- The tokens of a value, in the order of its text. -/
def tokens : Json → List Token
  | null => [.null]
  | bool b => [.bool b]
  | natural n => [.natural n]
  | number literal => [.number literal]
  | string content => [.string content]
  | array items => .openArray :: (itemTokens items ++ [.closeArray])
  | object members => .openObject :: (memberTokens members ++ [.closeObject])

/-- The tokens of the items of an array. -/
def itemTokens : List Json → List Token
  | [] => []
  | [item] => tokens item
  | item :: more => tokens item ++ .comma :: itemTokens more

/-- The tokens of the members of an object. -/
def memberTokens : List (Option String × Json) → List Token
  | [] => []
  | [(key, value)] => .string key :: .colon :: tokens value
  | (key, value) :: more => .string key :: .colon :: (tokens value ++ .comma :: memberTokens more)

end

/-- A number token is one that its own text is read as. -/
def Token.Legible : Token → Prop
  | number literal =>
    (∀ c ∈ literal.toList, isNumberChar c) ∧
      numberToken? literal.toList = some (number literal)
  | _ => True

/-- Every number in the value can be read back from its text. -/
def Legible (j : Json) : Prop := ∀ t ∈ j.tokens, t.Legible

theorem legible_itemTokens {items : List Json} :
    (∀ t ∈ itemTokens items, t.Legible) ↔ ∀ item ∈ items, item.Legible := by
  induction items with
  | nil => simp [itemTokens]
  | cons item more ih =>
    cases more with
    | nil => simp [itemTokens, Legible]
    | cons next more =>
      simp only [itemTokens]
      rw [List.forall_mem_append, List.forall_mem_cons, ih, List.forall_mem_cons (a := item)]
      exact ⟨fun h => ⟨h.1, h.2.2⟩, fun h => ⟨h.1, trivial, h.2⟩⟩

theorem legible_memberTokens {members : List (Option String × Json)} :
    (∀ t ∈ memberTokens members, t.Legible) ↔ ∀ member ∈ members, member.2.Legible := by
  induction members with
  | nil => simp [memberTokens]
  | cons member more ih =>
    cases more with
    | nil => simp [memberTokens, Legible, Token.Legible]
    | cons next more =>
      simp only [memberTokens]
      rw [List.forall_mem_cons, List.forall_mem_cons, List.forall_mem_append,
        List.forall_mem_cons, ih, List.forall_mem_cons (a := member)]
      exact ⟨fun h => ⟨h.2.2.1, h.2.2.2.2⟩, fun h => ⟨trivial, trivial, h.1, trivial, h.2⟩⟩

theorem legible_array {items : List Json} :
    (array items).Legible ↔ ∀ item ∈ items, item.Legible := by
  rw [Legible, tokens, List.forall_mem_cons, List.forall_mem_append, legible_itemTokens]
  exact ⟨fun h => h.2.1, fun h => ⟨trivial, h, List.forall_mem_singleton.mpr trivial⟩⟩

theorem legible_object {members : List (Option String × Json)} :
    (object members).Legible ↔ ∀ member ∈ members, member.2.Legible := by
  rw [Legible, tokens, List.forall_mem_cons, List.forall_mem_append, legible_memberTokens]
  exact ⟨fun h => h.2.1, fun h => ⟨trivial, h, List.forall_mem_singleton.mpr trivial⟩⟩

/-- The text does not go on with what could be part of a number or of a word. -/
def Ended (rest : List Char) : Prop :=
  ∀ c ∈ rest.head?, isNumberChar c = false ∧ c.isAlpha = false

theorem ended_nil : Ended [] := by simp [Ended]

theorem ended_cons {c : Char} {rest : List Char}
    (h : isNumberChar c = false ∧ c.isAlpha = false) : Ended (c :: rest) := by
  simpa [Ended] using h

theorem ended_putLine (depth : Nat) (rest : List Char) : Ended (putLine depth rest) :=
  ended_cons (by decide)

/-! ## One token -/

theorem lexFrom_of_token? {done : List Token} {c : Char} {rest rest' : List Char} {t : Token}
    (hspace : isSpace c = false) (h : token? c rest = some (t, rest')) :
    lexFrom done (c :: rest) = lexFrom (t :: done) rest' := by
  rw [lexFrom, if_neg (by simp [hspace])]
  split
  · next heq =>
    obtain ⟨rfl, rfl⟩ : _ = t ∧ _ = rest' := by simpa using heq.symm.trans h
    rfl
  · next heq => simp [h] at heq

theorem lexFrom_space {done : List Token} {c : Char} {rest : List Char} (h : isSpace c) :
    lexFrom done (c :: rest) = lexFrom done rest := by
  rw [lexFrom, if_pos h]

theorem lexFrom_putLine {done : List Token} (depth : Nat) (rest : List Char) :
    lexFrom done (putLine depth rest) = lexFrom done rest := by
  rw [putLine, lexFrom_space (by decide)]
  generalize 2 * depth = width
  induction width with
  | zero => rfl
  | succ width ih => rw [List.replicate_succ, List.cons_append, lexFrom_space (by decide), ih]

theorem lexFrom_sign {done : List Token} {c : Char} {rest : List Char} {t : Token}
    (h : signToken? c = some t) : lexFrom done (c :: rest) = lexFrom (t :: done) rest := by
  refine lexFrom_of_token? ?_ (by rw [token?, h])
  unfold signToken? at h
  split at h <;> first | rfl | simp at h

/-! ## Strings -/

/-- The escape of a control writes its code; the two leading digits are always zero. -/
theorem hexCode?_control {c : Char} (h : c < ' ') :
    hexCode? '0' '0' (Nat.digitChar (c.toNat / 16)) (Nat.digitChar (c.toNat % 16)) =
      some c.toNat := by
  have hlt : c.toNat < 32 := h
  revert hlt
  generalize c.toNat = n
  revert n
  decide

theorem ofCode_control {c : Char} (h : c < ' ') : StringPart.ofCode c.toNat = .char c := by
  have hlt : c.toNat < 32 := h
  rw [StringPart.ofCode, if_neg (by omega), Char.ofNat_toNat]

/-- A character that is not escaped and not a control stands for itself. -/
theorem readString_plain {done : List StringPart} {c : Char} {rest : List Char} (hq : c ≠ '"')
    (hb : c ≠ '\\') (hc : ¬c < ' ') :
    readString done (c :: rest) = readString (.char c :: done) rest := by
  rw [readString.eq_def]
  split
  · simp_all
  · simp_all
  · simp_all
  · simp_all
  · next heq =>
    obtain ⟨rfl, rfl⟩ := List.cons.inj heq
    rw [if_neg hc]

theorem readString_escapeChar (done : List StringPart) (c : Char) (rest : List Char) :
    readString done (escapeChar c ++ rest) = readString (.char c :: done) rest := by
  unfold escapeChar
  split
  · next h => subst h; rfl
  next hquote =>
  split
  · next h => subst h; rfl
  next hbackslash =>
  split
  · next h => subst h; rfl
  split
  · next h => subst h; rfl
  split
  · next h => subst h; rfl
  split
  · next h => subst h; rfl
  split
  · next h => subst h; rfl
  split
  · -- Any other control character is written with four digits.
    next hcontrol => simp [readString, hexCode?_control hcontrol, ofCode_control hcontrol]
  · next hcontrol => exact readString_plain hquote hbackslash hcontrol

theorem readString_escaped (done : List StringPart) (cs rest : List Char) :
    readString done (cs.flatMap escapeChar ++ '"' :: rest) =
      some (done.reverse ++ cs.map .char, rest) := by
  induction cs generalizing done with
  | nil => simp [readString]
  | cons c cs ih =>
    rw [List.flatMap_cons, List.append_assoc, readString_escapeChar, ih]
    simp

theorem joinHalves_chars (done cs : List Char) :
    joinHalves done (cs.map .char) = some (String.ofList (done.reverse ++ cs)) := by
  induction cs generalizing done with
  | nil => simp [joinHalves]
  | cons c cs ih => simp [joinHalves, ih]

theorem lexFrom_putString {done : List Token} (content : Option String) (rest : List Char) :
    lexFrom done (putString content rest) = lexFrom (.string content :: done) rest := by
  cases content with
  | none => exact lexFrom_of_token? (by decide) rfl
  | some s =>
    refine lexFrom_of_token? (by decide) ?_
    have hjoin := joinHalves_chars [] s.toList
    simp only [List.reverse_nil, List.nil_append, String.ofList_toList] at hjoin
    simp [token?, signToken?, readString_escaped, hjoin]

/-! ## Numbers and words -/

/-- The longest start of a text with a property, where it ends before the rest. -/
theorem takeWhile_append_ended {p : Char → Bool} {cs : List Char} (rest : List Char)
    (hcs : ∀ c ∈ cs, p c) (hrest : ∀ c ∈ rest.head?, p c = false) :
    (cs ++ rest).takeWhile p = cs ∧ (cs ++ rest).dropWhile p = rest := by
  rw [List.takeWhile_append_of_pos hcs, List.dropWhile_append_of_pos hcs]
  cases rest with
  | nil => simp
  | cons c rest => simp [hrest c rfl]

/-- A character of a number is neither a blank nor a sign nor a quote. -/
theorem of_isNumberChar {c : Char} (h : isNumberChar c) :
    isSpace c = false ∧ signToken? c = none ∧ c ≠ '"' := by
  refine ⟨?_, ?_, ?_⟩
  · rw [← Bool.not_eq_true]
    intro hc
    simp only [isSpace, Bool.or_eq_true, decide_eq_true_eq] at hc
    rcases hc with ((rfl | rfl) | rfl) | rfl <;> simp [isNumberChar] at h
  · unfold signToken?
    split <;> first | rfl | simp [isNumberChar] at h
  · rintro rfl
    simp [isNumberChar] at h

theorem lexFrom_number {done : List Token} {literal rest : List Char} {t : Token}
    (hchars : ∀ c ∈ literal, isNumberChar c) (ht : numberToken? literal = some t)
    (hrest : Ended rest) : lexFrom done (literal ++ rest) = lexFrom (t :: done) rest := by
  cases literal with
  | nil => simp [numberToken?, digits?] at ht
  | cons c cs =>
    obtain ⟨hspace, hsign, hquote⟩ := of_isNumberChar (hchars c List.mem_cons_self)
    obtain ⟨htake, hdrop⟩ := takeWhile_append_ended rest
      (fun d hd => hchars d (List.mem_cons_of_mem _ hd)) (fun d hd => (hrest d hd).1)
    rw [List.cons_append]
    refine lexFrom_of_token? hspace ?_
    rw [token?, hsign]
    simp only
    rw [if_neg hquote, if_pos (hchars c List.mem_cons_self), htake, hdrop, ht, Option.map_some]

theorem lexFrom_word {done : List Token} {c : Char} {cs rest : List Char} {t : Token}
    (hsign : signToken? c = none) (hspace : isSpace c = false) (hquote : c ≠ '"')
    (hnumber : isNumberChar c = false) (hcs : cs.all Char.isAlpha)
    (ht : wordToken? (c :: cs) = some t) (hrest : Ended rest) :
    lexFrom done (c :: cs ++ rest) = lexFrom (t :: done) rest := by
  obtain ⟨htake, hdrop⟩ := takeWhile_append_ended rest
    (List.all_eq_true.mp hcs) (fun d hd => (hrest d hd).2)
  rw [List.cons_append]
  refine lexFrom_of_token? hspace ?_
  rw [token?, hsign]
  simp only
  rw [if_neg hquote, if_neg (by simp [hnumber]), htake, hdrop, ht, Option.map_some]

/-- Only zero is written with a zero in front. -/
theorem eq_zero_of_head?_toDigits {n : Nat} (h : (Nat.toDigits 10 n).head? = some '0') :
    n = 0 := by
  induction n using Nat.strongRecOn with
  | ind n ih =>
    by_cases hlt : n < 10
    · rw [Nat.toDigits_of_lt_base hlt, List.head?_cons, Option.some.injEq] at h
      exact (by decide : ∀ d < 10, Nat.digitChar d = '0' → d = 0) n hlt h
    · rw [Nat.toDigits_of_base_le (by decide) (by omega),
        List.head?_append_of_ne_nil _ Nat.toDigits_ne_nil] at h
      have := ih (n / 10) (by omega) h
      omega

theorem numberToken?_toDigits (n : Nat) :
    numberToken? (Nat.toDigits 10 n) = some (.natural n) := by
  have hdigits : ∀ c ∈ Nat.toDigits 10 n, c.isDigit := fun c hc =>
    Nat.isDigit_of_mem_toDigits (by decide) (by decide) hc
  have hsign : (Nat.toDigits 10 n).head? ≠ some '-' := fun h =>
    absurd (hdigits _ (List.mem_of_mem_head? h)) (by decide)
  have hzero : ¬((Nat.toDigits 10 n).head? = some '0' ∧ 1 < (Nat.toDigits 10 n).length) := by
    rintro ⟨hhead, hlength⟩
    rw [eq_zero_of_head?_toDigits hhead, Nat.toDigits_zero] at hlength
    exact absurd hlength (by decide)
  obtain ⟨htake, hdrop⟩ := takeWhile_append_ended [] hdigits (by simp)
  rw [List.append_nil] at htake hdrop
  have hsplit : digits? (Nat.toDigits 10 n) = some (Nat.toDigits 10 n, []) := by
    simp [digits?, htake, hdrop, Nat.toDigits_ne_nil]
  have hvalue : Text.decimalFrom 0 (Nat.toDigits 10 n) = n := by
    rw [Text.decimalFrom, ← Nat.ofDigitChars_eq_foldl, Nat.ofDigitChars_ten_toDigits]
  simp [numberToken?, hsign, hsplit, hzero, skipFraction?, skipExponent?, hvalue]

theorem lexFrom_natural {done : List Token} (n : Nat) {rest : List Char} (hrest : Ended rest) :
    lexFrom done (Nat.toDigits 10 n ++ rest) = lexFrom (.natural n :: done) rest := by
  refine lexFrom_number (fun c hc => ?_) (numberToken?_toDigits n) hrest
  have := Nat.isDigit_of_mem_toDigits (by decide) (by decide) hc
  simp [isNumberChar, this]

/-! ## What is cut is legible -/

/-- A number is kept as it was written, unless it is natural. -/
theorem eq_of_numberToken? {literal : List Char} {t : Token} (h : numberToken? literal = some t) :
    (∃ n, t = .natural n) ∨ t = .number (String.ofList literal) := by
  obtain ⟨⟨whole, rest⟩, -, h⟩ := Option.bind_eq_some_iff.mp h
  dsimp only at h
  split at h
  · cases h
  obtain ⟨afterFraction, -, h⟩ := Option.bind_eq_some_iff.mp h
  obtain ⟨afterExponent, -, h⟩ := Option.bind_eq_some_iff.mp h
  split at h
  · cases h
  split at h
  · exact .inl ⟨_, (Option.some.inj h).symm⟩
  · exact .inr (Option.some.inj h).symm

theorem legible_of_token? {c : Char} {rest rest' : List Char} {t : Token}
    (h : token? c rest = some (t, rest')) : t.Legible := by
  rw [token?] at h
  split at h
  · next token hsign =>
    obtain ⟨rfl, -⟩ : token = t ∧ _ := by simpa using h
    unfold signToken? at hsign
    split at hsign <;> simp at hsign <;> subst hsign <;> trivial
  split at h
  · obtain ⟨units, -, heq⟩ := Option.map_eq_some_iff.mp h
    obtain ⟨rfl, -⟩ := Prod.mk.inj heq
    trivial
  split at h
  · next hc =>
    obtain ⟨token, htoken, heq⟩ := Option.map_eq_some_iff.mp h
    obtain ⟨rfl, -⟩ := Prod.mk.inj heq
    rcases eq_of_numberToken? htoken with ⟨n, rfl⟩ | rfl
    · trivial
    · -- A literal is kept as it was written, so it is read again as the same token.
      refine ⟨?_, by rw [String.toList_ofList]; exact htoken⟩
      rw [String.toList_ofList]
      exact List.forall_mem_cons.mpr ⟨hc, fun d hd => List.mem_takeWhile_imp hd⟩
  · obtain ⟨token, htoken, heq⟩ := Option.map_eq_some_iff.mp h
    obtain ⟨rfl, -⟩ := Prod.mk.inj heq
    unfold wordToken? at htoken
    split at htoken
    · cases htoken; trivial
    split at htoken
    · cases htoken; trivial
    split at htoken
    · cases htoken; trivial
    · cases htoken

theorem legible_of_lexFrom {done ts : List Token} {cs : List Char} (h : lexFrom done cs = some ts)
    (hdone : ∀ t ∈ done, t.Legible) : ∀ t ∈ ts, t.Legible := by
  fun_induction lexFrom done cs with
  | case1 done =>
    cases h
    simpa using hdone
  | case2 done c rest hspace ih => exact ih h hdone
  | case3 done c rest hspace t rest' htoken hle ih =>
    exact ih h (List.forall_mem_cons.mpr ⟨legible_of_token? htoken, hdone⟩)
  | case4 => cases h

/-! ## Values -/

mutual

-- What is cut before a value and what follows it are arbitrary, so that a value can be followed by
-- the rest of the array or object that it is part of.
/-- A value without blanks is cut into its tokens. -/
theorem lexFrom_put {done : List Token} {rest : List Char} (j : Json) (hj : j.Legible)
    (hrest : Ended rest) : lexFrom done (j.put rest) = lexFrom (j.tokens.reverse ++ done) rest := by
  cases j with
  | null => exact lexFrom_word rfl rfl (by decide) rfl rfl rfl hrest
  | bool b =>
    cases b with
    | true => exact lexFrom_word rfl rfl (by decide) rfl rfl rfl hrest
    | false => exact lexFrom_word rfl rfl (by decide) rfl rfl rfl hrest
  | natural n => exact lexFrom_natural n hrest
  | number literal =>
    obtain ⟨hchars, ht⟩ := hj _ List.mem_cons_self
    exact lexFrom_number hchars ht hrest
  | string content => exact lexFrom_putString content rest
  | array items =>
    change lexFrom done ('[' :: putItems items (']' :: rest)) = _
    rw [lexFrom_sign rfl, lexFrom_putItems items (legible_array.mp hj) (ended_cons (by decide)),
      lexFrom_sign rfl]
    simp [tokens]
  | object members =>
    change lexFrom done ('{' :: putMembers members ('}' :: rest)) = _
    rw [lexFrom_sign rfl,
      lexFrom_putMembers members (legible_object.mp hj) (ended_cons (by decide)),
      lexFrom_sign rfl]
    simp [tokens]

theorem lexFrom_putItems {done : List Token} {rest : List Char} (items : List Json)
    (hitems : ∀ item ∈ items, item.Legible) (hrest : Ended rest) :
    lexFrom done (putItems items rest) = lexFrom ((itemTokens items).reverse ++ done) rest := by
  match items with
  | [] => rfl
  | [item] => exact lexFrom_put item (List.forall_mem_singleton.mp hitems) hrest
  | item :: next :: more =>
    obtain ⟨hitem, hmore⟩ := List.forall_mem_cons.mp hitems
    simp only [putItems]
    rw [lexFrom_put item hitem (ended_cons (by decide)), lexFrom_sign rfl,
      lexFrom_putItems (next :: more) hmore hrest]
    simp [itemTokens]

theorem lexFrom_putMembers {done : List Token} {rest : List Char}
    (members : List (Option String × Json)) (hmembers : ∀ member ∈ members, member.2.Legible)
    (hrest : Ended rest) :
    lexFrom done (putMembers members rest) =
      lexFrom ((memberTokens members).reverse ++ done) rest := by
  match members with
  | [] => rfl
  | [(key, value)] =>
    have hvalue := List.forall_mem_singleton.mp hmembers
    rw [putMembers, lexFrom_putString, lexFrom_sign rfl, lexFrom_put value hvalue hrest]
    simp [memberTokens]
  | (key, value) :: next :: more =>
    obtain ⟨hvalue, hmore⟩ := List.forall_mem_cons.mp hmembers
    simp only [putMembers]
    rw [lexFrom_putString, lexFrom_sign rfl, lexFrom_put value hvalue (ended_cons (by decide)),
      lexFrom_sign rfl, lexFrom_putMembers (next :: more) hmore hrest]
    simp [memberTokens]

end

/-- The tokens of a value without blanks. -/
theorem lex_compact {j : Json} (hj : j.Legible) : lex j.compact = some j.tokens := by
  rw [lex, compact, String.toList_ofList, lexFrom_put j hj ended_nil, List.append_nil, lexFrom,
    List.reverse_reverse]

mutual

/-- A value in indented layout is cut into its tokens. -/
theorem lexFrom_putPretty {done : List Token} {depth : Nat} {rest : List Char} (j : Json)
    (hj : j.Legible) (hrest : Ended rest) :
    lexFrom done (j.putPretty depth rest) = lexFrom (j.tokens.reverse ++ done) rest := by
  match j with
  | null | bool _ | natural _ | number _ | string _ | array [] | object [] =>
    exact lexFrom_put _ hj hrest
  | array (item :: more) =>
    rw [putPretty, lexFrom_sign rfl,
      lexFrom_putPrettyItems (item :: more) (legible_array.mp hj) (ended_putLine _ _),
      lexFrom_putLine, lexFrom_sign rfl]
    simp [tokens]
  | object (member :: more) =>
    rw [putPretty, lexFrom_sign rfl,
      lexFrom_putPrettyMembers (member :: more) (legible_object.mp hj) (ended_putLine _ _),
      lexFrom_putLine, lexFrom_sign rfl]
    simp [tokens]

theorem lexFrom_putPrettyItems {done : List Token} {depth : Nat} {rest : List Char}
    (items : List Json) (hitems : ∀ item ∈ items, item.Legible) (hrest : Ended rest) :
    lexFrom done (putPrettyItems depth items rest) =
      lexFrom ((itemTokens items).reverse ++ done) rest := by
  match items with
  | [] => rfl
  | [item] =>
    rw [putPrettyItems, lexFrom_putLine]
    exact lexFrom_putPretty item (List.forall_mem_singleton.mp hitems) hrest
  | item :: next :: more =>
    obtain ⟨hitem, hmore⟩ := List.forall_mem_cons.mp hitems
    simp only [putPrettyItems]
    rw [lexFrom_putLine, lexFrom_putPretty item hitem (ended_cons (by decide)),
      lexFrom_sign rfl, lexFrom_putPrettyItems (next :: more) hmore hrest]
    simp [itemTokens]

theorem lexFrom_putPrettyMembers {done : List Token} {depth : Nat} {rest : List Char}
    (members : List (Option String × Json)) (hmembers : ∀ member ∈ members, member.2.Legible)
    (hrest : Ended rest) :
    lexFrom done (putPrettyMembers depth members rest) =
      lexFrom ((memberTokens members).reverse ++ done) rest := by
  match members with
  | [] => rfl
  | [(key, value)] =>
    have hvalue := List.forall_mem_singleton.mp hmembers
    rw [putPrettyMembers, lexFrom_putLine, lexFrom_putString, lexFrom_sign rfl,
      lexFrom_space rfl, lexFrom_putPretty value hvalue hrest]
    simp [memberTokens]
  | (key, value) :: next :: more =>
    obtain ⟨hvalue, hmore⟩ := List.forall_mem_cons.mp hmembers
    simp only [putPrettyMembers]
    rw [lexFrom_putLine, lexFrom_putString, lexFrom_sign rfl, lexFrom_space rfl,
      lexFrom_putPretty value hvalue (ended_cons (by decide)), lexFrom_sign rfl,
      lexFrom_putPrettyMembers (next :: more) hmore hrest]
    simp [memberTokens]

end

/-- The tokens of a value in indented layout are those of the other one. -/
theorem lex_pretty {j : Json} (hj : j.Legible) : lex j.pretty = some j.tokens := by
  rw [lex, pretty, String.toList_ofList, lexFrom_putPretty j hj ended_nil, List.append_nil, lexFrom,
    List.reverse_reverse]

end GameHub.Json
