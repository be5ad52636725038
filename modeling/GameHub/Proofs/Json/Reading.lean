import GameHub.Form
import GameHub.Json.Reader
import GameHub.Proofs.Json.Lexing

/-!
# Printed values, read back

The reader takes the tokens of a value from any place where a value may stand and ends with that
value complete, whatever waits on the stack (`Json.takeAll_tokens`). With the tokens of both layouts
known to be the same, a value whose numbers are legible is read back from either text.

Every value that was read from a text is such a value: legible tokens keep all that is on the stack
legible. So printing what was read and reading it again changes nothing (`Json.ofText?_of_read`).
-/

namespace GameHub

namespace Json

/-! ## The tokens of a value -/

/-- What has been read after some more tokens. -/
def Reading.takeAll (reading : Reading) (tokens : List Token) : Option Reading :=
  tokens.foldlM Reading.step reading

theorem takeAll_cons {reading next : Reading} {t : Token} {rest : List Token}
    (h : reading.step t = some next) : reading.takeAll (t :: rest) = next.takeAll rest := by
  rw [Reading.takeAll, List.foldlM_cons, h]
  rfl

/-- The first token of a value is one that a value starts with. -/
theorem tokens_eq_cons (j : Json) : ∃ t more, j.tokens = t :: more ∧ t ≠ .closeArray := by
  cases j with
  | null | bool _ | natural _ | number _ | string _ | array _ | object _ =>
    exact ⟨_, _, by rw [tokens], Token.noConfusion⟩

/-- The first item of an array is read as any value. -/
theorem takeAll_arrayStart (item : Json) (more : List Json) {rest : List Token}
    {stack : List Frame} :
    (Reading.arrayStart stack).takeAll (itemTokens (item :: more) ++ rest) =
      (Reading.value (.array [] :: stack)).takeAll (itemTokens (item :: more) ++ rest) := by
  obtain ⟨t, ts, htokens, hne⟩ := tokens_eq_cons item
  have hstep : (Reading.arrayStart stack).step t = (Reading.value (.array [] :: stack)).step t := by
    cases t <;> first | rfl | exact absurd rfl hne
  cases more with
  | nil =>
    simp only [itemTokens, htokens, Reading.takeAll, List.cons_append, List.foldlM_cons, hstep]
  | cons next more =>
    simp only [itemTokens, htokens, Reading.takeAll, List.cons_append, List.foldlM_cons, hstep]

/-- The first key of an object is read as any key. -/
theorem takeAll_objectStart (member : Option String × Json) (more : List (Option String × Json))
    {rest : List Token} {stack : List Frame} :
    (Reading.objectStart stack).takeAll (memberTokens (member :: more) ++ rest) =
      (Reading.key [] stack).takeAll (memberTokens (member :: more) ++ rest) := by
  cases more with
  | nil => rfl
  | cons next more => rfl

mutual

-- The recursion is on the value. Its items wait newest first, in the order in which they came.
/-- The tokens of a value complete it. -/
theorem takeAll_tokens {rest : List Token} {stack : List Frame} (j : Json) :
    (Reading.value stack).takeAll (j.tokens ++ rest) = (Reading.complete j stack).takeAll rest := by
  match j with
  | null | bool _ | natural _ | number _ | string _ | array [] | object [] => rfl
  | array (item :: more) =>
    rw [tokens, List.cons_append, List.append_assoc, takeAll_cons rfl, takeAll_arrayStart]
    exact takeAll_itemTokens [] (item :: more) (List.cons_ne_nil _ _)
  | object (member :: more) =>
    rw [tokens, List.cons_append, List.append_assoc, takeAll_cons rfl, takeAll_objectStart]
    exact takeAll_memberTokens [] (member :: more) (List.cons_ne_nil _ _)

/-- The tokens of the items that are left, at least one, complete an array. -/
theorem takeAll_itemTokens {rest : List Token} {stack : List Frame} (done items : List Json)
    (h : items ≠ []) :
    (Reading.value (.array done :: stack)).takeAll (itemTokens items ++ .closeArray :: rest) =
      (Reading.complete (.array (done.reverse ++ items)) stack).takeAll rest := by
  match items, h with
  | [item], _ => rw [itemTokens, takeAll_tokens item, takeAll_cons rfl, List.reverse_cons]
  | item :: next :: more, _ =>
    simp only [itemTokens]
    rw [List.append_assoc, takeAll_tokens item, List.cons_append, takeAll_cons rfl,
      takeAll_itemTokens (item :: done) (next :: more) (List.cons_ne_nil _ _),
      List.reverse_cons, List.append_assoc, List.singleton_append]

/-- The tokens of the members that are left, at least one, complete an object. -/
theorem takeAll_memberTokens {rest : List Token} {stack : List Frame}
    (done members : List (Option String × Json)) (h : members ≠ []) :
    (Reading.key done stack).takeAll (memberTokens members ++ .closeObject :: rest) =
      (Reading.complete (.object (done.reverse ++ members)) stack).takeAll rest := by
  match members, h with
  | [(key, value)], _ =>
    rw [memberTokens, List.cons_append, List.cons_append, takeAll_cons rfl, takeAll_cons rfl,
      takeAll_tokens value, takeAll_cons rfl, List.reverse_cons]
  | (key, value) :: next :: more, _ =>
    simp only [memberTokens]
    rw [List.cons_append, List.cons_append, takeAll_cons rfl, takeAll_cons rfl,
      List.append_assoc, takeAll_tokens value, List.cons_append, takeAll_cons rfl,
      takeAll_memberTokens ((key, value) :: done) (next :: more) (List.cons_ne_nil _ _),
      List.reverse_cons, List.append_assoc, List.singleton_append]

end

theorem ofTokens?_tokens (j : Json) : ofTokens? j.tokens = some j := by
  have h : (Reading.value []).takeAll j.tokens = some (.complete j []) := by
    rw [← List.append_nil j.tokens, takeAll_tokens]
    rfl
  rw [ofTokens?, ← Reading.takeAll, h]
  rfl

/-! ## Texts -/

/-- A text that is cut into the tokens of a value is read as that value. -/
theorem ofText?_of_lex {text : String} {j : Json} (h : lex text = some j.tokens) :
    ofText? text = some j := by
  rw [ofText?, h, Option.bind_some, ofTokens?_tokens]

theorem ofText?_compact {j : Json} (hj : j.Legible) : ofText? j.compact = some j :=
  ofText?_of_lex (lex_compact hj)

theorem ofText?_pretty {j : Json} (hj : j.Legible) : ofText? j.pretty = some j :=
  ofText?_of_lex (lex_pretty hj)

/-! ## What is read is legible -/

/-- Every complete value that waits is legible. -/
def Frame.Legible : Frame → Prop
  | array items => ∀ item ∈ items, item.Legible
  | object members _ => ∀ member ∈ members, member.2.Legible

/-- Every complete value that has been read is legible. -/
def Reading.Legible : Reading → Prop
  | value stack | arrayStart stack | objectStart stack => ∀ frame ∈ stack, frame.Legible
  | key members stack | colon members _ stack =>
    (∀ member ∈ members, member.2.Legible) ∧ ∀ frame ∈ stack, frame.Legible
  | complete v stack => v.Legible ∧ ∀ frame ∈ stack, frame.Legible

theorem legible_startValue {stack : List Frame} {next : Reading} {t : Token}
    (h : startValue stack t = some next) (hstack : ∀ frame ∈ stack, frame.Legible)
    (ht : t.Legible) : next.Legible := by
  cases t <;> cases h
  case openArray => exact hstack
  case openObject => exact hstack
  all_goals exact ⟨List.forall_mem_singleton.mpr ht, hstack⟩

/-- A legible token keeps what has been read legible. -/
theorem legible_step {reading next : Reading} {t : Token} (h : reading.step t = some next)
    (hr : reading.Legible) (ht : t.Legible) : next.Legible := by
  revert h
  fun_cases Reading.step reading t with
  | case1 stack => exact fun h => legible_startValue h hr ht
  | case2 stack =>
    rintro ⟨⟩
    exact ⟨legible_array.mpr (List.forall_mem_nil _), hr⟩
  | case3 stack =>
    exact fun h => legible_startValue h (List.forall_mem_cons.mpr ⟨List.forall_mem_nil _, hr⟩) ht
  | case4 stack =>
    rintro ⟨⟩
    exact ⟨legible_object.mpr (List.forall_mem_nil _), hr⟩
  | case5 stack key =>
    rintro ⟨⟩
    exact ⟨List.forall_mem_nil _, hr⟩
  | case6 members stack key =>
    rintro ⟨⟩
    exact hr
  | case7 members key stack =>
    rintro ⟨⟩
    exact List.forall_mem_cons.mpr hr
  | case8 v items stack =>
    rintro ⟨⟩
    obtain ⟨hitems, hstack⟩ := List.forall_mem_cons.mp hr.2
    exact List.forall_mem_cons.mpr ⟨List.forall_mem_cons.mpr ⟨hr.1, hitems⟩, hstack⟩
  | case9 v items stack =>
    rintro ⟨⟩
    obtain ⟨hitems, hstack⟩ := List.forall_mem_cons.mp hr.2
    -- An array is closed, with its items turned round.
    refine ⟨legible_array.mpr fun item h => ?_, hstack⟩
    rcases List.mem_cons.mp (List.mem_reverse.mp h) with rfl | h
    · exact hr.1
    · exact hitems item h
  | case10 v members key stack =>
    rintro ⟨⟩
    obtain ⟨hmembers, hstack⟩ := List.forall_mem_cons.mp hr.2
    exact ⟨List.forall_mem_cons.mpr ⟨hr.1, hmembers⟩, hstack⟩
  | case11 v members key stack =>
    rintro ⟨⟩
    obtain ⟨hmembers, hstack⟩ := List.forall_mem_cons.mp hr.2
    -- An object is closed in the same way.
    refine ⟨legible_object.mpr fun member h => ?_, hstack⟩
    rcases List.mem_cons.mp (List.mem_reverse.mp h) with rfl | h
    · exact hr.1
    · exact hmembers member h
  | case12 => exact nofun

theorem legible_takeAll {reading next : Reading} {ts : List Token}
    (h : reading.takeAll ts = some next) (hr : reading.Legible) (hts : ∀ t ∈ ts, t.Legible) :
    next.Legible := by
  induction ts generalizing reading with
  | nil =>
    cases h
    exact hr
  | cons t ts ih =>
    obtain ⟨ht, hts⟩ := List.forall_mem_cons.mp hts
    obtain ⟨reading', hstep, hrest⟩ := Option.bind_eq_some_iff.mp h
    exact ih hrest (legible_step hstep hr ht) hts

theorem legible_of_ofText? {text : String} {j : Json} (h : ofText? text = some j) :
    j.Legible := by
  obtain ⟨ts, hlex, hread⟩ := Option.bind_eq_some_iff.mp h
  obtain ⟨reading, htaken, hresult⟩ := Option.bind_eq_some_iff.mp hread
  have hr : reading.Legible := legible_takeAll htaken (List.forall_mem_nil _)
    (legible_of_lexFrom hlex (List.forall_mem_nil _))
  unfold Reading.result? at hresult
  split at hresult
  · cases hresult
    exact hr.1
  · cases hresult

/-- A value that was read from some text is read again from either of its own texts. -/
theorem ofText?_of_read {text : String} {j : Json} (h : ofText? text = some j) :
    ofText? j.compact = some j ∧ ofText? j.pretty = some j :=
  ⟨ofText?_compact (legible_of_ofText? h), ofText?_pretty (legible_of_ofText? h)⟩

end Json

/-! ## Forms -/

namespace Form

open Json

mutual

/-- All numbers of a form are natural. -/
theorem legible_toJson (form : Form) : form.toJson.Legible := by
  match form with
  | natural _ | truth _ | text _ | missing | case _ [] =>
    simp [toJson, Json.text, Legible, tokens, Token.Legible]
  | present value =>
    rw [toJson]
    exact legible_toJson value
  | list items => exact legible_array.mpr (legible_listToJson items)
  | dictionary fields | record _ fields => exact legible_object.mpr (legible_fieldsToJson fields)
  | case _ (field :: rest) =>
    have hfields := legible_object.mpr (legible_fieldsToJson (field :: rest))
    exact legible_object.mpr (List.forall_mem_singleton.mpr hfields)

theorem legible_listToJson (items : List Form) : ∀ j ∈ listToJson items, j.Legible := by
  match items with
  | [] => exact List.forall_mem_nil _
  | item :: more =>
    exact List.forall_mem_cons.mpr ⟨legible_toJson item, legible_listToJson more⟩

theorem legible_fieldsToJson (fields : List (String × Form)) :
    ∀ member ∈ fieldsToJson fields, member.2.Legible := by
  match fields with
  | [] => exact List.forall_mem_nil _
  | (name, value) :: more =>
    exact List.forall_mem_cons.mpr ⟨legible_toJson value, legible_fieldsToJson more⟩

end

end Form

end GameHub
