import GameHub.Json.Basic
import GameHub.NameMap

/-!
# Typed views of JSON values

What a JSON value means where a value of a given type is expected. A view is `none` if the value
does not fit.

A record may be given as an object or as an array of its fields in order. In an object, unknown keys
are ignored and a known key may not be repeated; in an array, fields at the end may be left out.
What a field that is not given means depends on the field: `Slot.required`, `Slot.nullable` and
`Slot.withDefault` are the three answers.
-/

namespace GameHub.Json

/-! ## Simple values -/

/-- A truth value. -/
def asBool? : Json → Option Bool
  | bool b => some b
  | _ => none

/-- A string that has content. -/
def asText? : Json → Option String
  | string content => content
  | _ => none

/-- A natural number below the bound. -/
def asNatural? (bound : Nat) : Json → Option Nat
  | natural n => if n < bound then some n else none
  | _ => none

/-- A number of 32 bits. -/
def asUInt32? (j : Json) : Option UInt32 := (asNatural? UInt32.size j).map UInt32.ofNat

/-- A number of 64 bits. -/
def asUInt64? (j : Json) : Option UInt64 := (asNatural? UInt64.size j).map UInt64.ofNat

/-- The name of a case without fields, alone or as the only key of an object that maps it to null.
-/
def asTag? : Json → Option String
  | string content => content
  | object [(key, null)] => key
  | _ => none

/-! ## Composed values -/

/-- Null, or a value that fits the view. -/
def asNullable? {α : Type} (view : Json → Option α) : Json → Option (Option α)
  | null => some none
  | j => (view j).map some

/-- An array whose items all fit the view. -/
def asList? {α : Type} (view : Json → Option α) : Json → Option (List α)
  | array items => items.mapM view
  | _ => none

/-- A member whose key has content and whose value fits the view. -/
def asMember? {α : Type} (view : Json → Option α) (member : Option String × Json) :
    Option (String × α) := do
  return (← member.1, ← view member.2)

/-- A map; of members with one key the last counts. -/
def asMap? {α : Type} (view : Json → Option α) : Json → Option (NameMap α)
  | object members => (members.mapM (asMember? view)).map NameMap.ofList
  | _ => none

/-! ## Records -/

/-- How a field of a record was given. -/
inductive Slot where
  | given (value : Json)
  /-- The object has no such key. -/
  | unnamed
  /-- The array ends before the field. -/
  | cut

namespace Slot

/-- The field must be given. -/
def required {α : Type} (view : Json → Option α) : Slot → Option α
  | given j => view j
  | _ => none

/-- The field may be null, and an object may leave it out. -/
def nullable {α : Type} (view : Json → Option α) : Slot → Option (Option α)
  | given j => asNullable? view j
  | unnamed => some none
  | cut => none

/-- The field has a value of its own if it is not given. -/
def withDefault {α : Type} (value : α) (view : Json → Option α) : Slot → Option α
  | given j => view j
  | _ => some value

end Slot

/-- The value of a key in a list of members. -/
def member? (name : String) (members : List (Option String × Json)) : Option Json :=
  (members.find? (·.1 = some name)).map (·.2)

/-- Every key has content, and no known key is repeated. -/
def keysFit (names : List String) (members : List (Option String × Json)) : Bool :=
  members.all (·.1.isSome) && names.all fun name => (members.filter (·.1 = some name)).length ≤ 1

/-- The fields of a record given as an object. -/
def objectSlots? (names : List String) : Json → Option (List Slot)
  | object members =>
    if keysFit names members then
      some (names.map fun name => match member? name members with
        | some value => .given value
        | none => .unnamed)
    else none
  | _ => none

/-- The fields of a record given as an object or as an array. -/
def slots? (names : List String) : Json → Option (List Slot)
  | array items =>
    if items.length ≤ names.length then
      some (items.map .given ++ List.replicate (names.length - items.length) .cut)
    else none
  | j => objectSlots? names j

/-! ## Cases -/

/-- What is given for the fields of a case, if anything is. -/
structure CaseFields where
  value : Option Json

/-- The name of a case, and what is given for its fields. -/
def asCase? : Json → Option (String × CaseFields)
  | string content => content.map (·, ⟨none⟩)
  | object [(key, value)] => key.map (·, ⟨some value⟩)
  | _ => none

/-- The case has no fields. -/
def CaseFields.noneGiven? (fields : CaseFields) : Option Unit :=
  match fields.value with
  | none | some null => some ()
  | _ => none

/-- The fields of the case, which have to be given as an object. -/
def CaseFields.named? (fields : CaseFields) (names : List String) : Option (List Slot) :=
  fields.value.bind (objectSlots? names)

end GameHub.Json
