import GameHub.Json.Basic
import GameHub.Text.Quoted

/-!
# Forms

The structure of a value apart from its type: numbers, texts, lists, maps, and records and cases
with named fields. A value that has a form can be shown in two ways: as JSON for exchange
(`Form.toJson`), and as one line for people who look for the cause of an error (`Form.inspect`).
-/

namespace GameHub

/-- The structure of a value. -/
inductive Form where
  | natural (n : Nat)
  | truth (b : Bool)
  | text (s : String)
  | missing
  | present (value : Form)
  | list (items : List Form)
  | dictionary (entries : List (String × Form))
  | record (name : String) (fields : List (String × Form))
  /-- One of several alternatives. -/
  | case (name : String) (fields : List (String × Form))
  deriving Repr, Inhabited

namespace Form

/-! ## Building forms -/

/-- The form of a value that may be missing. -/
def ofOption {α : Type} (form : α → Form) : Option α → Form
  | some a => present (form a)
  | none => missing

/-! ## As JSON -/

mutual

/-- The value in JSON. A case without fields is its name; a case with fields is an object with the
name as its only key. -/
def toJson : Form → Json
  | natural n => .natural n
  | truth b => .bool b
  | text s => .text s
  | missing => .null
  | present value => toJson value
  | list items => .array (listToJson items)
  | dictionary entries => .object (fieldsToJson entries)
  | record _ fields => .object (fieldsToJson fields)
  | case name [] => .text name
  | case name (field :: rest) => .object [(some name, .object (fieldsToJson (field :: rest)))]

/-- The items of a list in JSON. -/
def listToJson : List Form → List Json
  | [] => []
  | item :: rest => toJson item :: listToJson rest

/-- Named values as the members of an object. -/
def fieldsToJson : List (String × Form) → List (Option String × Json)
  | [] => []
  | (name, value) :: rest => (some name, toJson value) :: fieldsToJson rest

end

/-! ## For people -/

/-- Texts with commas between them. -/
def commaSeparated (parts : List String) : String := ", ".intercalate parts

mutual

/-- The value on one line. -/
def inspect : Form → String
  | natural n => n.repr
  | truth true => "true"
  | truth false => "false"
  | text s => Text.quoted s
  | missing => "None"
  | present value => "Some(" ++ inspect value ++ ")"
  | list items => "[" ++ commaSeparated (inspectList items) ++ "]"
  | dictionary entries => "\x7b" ++ commaSeparated (inspectEntries entries) ++ "\x7d"
  | record name [] | case name [] => name
  | record name (field :: rest) | case name (field :: rest) =>
    name ++ " \x7b " ++ commaSeparated (inspectFields (field :: rest)) ++ " \x7d"

/-- The items of a list, each as text. -/
def inspectList : List Form → List String
  | [] => []
  | item :: rest => inspect item :: inspectList rest

/-- The entries of a map, with quoted keys. -/
def inspectEntries : List (String × Form) → List String
  | [] => []
  | (key, value) :: rest => (Text.quoted key ++ ": " ++ inspect value) :: inspectEntries rest

/-- The fields of a record, with plain names. -/
def inspectFields : List (String × Form) → List String
  | [] => []
  | (name, value) :: rest => (name ++ ": " ++ inspect value) :: inspectFields rest

end

end Form

end GameHub
