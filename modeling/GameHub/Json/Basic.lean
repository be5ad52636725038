/-!
# JSON values

The tree of a JSON text. Numbers that are natural and written in digits alone are kept as numbers;
any other number is kept as it was written. The content of a string is missing if one of its escapes
stands for half a surrogate pair: such a string may stand where nobody reads it.
-/

namespace GameHub

/-- A JSON value. Members of an object are kept in the order of the text, repeated keys included. -/
inductive Json where
  | null
  | bool (b : Bool)
  /-- A number written in digits alone. -/
  | natural (n : Nat)
  /-- A number with a sign, a fraction or an exponent, as written. -/
  | number (literal : String)
  | string (content : Option String)
  | array (items : List Json)
  | object (members : List (Option String × Json))
  deriving Repr, Inhabited

namespace Json

/-- A string that has content. -/
def text (s : String) : Json := string (some s)

/-- An object whose keys have content. -/
def record (members : List (String × Json)) : Json :=
  object (members.map fun (key, value) => (some key, value))

/-- The smallest parts of a JSON text. -/
inductive Token where
  | openArray
  | closeArray
  | openObject
  | closeObject
  | comma
  | colon
  | null
  | bool (b : Bool)
  | natural (n : Nat)
  | number (literal : String)
  | string (content : Option String)
  deriving DecidableEq, Repr

end Json

end GameHub
