import GameHub.Json.Lexer

/-!
# Reading JSON

`Json.ofText?` reads a text as one value. The tokens are taken one by one; arrays and objects whose
end has not come yet wait on a stack, so the depth of nesting does not matter.
-/

namespace GameHub.Json

/-- An array or object that has begun; its parts are newest first. -/
inductive Frame where
  | array (items : List Json)
  /-- The value of the last key is still to come. -/
  | object (members : List (Option String × Json)) (key : Option String)

/-- What has been read, and so what may come next. -/
inductive Reading where
  /-- A value must come. -/
  | value (stack : List Frame)
  /-- An array has just begun: a value or its end must come. -/
  | arrayStart (stack : List Frame)
  /-- An object has just begun: a key or its end must come. -/
  | objectStart (stack : List Frame)
  /-- A key must come. -/
  | key (members : List (Option String × Json)) (stack : List Frame)
  /-- The colon after a key must come. -/
  | colon (members : List (Option String × Json)) (key : Option String) (stack : List Frame)
  /-- A value is complete: a comma or the end of what it is part of must come. -/
  | complete (value : Json) (stack : List Frame)

/-- Takes a token where a value must come. -/
def startValue (stack : List Frame) : Token → Option Reading
  | .null => some (.complete .null stack)
  | .bool b => some (.complete (.bool b) stack)
  | .natural n => some (.complete (.natural n) stack)
  | .number literal => some (.complete (.number literal) stack)
  | .string content => some (.complete (.string content) stack)
  | .openArray => some (.arrayStart stack)
  | .openObject => some (.objectStart stack)
  | _ => none

/-- Takes a token. -/
def Reading.step : Reading → Token → Option Reading
  | value stack, t => startValue stack t
  | arrayStart stack, .closeArray => some (complete (.array []) stack)
  | arrayStart stack, t => startValue (.array [] :: stack) t
  | objectStart stack, .closeObject => some (complete (.object []) stack)
  | objectStart stack, .string k => some (colon [] k stack)
  | key members stack, .string k => some (colon members k stack)
  | colon members k stack, .colon => some (value (.object members k :: stack))
  | complete v (.array items :: stack), .comma => some (value (.array (v :: items) :: stack))
  | complete v (.array items :: stack), .closeArray =>
    some (complete (.array (v :: items).reverse) stack)
  | complete v (.object members k :: stack), .comma => some (key ((k, v) :: members) stack)
  | complete v (.object members k :: stack), .closeObject =>
    some (complete (.object ((k, v) :: members).reverse) stack)
  | _, _ => none

/-- The value, if it is complete and part of nothing. -/
def Reading.result? : Reading → Option Json
  | complete v [] => some v
  | _ => none

/-- The value that a list of tokens writes. -/
def ofTokens? (tokens : List Token) : Option Json := do
  let reading ← tokens.foldlM Reading.step (.value [])
  reading.result?

/-- The value that a text writes. -/
def ofText? (s : String) : Option Json := (lex s).bind ofTokens?

end GameHub.Json
