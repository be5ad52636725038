import GameHub.Json.Basic

/-!
# Writing JSON

Two layouts of a value: `Json.compact` without any blanks, and `Json.pretty` with one part per line,
indented by two spaces, where empty arrays and objects stay on their line. Strings escape quotes,
backslashes and the controls below the space, and nothing else.

Values are written from the end: each function gets the text that follows, and puts its own in
front.
-/

namespace GameHub.Json

/-! ## Strings -/

/-- A character inside a string literal. -/
def escapeChar (c : Char) : List Char :=
  if c = '"' then ['\\', '"']
  else if c = '\\' then ['\\', '\\']
  else if c = '\x08' then ['\\', 'b']
  else if c = '\x0c' then ['\\', 'f']
  else if c = '\n' then ['\\', 'n']
  else if c = '\r' then ['\\', 'r']
  else if c = '\t' then ['\\', 't']
  else if c < ' ' then
    ['\\', 'u', '0', '0', Nat.digitChar (c.toNat / 16), Nat.digitChar (c.toNat % 16)]
  else [c]

/-- A string literal. One without content is half a surrogate pair. -/
def putString (content : Option String) (rest : List Char) : List Char :=
  match content with
  | some s => '"' :: (s.toList.flatMap escapeChar ++ '"' :: rest)
  | none => "\"\\ud800\"".toList ++ rest

/-! ## Compact -/

mutual

/-- The value without blanks. -/
def put : Json → List Char → List Char
  | null, rest => "null".toList ++ rest
  | bool true, rest => "true".toList ++ rest
  | bool false, rest => "false".toList ++ rest
  | natural n, rest => Nat.toDigits 10 n ++ rest
  | number literal, rest => literal.toList ++ rest
  | string content, rest => putString content rest
  | array items, rest => '[' :: putItems items (']' :: rest)
  | object members, rest => '{' :: putMembers members ('}' :: rest)

/-- The items of an array. -/
def putItems : List Json → List Char → List Char
  | [], rest => rest
  | [item], rest => put item rest
  | item :: more, rest => put item (',' :: putItems more rest)

/-- The members of an object. -/
def putMembers : List (Option String × Json) → List Char → List Char
  | [], rest => rest
  | [(key, value)], rest => putString key (':' :: put value rest)
  | (key, value) :: more, rest => putString key (':' :: put value (',' :: putMembers more rest))

end

/-- The value without blanks. -/
def compact (j : Json) : String := String.ofList (put j [])

/-! ## Pretty -/

/-- A new line at a depth of nesting. -/
def putLine (depth : Nat) (rest : List Char) : List Char :=
  '\n' :: (List.replicate (2 * depth) ' ' ++ rest)

mutual

/-- The value in indented layout, at a depth of nesting. -/
def putPretty (depth : Nat) : Json → List Char → List Char
  | array (item :: more), rest =>
    '[' :: putPrettyItems (depth + 1) (item :: more) (putLine depth (']' :: rest))
  | object (member :: more), rest =>
    '{' :: putPrettyMembers (depth + 1) (member :: more) (putLine depth ('}' :: rest))
  | j, rest => put j rest

/-- The items of an array, each on its line. -/
def putPrettyItems (depth : Nat) : List Json → List Char → List Char
  | [], rest => rest
  | [item], rest => putLine depth (putPretty depth item rest)
  | item :: more, rest =>
    putLine depth (putPretty depth item (',' :: putPrettyItems depth more rest))

/-- The members of an object, each on its line. -/
def putPrettyMembers (depth : Nat) : List (Option String × Json) → List Char → List Char
  | [], rest => rest
  | [(key, value)], rest =>
    putLine depth (putString key (':' :: ' ' :: putPretty depth value rest))
  | (key, value) :: more, rest =>
    putLine depth (putString key (':' :: ' ' ::
      putPretty depth value (',' :: putPrettyMembers depth more rest)))

end

/-- The value in indented layout. -/
def pretty (j : Json) : String := String.ofList (putPretty 0 j [])

end GameHub.Json
