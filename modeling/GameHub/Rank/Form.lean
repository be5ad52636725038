import GameHub.Form
import GameHub.Json.View
import GameHub.Rank.Basic

/-!
# The form of ranks

A rank in data is a case without fields.
-/

namespace GameHub.Rank

/-- The rank as data. -/
def form (r : Rank) : Form := .case r.tag []

/-- The rank that a JSON value names. -/
def ofJson? (j : Json) : Option Rank := (Json.asTag? j).bind fun tag => all.find? (·.tag = tag)

end GameHub.Rank
