import GameHub.Ordered
import GameHub.Text.Blank

/-!
# Ranks

The rank of a player decides first who is served first. Ranks are written in lower case for
people (`name`) and capitalised in data (`tag`).
-/

namespace GameHub

/-- The ranks of players, lowest first. -/
inductive Rank where
  | player
  | supporter
  | trainer
  | moderator
  | admin
  deriving DecidableEq, Repr, Inhabited

namespace Rank

/-! ## Order -/

/-- Every rank, lowest first. -/
def all : List Rank := [player, supporter, trainer, moderator, admin]

/-- How many ranks are below. -/
def level : Rank → Nat
  | player => 0
  | supporter => 1
  | trainer => 2
  | moderator => 3
  | admin => 4

instance : Ord Rank := ⟨fun a b => compare a.level b.level⟩

/-- The rank is the other one or above it. -/
def atLeast (a b : Rank) : Bool := b.level ≤ a.level

/-- Ranks in increasing order. -/
def sort (ranks : List Rank) : List Rank := sortBy (fun a b => a.level ≤ b.level) ranks

theorem level_inj {a b : Rank} (h : a.level = b.level) : a = b := by
  cases a <;> cases b <;> simp_all [level]

theorem mem_all (r : Rank) : r ∈ all := by
  cases r <;> simp [all]

/-! ## Words -/

/-- The word for the rank in messages. -/
def name : Rank → String
  | player => "player"
  | supporter => "supporter"
  | trainer => "trainer"
  | moderator => "moderator"
  | admin => "admin"

/-- The word for the rank in data. -/
def tag : Rank → String
  | player => "Player"
  | supporter => "Supporter"
  | trainer => "Trainer"
  | moderator => "Moderator"
  | admin => "Admin"

/-- A text that names no rank. -/
structure Unknown where
  text : String
  deriving DecidableEq, Repr

/-- The wording of the error. -/
def Unknown.message (e : Unknown) : String := s!"unknown priority rank '{e.text}'"

/-- The rank that a text names, with blanks around it and in letters of any case. -/
def ofText (text : String) : Except Unknown Rank :=
  match all.find? (·.name = (Text.trim text).map Char.toLower) with
  | some rank => .ok rank
  | none => .error ⟨text⟩

end Rank

end GameHub
