import GameHub.Agent.Link
import GameHub.Text.Blank
import GameHub.Text.Number

/-!
# Status reports

The number of players on a backend, fixed or read from a file that the backend keeps up to date,
and its reports to the hub. A count that cannot be read skips one report and nothing more; the hub
then treats the backend like any other that is silent.
-/

namespace GameHub.Agent

/-- Where the number of players comes from. -/
inductive CountSource where
  | fixed (count : UInt32)
  | file (path : String)
  deriving DecidableEq, Repr

/-- The bytes of a file; `none` stands for a file that is missing. -/
abbrev FileState := Option (List UInt8)

/-- The count in a file. -/
def readCount (path : String) : FileState → Except Error UInt32
  | none => .error (.system .notFound)
  | some bytes =>
    match Text.Utf8.decode bytes with
    | .error _ => .error (.system .invalidData)
    | .ok raw =>
      let word := Text.trim raw
      match Text.count? word with
      | some count => .ok count
      | none => .error (.count s!"'{word}' in {path}")

/-- The count of a source, its file being in this state. -/
def CountSource.read (source : CountSource) (file : FileState) : Except Error UInt32 :=
  match source with
  | .fixed count => .ok count
  | .file path => readCount path file

/-- Reports how full a backend is. -/
structure Reporter where
  server : String
  max : UInt32
  source : CountSource
  deriving DecidableEq, Repr

namespace Reporter

variable {σ : Type}

/-- Sends a count to the hub. -/
def report (r : Reporter) (current : UInt32) : Session σ Unit :=
  Session.send (.statusReport r.server current r.max)

/-- Reads the count and reports it. -/
def reportOnce (r : Reporter) (file : FileState) : Session σ UInt32 := do
  let current ← MonadExcept.ofExcept (r.source.read file)
  r.report current
  return current

/-- The error ends the reports. A missing file and a text that is no count do not. -/
def isFinal : Error → Bool
  | .system cause => cause ≠ .notFound
  | .overflow _ => true
  | _ => false

/-- Reports at every turn, the file being in these states one after the other. -/
def run (r : Reporter) : List FileState → Session σ Unit
  | [] => return
  | file :: rest => do
    tryCatch (discard (r.reportOnce file)) fun e => if isFinal e then throw e else return
    r.run rest

end Reporter

end GameHub.Agent
