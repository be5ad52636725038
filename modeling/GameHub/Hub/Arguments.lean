import GameHub.Config.Basic
import GameHub.Hub.Basic
import GameHub.Text.Number

/-!
# The arguments of the hub program

Options come as a name and a value. An option that is given more than once counts as it was given
last. `Arguments.apply` changes the settings of the configuration that have an option of their own.
-/

namespace GameHub.Hub

/-- What the hub program is asked to do. -/
structure Arguments where
  host : String
  port : UInt16
  /-- The file with the configuration. -/
  config : Option String
  /-- Passes along the line in a second. -/
  tickRate : UInt32
  maxClients : Nat
  /-- Seconds of silence after which a player is dropped. -/
  clientTimeout : UInt64
  reservedSlots : Option UInt32
  adminThreshold : Option Rank
  /-- Seconds between two restarts of one backend. -/
  restartCooldown : Option UInt64
  deriving DecidableEq, Repr

instance : Inhabited Arguments := ⟨⟨"127.0.0.1", 8080, none, 20, 500, 10, none, none, none⟩⟩

namespace Arguments

/-! ## Reading -/

/-- Why arguments are refused. -/
inductive Error where
  | unknown (name : String)
  | noValue (name : String)
  | badValue (name value : String)
  deriving DecidableEq, Repr

/-- The wording of the cause. -/
def Error.message : Error → String
  | unknown name => s!"unknown option '{name}'"
  | noValue name => s!"option '{name}' needs a value"
  | badValue name value => s!"'{value}' is no value for option '{name}'"

/-- A decimal number below the bound. -/
def number? (bound : Nat) (value : String) : Option Nat :=
  (Text.decimal? value.toList).filter (· < bound)

/-- The names of the options. -/
def names : List String := [
  "--host", "--port", "--config", "--tick-rate", "--max-clients", "--client-timeout",
  "--reserved-slots", "--admin-threshold", "--restart-cooldown"]

/-- The arguments with one more option, unless there is no such option or the value does not fit it.
-/
def set? (a : Arguments) (name value : String) : Option Arguments :=
  match name with
  | "--host" => some { a with host := value }
  | "--port" => (number? UInt16.size value).map fun n => { a with port := UInt16.ofNat n }
  | "--config" => some { a with config := some value }
  | "--tick-rate" => (number? UInt32.size value).map fun n => { a with tickRate := UInt32.ofNat n }
  | "--max-clients" => (number? UInt64.size value).map fun n => { a with maxClients := n }
  | "--client-timeout" =>
    (number? UInt64.size value).map fun n => { a with clientTimeout := UInt64.ofNat n }
  | "--reserved-slots" =>
    (number? UInt32.size value).map fun n => { a with reservedSlots := some (UInt32.ofNat n) }
  | "--admin-threshold" =>
    (Rank.ofText value).toOption.map fun rank => { a with adminThreshold := some rank }
  | "--restart-cooldown" =>
    (number? UInt64.size value).map fun n => { a with restartCooldown := some (UInt64.ofNat n) }
  | _ => none

/-- The arguments with more options. -/
def setAll (a : Arguments) : List String → Except Error Arguments
  | [] => .ok a
  | [name] => .error (if names.contains name then .noValue name else .unknown name)
  | name :: value :: rest =>
    if names.contains name then
      match a.set? name value with
      | some a => a.setAll rest
      | none => .error (.badValue name value)
    else .error (.unknown name)

/-- The arguments that the words of a command line give. -/
def ofWords (words : List String) : Except Error Arguments := setAll default words

/-! ## Meaning -/

/-- The address to listen on. -/
def address? (a : Arguments) : Option Address := Address.ofText? s!"{a.host}:{a.port}"

/-- The settings that do not come from the configuration. -/
def options (a : Arguments) : Options :=
  let standard : Options := default
  { standard with
    tick := (Duration.ofNanos? (1_000_000_000 / max 1 a.tickRate.toNat)).getD standard.tick
    maxClients := a.maxClients
    clientTimeout := .ofSeconds a.clientTimeout }

/-- The configuration with the settings that were given as options. -/
def apply (a : Arguments) (c : Config) : Config :=
  { c with
    admission.reservedSlots := a.reservedSlots.getD c.admission.reservedSlots
    admission.adminThreshold := a.adminThreshold.getD c.admission.adminThreshold
    restart.cooldown := a.restartCooldown.getD c.restart.cooldown }

end Arguments

end GameHub.Hub
