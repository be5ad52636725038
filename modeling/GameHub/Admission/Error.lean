import GameHub.Ledger.Entry

/-!
# Why an admission fails

The causes for which a player is dropped from the line or a transfer comes to nothing.
-/

namespace GameHub.Admission

/-- A player waits for a backend that is not known. -/
structure InvalidTarget where
  subject : PlayerId
  target : String
  deriving DecidableEq, Repr

/-- The wording of the cause. -/
def InvalidTarget.message (e : InvalidTarget) : String :=
  s!"subject {e.subject} is queued for unknown backend '{e.target}'"

/-- Why a player could not be handed over to a backend. -/
inductive TransferError where
  | subjectGone
  | rejected (reason : String)
  deriving DecidableEq, Repr

/-- The wording of the cause. -/
def TransferError.message : TransferError → String
  | subjectGone => "subject disconnected before the transfer completed"
  | rejected reason => s!"backend rejected the transfer: {reason}"

end GameHub.Admission
