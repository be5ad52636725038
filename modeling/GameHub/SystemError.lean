/-!
# What the operating system refuses

The causes for which a file cannot be read or a datagram cannot be sent.
-/

namespace GameHub

/-- Why an operation on a file or a socket failed. -/
inductive SystemError where
  /-- There is no such file. -/
  | notFound
  /-- The file is not text. -/
  | invalidData
  /-- No datagram can leave this host. -/
  | networkUnreachable
  deriving DecidableEq, Repr

/-- The wording of the cause. -/
def SystemError.message : SystemError → String
  | notFound => "No such file or directory (os error 2)"
  | invalidData => "stream did not contain valid UTF-8"
  | networkUnreachable => "Network is unreachable (os error 101)"

end GameHub
