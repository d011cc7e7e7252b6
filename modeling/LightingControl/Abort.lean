/-!
# Broken preconditions

What stops the program instead of giving an error that a caller could handle.
-/

set_option autoImplicit false

namespace LightingControl

/-- A precondition that did not hold. -/
inductive Abort where
  | responseTooLong
  | eventTooLong
  /-- One attempt more than the retries does not fit into 32 bits. -/
  | attemptBoundOverflow
  | retryCountOverflow
  | deadlineOverflow
  deriving DecidableEq, Repr

def Abort.message : Abort → String
  | .responseTooLong => "response data exceeds length byte"
  | .eventTooLong => "event payload exceeds length byte"
  | .attemptBoundOverflow | .retryCountOverflow => "attempt to add with overflow"
  | .deadlineOverflow => "overflow when adding duration to instant"

end LightingControl
