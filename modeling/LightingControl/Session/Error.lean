import LightingControl.Response
/-!
# Why a command on a session fails
-/

set_option autoImplicit false

namespace LightingControl

inductive SessionError where
  | io
  | wire (error : WireError)
  | noResponse (command : String) (target : Address) (attempts : Nat)
  | closed
  | rejected (command : String) (code : ErrorCode)
  | unexpectedResponse (command : String) (kind : ResponseKind)
  deriving DecidableEq, Repr

namespace SessionError

def message : SessionError → String
  | .io => "I/O error"
  | .wire error => "wire error: " ++ error.message
  | .noResponse command target attempts =>
    "no response to " ++ command ++ " (" ++ target.text ++ ")" ++ s!" after {attempts} attempts"
  | .closed => "session closed"
  | .rejected command code => command ++ " rejected: " ++ code.text
  | .unexpectedResponse command kind => "unexpected " ++ kind.name ++ " response to " ++ command

def source? : SessionError → Option String
  | .wire error => some error.message
  | _ => none

end SessionError

inductive Failure where
  | error (error : SessionError)
  | abort (abort : Abort)
  deriving DecidableEq, Repr

end LightingControl
