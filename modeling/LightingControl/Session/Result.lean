import LightingControl.Answer.Basic
import LightingControl.Command.Operation
import LightingControl.Session.Basic
/-!
# From responses to results

What the three uses of a command make of its response: executing it, querying for an answer of some
type, and setting how events are emitted.
-/

set_option autoImplicit false

namespace LightingControl

namespace Response

def rejection (response : Response) (command : Command) : SessionError :=
  .rejected command.name (response.errorCode?.getD (.unknown 0))

def executed (response : Response) (command : Command) : Except SessionError Bool :=
  match response.kind with
  | .ok | .answer => .ok true
  | .noAnswer => .ok false
  | .error => .error (response.rejection command)

def answered (α : Type) [Answer α] (response : Response) (command : Command) :
    Except SessionError (Option α) :=
  match response.kind with
  | .answer =>
    match Answer.decode response.data with
    | .ok value => .ok (some value)
    | .error error => .error (.wire error)
  | .noAnswer => .ok none
  | .error => .error (response.rejection command)
  | .ok => .error (.unexpectedResponse command.name .ok)

def applied (response : Response) (command : Command) (mode : EventMode) :
    Except SessionError Bool :=
  match response.kind with
  | .answer => .ok (response.data.head? == some mode.byte)
  | .ok | .noAnswer => .ok false
  | .error => .error (response.rejection command)

end Response

def Exchange.interpret {α : Type} (exchange : Exchange Response)
    (f : Response → Except SessionError α) : Exchange α where
  session := exchange.session
  requests := exchange.requests
  forwarded := exchange.forwarded
  result :=
    match exchange.result with
    | .error failure => .error failure
    | .ok response =>
      match f response with
      | .ok value => .ok value
      | .error error => .error (.error error)

namespace Session

section
variable (session : Session) (during late : Nat → List Happening)

/-- Executes a command; false if there was no answer.  What happens meanwhile is as for `send`. -/
def executeWith (command : Command) : Exchange Bool :=
  (session.send command during late).interpret fun response => response.executed command

def queryWith (α : Type) [Answer α] (command : Command) : Exchange (Option α) :=
  (session.send command during late).interpret fun response => response.answered α command

/-- Sets how events are emitted; true only if the controller reports the mode as applied. -/
def enableEventEmitWith (mode : EventMode) : Exchange Bool :=
  let command := Operation.eventEmission mode
  (session.send command during late).interpret fun response => response.applied command mode

end

def execute (session : Session) (command : Command) (during : Nat → List Happening) :
    Exchange Bool :=
  session.executeWith during (fun _ => []) command

def query (α : Type) [Answer α] (session : Session) (command : Command)
    (during : Nat → List Happening) : Exchange (Option α) :=
  session.queryWith during (fun _ => []) α command

def enableEventEmit (session : Session) (mode : EventMode) (during : Nat → List Happening) :
    Exchange Bool :=
  session.enableEventEmitWith during (fun _ => []) mode

end Session

end LightingControl
