import LightingControl.Address.Range
import LightingControl.Colour
import LightingControl.Frame
/-!
# Commands

A command is checked and complete but for its sequence number.  Its body has one of three shapes:

    basic     ADDRESS D0 D1 D2                exactly four bytes
    colour    ADDRESS LEVEL TYPE CHANNELS...  padded with zeros to eight bytes
    dynamic   LEN DATA[LEN]
-/

set_option autoImplicit false

namespace LightingControl

inductive TargetClass where
  | gear
  | device
  | group
  | broadcast
  deriving DecidableEq, Repr

/-- The class of an address; the controller, its variables and its profiles have none. -/
def Address.class? : Address → Option TargetClass
  | .gear _ => some .gear
  | .device _ => some .device
  | .group _ => some .group
  | .broadcast => some .broadcast
  | .controller | .systemVariable _ | .profile _ => none

inductive Payload where
  | basic (address d0 d1 d2 : UInt8)
  | colour (address level : UInt8) (colour : Colour)
  | dynamic (data : Bytes)
  deriving DecidableEq, Repr

def colourBodyLength : Nat := 8

def Payload.body : Payload → Bytes
  | .basic address d0 d1 d2 => [address, d0, d1, d2]
  | .colour address level value =>
    Bytes.padTo colourBodyLength (address :: level :: value.encode)
  | .dynamic data => UInt8.ofNat data.length :: data

structure Command where
  name : String
  code : UInt8
  target : Address
  payload : Payload
  deriving DecidableEq, Repr

namespace Command

def body (command : Command) : Bytes :=
  command.payload.body

def request (command : Command) (seq : UInt8) : Request :=
  ⟨seq, command.code, command.body⟩

def text (command : Command) : String :=
  command.name ++ " (" ++ command.target.text ++ ")"

def debugText (command : Command) : String :=
  "Command[0x" ++ Hex.upper command.code ++ " " ++ command.name ++ " -> " ++
    command.target.text ++ "]"

end Command

end LightingControl
