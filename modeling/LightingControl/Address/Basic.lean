import LightingControl.Net.Address
/-!
# What a command can address

A request carries one address byte.  Control gear uses 0 to 63; control devices and groups share the
range from 64 on and are told apart by the command; 255 is broadcast.  Event frames carry the same
numbers in a 16-bit target.

The numbers inside an `Address` are not restricted here: `Address.validate` in the module
`Address.Range` checks them.
-/

set_option autoImplicit false

namespace LightingControl

inductive Address where
  | controller
  | gear (number : UInt8)
  | device (number : UInt8)
  | group (number : UInt8)
  | broadcast
  | systemVariable (number : UInt8)
  /-- A profile of the controller; it travels in the data of a request. -/
  | profile (number : UInt16)
  deriving DecidableEq, Repr

/-- What is added to the number of a device or group on the wire. -/
def upperOffset : UInt8 := 64

def broadcastByte : UInt8 := 0xFF

namespace Address

def wireByte : Address → UInt8
  | .controller | .profile _ => 0
  | .gear number | .systemVariable number => number
  | .device number | .group number => number + upperOffset
  | .broadcast => broadcastByte

/-- The target an event frame carries for an address. -/
def eventTarget : Address → UInt16
  | .profile number => number
  | address => address.wireByte.toUInt16

def ofGearTarget? (target : UInt16) : Option Address :=
  if target ≤ 63 then some (.gear target.toUInt8)
  else if target ≤ 79 then some (.group (target - 64).toUInt8)
  else none

def deviceNumber? (target : UInt16) : Option UInt8 :=
  if 64 ≤ target ∧ target ≤ 127 then some (target - 64).toUInt8 else none

def ofDeviceTarget? (target : UInt16) : Option Address :=
  (deviceNumber? target).map .device

def text : Address → String
  | .controller => "controller"
  | .gear number => s!"gear {number}"
  | .device number => s!"device {number}"
  | .group number => s!"group {number}"
  | .broadcast => "broadcast"
  | .systemVariable number => s!"sysvar {number}"
  | .profile number => s!"profile {number}"

end Address

structure Input where
  device : UInt8
  number : UInt8
  deriving DecidableEq, Repr

namespace Input

def address (input : Input) : Address :=
  .device input.device

def text (input : Input) : String :=
  s!"device {input.device} instance {input.number}"

end Input

structure MacAddress where
  a : UInt8
  b : UInt8
  c : UInt8
  d : UInt8
  e : UInt8
  f : UInt8
  deriving DecidableEq, Repr

namespace MacAddress

def bytes (mac : MacAddress) : Bytes :=
  [mac.a, mac.b, mac.c, mac.d, mac.e, mac.f]

def text (mac : MacAddress) : String :=
  String.intercalate ":" (mac.bytes.map Hex.lower)

def debugText (mac : MacAddress) : String :=
  "MacAddr(" ++ mac.text ++ ")"

end MacAddress

structure ControllerIdentity where
  endpoint : Endpoint
  mac : Option MacAddress
  deriving DecidableEq, Repr

def ControllerIdentity.text (identity : ControllerIdentity) : String :=
  match identity.mac with
  | some mac => identity.endpoint.text ++ " (" ++ mac.text ++ ")"
  | none => identity.endpoint.text

end LightingControl
