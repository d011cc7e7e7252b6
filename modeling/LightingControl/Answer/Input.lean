import LightingControl.Answer.Gear
/-!
# Answers about the inputs of control devices
-/

set_option autoImplicit false

namespace LightingControl

inductive InputKind where
  | pushButton
  | absoluteInput
  | occupancySensor
  | lightSensor
  | generalSensor
  | other (code : UInt8)
  deriving DecidableEq, Repr

def InputKind.ofByte (byte : UInt8) : InputKind :=
  match byte with
  | 0x01 => .pushButton
  | 0x02 => .absoluteInput
  | 0x03 => .occupancySensor
  | 0x04 => .lightSensor
  | 0x06 => .generalSensor
  | _ => .other byte

structure InputInfo where
  number : UInt8
  kind : InputKind
  active : Bool
  error : Bool
  deriving DecidableEq, Repr

/-- Number, kind and state in four bytes; of the state, bit 0 is an error and bit 1 active. -/
def InputInfo.ofRecord? : Bytes → Option InputInfo
  | [number, kind, state, _] =>
    some ⟨number, .ofByte kind, state &&& 0x02 != 0, state &&& 0x01 != 0⟩
  | _ => none

structure Inputs where
  inputs : List InputInfo
  deriving DecidableEq, Repr

/-- Four bytes an input; a shorter rest is left out. -/
instance : Answer Inputs where
  decode data := .ok ⟨(Bytes.records 4 data).filterMap InputInfo.ofRecord?⟩

structure OccupancyTimers where
  deadtime : UInt8
  hold : UInt8
  report : UInt8
  /-- Seconds since the last detection. -/
  lastDetect : UInt16
  deriving DecidableEq, Repr

def OccupancyTimers.decode (data : Bytes) : Except WireError OccupancyTimers := do
  Field.expectLength "OccupancyTimers" 5 data
  return ⟨data.getD 0 0, data.getD 1 0, data.getD 2 0, wordOf (data.getD 3 0) (data.getD 4 0)⟩

instance : Answer OccupancyTimers where
  decode := OccupancyTimers.decode

structure InputGroups where
  primary : Option UInt8
  first : Option UInt8
  second : Option UInt8
  deriving DecidableEq, Repr

def InputGroups.decode (data : Bytes) : Except WireError InputGroups := do
  Field.expectLength "InstanceGroups" 3 data
  return ⟨unlessUnset (data.getD 0 0), unlessUnset (data.getD 1 0), unlessUnset (data.getD 2 0)⟩

instance : Answer InputGroups where
  decode := InputGroups.decode

structure ButtonLed where
  on : Bool
  deriving DecidableEq, Repr

/-- One byte: 1 off, 2 on; all else is refused for its length. -/
def ButtonLed.decode (data : Bytes) : Except WireError ButtonLed :=
  match data with
  | [0x01] => .ok ⟨false⟩
  | [0x02] => .ok ⟨true⟩
  | _ => .error (.unexpectedLength "ButtonLed" 1 data.length data)

instance : Answer ButtonLed where
  decode := ButtonLed.decode

end LightingControl
