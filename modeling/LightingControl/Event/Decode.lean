import LightingControl.Address.Range
import LightingControl.Event.Basic
/-!
# Reading events

`Event.read` types a notification: its code names the type, its target is understood in the address
space of that type, and its payload gives the remaining contents.  The checks run in this order:
code, target, payload.  Some controllers number the groups of colour changes from 128 instead of 64;
such a target is taken for the group, with a warning.
-/

set_option autoImplicit false

namespace LightingControl

inductive EventWarning where
  | shiftedGroup (target : UInt16)
  deriving DecidableEq, Repr

def EventWarning.message : EventWarning → String
  | .shiftedGroup target =>
    let group := target - 128
    s!"colour change with target {target}, assuming group {group}"

/-- The group of a colour change whose target counts groups from 128. -/
def Address.ofShiftedGroup? (target : UInt16) : Option Address :=
  if 128 ≤ target ∧ target ≤ 143 then some (.group (target - 128).toUInt8) else none

namespace EventKind

def orInvalid {α : Type} (type : EventType) (target : UInt16) : Option α → Except WireError α
  | some value => .ok value
  | none => .error (.invalidTarget type.text target)

def quoting {α : Type} (payload : Bytes) (result : Except WireError α) : Except WireError α :=
  match result with
  | .ok value => .ok value
  | .error error => .error (error.withRaw payload)

def readInput (type : EventType) (target : UInt16) (payload : Bytes) :
    Except WireError (UInt8 × UInt8) := do
  let device ← orInvalid type target (Address.deviceNumber? target)
  let input ← quoting payload (Field.uint8 payload 0)
  return (device, input)

def read (type : EventType) (target : UInt16) (payload : Bytes) :
    Except WireError (EventKind × List EventWarning) :=
  match type with
  | .buttonPress => do
    let (device, input) ← readInput type target payload
    return (.buttonPress device input, [])
  | .buttonHold => do
    let (device, input) ← readInput type target payload
    return (.buttonHold device input, [])
  | .occupancy => do
    let (device, input) ← readInput type target payload
    return (.occupancy device input, [])
  | .absoluteInput => do
    let (device, input) ← readInput type target payload
    let value ← quoting payload (Field.uint16 payload 1)
    return (.absoluteInput device input value, [])
  | .sceneChange => do
    let source ← orInvalid type target (Address.ofGearTarget? target)
    let scene ← quoting payload (Field.uint8 payload 0)
    return (.sceneChange source scene, [])
  | .systemVariableChange => do
    if maxSystemVariable < target.toNat then
      .error (.invalidTarget type.text target)
    else
      let raw ← quoting payload (Field.int32 payload 0)
      let magnitude ← quoting payload (Field.int8 payload 4)
      return (.systemVariableChange target.toUInt8 raw magnitude, [])
  | .colourChange =>
    let colour := (Colour.decode payload).toOption
    match Address.ofGearTarget? target with
    | some source => .ok (.colourChange source colour, [])
    | none =>
      match Address.ofShiftedGroup? target with
      | some group => .ok (.colourChange group colour, [.shiftedGroup target])
      | none => .error (.invalidTarget type.text target)
  | .profileChange => do
    let profile ← quoting payload (Field.uint16 payload 0)
    return (.profileChange profile, [])
  | .groupOccupied => .ok (.groupOccupied payload, [])
  | .levelChange => do
    let source ← orInvalid type target (Address.ofGearTarget? target)
    let level ← quoting payload (Field.uint8 payload 1)
    return (.levelChange source level, [])

end EventKind

namespace Event

/-- The event in a notification that came from an endpoint, with the warnings about it. -/
def read (notification : Notification) (source : Endpoint) :
    Except WireError (Event × List EventWarning) := do
  match EventType.ofCode? notification.code with
  | none => .error (.unknownEvent notification.code notification.target)
  | some type =>
    let (kind, warnings) ← EventKind.read type notification.target notification.payload
    return (⟨⟨source, some notification.mac⟩, notification.target, kind⟩, warnings)

def decode (notification : Notification) (source : Endpoint) : Except WireError Event :=
  (read notification source).map (·.1)

end Event

end LightingControl
