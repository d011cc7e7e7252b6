import LightingControl.Colour
import LightingControl.Frame
/-!
# Events

What a controller reports: the ten types of event, their codes, and the typed contents of each.
-/

set_option autoImplicit false

namespace LightingControl

inductive EventType where
  | buttonPress
  | buttonHold
  | absoluteInput
  | sceneChange
  | occupancy
  | systemVariableChange
  | colourChange
  | profileChange
  | groupOccupied
  | levelChange
  deriving DecidableEq, Repr

namespace EventType

def all : List EventType :=
  [.buttonPress, .buttonHold, .absoluteInput, .sceneChange, .occupancy, .systemVariableChange,
    .colourChange, .profileChange, .groupOccupied, .levelChange]

def code : EventType → UInt8
  | .buttonPress => 0x00
  | .buttonHold => 0x01
  | .absoluteInput => 0x02
  | .sceneChange => 0x05
  | .occupancy => 0x06
  | .systemVariableChange => 0x07
  | .colourChange => 0x08
  | .profileChange => 0x09
  | .groupOccupied => 0x0A
  | .levelChange => 0x0B

def ofCode? (code : UInt8) : Option EventType :=
  match code with
  | 0x00 => some .buttonPress
  | 0x01 => some .buttonHold
  | 0x02 => some .absoluteInput
  | 0x05 => some .sceneChange
  | 0x06 => some .occupancy
  | 0x07 => some .systemVariableChange
  | 0x08 => some .colourChange
  | 0x09 => some .profileChange
  | 0x0A => some .groupOccupied
  | 0x0B => some .levelChange
  | _ => none

def text : EventType → String
  | .buttonPress => "button press"
  | .buttonHold => "button hold"
  | .absoluteInput => "absolute input"
  | .sceneChange => "scene change"
  | .occupancy => "occupancy"
  | .systemVariableChange => "system variable change"
  | .colourChange => "colour change"
  | .profileChange => "profile change"
  | .groupOccupied => "group occupied"
  | .levelChange => "level change"

end EventType

inductive EventKind where
  | buttonPress (device input : UInt8)
  | buttonHold (device input : UInt8)
  | absoluteInput (device input : UInt8) (value : UInt16)
  | sceneChange (target : Address) (scene : UInt8)
  | occupancy (device input : UInt8)
  /-- The value is `raw` times ten to the power of `magnitude`. -/
  | systemVariableChange (number : UInt8) (raw : Int32) (magnitude : Int8)
  | colourChange (target : Address) (colour : Option Colour)
  | profileChange (profile : UInt16)
  | groupOccupied (payload : Bytes)
  | levelChange (target : Address) (level : UInt8)
  deriving DecidableEq, Repr

def EventKind.type : EventKind → EventType
  | .buttonPress .. => .buttonPress
  | .buttonHold .. => .buttonHold
  | .absoluteInput .. => .absoluteInput
  | .sceneChange .. => .sceneChange
  | .occupancy .. => .occupancy
  | .systemVariableChange .. => .systemVariableChange
  | .colourChange .. => .colourChange
  | .profileChange .. => .profileChange
  | .groupOccupied .. => .groupOccupied
  | .levelChange .. => .levelChange

structure Event where
  controller : ControllerIdentity
  target : UInt16
  kind : EventKind
  deriving DecidableEq, Repr

namespace Event

def type (event : Event) : EventType :=
  event.kind.type

def contentText (event : Event) : String :=
  match event.kind with
  | .buttonPress device input => s!"button press device {device} instance {input}"
  | .buttonHold device input => s!"button hold device {device} instance {input}"
  | .absoluteInput device input value =>
    s!"absolute input device {device} instance {input} = {value}"
  | .sceneChange target scene => target.text ++ s!" scene {scene}"
  | .occupancy device input => s!"occupied device {device} instance {input}"
  | .systemVariableChange number raw magnitude => s!"sysvar {number} = {raw}e{magnitude}"
  | .colourChange target (some colour) => target.text ++ " colour " ++ colour.debugText
  | .colourChange target none => target.text ++ " colour unknown"
  | .profileChange profile => s!"profile {profile}"
  | .groupOccupied _ =>
    let target := event.target
    s!"group occupied target {target}"
  | .levelChange target level => target.text ++ s!" level {level}"

def text (event : Event) : String :=
  event.controller.text ++ " " ++ event.contentText

end Event

end LightingControl
