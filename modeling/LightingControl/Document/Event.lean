import LightingControl.Document.Address
import LightingControl.Event.Basic
import LightingControl.EventSettings
/-!
# Events as documents

Colours, emission modes and events, each under the names of its alternatives and fields.
-/

set_option autoImplicit false

namespace LightingControl

def Colour.document : Colour → Document
  | .xy x y => .record [("Xy", .record [("x", .ofWord x), ("y", .ofWord y)])]
  | .white kelvin => .record [("Tc", .record [("kelvin", .ofWord kelvin)])]
  | .channels r g b w a f =>
    .record [("Rgbwaf", .record [("r", .ofByte r), ("g", .ofByte g), ("b", .ofByte b),
      ("w", .ofByte w), ("a", .ofByte a), ("f", .ofByte f)])]

/-- The colour in a document, with its coordinates by name; they are not checked. -/
def Colour.ofDocument? (document : Document) : Option Colour := do
  let (space, coordinates) ← document.alternative?
  match space with
  | "Xy" =>
    match ← (← coordinates.record? ["x", "y"]).mapM Document.word? with
    | [x, y] => some (.xy x y)
    | _ => none
  | "Tc" =>
    match ← (← coordinates.record? ["kelvin"]).mapM Document.word? with
    | [kelvin] => some (.white kelvin)
    | _ => none
  | "Rgbwaf" =>
    match ← (← coordinates.record? ["r", "g", "b", "w", "a", "f"]).mapM Document.byte? with
    | [r, g, b, w, a, f] => some (.channels r g b w a f)
    | _ => none
  | _ => none

def EventMode.document (mode : EventMode) : Document :=
  .record [("enabled", .boolean mode.enabled), ("filtering", .boolean mode.filtering),
    ("unicast", .boolean mode.unicast), ("multicast", .boolean mode.multicast)]

def EventMode.ofDocument? (document : Document) : Option EventMode := do
  let switches ← document.fields? ["enabled", "filtering", "unicast", "multicast"]
  match ← switches.mapM Document.boolean? with
  | [enabled, filtering, unicast, multicast] => some ⟨enabled, filtering, unicast, multicast⟩
  | _ => none

def EventType.tag : EventType → String
  | .buttonPress => "ButtonPress"
  | .buttonHold => "ButtonHold"
  | .absoluteInput => "AbsoluteInput"
  | .sceneChange => "SceneChange"
  | .occupancy => "Occupancy"
  | .systemVariableChange => "SystemVariableChange"
  | .colourChange => "ColourChange"
  | .profileChange => "ProfileChange"
  | .groupOccupied => "GroupOccupied"
  | .levelChange => "LevelChange"

def EventType.document (type : EventType) : Document :=
  .text type.tag

def EventType.ofDocument? (document : Document) : Option EventType := do
  match ← document.alternative? with
  | (tag, .null) => EventType.all.find? fun type => type.tag == tag
  | _ => none

namespace EventKind

def fields : EventKind → List (String × Document)
  | .buttonPress device input | .buttonHold device input | .occupancy device input =>
    [("device", .ofByte device), ("instance", .ofByte input)]
  | .absoluteInput device input value =>
    [("device", .ofByte device), ("instance", .ofByte input), ("value", .ofWord value)]
  | .sceneChange target scene => [("target", target.document), ("scene", .ofByte scene)]
  | .systemVariableChange number raw magnitude =>
    [("variable", .ofByte number), ("raw", .number raw.toInt), ("magnitude", .number magnitude.toInt)]
  | .colourChange target colour =>
    [("target", target.document), ("colour", .ofOption Colour.document colour)]
  | .profileChange profile => [("profile", .ofWord profile)]
  | .groupOccupied payload => [("payload", .ofList Document.ofByte payload)]
  | .levelChange target level => [("target", target.document), ("level", .ofByte level)]

def document (kind : EventKind) : Document :=
  .record [(kind.type.tag, .record kind.fields)]

end EventKind

def Event.document (event : Event) : Document :=
  .record [("controller", event.controller.document), ("target", .ofWord event.target),
    ("kind", event.kind.document)]

end LightingControl
