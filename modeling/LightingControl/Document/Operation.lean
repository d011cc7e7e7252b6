import LightingControl.Command.Operation
import LightingControl.Document.Event
/-!
# Operations as documents

A document names an operation and gives its arguments as further fields.  The arguments are read but
not checked; `Operation.command` does that.
-/

set_option autoImplicit false

namespace LightingControl

/-- The name of an operation as one word: in lower case, joined by underscores. -/
def operationKey (name : String) : String :=
  name.map fun char => if char == ' ' || char == '-' then '_' else char.toLower

def Ipv4Endpoint.ofDocument? (document : Document) : Option Ipv4Endpoint := do
  Ipv4Endpoint.ofText? (← document.text?)

namespace Operation

/-- The operation that has one argument or none, where `key` names such an operation. -/
def ofKey? (key : String) (document : Document) : Option Operation :=
  match ControllerOperation.all.find? (fun operation => operationKey operation.name == key),
    AddressOperation.all.find? (fun operation => operationKey operation.name == key),
    InputOperation.all.find? (fun operation => operationKey operation.name == key) with
  | some operation, _, _ => some (.controller operation)
  | _, some operation, _ =>
    (Address.ofDocument? (document.field "target")).map (.address operation)
  | _, _, some operation =>
    (Input.ofDocument? (document.field "instance")).map (.input operation)
  | none, none, none => none

def ofDocument? (document : Document) : Option Operation := do
  let key ← (document.field "name").text?
  let target := Address.ofDocument? (document.field "target")
  let source := Input.ofDocument? (document.field "instance")
  let number := Document.optional? Document.byte? (document.field "instance")
  let mask := (document.field "mask").word?.map EventMask.mk
  let index := (document.field "variable").byte?
  let startAt := (document.field "start_at").byte?
  let scene := (document.field "scene").byte?
  let profile := (document.field "profile").word?
  let level := (document.field "level").byte?
  let seconds := (document.field "seconds").word?
  match key with
  | "set_system_variable" =>
    return .setSystemVariable (← index) (← (document.field "value").signedWord?)
  | "query_system_variable" => return .querySystemVariable (← index)
  | "query_system_variable_name" => return .querySystemVariableName (← index)
  | "enable_event_emit" =>
    return .enableEventEmit (← EventMode.ofDocument? (document.field "mode"))
  | "add_event_filter" => return .addEventFilter (← target) (← number) (← mask)
  | "clear_event_filter" => return .clearEventFilter (← target) (← number) (← mask)
  | "query_event_filters" => return .queryEventFilters (← target) (← number) (← startAt)
  | "set_unicast_target" =>
    return .setUnicastTarget
      (← Document.optional? Ipv4Endpoint.ofDocument? (document.field "addr"))
  | "query_scene_label_for_group" => return .querySceneLabelForGroup (← target) (← scene)
  | "query_profile_label" => return .queryProfileLabel (← profile)
  | "change_profile" => return .changeProfile (← profile)
  | "return_to_scheduled_profile" => return .returnToScheduledProfile
  | "query_addresses_with_instances" => return .queryAddressesWithInstances (← startAt)
  | "override_button_led" =>
    return .overrideButtonLed (← source) (← (document.field "on").boolean?)
  | "set_colour" =>
    return .setColour (← target) (← Colour.ofDocument? (document.field "colour"))
      (← Document.optional? Document.byte? (document.field "level"))
  | "inhibit" => return .inhibit (← target) (← seconds)
  | "arc_level" => return .arcLevel (← target) (← level)
  | "custom_fade" => return .customFade (← target) (← level) (← seconds)
  | "recall_scene" => return .recallScene (← target) (← scene)
  | _ => ofKey? key document

end Operation

end LightingControl
