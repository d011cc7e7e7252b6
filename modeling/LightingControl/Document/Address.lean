import LightingControl.Address.Basic
import LightingControl.Document.Settings
/-!
# Addresses and identities as documents

The numbers of an address are not checked when it is read.
-/

set_option autoImplicit false

namespace LightingControl

def Address.document : Address → Document
  | .controller => .text "Controller"
  | .broadcast => .text "Broadcast"
  | .gear number => .record [("Gear", .ofByte number)]
  | .device number => .record [("Device", .ofByte number)]
  | .group number => .record [("Group", .ofByte number)]
  | .systemVariable number => .record [("SystemVariable", .ofByte number)]
  | .profile number => .record [("Profile", .ofWord number)]

def Address.ofDocument? (document : Document) : Option Address :=
  match document.alternative? with
  | some ("Controller", .null) => some .controller
  | some ("Broadcast", .null) => some .broadcast
  | some ("Gear", number) => number.byte?.map .gear
  | some ("Device", number) => number.byte?.map .device
  | some ("Group", number) => number.byte?.map .group
  | some ("SystemVariable", number) => number.byte?.map .systemVariable
  | some ("Profile", number) => number.word?.map .profile
  | _ => none

def Input.ofDocument? (document : Document) : Option Input := do
  match ← (← document.fields? ["device", "number"]).mapM Document.byte? with
  | [device, number] => some ⟨device, number⟩
  | _ => none

def MacAddress.document (mac : MacAddress) : Document :=
  .ofList Document.ofByte mac.bytes

def MacAddress.ofDocument? (document : Document) : Option MacAddress := do
  match ← (← document.list?).mapM Document.byte? with
  | [a, b, c, d, e, f] => some ⟨a, b, c, d, e, f⟩
  | _ => none

def ControllerIdentity.document (identity : ControllerIdentity) : Document :=
  .record [("addr", identity.endpoint.document), ("mac", .ofOption MacAddress.document identity.mac)]

def ControllerIdentity.ofDocument? (document : Document) : Option ControllerIdentity := do
  let endpoint ← Endpoint.ofDocument? (document.field "addr")
  let mac ← Document.optional? MacAddress.ofDocument? (document.field "mac")
  return ⟨endpoint, mac⟩

end LightingControl
