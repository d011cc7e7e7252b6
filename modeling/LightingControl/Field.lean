import LightingControl.WireError
/-!
# Fields of a payload

Reading big-endian words and labels.  Every read checks first that the field lies within the data,
and reports the length the data would need.
-/

set_option autoImplicit false

namespace LightingControl.Field

def slice (name : String) (width : Nat) (data : Bytes) (offset : Nat) : Except WireError Bytes :=
  if data.length < offset + width then
    .error (.payloadTooShort name (offset + width) data.length [])
  else
    .ok ((data.drop offset).take width)

def uint8 (data : Bytes) (offset : Nat) : Except WireError UInt8 :=
  (slice "UINT8" 1 data offset).map fun bytes => UInt8.ofNat bytes.value

def int8 (data : Bytes) (offset : Nat) : Except WireError Int8 :=
  (slice "INT8" 1 data offset).map fun bytes => (UInt8.ofNat bytes.value).toInt8

def uint16 (data : Bytes) (offset : Nat) : Except WireError UInt16 :=
  (slice "UINT16" 2 data offset).map fun bytes => UInt16.ofNat bytes.value

theorem uint16_eq_ok (data : Bytes) (offset : Nat) (inside : offset + 2 ≤ data.length) :
    uint16 data offset = .ok (wordOf data[offset] data[offset + 1]) := by
  have whole : ¬ data.length < offset + 2 := by omega
  have bytes : (data.drop offset).take 2 = [data[offset], data[offset + 1]] := by
    rw [List.drop_eq_getElem_cons (by omega), List.drop_eq_getElem_cons (by omega)]
    rfl
  simp [uint16, slice, whole, bytes, Except.map, Bytes.value, wordOf]

def int16 (data : Bytes) (offset : Nat) : Except WireError Int16 :=
  (slice "INT16" 2 data offset).map fun bytes => (UInt16.ofNat bytes.value).toInt16

def uint32 (data : Bytes) (offset : Nat) : Except WireError UInt32 :=
  (slice "UINT32" 4 data offset).map fun bytes => UInt32.ofNat bytes.value

def int32 (data : Bytes) (offset : Nat) : Except WireError Int32 :=
  (slice "INT32" 4 data offset).map fun bytes => (UInt32.ofNat bytes.value).toInt32

/-- A label: the bytes without the NULs that pad them at the end, read as UTF-8. -/
def label (data : Bytes) : Except WireError String :=
  match Utf8.decode data.trimNuls with
  | .ok text => .ok text
  | .error fault => .error (.invalidLabel fault)

def expectLength (name : String) (expected : Nat) (data : Bytes) : Except WireError Unit :=
  if data.length = expected then .ok ()
  else .error (.unexpectedLength name expected data.length data)

end LightingControl.Field
