import LightingControl.WireError
/-!
# Address numbers within their ranges

The ranges of address numbers, and the checks that refuse a number outside its range.
-/

set_option autoImplicit false

namespace LightingControl

def maxGear : Nat := 63

def maxDevice : Nat := 63

def maxGroup : Nat := 15

def maxInstance : Nat := 31

def maxScene : Nat := 11

def maxSystemVariable : Nat := 147

namespace Address

def ofGear (number : UInt8) : Except WireError Address := do
  (Range.mk 0 maxGear).check "gear" number.toNat
  return .gear number

def ofDevice (number : UInt8) : Except WireError Address := do
  (Range.mk 0 maxDevice).check "device" number.toNat
  return .device number

def ofGroup (number : UInt8) : Except WireError Address := do
  (Range.mk 0 maxGroup).check "group" number.toNat
  return .group number

def ofSystemVariable (number : UInt8) : Except WireError Address := do
  (Range.mk 0 maxSystemVariable).check "system variable" number.toNat
  return .systemVariable number

def validate : Address → Except WireError Address
  | .gear number => ofGear number
  | .device number => ofDevice number
  | .group number => ofGroup number
  | .systemVariable number => ofSystemVariable number
  | address => .ok address

end Address

namespace Input

def validate (input : Input) : Except WireError Input := do
  let _ ← Address.ofDevice input.device
  (Range.mk 0 maxInstance).check "instance" input.number.toNat
  return input

def ofNumbers (device number : UInt8) : Except WireError Input :=
  (Input.mk device number).validate

end Input

end LightingControl
