import LightingControl.Bytes
/-!
# Hexadecimal text

Two digits a byte, in upper case for dumps of frames and in lower case for hardware addresses.
-/

set_option autoImplicit false

namespace LightingControl.Hex

def upperDigits : List Char :=
  ['0', '1', '2', '3', '4', '5', '6', '7', '8', '9', 'A', 'B', 'C', 'D', 'E', 'F']

def lowerDigits : List Char :=
  ['0', '1', '2', '3', '4', '5', '6', '7', '8', '9', 'a', 'b', 'c', 'd', 'e', 'f']

def pair (digits : List Char) (byte : UInt8) : List Char :=
  [digits.getD (byte.toNat / 16) '0', digits.getD (byte.toNat % 16) '0']

def upper (byte : UInt8) : String :=
  String.ofList (pair upperDigits byte)

def lower (byte : UInt8) : String :=
  String.ofList (pair lowerDigits byte)

/-- Upper-case pairs separated by single spaces, as in `04 A2 0F`. -/
def dump (bytes : Bytes) : String :=
  String.intercalate " " (bytes.map upper)

def packed (bytes : Bytes) : String :=
  String.join (bytes.map upper)

end LightingControl.Hex
