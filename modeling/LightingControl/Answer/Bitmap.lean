import LightingControl.Answer.Basic
/-!
# Answers that are sets of small numbers

Two layouts of a bitmap: byte by byte from the lowest number on, and one big-endian word.
-/

set_option autoImplicit false

namespace LightingControl

def hasBit (byte : UInt8) (index : Nat) : Bool :=
  byte.toNat.testBit index

/-- The positions of the bits of `bytes` that are set, where the first bit has position `start`. -/
def setPositions (start : Nat) : Bytes → List Nat
  | [] => []
  | byte :: rest =>
    ((List.range 8).filter (hasBit byte)).map (fun index => start + index) ++
      setPositions (start + 8) rest

/-- Members of a bitmap whose bit `i` of byte `j` stands for `8 * j + i`. -/
structure AddressBitmap where
  members : List UInt8
  deriving DecidableEq, Repr

/-- The members in ascending order of position, each modulo 256. -/
instance : Answer AddressBitmap where
  decode data := .ok ⟨(setPositions 0 data).map UInt8.ofNat⟩

structure Bitmap16 where
  members : List UInt8
  deriving DecidableEq, Repr

def Bitmap16.decode (data : Bytes) : Except WireError Bitmap16 := do
  Field.expectLength "Bitmap16" 2 data
  let word := wordOf (data.getD 0 0) (data.getD 1 0)
  return ⟨((List.range 16).filter word.toNat.testBit).map UInt8.ofNat⟩

instance : Answer Bitmap16 where
  decode := Bitmap16.decode

end LightingControl
