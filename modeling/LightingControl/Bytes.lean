/-!
# Byte strings and big-endian words

A datagram is a list of bytes, first byte first.  This module holds the frame checksum, the
base-256 value of a byte string, and the two ways between 16-bit and 32-bit words and their
big-endian bytes.
-/

set_option autoImplicit false

namespace LightingControl

abbrev Bytes := List UInt8

namespace Bytes

def checksum (bytes : Bytes) : UInt8 :=
  bytes.foldl (fun sum byte => sum ^^^ byte) 0

theorem checksum_append (front back : Bytes) :
    (front ++ back).checksum = front.checksum ^^^ back.checksum := by
  have split : back.foldl (fun sum byte => sum ^^^ byte) (front.checksum ^^^ 0) =
      front.checksum ^^^ back.checksum := List.foldl_assoc
  simpa [checksum] using split

@[simp] theorem checksum_singleton (byte : UInt8) : Bytes.checksum [byte] = byte := by
  simp [checksum]

/-- The number whose base-256 digits are the bytes, most significant first. -/
def value (bytes : Bytes) : Nat :=
  bytes.foldl (fun total byte => 256 * total + byte.toNat) 0

/-- The bytes without the NULs at their end; NULs before another byte stay. -/
def trimNuls (bytes : Bytes) : Bytes :=
  (bytes.reverse.dropWhile (fun byte => byte == 0)).reverse

/-- Consecutive records of `size` bytes each; a shorter rest at the end is left out. -/
def records (size : Nat) (bytes : Bytes) : List Bytes :=
  if _h : 0 < size ∧ size ≤ bytes.length then
    bytes.take size :: records size (bytes.drop size)
  else
    []
termination_by bytes.length
decreasing_by
  rw [List.length_drop]
  omega

/-- The bytes followed by zeros up to `size`; a longer string is left alone. -/
def padTo (size : Nat) (bytes : Bytes) : Bytes :=
  bytes ++ List.replicate (size - bytes.length) 0

end Bytes

def upperByte (word : UInt16) : UInt8 :=
  UInt8.ofNat (word.toNat / 256)

def lowerByte (word : UInt16) : UInt8 :=
  UInt8.ofNat (word.toNat % 256)

def wordOf (upper lower : UInt8) : UInt16 :=
  UInt16.ofNat (256 * upper.toNat + lower.toNat)

def wordBytes (word : UInt16) : Bytes :=
  [upperByte word, lowerByte word]

@[simp] theorem wordOf_upperByte_lowerByte (word : UInt16) :
    wordOf (upperByte word) (lowerByte word) = word := by
  have bound := word.toNat_lt
  apply UInt16.toNat_inj.1
  simp [wordOf, upperByte, lowerByte]
  omega

@[simp] theorem upperByte_wordOf (upper lower : UInt8) :
    upperByte (wordOf upper lower) = upper := by
  have high := upper.toNat_lt
  have low := lower.toNat_lt
  apply UInt8.toNat_inj.1
  simp [wordOf, upperByte]
  omega

@[simp] theorem lowerByte_wordOf (upper lower : UInt8) :
    lowerByte (wordOf upper lower) = lower := by
  apply UInt8.toNat_inj.1
  simp [wordOf, lowerByte]

/-- The number of a byte, where 255 stands for none. -/
def unlessUnset (byte : UInt8) : Option UInt8 :=
  if byte = 0xFF then none else some byte

end LightingControl
