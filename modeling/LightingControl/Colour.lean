import LightingControl.Field
/-!
# Colours

A colour travels as a type byte and its channels:

    10 X[2] Y[2]          a point of the XY diagram
    20 KELVIN[2]          tunable white
    80 R G B W A F        six channels

Controllers pad the colours they answer to seven bytes, so a colour is read from exactly its own
length or from seven bytes.
-/

set_option autoImplicit false

namespace LightingControl

inductive Colour where
  | xy (x y : UInt16)
  | white (kelvin : UInt16)
  | channels (r g b w a f : UInt8)
  deriving DecidableEq, Repr

def kelvinRange : Range := ⟨1000, 20000⟩

def colourRecordLength : Nat := 7

namespace Colour

def xyType : UInt8 := 0x10

def whiteType : UInt8 := 0x20

def channelsType : UInt8 := 0x80

def ofKelvin (kelvin : UInt16) : Except WireError Colour := do
  kelvinRange.check "kelvin" kelvin.toNat
  return .white kelvin

def ofRgb (r g b : UInt8) : Colour :=
  .channels r g b 0 0 0

def typeByte : Colour → UInt8
  | .xy .. => xyType
  | .white .. => whiteType
  | .channels .. => channelsType

def validate : Colour → Except WireError Unit
  | .white kelvin => kelvinRange.check "kelvin" kelvin.toNat
  | _ => .ok ()

def encode : Colour → Bytes
  | .xy x y => xyType :: wordBytes x ++ wordBytes y
  | .white kelvin => whiteType :: wordBytes kelvin
  | .channels r g b w a f => [channelsType, r, g, b, w, a, f]

/-- The length of a colour with the given type byte, type byte included. -/
def encodedLength? (code : UInt8) : Option Nat :=
  if code = xyType then some 5
  else if code = whiteType then some 3
  else if code = channelsType then some 7
  else none

/-- The colour whose type byte and channels are at the front of the data. -/
def ofChannels? (code : UInt8) (channels : Bytes) : Option Colour :=
  if code = xyType then
    match channels with
    | xHigh :: xLow :: yHigh :: yLow :: _ => some (.xy (wordOf xHigh xLow) (wordOf yHigh yLow))
    | _ => none
  else if code = whiteType then
    match channels with
    | high :: low :: _ => some (.white (wordOf high low))
    | _ => none
  else
    match channels with
    | r :: g :: b :: w :: a :: f :: _ => some (.channels r g b w a f)
    | _ => none

/-- The colour in data of exactly its length or of the padded length. -/
def decode (data : Bytes) : Except WireError Colour := do
  let code ← Field.uint8 data 0
  match encodedLength? code with
  | none => .error (.unknownColourType code)
  | some exact =>
    if data.length = exact ∨ data.length = colourRecordLength then
      match ofChannels? code (data.drop 1) with
      | some colour => .ok colour
      | none => .error (.unexpectedLength "Colour" exact data.length data)
    else
      .error (.unexpectedLength "Colour" exact data.length data)

def debugText : Colour → String
  | .xy x y => s!"Xy \x7b x: {x}, y: {y} \x7d"
  | .white kelvin => s!"Tc \x7b kelvin: {kelvin} \x7d"
  | .channels r g b w a f =>
    s!"Rgbwaf \x7b r: {r}, g: {g}, b: {b}, w: {w}, a: {a}, f: {f} \x7d"

end Colour

end LightingControl
