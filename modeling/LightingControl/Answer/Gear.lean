import LightingControl.Answer.Basic
/-!
# Answers about control gear, scenes and groups
-/

set_option autoImplicit false

namespace LightingControl

structure GearStatus where
  bits : UInt8
  deriving DecidableEq, Repr

namespace GearStatus

def gearFailure (status : GearStatus) : Bool := status.bits &&& 0x01 != 0

def lampFailure (status : GearStatus) : Bool := status.bits &&& 0x02 != 0

def lampPowerOn (status : GearStatus) : Bool := status.bits &&& 0x04 != 0

def limitError (status : GearStatus) : Bool := status.bits &&& 0x08 != 0

def fadeRunning (status : GearStatus) : Bool := status.bits &&& 0x10 != 0

def reset (status : GearStatus) : Bool := status.bits &&& 0x20 != 0

def missingShortAddress (status : GearStatus) : Bool := status.bits &&& 0x40 != 0

def powerFailure (status : GearStatus) : Bool := status.bits &&& 0x80 != 0

end GearStatus

instance : Answer GearStatus where
  decode data := (Field.uint8 data 0).map GearStatus.mk

structure ColourFeatures where
  xy : Bool
  tunable : Bool
  primaries : UInt8
  rgbwafChannels : UInt8
  deriving DecidableEq, Repr

/-- Bit 0 XY, bit 1 tunable white, bits 2 to 4 and 5 to 7 two counts. -/
def ColourFeatures.ofByte (byte : UInt8) : ColourFeatures where
  xy := byte &&& 0x01 != 0
  tunable := byte &&& 0x02 != 0
  primaries := (byte &&& 0x1C) >>> 2
  rgbwafChannels := (byte &&& 0xE0) >>> 5

instance : Answer ColourFeatures where
  decode data := (Field.uint8 data 0).map ColourFeatures.ofByte

structure ColourTempLimits where
  physicalWarmest : UInt16
  physicalCoolest : UInt16
  softWarmest : UInt16
  softCoolest : UInt16
  step : UInt16
  deriving DecidableEq, Repr

instance : Answer ColourTempLimits where
  decode data := do
    Field.expectLength "ColourTempLimits" 10 data
    return {
      physicalWarmest := ← Field.uint16 data 0
      physicalCoolest := ← Field.uint16 data 2
      softWarmest := ← Field.uint16 data 4
      softCoolest := ← Field.uint16 data 6
      step := ← Field.uint16 data 8 }

structure SceneLevels where
  levels : List (Option UInt8)
  deriving DecidableEq, Repr

instance : Answer SceneLevels where
  decode data := .ok ⟨data.map unlessUnset⟩

structure SceneColours where
  colours : List (Option Colour)
  deriving DecidableEq, Repr

/-- One padded colour a scene; a shorter rest is left out. -/
instance : Answer SceneColours where
  decode data :=
    .ok ⟨(Bytes.records colourRecordLength data).map fun record => (Colour.decode record).toOption⟩

/-- An arc level; a group whose members differ has none. -/
structure ArcLevel where
  level : Option UInt8
  deriving DecidableEq, Repr

def ArcLevel.isMixed (arc : ArcLevel) : Bool :=
  arc.level.isNone

instance : Answer ArcLevel where
  decode data := do
    Field.expectLength "ArcLevel" 1 data
    return ⟨unlessUnset (data.headD 0)⟩

structure GroupInfo where
  group : UInt8
  occupied : Bool
  level : UInt8
  deriving DecidableEq, Repr

def GroupInfo.decode (data : Bytes) : Except WireError GroupInfo := do
  Field.expectLength "GroupInfo" 3 data
  return ⟨data.getD 0 0, data.getD 1 0 != 0, data.getD 2 0⟩

instance : Answer GroupInfo where
  decode := GroupInfo.decode

end LightingControl
