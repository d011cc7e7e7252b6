import LightingControl.Answer.Basic
/-!
# Answers about a controller

Firmware version and profiles.
-/

set_option autoImplicit false

namespace LightingControl

structure Version where
  major : UInt8
  minor : UInt8
  patch : UInt8
  deriving DecidableEq, Repr

namespace Version

def compare (version other : Version) : Ordering :=
  (Ord.compare version.major other.major).then
    ((Ord.compare version.minor other.minor).then (Ord.compare version.patch other.patch))

def text (version : Version) : String :=
  s!"{version.major}.{version.minor}.{version.patch}"

def decode (data : Bytes) : Except WireError Version := do
  Field.expectLength "Version" 3 data
  return ⟨data.getD 0 0, data.getD 1 0, data.getD 2 0⟩

end Version

instance : Answer Version where
  decode := Version.decode

inductive ProfilePriority where
  | scheduled
  | medium
  | high
  | emergency
  deriving DecidableEq, Repr

namespace ProfilePriority

def ofBits (bits : UInt8) : ProfilePriority :=
  match bits &&& 0x03 with
  | 0 => .scheduled
  | 1 => .medium
  | 2 => .high
  | _ => .emergency

def name : ProfilePriority → String
  | .scheduled => "Scheduled"
  | .medium => "Medium"
  | .high => "High"
  | .emergency => "Emergency"

end ProfilePriority

structure ProfileEntry where
  number : UInt16
  enabled : Bool
  priority : ProfilePriority
  deriving DecidableEq, Repr

def profileEntryLength : Nat := 3

/-- A number and a behaviour byte: bit 0 disables, bits 1 and 2 are the priority. -/
def ProfileEntry.ofRecord? : Bytes → Option ProfileEntry
  | [upper, lower, behaviour] =>
    some ⟨wordOf upper lower, behaviour &&& 0x01 == 0, .ofBits (behaviour >>> 1)⟩
  | _ => none

/-- The state of the profiles; times are in seconds of UTC. -/
structure ProfileInfo where
  current : UInt16
  lastScheduled : UInt16
  lastOverriddenUtc : UInt32
  lastScheduledUtc : UInt32
  profiles : List ProfileEntry
  deriving DecidableEq, Repr

def profileHeaderLength : Nat := 12

/-- Twelve bytes of state and then entries of three bytes; a shorter rest is left out. -/
def ProfileInfo.decode (data : Bytes) : Except WireError ProfileInfo := do
  if data.length < profileHeaderLength then
    .error (.payloadTooShort "ProfileInfo" profileHeaderLength data.length data)
  else
    return {
      current := ← Field.uint16 data 0
      lastScheduled := ← Field.uint16 data 2
      lastOverriddenUtc := ← Field.uint32 data 4
      lastScheduledUtc := ← Field.uint32 data 8
      profiles :=
        (Bytes.records profileEntryLength (data.drop profileHeaderLength)).filterMap
          ProfileEntry.ofRecord? }

instance : Answer ProfileInfo where
  decode := ProfileInfo.decode

structure ProfileNumbers where
  numbers : List UInt16
  deriving DecidableEq, Repr

def profileNumber? : Bytes → Option UInt16
  | [upper, lower] => some (wordOf upper lower)
  | _ => none

/-- Two bytes a number; an odd byte at the end is left out. -/
instance : Answer ProfileNumbers where
  decode data := .ok ⟨(Bytes.records 2 data).filterMap profileNumber?⟩

end LightingControl
