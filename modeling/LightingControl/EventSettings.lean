import LightingControl.Field
/-!
# Which events a controller sends, and where to

The emission mode, the mask of event categories, the filters that mute categories, and the target of
unicast events.  Each has its layout on the wire in both directions.
-/

set_option autoImplicit false

namespace LightingControl

structure EventMode where
  enabled : Bool
  filtering : Bool
  unicast : Bool
  multicast : Bool
  deriving DecidableEq, Repr

namespace EventMode

def default : EventMode := ⟨true, false, false, true⟩

def disabled : EventMode := ⟨false, false, false, true⟩

/-- The mode byte: bit 0 enabled, bit 1 filtering, bit 6 unicast, bit 7 *no* multicast. -/
def byte (mode : EventMode) : UInt8 :=
  (if mode.enabled then 0x01 else 0) ||| (if mode.filtering then 0x02 else 0) |||
    (if mode.unicast then 0x40 else 0) ||| (if mode.multicast then 0 else 0x80)

def ofByte (byte : UInt8) : EventMode where
  enabled := byte &&& 0x01 != 0
  filtering := byte &&& 0x02 != 0
  unicast := byte &&& 0x40 != 0
  multicast := byte &&& 0x80 == 0

end EventMode

structure EventMask where
  bits : UInt16
  deriving DecidableEq, Repr

namespace EventMask

def empty : EventMask := ⟨0⟩

def all : EventMask := ⟨0x03FF⟩

def union (mask other : EventMask) : EventMask :=
  ⟨mask.bits ||| other.bits⟩

def contains (mask other : EventMask) : Bool :=
  mask.bits &&& other.bits == other.bits

def upper (mask : EventMask) : UInt8 :=
  upperByte mask.bits

def lower (mask : EventMask) : UInt8 :=
  lowerByte mask.bits

def ofBytes (upper lower : UInt8) : EventMask :=
  ⟨wordOf upper lower⟩

end EventMask

def filterPageSize : Nat := 15

def filterEntryLength : Nat := 4

structure EventFilterEntry where
  address : UInt8
  /-- The input that it applies to, 255 for the whole address. -/
  input : UInt8
  mask : EventMask
  deriving DecidableEq, Repr

structure EventFilterPage where
  mode : EventMode
  entries : List EventFilterEntry
  deriving DecidableEq, Repr

namespace EventFilterPage

def entry? : Bytes → Option EventFilterEntry
  | [address, input, upper, lower] => some ⟨address, input, .ofBytes upper lower⟩
  | _ => none

/-- A mode byte and then entries of four bytes each; a shorter rest is left out. -/
def decode (data : Bytes) : Except WireError EventFilterPage := do
  let mode ← Field.uint8 data 0
  return ⟨.ofByte mode, (Bytes.records filterEntryLength (data.drop 1)).filterMap entry?⟩

/-- More entries may follow a full page. -/
def isFull (page : EventFilterPage) : Bool :=
  filterPageSize ≤ page.entries.length

end EventFilterPage

structure UnicastTarget where
  mode : EventMode
  endpoint : Ipv4Endpoint
  deriving DecidableEq, Repr

def Ipv4Endpoint.bytes (endpoint : Ipv4Endpoint) : Bytes :=
  wordBytes endpoint.port ++ endpoint.ip.octets

namespace UnicastTarget

/-- A mode byte, a port and four octets; what follows them says nothing. -/
def decode (data : Bytes) : Except WireError UnicastTarget :=
  match data with
  | mode :: portHigh :: portLow :: a :: b :: c :: d :: _ =>
    .ok ⟨.ofByte mode, ⟨⟨a, b, c, d⟩, wordOf portHigh portLow⟩⟩
  | _ => .error (.payloadTooShort "UnicastTarget" 7 data.length data)

end UnicastTarget

end LightingControl
