import LightingControl.Abort
import LightingControl.WireError
/-!
# Frames

Three kinds of frame share the wire and are told apart by their first byte:

    request       04 SEQ CMD BODY... SUM
    response      KIND SEQ LEN DATA[LEN] SUM            (KIND = A0 to A3)
    notification  5A 43 MAC[6] TARGET[2] CODE LEN PAYLOAD[LEN] SUM

`SUM` is the exclusive or of every byte before it.  `Frame.parse` verifies it over the whole datagram
before it looks at any field, and `Frame.encode` writes the frame that `Frame.parse` reads back.
-/

set_option autoImplicit false

namespace LightingControl

def requestHeader : UInt8 := 0x04

def notificationHeader : UInt8 := 0x5A

def notificationMagic : UInt8 := 0x43

def maxDataLength : Nat := 255

/-- Header and checksum of a request or a response. -/
def shortFrameMinimum : Nat := 4

def notificationMinimum : Nat := 13

inductive ResponseKind where
  | ok
  | answer
  /-- The target did not answer, or the value is unset. -/
  | noAnswer
  | error
  deriving DecidableEq, Repr

namespace ResponseKind

def byte : ResponseKind → UInt8
  | .ok => 0xA0
  | .answer => 0xA1
  | .noAnswer => 0xA2
  | .error => 0xA3

def ofByte? (byte : UInt8) : Option ResponseKind :=
  match byte with
  | 0xA0 => some .ok
  | 0xA1 => some .answer
  | 0xA2 => some .noAnswer
  | 0xA3 => some .error
  | _ => none

theorem ofByte?_eq_some_iff (byte : UInt8) (kind : ResponseKind) :
    ofByte? byte = some kind ↔ byte = kind.byte := by
  constructor
  · intro found
    unfold ofByte? at found
    split at found <;> cases found <;> rfl
  · rintro rfl
    cases kind <;> rfl

def ofByte (byte : UInt8) : Except WireError ResponseKind :=
  match ofByte? byte with
  | some kind => .ok kind
  | none => .error (.unknownResponseType byte)

def name : ResponseKind → String
  | .ok => "Ok"
  | .answer => "Answer"
  | .noAnswer => "NoAnswer"
  | .error => "Error"

end ResponseKind

structure Request where
  seq : UInt8
  command : UInt8
  body : Bytes
  deriving DecidableEq, Repr

structure Response where
  kind : ResponseKind
  seq : UInt8
  data : Bytes
  deriving DecidableEq, Repr

/-- What a controller reports unasked.  The target is 16 bits wide, one byte wider than the address
byte of a request. -/
structure Notification where
  mac : MacAddress
  target : UInt16
  code : UInt8
  payload : Bytes
  deriving DecidableEq, Repr

def withChecksum (content : Bytes) : Bytes :=
  content ++ [content.checksum]

namespace Request

def content (request : Request) : Bytes :=
  requestHeader :: request.seq :: request.command :: request.body

def encode (request : Request) : Bytes :=
  withChecksum request.content

def debugText (request : Request) : String :=
  s!"Request[seq {request.seq} cmd 0x" ++ Hex.upper request.command ++ " | " ++
    Hex.dump request.body ++ "]"

end Request

namespace Response

/-- The bytes of a response before its checksum; the length byte counts the data modulo 256. -/
def content (response : Response) : Bytes :=
  response.kind.byte :: response.seq :: UInt8.ofNat response.data.length :: response.data

def encode (response : Response) : Except Abort Bytes :=
  if response.data.length ≤ maxDataLength then .ok (withChecksum response.content)
  else .error .responseTooLong

def frameText (response : Response) : String :=
  "Response[" ++ response.kind.name ++ s!" seq {response.seq} | " ++ Hex.dump response.data ++ "]"

end Response

namespace Notification

def content (notification : Notification) : Bytes :=
  notificationHeader :: notificationMagic :: (notification.mac.bytes ++
    wordBytes notification.target ++
    notification.code :: UInt8.ofNat notification.payload.length :: notification.payload)

def encode (notification : Notification) : Except Abort Bytes :=
  if notification.payload.length ≤ maxDataLength then .ok (withChecksum notification.content)
  else .error .eventTooLong

def debugText (notification : Notification) : String :=
  "Event[" ++ notification.mac.text ++ s!" target {notification.target} code 0x" ++
    Hex.upper notification.code ++ " | " ++ Hex.dump notification.payload ++ "]"

end Notification

inductive Frame where
  | request (request : Request)
  | response (response : Response)
  | notification (notification : Notification)
  deriving DecidableEq, Repr

namespace Frame

def parseResponse (kind : ResponseKind) (seq declared : UInt8) (data : Bytes) :
    Except WireError Response :=
  if declared.toNat = data.length then .ok ⟨kind, seq, data⟩
  else .error (.lengthMismatch declared.toNat data.length)

def parseNotification : Bytes → Except WireError Notification
  | header :: magic :: a :: b :: c :: d :: e :: f :: upper :: lower :: code :: declared :: payload =>
    if header ≠ notificationHeader ∨ magic ≠ notificationMagic then
      .error (.missingMagic header magic)
    else if declared.toNat = payload.length then
      .ok ⟨⟨a, b, c, d, e, f⟩, wordOf upper lower, code, payload⟩
    else
      .error (.lengthMismatch declared.toNat payload.length)
  | content => .error (.frameTooShort (content.length + 1) notificationMinimum)

def parseContent (content : Bytes) : Except WireError Frame :=
  match content with
  | header :: second :: third :: rest =>
    if header = requestHeader then .ok (.request ⟨second, third, rest⟩)
    else
      match ResponseKind.ofByte? header with
      | some kind => (parseResponse kind second third rest).map .response
      | none =>
        if header = notificationHeader then (parseNotification content).map .notification
        else .error (.unknownHeader header)
  | _ => .error (.frameTooShort (content.length + 1) shortFrameMinimum)

/-- The frame in one datagram.  A wrong checksum refuses the datagram whichever byte is damaged. -/
def parse (wire : Bytes) : Except WireError Frame :=
  if wire.length < shortFrameMinimum then
    .error (.frameTooShort wire.length shortFrameMinimum)
  else
    let content := wire.dropLast
    let carried := wire.getLastD 0
    let computed := Bytes.checksum content
    if computed = carried then parseContent content
    else .error (.checksumMismatch carried computed)

def encode : Frame → Except Abort Bytes
  | .request r => .ok r.encode
  | .response r => r.encode
  | .notification n => n.encode

def seq? : Frame → Option UInt8
  | .request r => some r.seq
  | .response r => some r.seq
  | .notification _ => none

def debugText : Frame → String
  | .request r => "Request(" ++ r.debugText ++ ")"
  | .response r => "Response(" ++ r.frameText ++ ")"
  | .notification n => "Event(" ++ n.debugText ++ ")"

end Frame

end LightingControl
