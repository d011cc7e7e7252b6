import LightingControl.Frame
/-!
# Responses

What a response says beyond its bytes: the answer, and the code of an error.
-/

set_option autoImplicit false

namespace LightingControl

inductive ErrorCode where
  | checksum
  | shortCircuit
  | receiveError
  | unknownCommand
  | paidFeature
  | invalidArgs
  | refused
  | queueFailure
  | responseUnavailable
  | otherDali
  | maxLimit
  | unexpectedResult
  | unknownTarget
  | unknown (code : UInt8)
  deriving DecidableEq, Repr

namespace ErrorCode

def ofByte (code : UInt8) : ErrorCode :=
  match code with
  | 0x01 => .checksum
  | 0x02 => .shortCircuit
  | 0x03 => .receiveError
  | 0x04 => .unknownCommand
  | 0xB0 => .paidFeature
  | 0xB1 => .invalidArgs
  | 0xB2 => .refused
  | 0xB3 => .queueFailure
  | 0xB4 => .responseUnavailable
  | 0xB5 => .otherDali
  | 0xB6 => .maxLimit
  | 0xB7 => .unexpectedResult
  | 0xB8 => .unknownTarget
  | _ => .unknown code

def text : ErrorCode → String
  | .checksum => "checksum error"
  | .shortCircuit => "DALI bus short circuit"
  | .receiveError => "receive error"
  | .unknownCommand => "unknown command"
  | .paidFeature => "feature not licensed"
  | .invalidArgs => "invalid arguments"
  | .refused => "command refused"
  | .queueFailure => "queue failure"
  | .responseUnavailable => "response unavailable"
  | .otherDali => "other DALI error"
  | .maxLimit => "limit reached"
  | .unexpectedResult => "unexpected result"
  | .unknownTarget => "unknown target"
  | .unknown code => "error code 0x" ++ Hex.upper code

end ErrorCode

namespace Response

def isOk (response : Response) : Bool :=
  response.kind == .ok

def answer? (response : Response) : Option Bytes :=
  if response.kind = .answer then some response.data else none

/-- The code of an error; an error without data counts as code 0. -/
def errorCode? (response : Response) : Option ErrorCode :=
  if response.kind = .error then some (.ofByte (response.data.headD 0)) else none

def debugText (response : Response) : String :=
  response.kind.name ++ s!"[seq {response.seq}" ++
    (if response.data.isEmpty then "" else " | " ++ Hex.dump response.data) ++ "]"

end Response

end LightingControl
