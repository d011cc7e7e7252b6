import LightingControl.Document.Basic
import LightingControl.Response
/-!
# Responses as documents
-/

set_option autoImplicit false

namespace LightingControl

def ErrorCode.document : ErrorCode → Document
  | .checksum => .text "Checksum"
  | .shortCircuit => .text "ShortCircuit"
  | .receiveError => .text "ReceiveError"
  | .unknownCommand => .text "UnknownCommand"
  | .paidFeature => .text "PaidFeature"
  | .invalidArgs => .text "InvalidArgs"
  | .refused => .text "Refused"
  | .queueFailure => .text "QueueFailure"
  | .responseUnavailable => .text "ResponseUnavailable"
  | .otherDali => .text "OtherDali"
  | .maxLimit => .text "MaxLimit"
  | .unexpectedResult => .text "UnexpectedResult"
  | .unknownTarget => .text "UnknownTarget"
  | .unknown code => .record [("Unknown", .ofByte code)]

end LightingControl
