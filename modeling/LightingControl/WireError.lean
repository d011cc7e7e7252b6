import LightingControl.Address.Basic
import LightingControl.Text.Utf8
/-!
# Why bytes or arguments are refused

`WireError` has one constructor for each cause.  The wording is in `WireError.message` alone; the
three tests at the end sort causes into the classes callers act on.
-/

set_option autoImplicit false

namespace LightingControl

inductive WireError where
  | frameTooShort (length minimum : Nat)
  | unknownHeader (found : UInt8)
  | missingMagic (first second : UInt8)
  | checksumMismatch (carried computed : UInt8)
  | lengthMismatch (declared actual : Nat)
  | unknownResponseType (code : UInt8)
  | unknownEvent (code : UInt8) (target : UInt16)
  | invalidTarget (event : String) (target : UInt16)
  /-- A payload ends before a field of it; `raw` is the payload where it was at hand. -/
  | payloadTooShort (field : String) (need got : Nat) (raw : Bytes)
  | unexpectedLength (field : String) (expected got : Nat) (raw : Bytes)
  | unknownColourType (code : UInt8)
  | outOfRange (field : String) (value least greatest : Nat)
  | unsupportedAddress (command : String) (address : Address)
  | invalidLabel (fault : Utf8.Fault)
  deriving DecidableEq, Repr

def quotedBytes : Nat := 16

/-- A payload quoted at the end of a message; an empty one is left out. -/
def quoteRaw (raw : Bytes) : String :=
  if raw.isEmpty then ""
  else " | " ++ Hex.packed (raw.take quotedBytes) ++ (if quotedBytes < raw.length then "..." else "")

namespace WireError

def message : WireError → String
  | .frameTooShort length minimum => s!"frame too short ({length} bytes, minimum {minimum})"
  | .unknownHeader found => "unrecognised frame header 0x" ++ Hex.upper found
  | .missingMagic first second =>
    "missing event magic (expected 5A 43, got " ++ Hex.upper first ++ " " ++ Hex.upper second ++ ")"
  | .checksumMismatch carried computed =>
    "checksum mismatch (frame carries 0x" ++ Hex.upper carried ++ ", computed 0x" ++
      Hex.upper computed ++ ")"
  | .lengthMismatch declared actual =>
    s!"length mismatch (header declares {declared} data bytes, frame carries {actual})"
  | .unknownResponseType code => "unknown response type 0x" ++ Hex.upper code
  | .unknownEvent code target => "unknown event code 0x" ++ Hex.upper code ++ s!" (target {target})"
  | .invalidTarget event target => s!"event target {target} is not valid for {event}"
  | .payloadTooShort field need got raw =>
    s!"payload too short for {field}: need {need} bytes, got {got}" ++ quoteRaw raw
  | .unexpectedLength field expected got raw =>
    s!"unexpected payload length for {field}: expected {expected}, got {got}" ++ quoteRaw raw
  | .unknownColourType code => "unknown colour type 0x" ++ Hex.upper code
  | .outOfRange field value least greatest =>
    s!"{field} out of range: {value} (allowed {least}..={greatest})"
  | .unsupportedAddress command address => command ++ " cannot target " ++ address.text
  | .invalidLabel fault => "invalid label payload: " ++ fault.message

/-- The same cause with the payload attached, for the two that can quote one. -/
def withRaw (payload : Bytes) : WireError → WireError
  | .payloadTooShort field need got _ => .payloadTooShort field need got payload
  | .unexpectedLength field expected got _ => .unexpectedLength field expected got payload
  | error => error

def isChecksum : WireError → Bool
  | .checksumMismatch .. => true
  | _ => false

def isUnknownEvent : WireError → Bool
  | .unknownEvent .. => true
  | _ => false

def isMalformed : WireError → Bool
  | .frameTooShort .. | .unknownHeader .. | .missingMagic .. | .lengthMismatch ..
  | .unknownResponseType .. => true
  | _ => false

end WireError

theorem map_eq_ok_iff {α β : Type} (f : α → β) (result : Except WireError α) (value : β) :
    result.map f = .ok value ↔ ∃ found, result = .ok found ∧ f found = value := by
  cases result <;> simp [Except.map]

structure Range where
  least : Nat
  greatest : Nat
  deriving DecidableEq, Repr

def Range.check (range : Range) (field : String) (value : Nat) : Except WireError Unit :=
  if range.least ≤ value ∧ value ≤ range.greatest then .ok ()
  else .error (.outOfRange field value range.least range.greatest)

end LightingControl
