import LightingControl.Net.Parser
/-!
# Structured documents

The values that an application keeps in its files and passes to other programs, in whatever format it
chooses: numbers, texts, lists and records.  Readers give no value for a document of another shape or
a number out of range.  A record may have more fields than its reader asks for, and a field that is
left out reads as null.
-/

set_option autoImplicit false

namespace LightingControl

inductive Document where
  | null
  | boolean (value : Bool)
  | number (value : Int)
  /-- A number written with a fraction; nothing here is read from one. -/
  | decimal (mantissa : Int) (places : Nat)
  | text (value : String)
  | list (items : List Document)
  | record (fields : List (String × Document))
  deriving Inhabited

namespace Document

def ofNat (value : Nat) : Document :=
  .number value

def ofByte (value : UInt8) : Document :=
  .ofNat value.toNat

def ofWord (value : UInt16) : Document :=
  .ofNat value.toNat

def ofList {α : Type} (write : α → Document) (values : List α) : Document :=
  .list (values.map write)

def ofOption {α : Type} (write : α → Document) : Option α → Document
  | some value => write value
  | none => .null

def ofHex (bytes : Bytes) : Document :=
  .text (String.join (bytes.map Hex.lower))

/-- An integer from `least` to below `bound`. -/
def integer? (least bound : Int) : Document → Option Int
  | .number value => if least ≤ value ∧ value < bound then some value else none
  | _ => none

def natural? (bound : Nat) (document : Document) : Option Nat :=
  (document.integer? 0 bound).map Int.toNat

def byte? (document : Document) : Option UInt8 :=
  (document.natural? 256).map UInt8.ofNat

def word? (document : Document) : Option UInt16 :=
  (document.natural? 65536).map UInt16.ofNat

def doubleWord? (document : Document) : Option UInt32 :=
  (document.natural? UInt32.size).map UInt32.ofNat

def signedWord? (document : Document) : Option Int16 :=
  (document.integer? (-32768) 32768).map Int16.ofInt

def boolean? : Document → Option Bool
  | .boolean value => some value
  | _ => none

def text? : Document → Option String
  | .text value => some value
  | _ => none

def list? : Document → Option (List Document)
  | .list items => some items
  | _ => none

def optional? {α : Type} (reader : Document → Option α) : Document → Option (Option α)
  | .null => some none
  | document => (reader document).map some

def hexPairs? : List Char → Option Bytes
  | [] => some []
  | high :: low :: rest => do
    let high ← Net.digitValue 16 high
    let low ← Net.digitValue 16 low
    let rest ← hexPairs? rest
    return UInt8.ofNat (16 * high + low) :: rest
  | [_] => none

def hex? (document : Document) : Option Bytes := do
  hexPairs? (← document.text?).toList

def field (document : Document) (name : String) : Document :=
  match document with
  | .record fields => (fields.lookup name).getD .null
  | _ => .null

/-- The named fields of a record in order. -/
def record? (names : List String) : Document → Option (List Document)
  | .record members => some (names.map (Document.record members).field)
  | _ => none

/-- The named fields of a record in order, or the items of a list that has exactly as many. -/
def fields? (names : List String) : Document → Option (List Document)
  | .list items => if items.length = names.length then some items else none
  | document => document.record? names

/-- The alternative that a document names and what it says of it: a text alone names one that has no
contents, a record of a single field one that has. -/
def alternative? : Document → Option (String × Document)
  | .text name => some (name, .null)
  | .record [field] => some field
  | _ => none

end Document

end LightingControl
