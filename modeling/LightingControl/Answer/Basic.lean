import LightingControl.Colour
import LightingControl.EventSettings
/-!
# Answers

The data of an answer are a short byte string whose layout depends on the query.  `Answer.decode`
reads them as a value of the type that the caller expects; this module has the instances for plain
numbers, labels and the types defined elsewhere.
-/

set_option autoImplicit false

namespace LightingControl

class Answer (α : Type) where
  decode : Bytes → Except WireError α

instance : Answer UInt8 where
  decode data := do
    Field.expectLength "UINT8" 1 data
    return data.headD 0

instance : Answer Bool where
  decode data := do
    Field.expectLength "BOOL" 1 data
    return data.headD 0 != 0

instance : Answer UInt16 where
  decode data := do
    Field.expectLength "UINT16" 2 data
    Field.uint16 data 0

instance : Answer Int16 where
  decode data := do
    Field.expectLength "INT16" 2 data
    Field.int16 data 0

instance : Answer UInt64 where
  decode data :=
    if data.isEmpty || 8 < data.length then
      .error (.unexpectedLength "UINT64" 8 data.length data)
    else
      .ok (data.foldl (fun total byte => total <<< 8 ||| byte.toUInt64) 0)

instance : Answer String where
  decode := Field.label

instance : Answer Bytes where
  decode data := .ok data

instance : Answer Colour where
  decode := Colour.decode

instance : Answer EventMode where
  decode data := (Field.uint8 data 0).map EventMode.ofByte

instance : Answer EventFilterPage where
  decode := EventFilterPage.decode

instance : Answer UnicastTarget where
  decode := UnicastTarget.decode

end LightingControl
