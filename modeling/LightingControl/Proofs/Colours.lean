import LightingControl.Colour
import LightingControl.Proofs.Numbers
/-!
# Which data are read as a colour

A colour is read from its own bytes, and from its bytes with any others behind them that make seven.
-/

set_option autoImplicit false

namespace LightingControl

namespace Colour

inductive Sized : UInt8 → Nat → Prop
  | xy : Sized 0x10 5
  | white : Sized 0x20 3
  | channels : Sized 0x80 7

theorem encodedLength?_eq_some_iff {code : UInt8} {exact : Nat} :
    encodedLength? code = some exact ↔ Sized code exact := by
  constructor
  · intro known
    unfold encodedLength? at known
    split at known
    · rename_i xy
      cases known
      exact xy ▸ .xy
    · split at known
      · rename_i white
        cases known
        exact white ▸ .white
      · split at known
        · rename_i channels
          cases known
          exact channels ▸ .channels
        · cases known
  · rintro (_ | _ | _) <;> rfl

theorem Sized.encode_of_ofChannels? {code : UInt8} {channels : Bytes} {colour : Colour}
    {exact : Nat} (sized : Sized code exact) (found : ofChannels? code channels = some colour) :
    ∃ padding, code :: channels = colour.encode ++ padding ∧ colour.encode.length = exact := by
  cases sized with
  | xy =>
    match channels, found with
    | _ :: _ :: _ :: _ :: padding, found =>
      cases found
      refine ⟨padding, ?_, rfl⟩
      simp only [encode, wordBytes, upperByte_wordOf, lowerByte_wordOf, xyType, List.cons_append,
        List.nil_append]
  | white =>
    match channels, found with
    | _ :: _ :: padding, found =>
      cases found
      refine ⟨padding, ?_, rfl⟩
      simp only [encode, wordBytes, upperByte_wordOf, lowerByte_wordOf, whiteType, List.cons_append,
        List.nil_append]
  | channels =>
    match channels, found with
    | _ :: _ :: _ :: _ :: _ :: _ :: padding, found =>
      cases found
      exact ⟨padding, rfl, rfl⟩

theorem Sized.le {code : UInt8} {exact : Nat} (sized : Sized code exact) :
    exact ≤ colourRecordLength := by
  cases sized <;> decide

theorem Sized.exists_colour {code : UInt8} {channels : Bytes} {exact : Nat}
    (sized : Sized code exact) (fits : channels.length + 1 = exact ∨ channels.length + 1 = colourRecordLength) :
    ∃ colour, ofChannels? code channels = some colour := by
  have long : exact ≤ channels.length + 1 := by
    obtain same | padded := fits
    · exact Nat.le_of_eq same.symm
    · exact Nat.le_trans sized.le (Nat.le_of_eq padded.symm)
  cases sized with
  | xy =>
    match channels, long with
    | _ :: _ :: _ :: _ :: _, _ => exact ⟨_, rfl⟩
  | white =>
    match channels, long with
    | _ :: _ :: _, _ => exact ⟨_, rfl⟩
  | channels =>
    match channels, long with
    | _ :: _ :: _ :: _ :: _ :: _ :: _, _ => exact ⟨_, rfl⟩

theorem encodedLength?_typeByte (colour : Colour) :
    encodedLength? colour.typeByte = some colour.encode.length := by
  cases colour <;> rfl

/-- The channels of a colour are read back whatever follows. -/
theorem ofChannels?_append (colour : Colour) (padding : Bytes) :
    ofChannels? colour.typeByte (colour.encode.tail ++ padding) = some colour := by
  cases colour with
  | xy x y =>
    change some (Colour.xy (wordOf (upperByte x) (lowerByte x))
      (wordOf (upperByte y) (lowerByte y))) = _
    rw [wordOf_upperByte_lowerByte, wordOf_upperByte_lowerByte]
  | white kelvin =>
    change some (Colour.white (wordOf (upperByte kelvin) (lowerByte kelvin))) = _
    rw [wordOf_upperByte_lowerByte]
  | channels r g b w a f => rfl

theorem encode_eq (colour : Colour) : colour.encode = colour.typeByte :: colour.encode.tail := by
  cases colour <;> rfl

theorem decode_cons (code : UInt8) (channels : Bytes) :
    decode (code :: channels) =
      let refused exact :=
        .error (.unexpectedLength "Colour" exact (channels.length + 1) (code :: channels))
      match encodedLength? code with
      | none => .error (.unknownColourType code)
      | some exact =>
        if channels.length + 1 = exact ∨ channels.length + 1 = colourRecordLength then
          match ofChannels? code channels with
          | some colour => .ok colour
          | none => refused exact
        else refused exact := by
  rw [decode, Field.uint8_cons]
  rfl

/-- The checks made of a colour: there is a type byte, it is known, and the length fits it. -/
def checks (data : Bytes) : List Check :=
  let code := data.headD 0
  let exact := (encodedLength? code).getD 0
  [Field.reaches "UINT8" 1 data 0, ⟨(encodedLength? code).isSome, .unknownColourType code⟩,
    ⟨data.length = exact ∨ data.length = colourRecordLength,
      .unexpectedLength "Colour" exact data.length data⟩]

theorem passes_decode (data : Bytes) :
    Passes (decode data) (checks data)
      ((ofChannels? (data.headD 0) (data.drop 1)).getD (.white 0)) := by
  cases data with
  | nil => rfl
  | cons code channels =>
    rw [decode_cons]
    cases known : encodedLength? code with
    | none => simp [Passes, checks, passing, Field.reaches, known]
    | some exact =>
      by_cases fits : channels.length + 1 = exact ∨ channels.length + 1 = colourRecordLength
      · obtain ⟨colour, found⟩ := (encodedLength?_eq_some_iff.1 known).exists_colour fits
        simp [Passes, checks, passing, Field.reaches, known, fits, found]
      · simp [Passes, checks, passing, Field.reaches, known, fits]

theorem encode_of_decode {data : Bytes} {colour : Colour} (decoded : decode data = .ok colour) :
    ∃ padding, data = colour.encode ++ padding ∧ (padding = [] ∨ data.length = 7) := by
  cases data with
  | nil => cases decoded
  | cons code channels =>
    rw [decode_cons] at decoded
    split at decoded
    · cases decoded
    · rename_i exact known
      split at decoded
      · rename_i fits
        split at decoded
        · rename_i found read
          cases decoded
          obtain ⟨padding, same, length⟩ :=
            (encodedLength?_eq_some_iff.1 known).encode_of_ofChannels? read
          refine ⟨padding, same, ?_⟩
          obtain exactly | padded := fits
          · have total := congrArg List.length same
            rw [List.length_cons, List.length_append] at total
            exact .inl (List.eq_nil_of_length_eq_zero (by omega))
          · exact .inr padded
        · cases decoded
      · cases decoded

theorem decode_append {colour : Colour} {padding : Bytes}
    (fits : padding = [] ∨ (colour.encode ++ padding).length = 7) :
    decode (colour.encode ++ padding) = .ok colour := by
  have whole : colour.encode ++ padding = colour.typeByte :: (colour.encode.tail ++ padding) := by
    rw [← List.cons_append, ← encode_eq]
  have length := congrArg List.length whole
  have allowed : (colour.encode.tail ++ padding).length + 1 = colour.encode.length ∨
      (colour.encode.tail ++ padding).length + 1 = colourRecordLength := by
    rw [List.length_cons] at length
    rw [← length]
    obtain rfl | padded := fits
    · exact .inl (by rw [List.append_nil])
    · exact .inr padded
  rw [whole, decode_cons]
  simp only [encodedLength?_typeByte, if_pos allowed, ofChannels?_append]

theorem decode_eq_ok_iff {data : Bytes} {colour : Colour} :
    decode data = .ok colour ↔
      ∃ padding, data = colour.encode ++ padding ∧ (padding = [] ∨ data.length = 7) := by
  constructor
  · exact encode_of_decode
  · rintro ⟨padding, rfl, fits⟩
    exact decode_append fits

theorem decode_encode (colour : Colour) : decode colour.encode = .ok colour :=
  decode_eq_ok_iff.2 ⟨[], (List.append_nil _).symm, .inl rfl⟩

theorem decode_padded {colour : Colour} {padding : Bytes}
    (padded : padding.length = 7 - colour.encode.length) :
    decode (colour.encode ++ padding) = .ok colour := by
  have fits : colour.encode.length ≤ 7 :=
    (encodedLength?_eq_some_iff.1 (encodedLength?_typeByte colour)).le
  refine decode_append (.inr ?_)
  rw [List.length_append]
  omega

def IsStrange (code : UInt8) : Prop :=
  code ≠ 0x10 ∧ code ≠ 0x20 ∧ code ≠ 0x80

theorem encodedLength?_eq_none_iff {code : UInt8} :
    encodedLength? code = none ↔ IsStrange code := by
  unfold encodedLength? xyType whiteType channelsType IsStrange
  by_cases xy : code = 0x10
  · simp [xy]
  · by_cases white : code = 0x20
    · simp [white]
    · by_cases channels : code = 0x80 <;> simp [xy, white, channels]

/-- Why data are not read as a colour: they are empty, or of a type that is not known, or have
neither the length of their type nor that of a padded colour. -/
inductive Refused : Bytes → WireError → Prop
  | empty : Refused [] (.payloadTooShort "UINT8" 1 0 [])
  | strange {code : UInt8} {channels : Bytes} (strange : IsStrange code) :
    Refused (code :: channels) (.unknownColourType code)
  | length {code : UInt8} {channels : Bytes} {exact : Nat} (sized : Sized code exact)
    (other : channels.length + 1 ≠ exact) (unpadded : channels.length + 1 ≠ 7) :
    Refused (code :: channels)
      (.unexpectedLength "Colour" exact (channels.length + 1) (code :: channels))

theorem decode_eq_error_iff {data : Bytes} {error : WireError} :
    decode data = .error error ↔ Refused data error := by
  constructor
  · intro refused
    cases data with
    | nil =>
      cases refused
      exact .empty
    | cons code channels =>
      rw [decode_cons] at refused
      split at refused
      · rename_i unknown
        cases refused
        exact .strange (encodedLength?_eq_none_iff.1 unknown)
      · rename_i exact known
        split at refused
        · rename_i fits
          obtain ⟨colour, found⟩ := (encodedLength?_eq_some_iff.1 known).exists_colour fits
          rw [found] at refused
          cases refused
        · rename_i unfit
          obtain ⟨other, unpadded⟩ := not_or.1 unfit
          cases refused
          exact .length (encodedLength?_eq_some_iff.1 known) other unpadded
  · intro refused
    cases refused with
    | empty => rfl
    | strange strange =>
      rw [decode_cons, encodedLength?_eq_none_iff.2 strange]
    | length sized other unpadded =>
      have unfit := not_or.2 ⟨other, unpadded⟩
      rw [decode_cons, encodedLength?_eq_some_iff.2 sized]
      exact if_neg unfit

/-- A colour is read from its own bytes and from these with any others behind them that make seven,
and from no other data; what is refused is refused for the first of the causes that apply. -/
theorem read_exactly :
    (∀ (colour : Colour) (padding : Bytes), padding.length = 7 - colour.encode.length →
      decode colour.encode = .ok colour ∧ decode (colour.encode ++ padding) = .ok colour) ∧
    ∀ data : Bytes,
      (∀ colour : Colour, decode data = .ok colour ↔
        colour.encode <+: data ∧ (data.length = colour.encode.length ∨ data.length = 7)) ∧
      ∀ error, decode data = .error error ↔ Refused data error := by
  refine ⟨fun colour padding padded => ⟨decode_encode colour, decode_padded padded⟩,
    fun data => ⟨fun colour => ?_, fun error => decode_eq_error_iff⟩⟩
  rw [decode_eq_ok_iff]
  constructor
  · rintro ⟨padding, rfl, exactly | padded⟩
    · exact ⟨List.prefix_append _ _, .inl (by rw [exactly, List.append_nil])⟩
    · exact ⟨List.prefix_append _ _, .inr padded⟩
  · rintro ⟨⟨padding, rfl⟩, exactly | padded⟩
    · rw [List.length_append] at exactly
      exact ⟨padding, rfl, .inl (List.eq_nil_of_length_eq_zero (by omega))⟩
    · exact ⟨padding, rfl, .inr padded⟩

/-- White is read with any four bytes behind it, and refused with one. -/
theorem read_exactly_white :
    let colour := Colour.white 4000
    let padding : Bytes := [0xFF, 0x01, 0x80, 0x00]
    padding.length = 7 - colour.encode.length ∧
      decode [0x20, 0x0F, 0xA0, 0xFF, 0x01, 0x80, 0x00] = .ok colour ∧
      Refused [0x20, 0x0F, 0xA0, 0xFF] (.unexpectedLength "Colour" 3 4 [0x20, 0x0F, 0xA0, 0xFF]) := by
  obtain ⟨padded, exact⟩ := read_exactly
  refine ⟨rfl, (padded (.white 4000) [0xFF, 0x01, 0x80, 0x00] rfl).2, ?_⟩
  exact ((exact _).2 _).1 rfl

end Colour

end LightingControl
