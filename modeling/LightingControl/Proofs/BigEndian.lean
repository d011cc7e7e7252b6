import Mathlib.Data.List.Induction
import Mathlib.Data.Nat.Digits.Defs
import LightingControl.Answer.Basic
import LightingControl.Proofs.Numbers
/-!
# Big-endian numbers

The readers of numbers give the number that the bytes stand for to the base 256, as it is or as a two's
complement, and ask for no more than that the bytes are there.  A number of up to eight bytes is put
together by shifts, and none of its bits is shifted out.
-/

set_option autoImplicit false

namespace LightingControl

namespace Bytes

/-- The number with these digits to the base 256, the most significant digit first. -/
def number (bytes : Bytes) : Nat :=
  Nat.ofDigits 256 (bytes.reverse.map UInt8.toNat)

theorem value_concat (front : Bytes) (last : UInt8) :
    value (front ++ [last]) = 256 * front.value + last.toNat := by
  rw [value, List.foldl_append]
  rfl

theorem value_eq_number (bytes : Bytes) : bytes.value = bytes.number := by
  induction bytes using List.reverseRecOn with
  | nil => rfl
  | append_singleton front last ih =>
    rw [value_concat, ih, number, number, List.reverse_concat, List.map_cons, Nat.ofDigits_cons,
      Nat.add_comm]

theorem value_replicate_zero_append (zeros : Nat) (bytes : Bytes) :
    value (List.replicate zeros 0 ++ bytes) = bytes.value := by
  induction zeros with
  | zero => rfl
  | succ zeros ih => exact ih

def shiftedInto (total : UInt64) (bytes : Bytes) : UInt64 :=
  bytes.foldl (fun total byte => total <<< 8 ||| byte.toUInt64) total

theorem toNat_shift_or (total : UInt64) (byte : UInt8) (room : total.toNat < 2 ^ 56) :
    (total <<< 8 ||| byte.toUInt64).toNat = 256 * total.toNat + byte.toNat := by
  have kept : total.toNat <<< 8 < 2 ^ 64 := by
    rw [Nat.shiftLeft_eq]
    omega
  calc
    (total <<< 8 ||| byte.toUInt64).toNat = total.toNat <<< 8 % 2 ^ 64 ||| byte.toNat := by
      rw [UInt64.toNat_or, UInt64.toNat_shiftLeft, UInt8.toNat_toUInt64]
      rfl
    _ = total.toNat <<< 8 + byte.toNat := by
      rw [Nat.mod_eq_of_lt kept, Nat.shiftLeft_add_eq_or_of_lt byte.toNat_lt]
    _ = 256 * total.toNat + byte.toNat := by
      rw [Nat.shiftLeft_eq, Nat.mul_comm]

theorem toNat_shiftedInto (total : UInt64) (bytes : Bytes)
    (room : (total.toNat + 1) * 256 ^ bytes.length ≤ 2 ^ 64) :
    (shiftedInto total bytes).toNat =
      bytes.foldl (fun total byte => 256 * total + byte.toNat) total.toNat := by
  induction bytes generalizing total with
  | nil => rfl
  | cons byte rest ih =>
    have digit := byte.toNat_lt
    have split : (total.toNat + 1) * 256 ^ (byte :: rest).length =
        256 * (total.toNat + 1) * 256 ^ rest.length := by
      rw [List.length_cons, Nat.pow_succ, Nat.mul_comm 256, Nat.mul_assoc, Nat.mul_comm 256]
    rw [split] at room
    have positive : 0 < 256 ^ rest.length := Nat.pow_pos (by decide)
    have here : 256 * (total.toNat + 1) ≤ 2 ^ 64 :=
      Nat.le_trans (Nat.le_mul_of_pos_right _ positive) room
    have added := toNat_shift_or total byte (by omega)
    have later : ((total <<< 8 ||| byte.toUInt64).toNat + 1) * 256 ^ rest.length ≤ 2 ^ 64 := by
      refine Nat.le_trans (Nat.mul_le_mul_right _ ?_) room
      omega
    rw [shiftedInto, List.foldl_cons, List.foldl_cons, ← added]
    exact ih _ later

end Bytes

/-- What a number of `width` bytes stands for if its first bit is a sign. -/
def twosComplement (width number : Nat) : Int :=
  if 2 * number < 256 ^ width then number else number - (256 ^ width : Nat)

namespace Field

variable {α : Type}

/-- The reader takes `width` bytes wherever they are within the data, and gives what their number means;
it refuses nothing but data that end before them, and says at what length they would not. -/
structure Reads (read : Bytes → Nat → Except WireError α) (name : String) (width : Nat)
    (given : α → Int) (meaning : Nat → Int) : Prop where
  accepted (data : Bytes) (offset : Nat) :
    (∃ found, read data offset = .ok found) ↔ offset + width ≤ data.length
  found (data : Bytes) (offset : Nat) (found : α) (ok : read data offset = .ok found) :
    given found = meaning (Bytes.number ((data.drop offset).take width))
  refused (data : Bytes) (offset : Nat) (error : WireError) :
    read data offset = .error error ↔
      data.length < offset + width ∧
        error = .payloadTooShort name (offset + width) data.length []

theorem map_slice_eq_error_iff {name : String} {width : Nat} {data : Bytes} {offset : Nat}
    {make : Bytes → α} {error : WireError} :
    (slice name width data offset).map make = .error error ↔
      data.length < offset + width ∧
        error = .payloadTooShort name (offset + width) data.length [] := by
  by_cases short : data.length < offset + width
  · simp [slice, short, Except.map, eq_comm]
  · simp [slice, short, Except.map]

theorem toOption_map_slice {β : Type} (name other : String) (width : Nat) (data : Bytes)
    (offset : Nat) (make : Bytes → α) (convert : α → β) :
    ((slice name width data offset).map fun bytes => convert (make bytes)).toOption =
      ((slice other width data offset).map make).toOption.map convert := by
  by_cases short : data.length < offset + width <;> simp [slice, short, Except.map, Except.toOption]

theorem reads_of_make (name : String) {width : Nat} {make : Bytes → α} {given : α → Int}
    {meaning : Nat → Int}
    (right : ∀ number < 256 ^ width, ∀ bytes : Bytes, bytes.value = number →
      given (make bytes) = meaning number) :
    Reads (fun data offset => (slice name width data offset).map make) name width given meaning where
  accepted data offset := by simp only [map_slice_eq_ok_iff, exists_and_left, exists_eq', and_true]
  found data offset found ok := by
    obtain ⟨-, rfl⟩ := map_slice_eq_ok_iff.1 ok
    rw [← Bytes.value_eq_number]
    exact right _ (Bytes.value_slice_lt data offset width) _ rfl
  refused data offset error := map_slice_eq_error_iff

theorem bmod_eq_twosComplement {width number : Nat} (bound : number < 256 ^ (width + 1)) :
    Int.bmod number (256 ^ (width + 1)) = twosComplement (width + 1) number := by
  have even : 256 ^ (width + 1) = 2 * (128 * 256 ^ width) := by
    rw [Nat.pow_succ]
    omega
  rw [twosComplement]
  generalize 256 ^ (width + 1) = size at bound even ⊢
  have self : (number : Int) % size = number := Int.emod_eq_of_lt (by omega) (by omega)
  rw [Int.bmod_def, self]
  split <;> split <;> omega

theorem reads_uint8 : Reads uint8 "UINT8" 1 (fun byte => byte.toNat) (fun number => number) :=
  reads_of_make "UINT8" fun number bound bytes same => by
    rw [same, UInt8.toNat_ofNat_of_lt' bound]

theorem reads_uint16 : Reads uint16 "UINT16" 2 (fun word => word.toNat) (fun number => number) :=
  reads_of_make "UINT16" fun number bound bytes same => by
    rw [same, UInt16.toNat_ofNat_of_lt' bound]

theorem reads_uint32 : Reads uint32 "UINT32" 4 (fun word => word.toNat) (fun number => number) :=
  reads_of_make "UINT32" fun number bound bytes same => by
    rw [same, UInt32.toNat_ofNat_of_lt' bound]

theorem reads_int8 : Reads int8 "INT8" 1 Int8.toInt (twosComplement 1) :=
  reads_of_make "INT8" fun number bound bytes same => by
    rw [same, UInt8.toInt8_ofNat', Int8.toInt_ofNat', ← bmod_eq_twosComplement bound]
    rfl

theorem reads_int16 : Reads int16 "INT16" 2 Int16.toInt (twosComplement 2) :=
  reads_of_make "INT16" fun number bound bytes same => by
    rw [same, UInt16.toInt16_ofNat', Int16.toInt_ofNat', ← bmod_eq_twosComplement bound]
    rfl

theorem reads_int32 : Reads int32 "INT32" 4 Int32.toInt (twosComplement 4) :=
  reads_of_make "INT32" fun number bound bytes same => by
    rw [same, UInt32.toInt32_ofNat', Int32.toInt_ofNat', ← bmod_eq_twosComplement bound]
    rfl

theorem uint16_appended (buffer : Bytes) (word : UInt16) (more : Bytes) :
    uint16 (buffer ++ wordBytes word ++ more) buffer.length = .ok word := by
  have inside : buffer.length + 2 ≤ (buffer ++ wordBytes word ++ more).length := by
    simp [wordBytes]
  rw [uint16_eq_ok _ _ inside]
  simp [wordBytes, List.getElem_append_right]

end Field

namespace Answer

theorem decode_longNumber {data : Bytes} (some : data ≠ []) (fits : data.length ≤ 8) :
    Answer.decode data = .ok (Bytes.shiftedInto 0 data) := by
  have notRefused : ¬ (data.isEmpty || decide (8 < data.length)) = true := by
    simp [some, fits]
  exact if_neg notRefused

theorem toNat_longNumber {data : Bytes} (fits : data.length ≤ 8) :
    (Bytes.shiftedInto 0 data).toNat = data.number := by
  have room : ((0 : UInt64).toNat + 1) * 256 ^ data.length ≤ 2 ^ 64 := by
    have most : 256 ^ data.length ≤ 256 ^ 8 := Nat.pow_le_pow_right (by decide) fits
    simpa using most
  rw [Bytes.toNat_shiftedInto 0 data room, ← Bytes.value_eq_number]
  rfl

theorem shiftedInto_replicate_zero_append {zeros : Nat} {data : Bytes}
    (fits : zeros + data.length ≤ 8) :
    Bytes.shiftedInto 0 (List.replicate zeros 0 ++ data) = Bytes.shiftedInto 0 data := by
  have whole : (List.replicate zeros 0 ++ data : Bytes).length ≤ 8 := by
    simpa using fits
  apply UInt64.toNat_inj.1
  rw [toNat_longNumber whole, toNat_longNumber (Nat.le_trans (Nat.le_add_left _ _) fits),
    ← Bytes.value_eq_number, ← Bytes.value_eq_number, Bytes.value_replicate_zero_append]

theorem shiftedInto_two (upper lower : UInt8) :
    Bytes.shiftedInto 0 [upper, lower] = (wordOf upper lower).toUInt64 := by
  have high := upper.toNat_lt
  have low := lower.toNat_lt
  apply UInt64.toNat_inj.1
  rw [toNat_longNumber (by simp), ← Bytes.value_eq_number, UInt16.toNat_toUInt64, wordOf,
    UInt16.toNat_ofNat_of_lt' (by simp only [UInt16.size]; omega)]
  simp [Bytes.value]

end Answer

open LightingControl.Field

/-- Every number is read by its bytes to the base 256 wherever they are within the data, a signed one as
their two's complement, and is refused only where the data end before it.  A word is read back from where
it was appended.  A number of one to eight bytes is what they stand for at every step of the shifting,
however many zeros there is room for in front of it, and is the byte or the word of its one or two
bytes. -/
theorem numbers_read :
    (Reads uint8 "UINT8" 1 (fun byte => byte.toNat) (fun number => number) ∧
      Reads uint16 "UINT16" 2 (fun word => word.toNat) (fun number => number) ∧
      Reads uint32 "UINT32" 4 (fun word => word.toNat) (fun number => number)) ∧
    (Reads int8 "INT8" 1 Int8.toInt (twosComplement 1) ∧
      Reads int16 "INT16" 2 Int16.toInt (twosComplement 2) ∧
      Reads int32 "INT32" 4 Int32.toInt (twosComplement 4)) ∧
    (∀ data offset,
      (int8 data offset).toOption = (uint8 data offset).toOption.map UInt8.toInt8 ∧
      (int16 data offset).toOption = (uint16 data offset).toOption.map UInt16.toInt16 ∧
      (int32 data offset).toOption = (uint32 data offset).toOption.map UInt32.toInt32) ∧
    (∀ buffer word more, uint16 (buffer ++ wordBytes word ++ more) buffer.length = .ok word) ∧
    (∀ data : Bytes, data ≠ [] → data.length ≤ 8 → ∃ number : UInt64,
      Answer.decode data = .ok number ∧ number.toNat = data.number ∧
      (∀ front : Bytes, front.IsPrefix data → (Bytes.shiftedInto 0 front).toNat = front.number) ∧
      ∀ zeros, zeros + data.length ≤ 8 →
        Answer.decode (List.replicate zeros 0 ++ data) = .ok number) ∧
    (∀ byte : UInt8, Answer.decode [byte] = .ok byte ∧ Answer.decode [byte] = .ok byte.toUInt64) ∧
    ∀ upper lower : UInt8, Answer.decode [upper, lower] = .ok (wordOf upper lower) ∧
      Answer.decode [upper, lower] = .ok (wordOf upper lower).toUInt64 := by
  refine ⟨⟨reads_uint8, reads_uint16, reads_uint32⟩, ⟨reads_int8, reads_int16, reads_int32⟩, ?_,
    uint16_appended, ?_, ?_, ?_⟩
  · intro data offset
    exact ⟨toOption_map_slice "INT8" "UINT8" 1 data offset _ UInt8.toInt8,
      toOption_map_slice "INT16" "UINT16" 2 data offset _ UInt16.toInt16,
      toOption_map_slice "INT32" "UINT32" 4 data offset _ UInt32.toInt32⟩
  · intro data some fits
    refine ⟨_, Answer.decode_longNumber some fits, Answer.toNat_longNumber fits, ?_, ?_⟩
    · intro front isFront
      exact Answer.toNat_longNumber (Nat.le_trans isFront.length_le fits)
    · intro zeros room
      rw [Answer.decode_longNumber (by simp [some]) (by simpa using room),
        Answer.shiftedInto_replicate_zero_append room]
  · intro byte
    refine ⟨rfl, ?_⟩
    rw [Answer.decode_longNumber (by simp) (by simp)]
    simp [Bytes.shiftedInto]
  · intro upper lower
    refine ⟨uint16_eq_ok [upper, lower] 0 (Nat.le_refl 2), ?_⟩
    rw [Answer.decode_longNumber (by simp) (by simp), Answer.shiftedInto_two]

/-- A number of eight bytes of which the first bit is set, a negative one, and one that is cut off. -/
theorem numbers_read_full_width :
    let data : Bytes := [0xFF, 1, 2, 3, 4, 5, 6, 7]
    let short : Bytes := [0xFF, 0]
    (data ≠ [] ∧ data.length ≤ 8) ∧ (short ≠ [] ∧ short.length ≤ 8 ∧ 6 + short.length ≤ 8) ∧
      Answer.decode data = .ok (0xFF01020304050607 : UInt64) ∧
      Answer.decode (List.replicate 6 0 ++ short) = .ok (0xFF00 : UInt64) ∧
      int16 [7, 0x80, 0x01] 1 = .ok (-0x7FFF) ∧
      uint32 data 5 = .error (.payloadTooShort "UINT32" 9 8 []) := by
  intro data short
  obtain ⟨⟨-, -, doubleWords⟩, ⟨-, signedWords, -⟩, -, -, long, -, -⟩ := numbers_read
  have filled : data ≠ [] ∧ data.length ≤ 8 := by decide
  have partly : short ≠ [] ∧ short.length ≤ 8 ∧ 6 + short.length ≤ 8 := by decide
  obtain ⟨number, decoded, isNumber, -⟩ := long data filled.1 filled.2
  obtain ⟨padded, -, isPadded, -, zeros⟩ := long short partly.1 partly.2.1
  obtain ⟨negative, read⟩ := (signedWords.accepted [7, 0x80, 0x01] 1).2 (by decide)
  have isNegative := signedWords.found _ _ _ read
  refine ⟨filled, partly, ?_, ?_, ?_, (doubleWords.refused data 5 _).2 ⟨by decide, rfl⟩⟩
  · obtain rfl : number = 0xFF01020304050607 := UInt64.toNat_inj.1 isNumber
    exact decoded
  · obtain rfl : padded = 0xFF00 := UInt64.toNat_inj.1 isPadded
    exact zeros 6 partly.2.2
  · obtain rfl : negative = -0x7FFF := Int16.toInt_inj.1 isNegative
    exact read

end LightingControl
