import Mathlib.Data.List.DropRight
import Mathlib.Order.Bounds.Defs
import LightingControl.Field
import LightingControl.Proofs.Text.Utf8
/-!
# What is read as a label

The NULs that pad a label are taken off as bytes, before the rest is read as UTF-8.  A NUL is the only
character with a byte that is zero, so no character is cut by this, and neither do faulty bytes become
valid nor valid ones faulty.
-/

set_option autoImplicit false

namespace LightingControl

open String (utf8EncodeChar)

namespace Utf8

def nul : Char := Char.ofNat 0

def withoutNuls (text : String) : String :=
  String.ofList (text.toList.rdropWhile (· == nul))

theorem withoutNuls_of_last {text : String} (last : text.toList.getLast? ≠ some nul) :
    withoutNuls text = text := by
  have kept : text.toList.rdropWhile (· == nul) = text.toList := by
    rw [List.rdropWhile_eq_self_iff]
    intro nonempty same
    exact last (List.getLast?_eq_some_getLast nonempty ▸ congrArg some (eq_of_beq same))
  rw [withoutNuls, kept, String.ofList_toList]

theorem exists_nuls (bytes : Bytes) :
    ∃ count, bytes = bytes.trimNuls ++ List.replicate count 0 := by
  have nuls : ∀ byte ∈ bytes.rtakeWhile (· == 0), byte = 0 := fun byte mem => by
    have zero := List.mem_rtakeWhile_imp mem
    exact eq_of_beq zero
  refine ⟨(bytes.rtakeWhile (· == 0)).length, ?_⟩
  rw [← List.eq_replicate_of_mem nuls]
  exact List.rdropWhile_append_rtakeWhile.symm

theorem flatMap_nuls (count : Nat) :
    (List.replicate count nul).flatMap utf8EncodeChar = List.replicate count 0 := by
  induction count with
  | zero => rfl
  | succ count ih => exact congrArg (0 :: ·) ih

theorem eq_nul_of_mem {char : Char} (mem : 0 ∈ utf8EncodeChar char) : char = nul := by
  have spelled := spelled_encodeChar char
  generalize utf8EncodeChar char = bytes at mem spelled
  have noSecond (first : UInt8) : allowsSecond first 0 ≠ true := fun allowed =>
    absurd ((allowsSecond_iff _ _).1 allowed).1.1 (by decide)
  cases spelled with
  | ascii first =>
    obtain rfl := List.mem_singleton.1 mem
    rfl
  | two first second =>
    simp only [List.mem_cons, List.not_mem_nil, or_false] at mem
    obtain rfl | rfl := mem
    · exact absurd first (by decide)
    · exact absurd second (by decide)
  | three first second third =>
    simp only [List.mem_cons, List.not_mem_nil, or_false] at mem
    obtain rfl | rfl | rfl := mem
    · exact absurd first (by decide)
    · exact absurd second (noSecond _)
    · exact absurd third (by decide)
  | four first second third fourth =>
    simp only [List.mem_cons, List.not_mem_nil, or_false] at mem
    obtain rfl | rfl | rfl | rfl := mem
    · exact absurd first (by decide)
    · exact absurd second (noSecond _)
    · exact absurd third (by decide)
    · exact absurd fourth (by decide)

theorem trimNuls_concat_nul (bytes : Bytes) : Bytes.trimNuls (bytes ++ [0]) = bytes.trimNuls :=
  List.rdropWhile_concat_pos (· == 0) bytes 0 rfl

theorem trimNuls_append_nuls (bytes : Bytes) (count : Nat) :
    Bytes.trimNuls (bytes ++ List.replicate count 0) = bytes.trimNuls := by
  induction count with
  | zero => rw [List.replicate_zero, List.append_nil]
  | succ count ih => rw [List.replicate_succ', ← List.append_assoc, trimNuls_concat_nul, ih]

theorem trimNuls_append_char {char : Char} (other : char ≠ nul) (bytes : Bytes) :
    Bytes.trimNuls (bytes ++ utf8EncodeChar char) = bytes ++ utf8EncodeChar char := by
  have nonempty : bytes ++ utf8EncodeChar char ≠ [] := fun none =>
    String.utf8EncodeChar_ne_nil (List.append_eq_nil_iff.1 none).2
  refine List.rdropWhile_eq_self_iff.2 fun _ nulLast => other (eq_nul_of_mem ?_)
  rw [← eq_of_beq nulLast, List.getLast_append_of_ne_nil _ String.utf8EncodeChar_ne_nil]
  exact List.getLast_mem _

theorem trimNuls_encode (text : String) :
    (encode text).trimNuls = encode (withoutNuls text) := by
  rw [withoutNuls, encode_ofList, encode]
  induction text.toList using List.reverseRecOn with
  | nil => rfl
  | append_singleton chars char ih =>
    rw [List.flatMap_append, List.flatMap_singleton]
    by_cases last : char = nul
    · subst last
      rw [List.rdropWhile_concat_pos (· == nul) chars nul rfl, ← ih]
      exact trimNuls_concat_nul _
    · rw [List.rdropWhile_concat_neg _ _ _ (by simpa using last), trimNuls_append_char last,
        List.flatMap_append, List.flatMap_singleton]

theorem valid_trimNuls_iff {bytes : Bytes} : Valid bytes.trimNuls ↔ Valid bytes := by
  constructor
  · intro valid
    obtain ⟨chars, same⟩ := valid.exists_chars
    obtain ⟨count, whole⟩ := exists_nuls bytes
    rw [whole, same, ← flatMap_nuls, ← List.flatMap_append]
    exact valid_flatMap _
  · rintro ⟨text, rfl⟩
    exact ⟨withoutNuls text, (trimNuls_encode text).symm⟩

theorem Stuck.append_nuls {rest : Bytes} (stuck : Stuck rest) (nonempty : rest ≠ []) (count : Nat) :
    Stuck (rest ++ List.replicate count 0) := by
  intro char front
  obtain within | ⟨more, whole⟩ := List.prefix_or_prefix_of_prefix front (List.prefix_append _ _)
  · exact stuck char within
  · rw [← whole, List.prefix_append_right_inj] at front
    cases more with
    | nil => exact stuck char ⟨[], by rw [List.append_nil, ← whole, List.append_nil]⟩
    | cons byte others =>
      obtain rfl : byte = 0 := List.eq_of_mem_replicate (front.subset List.mem_cons_self)
      obtain rfl : char = nul :=
        eq_nul_of_mem (whole ▸ List.mem_append_right _ List.mem_cons_self)
      have length : (rest ++ 0 :: others).length = 1 := congrArg List.length whole
      rw [List.length_append, List.length_cons] at length
      have some_byte := List.length_pos_of_ne_nil nonempty
      omega

def validLengths (bytes : Bytes) : Set Nat :=
  {length | ∃ front, front <+: bytes ∧ Valid front ∧ front.length = length}

theorem isGreatest_validLengths {chars : List Char} {rest : Bytes} (stuck : Stuck rest) :
    IsGreatest (validLengths (chars.flatMap utf8EncodeChar ++ rest))
      (chars.flatMap utf8EncodeChar).length := by
  refine ⟨⟨_, List.prefix_append _ _, valid_flatMap chars, rfl⟩, ?_⟩
  rintro length ⟨front, isFront, valid, rfl⟩
  obtain ⟨others, rfl⟩ := valid.exists_chars
  exact (stuck.isPrefix isFront).length_le

/-- A valid multi-byte sequence begins with the bytes and goes on behind them. -/
def LacksRest (bytes : Bytes) : Prop :=
  ∃ char, 1 < (utf8EncodeChar char).length ∧ bytes <+: utf8EncodeChar char ∧
    bytes ≠ utf8EncodeChar char

theorem Broken.lacksRest_iff {bytes : Bytes} {badLength : Option Nat}
    (broken : Broken bytes badLength) (stuck : Stuck bytes) (nonempty : bytes ≠ []) :
    badLength = none ↔ LacksRest bytes := by
  rw [broken.cut_iff]
  constructor
  · rintro ⟨char, front⟩
    have other : bytes ≠ utf8EncodeChar char := fun same => stuck char (same ▸ List.prefix_rfl)
    have some_byte := List.length_pos_of_ne_nil nonempty
    have more := Nat.lt_of_le_of_ne front.length_le fun same => other (front.eq_of_length same)
    exact ⟨char, by omega, front, other⟩
  · rintro ⟨char, -, front, -⟩
    exact ⟨char, front⟩

end Utf8

namespace Field

open Utf8 (Valid encode nul validLengths withoutNuls)

theorem label_encode (text : String) : label (encode text) = .ok (withoutNuls text) := by
  rw [label, Utf8.trimNuls_encode, Utf8.decode_encode]

theorem label_padded {text : String} (last : text.toList.getLast? ≠ some nul) (count : Nat) :
    label (encode text ++ List.replicate count 0) = .ok text := by
  rw [label, Utf8.trimNuls_append_nuls, Utf8.trimNuls_encode, Utf8.withoutNuls_of_last last,
    Utf8.decode_encode]

theorem label_eq_error_iff {data : Bytes} {error : WireError} :
    label data = .error error ↔
      ∃ fault, Utf8.decode data.trimNuls = .error fault ∧ error = .invalidLabel fault := by
  rw [label]
  cases Utf8.decode data.trimNuls with
  | ok text => simp
  | error fault => simp [eq_comm]

theorem exists_label_iff {data : Bytes} : (∃ text, label data = .ok text) ↔ Valid data := by
  rw [← Utf8.valid_trimNuls_iff, label]
  constructor
  · rintro ⟨text, read⟩
    split at read
    · rename_i found decoded
      exact ⟨found, Utf8.decode_eq_ok_iff.1 decoded⟩
    · cases read
  · rintro ⟨text, same⟩
    rw [Utf8.decode_eq_ok_iff.2 same]
    exact ⟨text, rfl⟩

/-- Where a label is faulty and whether it only lacks its rest. -/
theorem fault_of_label {data : Bytes} {error : WireError} (refused : label data = .error error) :
    ∃ fault, error = .invalidLabel fault ∧ IsGreatest (validLengths data) fault.validUpTo ∧
      (fault.badLength = none ↔ Utf8.LacksRest (data.trimNuls.drop fault.validUpTo)) := by
  obtain ⟨fault, decoded, rfl⟩ := label_eq_error_iff.1 refused
  obtain ⟨chars, rest, same, nonempty, stuck, position, broken⟩ := Utf8.faulty_of_decode decoded
  obtain ⟨count, whole⟩ := Utf8.exists_nuls data
  refine ⟨fault, rfl, ?_, ?_⟩
  · rw [whole, same, List.append_assoc, position]
    exact Utf8.isGreatest_validLengths (stuck.append_nuls nonempty count)
  · rw [same, position, List.drop_left]
    exact broken.lacksRest_iff stuck nonempty

/-- Data are read as a label exactly if they are UTF-8, and the label is their text without the NULs at
its end.  If they are not, the fault lies behind the longest part at the beginning that is, and it is
told to be incomplete exactly if the bytes from there on, without the NULs at their end, lack nothing
but the rest of a character. -/
theorem labels_read :
    (∀ (text : String) (count : Nat), text.toList.getLast? ≠ some nul →
      label (encode text ++ List.replicate count 0) = .ok text) ∧
    ∀ data : Bytes,
      ((∃ text, label data = .ok text) ↔ Valid data) ∧
      (∀ text, encode text = data → label data = .ok (withoutNuls text)) ∧
      ∀ error, label data = .error error →
        ∃ fault, error = .invalidLabel fault ∧ IsGreatest (validLengths data) fault.validUpTo ∧
          (fault.badLength = none ↔ Utf8.LacksRest (data.trimNuls.drop fault.validUpTo)) := by
  refine ⟨fun text count last => label_padded last count, fun data => ⟨exists_label_iff, ?_, ?_⟩⟩
  · rintro text rfl
    exact label_encode text
  · exact fun error refused => fault_of_label refused

/-- A name is read without the NULs that pad it, and one that ends within a character is incomplete. -/
theorem labels_read_cut_off :
    let name := "Küche"
    let cut : Bytes := [0x4B, 0xC3, 0x00, 0x00]
    name.toList.getLast? ≠ some nul ∧
      label [0x4B, 0xC3, 0xBC, 0x63, 0x68, 0x65, 0x00, 0x00] = .ok name ∧
      label cut = .error (.invalidLabel ⟨1, none⟩) ∧ IsGreatest (validLengths cut) 1 ∧
      Utf8.LacksRest [0xC3] := by
  intro name cut
  obtain ⟨padded, exact⟩ := labels_read
  have refused : label cut = .error (.invalidLabel ⟨1, none⟩) := rfl
  have last : name.toList.getLast? ≠ some nul := by decide
  have spelled : encode name = [0x4B, 0xC3, 0xBC, 0x63, 0x68, 0x65] := by decide
  have read := padded name 2 last
  rw [spelled] at read
  obtain ⟨fault, same, longest, incomplete⟩ := (exact cut).2.2 _ refused
  cases same
  exact ⟨last, read, refused, longest, incomplete.1 rfl⟩

end Field

end LightingControl
