import Mathlib.Algebra.Group.Nat.Defs
import LightingControl.Field
import LightingControl.Proofs.Checks
/-!
# Numbers in a payload

The bytes of a number are its digits to the base 256, the most significant first; a signed number is
the one of its width that leaves the same remainder.  A reader of `Field` gives the number that the
payload holds at an offset, or says how long the payload would have to be.
-/

set_option autoImplicit false

namespace LightingControl

namespace Bytes

theorem foldl_value_lt (bytes : Bytes) (total : Nat) :
    bytes.foldl (fun total byte => 256 * total + byte.toNat) total <
      (total + 1) * 256 ^ bytes.length := by
  induction bytes generalizing total with
  | nil => simp
  | cons byte rest ih =>
    have digit := byte.toNat_lt
    have step : 256 * total + byte.toNat + 1 ≤ 256 * (total + 1) := by omega
    rw [List.foldl_cons, List.length_cons]
    calc
      _ < (256 * total + byte.toNat + 1) * 256 ^ rest.length := ih _
      _ ≤ 256 * (total + 1) * 256 ^ rest.length := Nat.mul_le_mul_right _ step
      _ = (total + 1) * 256 ^ (rest.length + 1) := by
        rw [Nat.mul_comm 256, Nat.mul_assoc, ← Nat.pow_add_one']

theorem value_lt (bytes : Bytes) : bytes.value < 256 ^ bytes.length := by
  simpa [value] using foldl_value_lt bytes 0

/-- The `width` bytes at an offset are the digits of a number. -/
def Holds (data : Bytes) (offset width number : Nat) : Prop :=
  offset + width ≤ data.length ∧ value ((data.drop offset).take width) = number

def HoldsSigned (data : Bytes) (offset width : Nat) (number : Int) : Prop :=
  ∃ digits, data.Holds offset width digits ∧ number = Int.bmod digits (256 ^ width)

variable {data : Bytes} {offset width : Nat}

theorem Holds.append {number : Nat} (holds : data.Holds offset width number) (more : Bytes) :
    (data ++ more).Holds offset width number := by
  obtain ⟨inside, digits⟩ := holds
  refine ⟨Nat.le_trans inside (by simp), ?_⟩
  rw [List.drop_append_of_le_length (by omega), List.take_append_of_le_length (by simp; omega)]
  exact digits

theorem holdsSigned_iff {number : Int} :
    data.HoldsSigned offset width number ↔ offset + width ≤ data.length ∧
      Int.bmod (value ((data.drop offset).take width)) (256 ^ width) = number := by
  constructor
  · rintro ⟨digits, ⟨inside, rfl⟩, rfl⟩
    exact ⟨inside, rfl⟩
  · rintro ⟨inside, rfl⟩
    exact ⟨_, ⟨inside, rfl⟩, rfl⟩

theorem HoldsSigned.append {number : Int} (holds : data.HoldsSigned offset width number)
    (more : Bytes) : (data ++ more).HoldsSigned offset width number := by
  obtain ⟨digits, unsigned, same⟩ := holds
  exact ⟨digits, unsigned.append more, same⟩

theorem value_slice_lt (data : Bytes) (offset width : Nat) :
    value ((data.drop offset).take width) < 256 ^ width :=
  Nat.lt_of_lt_of_le (value_lt _) (Nat.pow_le_pow_right (by decide) (List.length_take_le _ _))

end Bytes

namespace Field

variable {α : Type}

def reaches (name : String) (width : Nat) (data : Bytes) (offset : Nat) : Check :=
  ⟨offset + width ≤ data.length, .payloadTooShort name (offset + width) data.length []⟩

theorem passes_map (name : String) (width : Nat) (data : Bytes) (offset : Nat) (make : Bytes → α) :
    Passes ((slice name width data offset).map make) [reaches name width data offset]
      (make ((data.drop offset).take width)) := by
  by_cases short : data.length < offset + width
  · have fails : ¬ offset + width ≤ data.length := by omega
    simp [Passes, slice, short, fails, passing, reaches, Except.map]
  · have holds : offset + width ≤ data.length := by omega
    simp [Passes, slice, short, holds, passing, reaches, Except.map]

theorem slice_append {width offset : Nat} {data : Bytes} (inside : offset + width ≤ data.length)
    (name : String) (more : Bytes) :
    slice name width (data ++ more) offset = .ok ((data.drop offset).take width) := by
  have enough : ¬ (data ++ more).length < offset + width := by
    rw [List.length_append]
    omega
  have within : width ≤ (data.drop offset).length := by
    rw [List.length_drop]
    omega
  rw [slice, if_neg enough, List.drop_append_of_le_length (by omega),
    List.take_append_of_le_length within]

theorem uint16_append (data : Bytes) (offset : Nat) (inside : offset + 2 ≤ data.length) :
    ∃ word, ∀ more, uint16 (data ++ more) offset = .ok word :=
  ⟨_, fun more => congrArg (Except.map _) (slice_append inside "UINT16" more)⟩

theorem uint32_append (data : Bytes) (offset : Nat) (inside : offset + 4 ≤ data.length) :
    ∃ word, ∀ more, uint32 (data ++ more) offset = .ok word :=
  ⟨_, fun more => congrArg (Except.map _) (slice_append inside "UINT32" more)⟩

theorem uint8_cons (byte : UInt8) (rest : Bytes) : uint8 (byte :: rest) 0 = .ok byte := by
  have enough : ¬ (byte :: rest).length < 0 + 1 := by simp
  rw [uint8, slice, if_neg enough]
  simp [Except.map, Bytes.value]

theorem map_slice_eq_ok_iff {name : String} {width : Nat} {data : Bytes} {offset : Nat}
    {make : Bytes → α} {found : α} :
    (slice name width data offset).map make = .ok found ↔
      offset + width ≤ data.length ∧ make ((data.drop offset).take width) = found := by
  rw [passes_map, passing_eq_ok_iff]
  simp [reaches]

variable {data : Bytes} {offset : Nat}

theorem uint8_eq_ok_iff {byte : UInt8} :
    uint8 data offset = .ok byte ↔ data.Holds offset 1 byte.toNat := by
  have bound := Bytes.value_slice_lt data offset 1
  rw [uint8, map_slice_eq_ok_iff, Bytes.Holds, ← UInt8.toNat_inj, UInt8.toNat_ofNat_of_lt' bound]

theorem uint16_eq_ok_iff {word : UInt16} :
    uint16 data offset = .ok word ↔ data.Holds offset 2 word.toNat := by
  have bound := Bytes.value_slice_lt data offset 2
  rw [uint16, map_slice_eq_ok_iff, Bytes.Holds, ← UInt16.toNat_inj, UInt16.toNat_ofNat_of_lt' bound]

theorem int8_eq_ok_iff {byte : Int8} :
    int8 data offset = .ok byte ↔ data.HoldsSigned offset 1 byte.toInt := by
  rw [int8, map_slice_eq_ok_iff, ← Int8.toInt_inj, UInt8.toInt8_ofNat', Int8.toInt_ofNat']
  exact Bytes.holdsSigned_iff.symm

theorem int32_eq_ok_iff {word : Int32} :
    int32 data offset = .ok word ↔ data.HoldsSigned offset 4 word.toInt := by
  rw [int32, map_slice_eq_ok_iff, ← Int32.toInt_inj, UInt32.toInt32_ofNat', Int32.toInt_ofNat']
  exact Bytes.holdsSigned_iff.symm

end Field

end LightingControl
