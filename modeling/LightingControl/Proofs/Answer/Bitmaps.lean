import LightingControl.Answer.Bitmap
import Mathlib.Data.List.Basic
/-!
# Answers that are bitmaps

Bit `i` of byte `j` has position `8 * j + i`.  The members of a bitmap are the positions of the
bits that are set, in ascending order, as far as a byte can tell them apart: these are the positions
in 32 bytes, and in as many bytes the members tell which bits are set.
-/

set_option autoImplicit false

namespace LightingControl

namespace Bytes

/-- The bit at a position; behind the end of the bytes none is set. -/
def bit (bytes : Bytes) (position : Nat) : Bool :=
  bytes[position / 8]?.any fun byte => byte.toNat.testBit (position % 8)

/-- The positions of the bits that are set, in ascending order. -/
def onPositions (bytes : Bytes) : List Nat :=
  (List.range (8 * bytes.length)).filter bytes.bit

theorem bit_cons_of_lt (byte : UInt8) (rest : Bytes) {place : Nat} (low : place < 8) :
    bit (byte :: rest) place = byte.toNat.testBit place := by
  rw [bit, Nat.div_eq_of_lt low, Nat.mod_eq_of_lt low]
  rfl

theorem bit_cons_add (byte : UInt8) (rest : Bytes) (position : Nat) :
    bit (byte :: rest) (8 + position) = bit rest position := by
  have quotient : (8 + position) / 8 = position / 8 + 1 := by omega
  rw [bit, bit, quotient, Nat.add_mod_left, List.getElem?_cons_succ]

theorem bit_eq_testBit (bytes : Bytes) {index place : Nat} (inside : index < bytes.length)
    (low : place < 8) : bytes.bit (8 * index + place) = bytes[index].toNat.testBit place := by
  induction bytes generalizing index with
  | nil => cases inside
  | cons byte rest ih =>
    cases index with
    | zero => rw [Nat.mul_zero, Nat.zero_add, bit_cons_of_lt byte rest low, List.getElem_cons_zero]
    | succ index =>
      rw [Nat.mul_succ, Nat.add_comm _ 8, Nat.add_assoc, bit_cons_add,
        ih (Nat.lt_of_succ_lt_succ inside), List.getElem_cons_succ]

variable {bytes other : Bytes}

theorem lt_of_bit {position : Nat} (set : bytes.bit position = true) :
    position < 8 * bytes.length := by
  by_contra beyond
  have none : bytes[position / 8]? = none := List.getElem?_eq_none (by omega)
  rw [bit, none] at set
  cases set

theorem mem_onPositions {position : Nat} :
    position ∈ bytes.onPositions ↔ bytes.bit position = true := by
  rw [onPositions, List.mem_filter, List.mem_range]
  exact ⟨And.right, fun set => ⟨lt_of_bit set, set⟩⟩

theorem onPositions_cons (byte : UInt8) (rest : Bytes) :
    onPositions (byte :: rest) =
      (List.range 8).filter (hasBit byte) ++ rest.onPositions.map (8 + ·) := by
  have first : (List.range 8).filter (bit (byte :: rest)) = (List.range 8).filter (hasBit byte) :=
    List.filter_congr fun _ mem => bit_cons_of_lt byte rest (List.mem_range.1 mem)
  have later : bit (byte :: rest) ∘ (8 + ·) = bit rest := funext (bit_cons_add byte rest)
  rw [onPositions, List.length_cons, Nat.mul_succ, Nat.add_comm, List.range_add,
    List.filter_append, first, List.filter_map, later]
  rfl

theorem setPositions_eq (start : Nat) (bytes : Bytes) :
    setPositions start bytes = bytes.onPositions.map (start + ·) := by
  induction bytes generalizing start with
  | nil => rfl
  | cons byte rest ih =>
    rw [setPositions, ih, onPositions_cons, List.map_append, List.map_map]
    congr 2
    funext position
    exact Nat.add_assoc _ _ _

theorem sorted_onPositions (bytes : Bytes) : bytes.onPositions.Pairwise (· < ·) :=
  List.pairwise_lt_range.filter _

theorem eq_of_onPositions_eq (length : bytes.length = other.length)
    (same : bytes.onPositions = other.onPositions) : bytes = other := by
  have bits (position : Nat) : bytes.bit position = other.bit position := by
    rw [Bool.eq_iff_iff, ← mem_onPositions, ← mem_onPositions, same]
  refine List.ext_getElem length fun index inside inside' => ?_
  refine UInt8.toNat_inj.1 (Nat.eq_of_testBit_eq fun place => ?_)
  by_cases low : place < 8
  · rw [← bit_eq_testBit bytes inside low, ← bit_eq_testBit other inside' low, bits]
  · have high (byte : UInt8) : byte.toNat.testBit place = false := by
      have small : 2 ^ 8 ≤ 2 ^ place := Nat.pow_le_pow_right (by decide) (Nat.not_lt.1 low)
      exact Nat.testBit_lt_two_pow (Nat.lt_of_lt_of_le byte.toNat_lt small)
    rw [high, high]

end Bytes

namespace AddressBitmap

def ofBytes (data : Bytes) : AddressBitmap :=
  ⟨data.onPositions.map UInt8.ofNat⟩

variable {data other : Bytes}

theorem decode_eq (data : Bytes) : Answer.decode data = .ok (ofBytes data) := by
  have positions : setPositions 0 data = data.onPositions := by
    rw [Bytes.setPositions_eq]
    simp
  exact congrArg (fun found => Except.ok (AddressBitmap.mk (found.map UInt8.ofNat))) positions

theorem toNat_members (data : Bytes) :
    (ofBytes data).members.map UInt8.toNat = data.onPositions.map (· % 256) := by
  rw [ofBytes, List.map_map]
  exact List.map_congr_left fun position _ => UInt8.toNat_ofNat'

theorem toNat_members_of_short (short : data.length ≤ 32) :
    (ofBytes data).members.map UInt8.toNat = data.onPositions := by
  rw [toNat_members]
  refine (List.map_congr_left fun position mem => ?_).trans (List.map_id _)
  have inside := Bytes.lt_of_bit (Bytes.mem_onPositions.1 mem)
  exact Nat.mod_eq_of_lt (by omega)

theorem sorted_members (short : data.length ≤ 32) :
    (ofBytes data).members.Pairwise (· < ·) := by
  have sorted := data.sorted_onPositions
  rw [← toNat_members_of_short short, List.pairwise_map] at sorted
  exact sorted.imp UInt8.lt_iff_toNat_lt.2

theorem mem_members (short : data.length ≤ 32) {member : UInt8} :
    member ∈ (ofBytes data).members ↔ data.bit member.toNat = true := by
  rw [← Bytes.mem_onPositions, ← toNat_members_of_short short]
  exact (List.mem_map_of_injective fun _ _ => UInt8.toNat_inj.1).symm

theorem eq_of_ofBytes_eq (short : data.length ≤ 32) (length : data.length = other.length)
    (same : ofBytes data = ofBytes other) : data = other := by
  refine Bytes.eq_of_onPositions_eq length ?_
  rw [← toNat_members_of_short short, ← toNat_members_of_short (length ▸ short), same]

theorem not_sorted_members {length : Nat} (long : 32 < length) :
    ¬ (ofBytes (List.replicate length 0xFF)).members.Pairwise (· < ·) := by
  intro sorted
  have all : Bytes.onPositions (List.replicate length 0xFF) = List.range (8 * length) := by
    rw [Bytes.onPositions, List.length_replicate]
    refine List.filter_eq_self.2 fun position mem => ?_
    have inside : position / 8 < length := by
      have bound := List.mem_range.1 mem
      omega
    rw [Bytes.bit, List.getElem?_replicate, if_pos inside]
    exact (Nat.testBit_two_pow_sub_one 8 _).trans (decide_eq_true (Nat.mod_lt _ (by decide)))
  rw [ofBytes, all, List.pairwise_map] at sorted
  have first : 0 < (List.range (8 * length)).length := by
    rw [List.length_range]
    omega
  have wrapped : 256 < (List.range (8 * length)).length := by
    rw [List.length_range]
    omega
  have less := List.pairwise_iff_getElem.1 sorted 0 256 first wrapped (by decide)
  rw [List.getElem_range, List.getElem_range] at less
  exact absurd less (by decide)

end AddressBitmap

namespace Bitmap16

theorem testBit_wordOf {upper lower : UInt8} {position : Nat} (inside : position < 16) :
    (wordOf upper lower).toNat.testBit position = Bytes.bit [lower, upper] position := by
  have high := upper.toNat_lt
  have low := lower.toNat_lt
  have value : (wordOf upper lower).toNat = 2 ^ 8 * upper.toNat + lower.toNat :=
    UInt16.toNat_ofNat_of_lt' (by simp [UInt16.size]; omega)
  rw [value, Nat.testBit_two_pow_mul_add _ low]
  split
  · rename_i first
    exact (Bytes.bit_cons_of_lt lower [upper] first).symm
  · rename_i second
    obtain ⟨place, rfl⟩ := Nat.exists_eq_add_of_le (Nat.not_lt.1 second)
    have next : place < 8 := by omega
    rw [Bytes.bit_cons_add, Nat.add_sub_cancel_left, Bytes.bit_cons_of_lt upper [] next]

theorem decode_eq_of_pair (upper lower : UInt8) :
    Answer.decode [upper, lower] =
      .ok (Bitmap16.mk (AddressBitmap.ofBytes [lower, upper]).members) := by
  have same : (List.range 16).filter (wordOf upper lower).toNat.testBit =
      Bytes.onPositions [lower, upper] :=
    List.filter_congr fun _ mem => testBit_wordOf (List.mem_range.1 mem)
  exact congrArg (fun found => Except.ok (Bitmap16.mk (found.map UInt8.ofNat))) same

theorem accepted_iff (data : Bytes) :
    (∃ bitmap : Bitmap16, Answer.decode data = .ok bitmap) ↔ data.length = 2 := by
  constructor
  · rintro ⟨bitmap, ok⟩
    match data, ok with
    | [_, _], _ => rfl
  · intro length
    match data, length with
    | [upper, lower], _ => exact ⟨_, decode_eq_of_pair upper lower⟩

end Bitmap16

/-- The members of a bitmap are the positions of its bits in ascending order, modulo 256.  Up to 32
bytes they ascend themselves, and tell the bytes if their number is known; of more bytes this does not
hold.  A group bitmap is one of two bytes that are sent in the other order. -/
theorem bitmaps_read :
    (∀ data : Bytes, ∃ bitmap : AddressBitmap, Answer.decode data = .ok bitmap ∧
      bitmap.members.map UInt8.toNat = data.onPositions.map (· % 256) ∧
      (data.length ≤ 32 → bitmap.members.Pairwise (· < ·) ∧
        (∀ member, member ∈ bitmap.members ↔ data.bit member.toNat = true) ∧
        ∀ other : Bytes, other.length = data.length → Answer.decode other = .ok bitmap →
          other = data)) ∧
    (∀ length, 32 < length → ∃ (data : Bytes) (bitmap : AddressBitmap), data.length = length ∧
      Answer.decode data = .ok bitmap ∧ ¬ bitmap.members.Pairwise (· < ·)) ∧
    (∀ data : Bytes, (∃ bitmap : Bitmap16, Answer.decode data = .ok bitmap) ↔ data.length = 2) ∧
    ∀ upper lower : UInt8, ∃ members, Answer.decode [upper, lower] = .ok (Bitmap16.mk members) ∧
      Answer.decode [lower, upper] = .ok (AddressBitmap.mk members) := by
  refine ⟨fun data => ?_, fun length long => ?_, Bitmap16.accepted_iff, fun upper lower => ?_⟩
  · refine ⟨.ofBytes data, AddressBitmap.decode_eq data, AddressBitmap.toNat_members data,
      fun short => ⟨AddressBitmap.sorted_members short, fun _ => AddressBitmap.mem_members short,
        fun other length decoded => ?_⟩⟩
    rw [AddressBitmap.decode_eq] at decoded
    have same := (Except.ok.inj decoded).symm
    exact (AddressBitmap.eq_of_ofBytes_eq short length.symm same).symm
  · exact ⟨List.replicate length 0xFF, _, List.length_replicate, AddressBitmap.decode_eq _,
      AddressBitmap.not_sorted_members long⟩
  · exact ⟨_, Bitmap16.decode_eq_of_pair upper lower, AddressBitmap.decode_eq [lower, upper]⟩

/-- Three members, the last of them in the highest bit of eight bytes. -/
theorem bitmaps_read_gear :
    let data : Bytes := [0b101, 0, 0, 0, 0, 0, 0, 0x80]
    let bitmap : AddressBitmap := ⟨[0, 2, 63]⟩
    data.length ≤ 32 ∧ Answer.decode data = .ok bitmap ∧
      (∀ member, member ∈ bitmap.members ↔ data.bit member.toNat = true) ∧
      ∀ other : Bytes, other.length = 8 → Answer.decode other = .ok bitmap → other = data := by
  intro data bitmap
  obtain ⟨found, decoded, -, told⟩ := bitmaps_read.1 data
  have same : Answer.decode data = .ok bitmap := by rfl
  obtain rfl : bitmap = found := Except.ok.inj (same.symm.trans decoded)
  obtain ⟨-, member, only⟩ := told (by decide)
  exact ⟨by decide, same, member, only⟩

end LightingControl
