import LightingControl.Answer.Controller
import LightingControl.Answer.Input
import LightingControl.Proofs.Colours
import LightingControl.Proofs.Records
import Mathlib.Data.Nat.Bitwise
/-!
# Answers that are lists of records

Profiles, their numbers, the inputs of a device and the colours of scenes are answered as records of
one length, one after the other, behind a header or from the first byte on.  A `RecordLayout` says
how, and `RecordLayout.Followed` that the decoder of the answers keeps to it.
-/

set_option autoImplicit false

namespace LightingControl

/-- How answers of a type hold records. -/
structure RecordLayout (α ρ : Type) where
  header : Nat
  size : Nat
  records : α → List ρ
  /-- The answer with other records in place of its own. -/
  withRecords : α → List ρ → α
  Sent : ρ → Bytes → Prop

namespace RecordLayout

variable {α ρ : Type}

def recordAt (layout : RecordLayout α ρ) (data : Bytes) (index : Nat) : Bytes :=
  (data.drop (layout.header + layout.size * index)).take layout.size

variable [Answer α]

/-- The decoder of the answers keeps to the layout. -/
structure Followed (layout : RecordLayout α ρ) : Prop where
  counted : ∀ data : Bytes, layout.header ≤ data.length → ∃ answer : α,
    Answer.decode data = .ok answer ∧
      (layout.records answer).length = (data.length - layout.header) / layout.size
  /-- A record depends on its own bytes alone, and not on where they stand. -/
  own : ∀ (data other : Bytes) (answer another : α) (index position : Nat),
    layout.header ≤ data.length → layout.header ≤ other.length →
    Answer.decode data = .ok answer → Answer.decode other = .ok another →
    index < (layout.records answer).length → position < (layout.records another).length →
    layout.recordAt data index = layout.recordAt other position →
    (layout.records answer)[index]? = (layout.records another)[position]?
  rest_ignored : ∀ data rest : Bytes, layout.header ≤ data.length →
    layout.size ∣ data.length - layout.header → rest.length < layout.size →
    (Answer.decode (data ++ rest) : Except WireError α) = Answer.decode data
  appended : ∀ (data head more : Bytes) (answer added : α),
    layout.header ≤ data.length → layout.size ∣ data.length - layout.header →
    Answer.decode data = .ok answer →
    head.length = layout.header → Answer.decode (head ++ more) = .ok added →
    Answer.decode (data ++ more) =
      .ok (layout.withRecords answer (layout.records answer ++ layout.records added))
  read_back : ∀ (head : Bytes) (records : List ρ) (sent : List Bytes) (rest : Bytes),
    head.length = layout.header → List.Forall₂ layout.Sent records sent →
    rest.length < layout.size → ∃ answer : α,
      Answer.decode (head ++ sent.flatten ++ rest) = .ok answer ∧ layout.records answer = records

/-- A decoder that reads the header, and then each record by itself. -/
structure ReadBy (layout : RecordLayout α ρ) (read? : Bytes → Option ρ) : Prop where
  positive : 0 < layout.size
  records_withRecords : ∀ front found, layout.records (layout.withRecords front found) = found
  withRecords_again : ∀ front found other,
    layout.withRecords (layout.withRecords front found) other = layout.withRecords front other
  decoded : ∀ head : Bytes, head.length = layout.header → ∃ front : α, ∀ more : Bytes,
    Answer.decode (head ++ more) =
      .ok (layout.withRecords front ((Bytes.records layout.size more).filterMap read?))
  total : ∀ record : Bytes, record.length = layout.size → (read? record).isSome
  reads : ∀ record bytes, layout.Sent record bytes →
    bytes.length = layout.size ∧ read? bytes = some record

namespace ReadBy

variable {layout : RecordLayout α ρ} {read? : Bytes → Option ρ}

theorem decoded_append (reader : layout.ReadBy read?) {data : Bytes}
    (enough : layout.header ≤ data.length) : ∃ front : α,
    Answer.decode data = .ok (layout.withRecords front
      ((Bytes.records layout.size (data.drop layout.header)).filterMap read?)) ∧
    ∀ more : Bytes, Answer.decode (data ++ more) = .ok (layout.withRecords front
      ((Bytes.records layout.size (data.drop layout.header ++ more)).filterMap read?)) := by
  obtain ⟨front, decoded⟩ := reader.decoded (data.take layout.header)
    (List.length_take_of_le enough)
  refine ⟨front, ?_, fun more => ?_⟩
  · rw [← decoded, List.take_append_drop]
  · rw [← decoded, ← List.append_assoc, List.take_append_drop]

theorem records_eq (reader : layout.ReadBy read?) {data : Bytes} {answer : α}
    (enough : layout.header ≤ data.length) (ok : Answer.decode data = .ok answer) :
    layout.records answer =
      (Bytes.records layout.size (data.drop layout.header)).filterMap read? := by
  obtain ⟨front, alone, -⟩ := reader.decoded_append enough
  rw [ok] at alone
  rw [Except.ok.inj alone, reader.records_withRecords]

theorem length_records (reader : layout.ReadBy read?) {data : Bytes} {answer : α}
    (enough : layout.header ≤ data.length) (ok : Answer.decode data = .ok answer) :
    (layout.records answer).length = (data.length - layout.header) / layout.size := by
  rw [reader.records_eq enough ok, (Bytes.forall₂_records reader.total _).length_eq,
    Bytes.length_records reader.positive, List.length_drop]

theorem read?_recordAt (reader : layout.ReadBy read?) {data : Bytes} {answer : α} {index : Nat}
    (enough : layout.header ≤ data.length) (ok : Answer.decode data = .ok answer)
    (inside : index < (layout.records answer).length) :
    (layout.records answer)[index]? = read? (layout.recordAt data index) := by
  have all := Bytes.forall₂_records reader.total (data.drop layout.header)
  rw [← reader.records_eq enough ok] at all
  have room := all.length_eq ▸ inside
  have reads := all.get inside room
  simp only [List.get_eq_getElem, Bytes.getElem_records, List.drop_drop] at reads
  rw [List.getElem?_eq_getElem inside, recordAt, reads]

/-- At the boundary of a record, what is appended is read by itself. -/
theorem decoded_at_boundary (reader : layout.ReadBy read?) {data : Bytes} {answer : α}
    (enough : layout.header ≤ data.length) (boundary : layout.size ∣ data.length - layout.header)
    (ok : Answer.decode data = .ok answer) (more : Bytes) :
    Answer.decode (data ++ more) = .ok (layout.withRecords answer
      (layout.records answer ++ (Bytes.records layout.size more).filterMap read?)) := by
  obtain ⟨front, alone, decoded⟩ := reader.decoded_append enough
  have found := reader.records_eq enough ok
  rw [ok] at alone
  rw [← List.length_drop] at boundary
  rw [decoded, Bytes.records_append reader.positive boundary, List.filterMap_append, ← found,
    Except.ok.inj alone, reader.withRecords_again]

theorem followed (reader : layout.ReadBy read?) : layout.Followed where
  counted data enough := by
    obtain ⟨front, alone, -⟩ := reader.decoded_append enough
    exact ⟨_, alone, reader.length_records enough alone⟩
  own data other answer another index position enough enough' ok ok' inside inside' same := by
    rw [reader.read?_recordAt enough ok inside, reader.read?_recordAt enough' ok' inside', same]
  rest_ignored data rest enough boundary short := by
    obtain ⟨front, alone, -⟩ := reader.decoded_append enough
    rw [reader.decoded_at_boundary enough boundary alone, Bytes.records_of_short short,
      List.filterMap_nil, List.append_nil, reader.records_withRecords, reader.withRecords_again, alone]
  appended data head more answer added enough boundary ok length ok' := by
    have behind := reader.records_eq (by simp [length]) ok'
    rw [List.drop_left' length] at behind
    rw [reader.decoded_at_boundary enough boundary ok, behind]
  read_back head records sent rest length written short := by
    obtain ⟨front, decoded⟩ := reader.decoded head length
    have read := Bytes.filterMap_sent reader.positive (written.imp reader.reads) short
    refine ⟨_, ?_, reader.records_withRecords front records⟩
    rw [List.append_assoc, decoded, read]

end ReadBy

end RecordLayout

def ProfilePriority.number : ProfilePriority → Nat
  | .scheduled => 0
  | .medium => 1
  | .high => 2
  | .emergency => 3

/-- A profile is sent as its number and a behaviour byte: the lowest bit disables it, the next two
are its priority, and the others say nothing. -/
def ProfileEntry.Sent (entry : ProfileEntry) (bytes : Bytes) : Prop :=
  ∃ (behaviour : UInt8) (spare : Nat), bytes = wordBytes entry.number ++ [behaviour] ∧
    behaviour.toNat = (!entry.enabled).toNat + 2 * entry.priority.number + 8 * spare

inductive InputKind.Sent : InputKind → UInt8 → Prop
  | pushButton : Sent .pushButton 0x01
  | absoluteInput : Sent .absoluteInput 0x02
  | occupancySensor : Sent .occupancySensor 0x03
  | lightSensor : Sent .lightSensor 0x04
  | generalSensor : Sent .generalSensor 0x06
  | other {code : UInt8} (unlisted : code ∉ ([0x01, 0x02, 0x03, 0x04, 0x06] : List UInt8)) :
    Sent (.other code) code

/-- An input is sent as its number, its kind, a state byte and one more byte.  Of the state, the
lowest bit is an error, the next one activity, and the others say nothing. -/
def InputInfo.Sent (input : InputInfo) (bytes : Bytes) : Prop :=
  ∃ (kind state unused : UInt8) (spare : Nat), bytes = [input.number, kind, state, unused] ∧
    input.kind.Sent kind ∧ state.toNat = input.error.toNat + 2 * input.active.toNat + 4 * spare

/-- The colour of a scene is sent in seven bytes, padded behind its own; in place of a colour stand
seven bytes of a type that no colour has. -/
def sceneColourSent : Option Colour → Bytes → Prop
  | some colour, bytes => colour.encode <+: bytes ∧ bytes.length = 7
  | none, bytes => ∃ code rest, bytes = code :: rest ∧ rest.length = 6 ∧ Colour.IsStrange code

def ProfileInfo.layout : RecordLayout ProfileInfo ProfileEntry where
  header := 12
  size := 3
  records := ProfileInfo.profiles
  withRecords info profiles := { info with profiles }
  Sent := ProfileEntry.Sent

def ProfileNumbers.layout : RecordLayout ProfileNumbers UInt16 where
  header := 0
  size := 2
  records := ProfileNumbers.numbers
  withRecords _ numbers := ⟨numbers⟩
  Sent number bytes := bytes = wordBytes number

def Inputs.layout : RecordLayout Inputs InputInfo where
  header := 0
  size := 4
  records := Inputs.inputs
  withRecords _ inputs := ⟨inputs⟩
  Sent := InputInfo.Sent

def SceneColours.layout : RecordLayout SceneColours (Option Colour) where
  header := 0
  size := 7
  records := SceneColours.colours
  withRecords _ colours := ⟨colours⟩
  Sent := sceneColourSent

theorem mask_ne_zero_eq (index : Nat) {mask : UInt8} (single : mask.toNat = 2 ^ index)
    (byte : UInt8) : (byte &&& mask != 0) = byte.toNat.testBit index := by
  have value : (byte &&& mask).toNat = (byte.toNat.testBit index).toNat * 2 ^ index := by
    rw [UInt8.toNat_and, single, Nat.and_two_pow]
  have positive := Nat.two_pow_pos index
  rw [Bool.eq_iff_iff, bne_iff_ne, Ne, ← UInt8.toNat_inj, value]
  cases byte.toNat.testBit index <;> simp

theorem testBit_zero_add (bit : Bool) (rest : Nat) : (bit.toNat + 2 * rest).testBit 0 = bit := by
  rw [Nat.testBit_zero]
  cases bit <;> simp

theorem testBit_succ_add (bit : Bool) (rest index : Nat) :
    (bit.toNat + 2 * rest).testBit (index + 1) = rest.testBit index := by
  have small := bit.toNat_le
  have half : (bit.toNat + 2 * rest) / 2 = rest := by omega
  rw [Nat.testBit_succ, half]

theorem ProfilePriority.ofBits_eq {behaviour : UInt8} {priority : ProfilePriority}
    (bits : behaviour.toNat / 2 % 4 = priority.number) : ofBits (behaviour >>> 1) = priority := by
  have masked : behaviour >>> 1 &&& 0x03 = UInt8.ofNat priority.number := by
    rw [← bits, ← UInt8.toNat_inj, UInt8.toNat_and, UInt8.toNat_shiftRight]
    change behaviour.toNat >>> 1 &&& 2 ^ 2 - 1 = _
    rw [Nat.and_two_pow_sub_one_eq_mod, Nat.shiftRight_one, UInt8.toNat_ofNat']
    omega
  rw [ofBits, masked]
  cases priority <;> rfl

theorem ProfileEntry.ofRecord?_of_sent {entry : ProfileEntry} {bytes : Bytes}
    (sent : entry.Sent bytes) : bytes.length = 3 ∧ ofRecord? bytes = some entry := by
  obtain ⟨behaviour, spare, rfl, bits⟩ := sent
  have disabled : (behaviour &&& 0x01 != 0) = !entry.enabled := by
    have split : behaviour.toNat =
        (!entry.enabled).toNat + 2 * (entry.priority.number + 4 * spare) := by omega
    rw [mask_ne_zero_eq 0 rfl, split, testBit_zero_add]
  have enabled : (behaviour &&& 0x01 == 0) = entry.enabled := Bool.not_inj disabled
  have priority : .ofBits (behaviour >>> 1) = entry.priority := by
    have single := (!entry.enabled).toNat_le
    have double : entry.priority.number < 4 := by cases entry.priority <;> decide
    exact ProfilePriority.ofBits_eq (by omega)
  refine ⟨rfl, ?_⟩
  change some (ProfileEntry.mk (wordOf (upperByte entry.number) (lowerByte entry.number)) _ _) = _
  rw [wordOf_upperByte_lowerByte, enabled, priority]

theorem profileNumber?_wordBytes (number : UInt16) :
    profileNumber? (wordBytes number) = some number :=
  congrArg some (wordOf_upperByte_lowerByte number)

theorem InputKind.ofByte_of_sent {kind : InputKind} {byte : UInt8} (sent : kind.Sent byte) :
    ofByte byte = kind := by
  cases sent with
  | other unlisted =>
    unfold ofByte
    split
    case h_6 => rfl
    all_goals exact absurd (by decide) unlisted
  | _ => rfl

theorem InputInfo.ofRecord?_of_sent {input : InputInfo} {bytes : Bytes}
    (sent : input.Sent bytes) : bytes.length = 4 ∧ ofRecord? bytes = some input := by
  obtain ⟨kind, state, unused, spare, rfl, named, bits⟩ := sent
  have split : state.toNat = input.error.toNat + 2 * (input.active.toNat + 2 * spare) := by omega
  have error : (state &&& 0x01 != 0) = input.error := by
    rw [mask_ne_zero_eq 0 rfl, split, testBit_zero_add]
  have active : (state &&& 0x02 != 0) = input.active := by
    rw [mask_ne_zero_eq 1 rfl, split, testBit_succ_add, testBit_zero_add]
  refine ⟨rfl, ?_⟩
  change some (InputInfo.mk input.number (.ofByte kind) _ _) = _
  rw [InputKind.ofByte_of_sent named, error, active]

theorem Colour.toOption_decode_of_sent {colour : Option Colour} {bytes : Bytes}
    (sent : sceneColourSent colour bytes) :
    bytes.length = 7 ∧ (decode bytes).toOption = colour := by
  cases colour with
  | none =>
    obtain ⟨code, rest, rfl, length, strange⟩ := sent
    have refused : Refused (code :: rest) (.unknownColourType code) := .strange strange
    exact ⟨congrArg (· + 1) length, by rw [decode_eq_error_iff.2 refused]; rfl⟩
  | some colour =>
    obtain ⟨⟨padding, rfl⟩, length⟩ := sent
    exact ⟨length, by rw [decode_append (.inr length)]; rfl⟩

theorem ProfileInfo.decode_append {head : Bytes} (length : head.length = 12) :
    ∃ front : ProfileInfo, ∀ more : Bytes, decode (head ++ more) =
      .ok { front with profiles := (Bytes.records 3 more).filterMap ProfileEntry.ofRecord? } := by
  obtain ⟨current, current_eq⟩ := Field.uint16_append head 0 (by omega)
  obtain ⟨planned, planned_eq⟩ := Field.uint16_append head 2 (by omega)
  obtain ⟨overridden, overridden_eq⟩ := Field.uint32_append head 4 (by omega)
  obtain ⟨scheduled, scheduled_eq⟩ := Field.uint32_append head 8 (by omega)
  refine ⟨⟨current, planned, overridden, scheduled, []⟩, fun more => ?_⟩
  have enough : ¬ (head ++ more).length < profileHeaderLength := by
    rw [List.length_append, profileHeaderLength]
    omega
  rw [decode, if_neg enough, current_eq, planned_eq, overridden_eq, scheduled_eq,
    profileHeaderLength, List.drop_left' length]
  rfl

theorem RecordLayout.decoded_of_headerless {α ρ : Type} [Answer α] {layout : RecordLayout α ρ}
    {read : Bytes → List ρ} (headerless : layout.header = 0) (front : α)
    (decoded : ∀ data : Bytes, Answer.decode data = .ok (layout.withRecords front (read data)))
    (head : Bytes) (length : head.length = layout.header) :
    ∃ front : α, ∀ more : Bytes,
      Answer.decode (head ++ more) = .ok (layout.withRecords front (read more)) := by
  rw [headerless] at length
  rw [List.eq_nil_of_length_eq_zero length]
  exact ⟨front, decoded⟩

theorem ProfileInfo.readBy : layout.ReadBy ProfileEntry.ofRecord? where
  positive := by decide
  records_withRecords _ _ := rfl
  withRecords_again _ _ _ := rfl
  decoded _ := decode_append
  total record length := by
    match record, length with
    | [_, _, _], _ => rfl
  reads _ _ := ProfileEntry.ofRecord?_of_sent

theorem ProfileNumbers.readBy : layout.ReadBy profileNumber? where
  positive := by decide
  records_withRecords _ _ := rfl
  withRecords_again _ _ _ := rfl
  decoded := RecordLayout.decoded_of_headerless rfl ⟨[]⟩ fun _ => rfl
  total record length := by
    match record, length with
    | [_, _], _ => rfl
  reads number bytes sent := by
    obtain rfl : bytes = wordBytes number := sent
    exact ⟨rfl, profileNumber?_wordBytes number⟩

theorem Inputs.readBy : layout.ReadBy InputInfo.ofRecord? where
  positive := by decide
  records_withRecords _ _ := rfl
  withRecords_again _ _ _ := rfl
  decoded := RecordLayout.decoded_of_headerless rfl ⟨[]⟩ fun _ => rfl
  total record length := by
    match record, length with
    | [_, _, _, _], _ => rfl
  reads _ _ := InputInfo.ofRecord?_of_sent

theorem SceneColours.readBy :
    layout.ReadBy fun record => some (Colour.decode record).toOption where
  positive := by decide
  records_withRecords _ _ := rfl
  withRecords_again _ _ _ := rfl
  decoded := RecordLayout.decoded_of_headerless rfl ⟨[]⟩ fun _ =>
    congrArg (fun colours => Except.ok (SceneColours.mk colours))
      (congrFun List.filterMap_eq_map _).symm
  total _ _ := rfl
  reads colour bytes sent := by
    obtain ⟨length, same⟩ := Colour.toOption_decode_of_sent sent
    exact ⟨length, congrArg some same⟩

/-- The decoders of the answers that are lists of records keep to their layouts: of any data that
reach to the end of the header they read as many records as there are, each from its own bytes, and
give back what was sent. -/
theorem records_read :
    ProfileInfo.layout.Followed ∧ ProfileNumbers.layout.Followed ∧ Inputs.layout.Followed ∧
      SceneColours.layout.Followed :=
  ⟨ProfileInfo.readBy.followed, ProfileNumbers.readBy.followed, Inputs.readBy.followed,
    SceneColours.readBy.followed⟩

/-- Two profiles with bits in use that say nothing, and a byte that is cut off. -/
theorem records_read_two_profiles :
    let head : Bytes := [0, 2, 0, 1, 0x22, 0x33, 0x44, 0x55, 0x44, 0x55, 0x66, 0x77]
    ∃ info : ProfileInfo,
      Answer.decode (head ++ [[0, 1, 0xF8], [0x12, 2, 0x0D]].flatten ++ [0xFF]) = .ok info ∧
        info.profiles = [⟨1, true, .scheduled⟩, ⟨0x1202, false, .high⟩] := by
  intro head
  have first : ProfileEntry.Sent ⟨1, true, .scheduled⟩ [0, 1, 0xF8] := ⟨0xF8, 31, rfl, rfl⟩
  have second : ProfileEntry.Sent ⟨0x1202, false, .high⟩ [0x12, 2, 0x0D] := ⟨0x0D, 1, rfl, rfl⟩
  exact records_read.1.read_back head _ _ [0xFF] rfl (.cons first (.cons second .nil)) (by decide)

end LightingControl
