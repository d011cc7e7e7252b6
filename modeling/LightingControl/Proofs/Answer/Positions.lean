import LightingControl.Proofs.Answer.Checks
import LightingControl.Proofs.Frame.Grammar
import LightingControl.Proofs.Records
import LightingControl.Proofs.Text.Labels
/-!
# Reading answers by position

`AnswerType.decodeByPosition` reads the data of an answer through the positions of their bytes, each
check in the place where it is made; a position outside the data has no byte.  It agrees with `decode`,
so every position lies inside.  `AnswerType.Admits` says which data each type can be read from.
-/

set_option autoImplicit false

namespace LightingControl

open LightingControl.Frame (Positional byteAt bytesAt checked)

/-! ## Steps of a reader -/

section
variable {α β : Type}

theorem bind_eq_checked {read : Positional α} {result : Except WireError α}
    {next : α → Positional β} {rest : α → Except WireError β} (first : read = checked result)
    (later : ∀ value, next value = checked (rest value)) :
    (read >>= next) = checked (result >>= rest) := by
  subst first
  cases result with
  | error error => rfl
  | ok value => exact later value

theorem byteAt_eq_getD {data : Bytes} {position : Nat} (inside : position < data.length) :
    byteAt data position = pure (data.getD position 0) := by
  rw [Frame.byteAt_eq data position inside, List.getElem_eq_getD 0]

theorem bytesFrom_eq {data : Bytes} {start : Nat} (inside : start ≤ data.length) :
    bytesAt data start data.length = pure (data.drop start) := by
  rw [Frame.bytesAt_eq data start data.length inside (Nat.le_refl _), List.take_length]

theorem mapM_eq_pure {read : α → Positional β} {value : α → β} {list : List α}
    (reads : ∀ item ∈ list, read item = pure (value item)) :
    list.mapM read = pure (list.map value) := by
  induction list with
  | nil => rfl
  | cons first rest ih =>
    rw [List.mapM_cons, reads first List.mem_cons_self, pure_bind,
      ih fun item mem => reads item (List.mem_cons_of_mem _ mem), pure_bind, List.map_cons]

theorem mapM_records {size : Nat} {read : Bytes → Positional α} {read? : Bytes → Option α}
    (reads : ∀ record : Bytes, record.length = size →
      ∃ value, read? record = some value ∧ read record = pure value) (bytes : Bytes) :
    (Bytes.records size bytes).mapM read = pure ((Bytes.records size bytes).filterMap read?) := by
  fun_induction Bytes.records size bytes with
  | case1 bytes room ih =>
    obtain ⟨value, found, here⟩ := reads _ (List.length_take_of_le room.2)
    rw [List.mapM_cons, here, pure_bind, ih, pure_bind, List.filterMap_cons_some found]
  | case2 bytes full => rfl

end

namespace Field

variable {α : Type}

/-- Looks whether the field lies within the data, and then reads it byte after byte. -/
def readByPosition (name : String) (width : Nat) (make : Bytes → α) (data : Bytes) (offset : Nat) :
    Positional α := do
  if data.length < offset + width then
    throw (.payloadTooShort name (offset + width) data.length [])
  return make (← (List.range width).mapM fun i => byteAt data (offset + i))

theorem readByPosition_eq (name : String) (width : Nat) (make : Bytes → α) (data : Bytes)
    (offset : Nat) :
    readByPosition name width make data offset = checked ((slice name width data offset).map make) := by
  unfold readByPosition slice
  by_cases short : data.length < offset + width
  · rw [if_pos short, if_pos short]
    rfl
  · have bytes : (List.range width).map (fun i => data.getD (offset + i) 0) =
        (data.drop offset).take width := by
      refine List.ext_getElem (by simp; omega) fun i inside _ => ?_
      rw [List.length_map, List.length_range] at inside
      rw [List.getElem_map, List.getElem_range, List.getElem_take, List.getElem_drop]
      exact (List.getElem_eq_getD 0).symm
    have read : ((List.range width).mapM fun i => byteAt data (offset + i)) =
        pure ((data.drop offset).take width) := by
      rw [← bytes]
      exact mapM_eq_pure fun i mem => byteAt_eq_getD (by have := List.mem_range.1 mem; omega)
    rw [if_neg short, if_neg short, read]
    rfl

def uint8ByPosition : Bytes → Nat → Positional UInt8 :=
  readByPosition "UINT8" 1 fun bytes => UInt8.ofNat bytes.value

def uint16ByPosition : Bytes → Nat → Positional UInt16 :=
  readByPosition "UINT16" 2 fun bytes => UInt16.ofNat bytes.value

def int16ByPosition : Bytes → Nat → Positional Int16 :=
  readByPosition "INT16" 2 fun bytes => (UInt16.ofNat bytes.value).toInt16

def uint32ByPosition : Bytes → Nat → Positional UInt32 :=
  readByPosition "UINT32" 4 fun bytes => UInt32.ofNat bytes.value

variable (data : Bytes) (offset : Nat)

theorem uint8ByPosition_eq : uint8ByPosition data offset = checked (uint8 data offset) :=
  readByPosition_eq _ _ _ _ _

theorem uint16ByPosition_eq : uint16ByPosition data offset = checked (uint16 data offset) :=
  readByPosition_eq _ _ _ _ _

theorem int16ByPosition_eq : int16ByPosition data offset = checked (int16 data offset) :=
  readByPosition_eq _ _ _ _ _

theorem uint32ByPosition_eq : uint32ByPosition data offset = checked (uint32 data offset) :=
  readByPosition_eq _ _ _ _ _

/-- The position behind the last byte that is not a NUL. -/
def labelEnd (data : Bytes) : Nat :=
  data.length - data.reverse.findIdx (· != 0)

theorem take_labelEnd (data : Bytes) : data.take (labelEnd data) = data.trimNuls := by
  have kept : data.reverse.dropWhile (· == 0) = data.reverse.drop (data.reverse.findIdx (· != 0)) :=
    List.dropWhile_eq_drop_findIdx_not
  rw [Bytes.trimNuls, kept, List.reverse_drop, List.reverse_reverse, List.length_reverse, labelEnd]

def labelByPosition (data : Bytes) : Positional String := do
  let text ← bytesAt data 0 (labelEnd data)
  checked ((Utf8.decode text).mapError .invalidLabel)

theorem labelByPosition_eq : labelByPosition data = checked (label data) := by
  have inside : labelEnd data ≤ data.length := Nat.sub_le _ _
  rw [labelByPosition, Frame.bytesAt_eq data 0 _ (Nat.zero_le _) inside, List.drop_zero,
    take_labelEnd, pure_bind, label]
  cases Utf8.decode data.trimNuls <;> rfl

theorem uint16ByPosition_of_inside {data : Bytes} {offset : Nat} (inside : offset + 2 ≤ data.length) :
    uint16ByPosition data offset =
      pure (wordOf (data.getD offset 0) (data.getD (offset + 1) 0)) := by
  rw [uint16ByPosition_eq, uint16_eq_ok data offset inside, Frame.checked_ok,
    List.getElem_eq_getD 0, List.getElem_eq_getD 0]

theorem sized_eq_checked {name : String} {expected : Nat} {data : Bytes} {result : Except WireError α}
    {value : α} (decoded : result = (expectLength name expected data).map fun _ => value)
    {read : Positional α} (reads : data.length = expected → read = pure value) :
    (do checked (expectLength name expected data); read) = checked result := by
  rw [decoded]
  unfold expectLength
  by_cases fits : data.length = expected
  · rw [if_pos fits, reads fits]
    rfl
  · rw [if_neg fits]
    rfl

end Field

open LightingControl.Field (uint8ByPosition uint16ByPosition int16ByPosition uint32ByPosition)

namespace Colour

def channelsByPosition (code : UInt8) (data : Bytes) : Positional Colour := do
  if code = xyType then return .xy (← uint16ByPosition data 1) (← uint16ByPosition data 3)
  else if code = whiteType then return .white (← uint16ByPosition data 1)
  else
    return .channels (← byteAt data 1) (← byteAt data 2) (← byteAt data 3) (← byteAt data 4)
      (← byteAt data 5) (← byteAt data 6)

theorem Sized.channelsByPosition_eq {code : UInt8} {channels : Bytes} {exact : Nat}
    (sized : Sized code exact) (long : exact ≤ (code :: channels).length) :
    ∃ colour, ofChannels? code channels = some colour ∧
      channelsByPosition code (code :: channels) = pure colour := by
  cases sized with
  | xy =>
    match channels, long with
    | _ :: _ :: _ :: _ :: _, _ =>
      refine ⟨_, rfl, ?_⟩
      rw [channelsByPosition, if_pos (show 0x10 = xyType from rfl), Field.uint16ByPosition_eq, Field.uint16ByPosition_eq,
        Field.uint16_eq_ok _ 1 (by simp), Field.uint16_eq_ok _ 3 (by simp)]
      rfl
  | white =>
    match channels, long with
    | _ :: _ :: _, _ =>
      refine ⟨_, rfl, ?_⟩
      rw [channelsByPosition, if_neg (by decide), if_pos (show 0x20 = whiteType from rfl),
        Field.uint16ByPosition_eq, Field.uint16_eq_ok _ 1 (by simp)]
      rfl
  | channels =>
    match channels, long with
    | _ :: _ :: _ :: _ :: _ :: _ :: _, _ => exact ⟨_, rfl, rfl⟩

def decodeByPosition (data : Bytes) : Positional Colour := do
  let code ← uint8ByPosition data 0
  let some exact := encodedLength? code | throw (.unknownColourType code)
  if data.length ≠ exact ∧ data.length ≠ colourRecordLength then
    throw (.unexpectedLength "Colour" exact data.length data)
  channelsByPosition code data

theorem decodeByPosition_eq (data : Bytes) : decodeByPosition data = checked (decode data) := by
  cases data with
  | nil => rfl
  | cons code channels =>
    rw [decodeByPosition, decode_cons, Field.uint8ByPosition_eq, Field.uint8_cons, Frame.checked_ok,
      pure_bind]
    cases known : encodedLength? code with
    | none => rfl
    | some exact =>
      have sized := encodedLength?_eq_some_iff.1 known
      dsimp only
      rw [List.length_cons]
      by_cases fits : channels.length + 1 = exact ∨ channels.length + 1 = colourRecordLength
      · have long : exact ≤ (code :: channels).length :=
          fits.elim (fun same => Nat.le_of_eq same.symm) fun padded =>
            Nat.le_trans sized.le (Nat.le_of_eq padded.symm)
        obtain ⟨colour, found, read⟩ := sized.channelsByPosition_eq long
        rw [if_neg (fun refused => fits.elim refused.1 refused.2), if_pos fits, read, found]
        rfl
      · rw [if_pos (not_or.1 fits), if_neg fits]
        rfl

end Colour

def attempt {α : Type} (read : Positional α) : Positional (Option α) :=
  ExceptT.lift (read.run.map Except.toOption)

theorem attempt_checked {α : Type} (result : Except WireError α) :
    attempt (checked result) = pure result.toOption := rfl

def EventFilterPage.entryByPosition (record : Bytes) : Positional EventFilterEntry := do
  return ⟨← byteAt record 0, ← byteAt record 1, .ofBytes (← byteAt record 2) (← byteAt record 3)⟩

theorem EventFilterPage.reads_entry (record : Bytes) (whole : record.length = filterEntryLength) :
    ∃ value, entry? record = some value ∧ entryByPosition record = pure value := by
  match record, whole with
  | [_, _, _, _], _ => exact ⟨_, rfl, rfl⟩

def EventFilterPage.decodeByPosition (data : Bytes) : Positional EventFilterPage := do
  let mode ← uint8ByPosition data 0
  let listed ← bytesAt data 1 data.length
  return ⟨.ofByte mode, ← (Bytes.records filterEntryLength listed).mapM entryByPosition⟩

theorem EventFilterPage.decodeByPosition_eq (data : Bytes) :
    decodeByPosition data = checked (decode data) := by
  cases data with
  | nil => rfl
  | cons mode listed =>
    rw [decodeByPosition, Field.uint8ByPosition_eq, bytesFrom_eq (Nat.le_add_left 1 listed.length),
      decode]
    refine bind_eq_checked rfl fun byte => ?_
    rw [pure_bind, mapM_records reads_entry]
    rfl

def UnicastTarget.decodeByPosition (data : Bytes) : Positional UnicastTarget := do
  if data.length < 7 then throw (.payloadTooShort "UnicastTarget" 7 data.length data)
  let port ← uint16ByPosition data 1
  let ip := ⟨← byteAt data 3, ← byteAt data 4, ← byteAt data 5, ← byteAt data 6⟩
  return ⟨.ofByte (← byteAt data 0), ⟨ip, port⟩⟩

theorem UnicastTarget.decodeByPosition_eq (data : Bytes) :
    decodeByPosition data = checked (decode data) := by
  have decoded : decode data = passing _ [Field.atLeast "UnicastTarget" 7 data] := passes_decode data
  rw [decodeByPosition, decoded]
  by_cases short : data.length < 7
  · rw [if_pos short, passing, if_neg (by simpa [Field.atLeast] using short)]
    rfl
  · rw [if_neg short, passing, if_pos (by simpa [Field.atLeast] using short)]
    simp (disch := omega) only [Field.uint16ByPosition_of_inside, byteAt_eq_getD, pure_bind]
    rfl

def ProfileEntry.byPosition (record : Bytes) : Positional ProfileEntry := do
  return ⟨wordOf (← byteAt record 0) (← byteAt record 1), (← byteAt record 2) &&& 0x01 == 0,
    .ofBits ((← byteAt record 2) >>> 1)⟩

theorem ProfileEntry.reads_record (record : Bytes) (whole : record.length = profileEntryLength) :
    ∃ value, ofRecord? record = some value ∧ byPosition record = pure value := by
  match record, whole with
  | [_, _, _], _ => exact ⟨_, rfl, rfl⟩

def ProfileInfo.decodeByPosition (data : Bytes) : Positional ProfileInfo := do
  if data.length < profileHeaderLength then
    throw (.payloadTooShort "ProfileInfo" profileHeaderLength data.length data)
  let listed ← bytesAt data profileHeaderLength data.length
  let profiles ← (Bytes.records profileEntryLength listed).mapM ProfileEntry.byPosition
  return {
    current := ← uint16ByPosition data 0
    lastScheduled := ← uint16ByPosition data 2
    lastOverriddenUtc := ← uint32ByPosition data 4
    lastScheduledUtc := ← uint32ByPosition data 8
    profiles }

theorem ProfileInfo.decodeByPosition_eq (data : Bytes) :
    decodeByPosition data = checked (decode data) := by
  rw [decodeByPosition, decode]
  by_cases short : data.length < profileHeaderLength
  · rw [if_pos short, if_pos short]
    rfl
  · rw [if_neg short, if_neg short, bytesFrom_eq (Nat.not_lt.1 short)]
    dsimp only
    rw [pure_bind, mapM_records ProfileEntry.reads_record, pure_bind]
    exact bind_eq_checked (Field.uint16ByPosition_eq data 0) fun _ =>
      bind_eq_checked (Field.uint16ByPosition_eq data 2) fun _ =>
      bind_eq_checked (Field.uint32ByPosition_eq data 4) fun _ =>
      bind_eq_checked (Field.uint32ByPosition_eq data 8) fun _ => rfl

def profileNumberByPosition (record : Bytes) : Positional UInt16 := do
  return wordOf (← byteAt record 0) (← byteAt record 1)

theorem reads_profileNumber (record : Bytes) (whole : record.length = 2) :
    ∃ value, profileNumber? record = some value ∧ profileNumberByPosition record = pure value := by
  match record, whole with
  | [_, _], _ => exact ⟨_, rfl, rfl⟩

def InputInfo.byPosition (record : Bytes) : Positional InputInfo := do
  return ⟨← byteAt record 0, .ofByte (← byteAt record 1), (← byteAt record 2) &&& 0x02 != 0,
    (← byteAt record 2) &&& 0x01 != 0⟩

theorem InputInfo.reads_record (record : Bytes) (whole : record.length = 4) :
    ∃ value, ofRecord? record = some value ∧ byPosition record = pure value := by
  match record, whole with
  | [_, _, _, _], _ => exact ⟨_, rfl, rfl⟩

namespace AnswerType

open LightingControl.Field (atLeast expectLength reaches sized)

/-- Reads the data of an answer by position.  Where they are gone through in order, or compared as a
whole, there are no positions. -/
def decodeByPosition : (type : AnswerType) → Bytes → Positional type.form.Value
  | .byte, data => show Positional UInt8 from do
    checked (expectLength "UINT8" 1 data)
    byteAt data 0
  | .flag, data => show Positional Bool from do
    checked (expectLength "BOOL" 1 data)
    return (← byteAt data 0) != 0
  | .word, data => show Positional UInt16 from do
    checked (expectLength "UINT16" 2 data)
    uint16ByPosition data 0
  | .signedWord, data => show Positional Int16 from do
    checked (expectLength "INT16" 2 data)
    int16ByPosition data 0
  | .longNumber, data => checked (AnswerType.longNumber.decode data)
  | .label, data => Field.labelByPosition data
  | .bytes, data => checked (AnswerType.bytes.decode data)
  | .colour, data => Colour.decodeByPosition data
  | .eventMode, data => show Positional EventMode from do
    return .ofByte (← uint8ByPosition data 0)
  | .eventFilterPage, data => EventFilterPage.decodeByPosition data
  | .unicastTarget, data => UnicastTarget.decodeByPosition data
  | .version, data => show Positional Version from do
    checked (expectLength "Version" 3 data)
    return ⟨← byteAt data 0, ← byteAt data 1, ← byteAt data 2⟩
  | .profileInfo, data => ProfileInfo.decodeByPosition data
  | .profileNumbers, data => show Positional ProfileNumbers from do
    return ⟨← (Bytes.records 2 data).mapM profileNumberByPosition⟩
  | .addressBitmap, data => checked (AnswerType.addressBitmap.decode data)
  | .bitmap16, data => show Positional Bitmap16 from do
    checked (expectLength "Bitmap16" 2 data)
    let word := wordOf (← byteAt data 0) (← byteAt data 1)
    return ⟨((List.range 16).filter word.toNat.testBit).map UInt8.ofNat⟩
  | .gearStatus, data => show Positional GearStatus from do
    return ⟨← uint8ByPosition data 0⟩
  | .colourFeatures, data => show Positional ColourFeatures from do
    return .ofByte (← uint8ByPosition data 0)
  | .colourTempLimits, data => show Positional ColourTempLimits from do
    checked (expectLength "ColourTempLimits" 10 data)
    return ⟨← uint16ByPosition data 0, ← uint16ByPosition data 2, ← uint16ByPosition data 4,
      ← uint16ByPosition data 6, ← uint16ByPosition data 8⟩
  | .sceneLevels, data => checked (AnswerType.sceneLevels.decode data)
  | .sceneColours, data => show Positional SceneColours from do
    return ⟨← (Bytes.records colourRecordLength data).mapM fun record =>
      attempt (Colour.decodeByPosition record)⟩
  | .arcLevel, data => show Positional ArcLevel from do
    checked (expectLength "ArcLevel" 1 data)
    return ⟨unlessUnset (← byteAt data 0)⟩
  | .groupInfo, data => show Positional GroupInfo from do
    checked (expectLength "GroupInfo" 3 data)
    return ⟨← byteAt data 0, (← byteAt data 1) != 0, ← byteAt data 2⟩
  | .inputs, data => show Positional Inputs from do
    return ⟨← (Bytes.records 4 data).mapM InputInfo.byPosition⟩
  | .occupancyTimers, data => show Positional OccupancyTimers from do
    checked (expectLength "OccupancyTimers" 5 data)
    return ⟨← byteAt data 0, ← byteAt data 1, ← byteAt data 2, ← uint16ByPosition data 3⟩
  | .inputGroups, data => show Positional InputGroups from do
    checked (expectLength "InstanceGroups" 3 data)
    return ⟨unlessUnset (← byteAt data 0), unlessUnset (← byteAt data 1),
      unlessUnset (← byteAt data 2)⟩
  | .buttonLed, data => checked (AnswerType.buttonLed.decode data)

/-- No position lies outside the data. -/
theorem decodeByPosition_eq (type : AnswerType) (data : Bytes) :
    type.decodeByPosition data = checked (type.decode data) := by
  have head (inside : data.length = 1) : byteAt data 0 = pure (data.headD 0) := by
    rw [byteAt_eq_getD (by omega)]
    cases data <;> rfl
  cases type with
  | byte => exact Field.sized_eq_checked rfl head
  | flag => exact Field.sized_eq_checked rfl fun length => by rw [head length, pure_bind]
  | arcLevel => exact Field.sized_eq_checked rfl fun length => by rw [head length, pure_bind]
  | word => exact bind_eq_checked rfl fun _ => Field.uint16ByPosition_eq data 0
  | signedWord => exact bind_eq_checked rfl fun _ => Field.int16ByPosition_eq data 0
  | longNumber | bytes | addressBitmap | sceneLevels | buttonLed => rfl
  | label => exact Field.labelByPosition_eq data
  | colour => exact Colour.decodeByPosition_eq data
  | eventMode | gearStatus | colourFeatures =>
    exact (congrArg (· >>= _) (Field.uint8ByPosition_eq data 0)).trans (Frame.checked_bind_pure _ _)
  | eventFilterPage => exact EventFilterPage.decodeByPosition_eq data
  | unicastTarget => exact UnicastTarget.decodeByPosition_eq data
  | profileInfo => exact ProfileInfo.decodeByPosition_eq data
  | colourTempLimits =>
    exact bind_eq_checked rfl fun _ => bind_eq_checked (Field.uint16ByPosition_eq data 0) fun _ =>
      bind_eq_checked (Field.uint16ByPosition_eq data 2) fun _ =>
      bind_eq_checked (Field.uint16ByPosition_eq data 4) fun _ =>
      bind_eq_checked (Field.uint16ByPosition_eq data 6) fun _ =>
      bind_eq_checked (Field.uint16ByPosition_eq data 8) fun _ => rfl
  | version =>
    refine Field.sized_eq_checked rfl fun length => ?_
    simp (disch := omega) only [byteAt_eq_getD, pure_bind]
  | groupInfo =>
    refine Field.sized_eq_checked rfl fun length => ?_
    simp (disch := omega) only [byteAt_eq_getD, pure_bind]
  | inputGroups =>
    refine Field.sized_eq_checked rfl fun length => ?_
    simp (disch := omega) only [byteAt_eq_getD, pure_bind]
  | bitmap16 =>
    refine Field.sized_eq_checked rfl fun length => ?_
    simp (disch := omega) only [byteAt_eq_getD, pure_bind]
  | occupancyTimers =>
    refine Field.sized_eq_checked rfl fun length => ?_
    simp (disch := omega) only [Field.uint16ByPosition_of_inside, byteAt_eq_getD, pure_bind]
  | profileNumbers =>
    exact (congrArg (· >>= _) (mapM_records reads_profileNumber data)).trans (pure_bind _ _)
  | inputs =>
    exact (congrArg (· >>= _) (mapM_records InputInfo.reads_record data)).trans (pure_bind _ _)
  | sceneColours =>
    have reads : ∀ record ∈ Bytes.records colourRecordLength data,
        attempt (Colour.decodeByPosition record) = pure (Colour.decode record).toOption :=
      fun record _ => by rw [Colour.decodeByPosition_eq, attempt_checked]
    exact (congrArg (· >>= _) (mapM_eq_pure reads)).trans (pure_bind _ _)

/-! ## Data that are accepted -/

/-- The data that a value of the type is read from. -/
def Admits : AnswerType → Bytes → Prop
  | .byte, data | .flag, data | .arcLevel, data => data.length = 1
  | .word, data | .signedWord, data | .bitmap16, data => data.length = 2
  | .version, data | .inputGroups, data | .groupInfo, data => data.length = 3
  | .occupancyTimers, data => data.length = 5
  | .colourTempLimits, data => data.length = 10
  | .longNumber, data => 1 ≤ data.length ∧ data.length ≤ 8
  | .eventMode, data | .gearStatus, data | .colourFeatures, data | .eventFilterPage, data =>
    1 ≤ data.length
  | .unicastTarget, data => 7 ≤ data.length
  | .profileInfo, data => 12 ≤ data.length
  | .bytes, _ | .profileNumbers, _ | .addressBitmap, _ | .sceneLevels, _ | .sceneColours, _
  | .inputs, _ => True
  | .buttonLed, data => data = [1] ∨ data = [2]
  | .label, data => Utf8.Valid data
  | .colour, data =>
    ∃ (colour : Colour) (padding : Bytes), data = colour.encode ++ padding ∧
      (padding = [] ∨ data.length = 7)

theorem exists_decode_iff (type : AnswerType) (data : Bytes) :
    (∃ value, type.decode data = .ok value) ↔ ∀ check ∈ type.checks data, check.holds = true := by
  obtain ⟨value, passes⟩ := type.passes_decode data
  rw [passes]
  simp only [passing_eq_ok_iff, exists_and_left, exists_eq', and_true]

theorem exists_decode_iff_admits (type : AnswerType) (data : Bytes) :
    (∃ value, type.decode data = .ok value) ↔ type.Admits data := by
  cases type with
  | label => exact Field.exists_label_iff
  | colour => exact exists_congr fun _ => Colour.decode_eq_ok_iff
  | byte | flag | arcLevel | bitmap16 | version | inputGroups | groupInfo | occupancyTimers
  | longNumber | eventMode | gearStatus | colourFeatures | eventFilterPage | unicastTarget
  | buttonLed =>
    rw [exists_decode_iff, Admits]
    simp [checks, sized, reaches, atLeast, ButtonLed.told]
  | word | signedWord | colourTempLimits | profileInfo =>
    -- The reads behind the first check ask for no more than it does.
    rw [exists_decode_iff, Admits]
    simp only [checks, sized, reaches, atLeast, List.forall_mem_cons, List.not_mem_nil,
      false_imp_iff, implies_true, and_true, decide_eq_true_iff]
    omega
  | bytes | profileNumbers | addressBitmap | sceneLevels | sceneColours | inputs =>
    exact iff_of_true ⟨_, rfl⟩ trivial

/-- From which data each type of answer is read.  All that is read of them on the way lies inside. -/
theorem answers_accepted (type : AnswerType) (data : Bytes) :
    (type.decodeByPosition data).run = some (type.decode data) ∧
      ((∃ value, type.decode data = .ok value) ↔ type.Admits data) :=
  ⟨congrArg ExceptT.run (type.decodeByPosition_eq data), type.exists_decode_iff_admits data⟩

end AnswerType

end LightingControl
