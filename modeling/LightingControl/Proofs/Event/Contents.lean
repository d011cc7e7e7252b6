import LightingControl.Proofs.Colours
import LightingControl.Proofs.Event.Acceptance
import LightingControl.Proofs.Limits
/-!
# What an event says

`EventKind.Describes` relates the contents of an event to the target and the payload that carry
them.  An event is read from a notification exactly if its contents are described by it, so that
nothing but the fields of its type has a part in them.
-/

set_option autoImplicit false

namespace LightingControl

namespace Address

def IsGearTarget (address : Address) (target : UInt16) : Prop :=
  ((∃ number, address = .gear number) ∨ ∃ number, address = .group number) ∧
    address.validate = .ok address ∧ address.eventTarget = target

def IsShiftedGroup (address : Address) (target : UInt16) : Prop :=
  ∃ number, address = .group number ∧ address.validate = .ok address ∧
    number.toNat + 128 = target.toNat

theorem toUInt8_eq_iff {target : UInt16} {number : UInt8} (fits : target.toNat < 256) :
    target.toUInt8 = number ↔ number.toNat = target.toNat := by
  rw [← UInt8.toNat_inj, UInt16.toNat_toUInt8, Nat.mod_eq_of_lt fits, eq_comm]

theorem lowered_eq_iff {target offset : UInt16} {number : UInt8} (least : offset ≤ target)
    (fits : target.toNat < offset.toNat + 256) :
    (target - offset).toUInt8 = number ↔ number.toNat + offset.toNat = target.toNat := by
  have order := UInt16.le_iff_toNat_le.1 least
  rw [← UInt8.toNat_inj, UInt16.toNat_toUInt8, UInt16.toNat_sub_of_le _ _ least,
    Nat.mod_eq_of_lt (by omega)]
  omega

theorem deviceNumber?_eq_some_iff {target : UInt16} {device : UInt8} :
    deviceNumber? target = some device ↔
      device.toNat < 64 ∧ device.toNat + 64 = target.toNat := by
  unfold deviceNumber?
  split
  · rename_i inside
    have greatest : target.toNat ≤ 127 := UInt16.le_iff_toNat_le.1 inside.2
    rw [Option.some.injEq, lowered_eq_iff inside.1 (Nat.lt_of_le_of_lt greatest (by decide))]
    simp only [UInt16.reduceToNat]
    omega
  · rename_i outside
    simp only [UInt16.le_iff_toNat_le, UInt16.reduceToNat] at outside
    simp only [reduceCtorEq, false_iff]
    omega

theorem validate_gear_iff {number : UInt8} :
    (Address.gear number).validate = .ok (.gear number) ↔ number.toNat ≤ 63 := by
  simp [validate_eq_ok_iff, numbers, Argument.InRange]

theorem validate_group_iff {number : UInt8} :
    (Address.group number).validate = .ok (.group number) ↔ number.toNat ≤ 15 := by
  simp [validate_eq_ok_iff, numbers, Argument.InRange]

theorem isGearTarget_gear {number : UInt8} {target : UInt16} :
    (gear number).IsGearTarget target ↔ number.toNat ≤ 63 ∧ number.toNat = target.toNat := by
  simp only [IsGearTarget, validate_gear_iff, ← UInt16.toNat_inj]
  simp [eventTarget, wireByte]

theorem isGearTarget_group {number : UInt8} {target : UInt16} :
    (group number).IsGearTarget target ↔ number.toNat ≤ 15 ∧ number.toNat + 64 = target.toNat := by
  have wire (bound : number.toNat ≤ 15) : (group number).eventTarget.toNat = number.toNat + 64 :=
    (UInt8.toNat_toUInt16 _).trans (toNat_upper (by omega))
  simp only [IsGearTarget, validate_group_iff, ← UInt16.toNat_inj]
  constructor
  · rintro ⟨-, bound, same⟩
    exact ⟨bound, (wire bound).symm.trans same⟩
  · rintro ⟨bound, same⟩
    exact ⟨.inr ⟨_, rfl⟩, bound, (wire bound).trans same⟩

theorem ofGearTarget?_eq_some_iff {target : UInt16} {address : Address} :
    ofGearTarget? target = some address ↔ address.IsGearTarget target := by
  constructor
  · intro found
    unfold ofGearTarget? at found
    split at found
    · rename_i lower
      have greatest : target.toNat ≤ 63 := UInt16.le_iff_toNat_le.1 lower
      have same := (toUInt8_eq_iff (Nat.lt_of_le_of_lt greatest (by decide))).1 rfl
      cases found
      exact isGearTarget_gear.2 ⟨same ▸ greatest, same⟩
    · rename_i upper
      split at found
      · rename_i inside
        have greatest : target.toNat ≤ 79 := UInt16.le_iff_toNat_le.1 inside
        have least : (64 : UInt16) ≤ target := UInt16.lt_iff_toNat_lt.1 (UInt16.not_le.1 upper)
        have same := (lowered_eq_iff least (Nat.lt_of_le_of_lt greatest (by decide))).1 rfl
        cases found
        simp only [UInt16.reduceToNat] at same
        exact isGearTarget_group.2 ⟨by omega, same⟩
      · cases found
  · intro stands
    obtain ⟨⟨number, rfl⟩ | ⟨number, rfl⟩, -⟩ := id stands
    · obtain ⟨bound, same⟩ := isGearTarget_gear.1 stands
      have lower : target ≤ 63 := UInt16.le_iff_toNat_le.2 (same ▸ bound)
      rw [ofGearTarget?, if_pos lower, Option.some.injEq, Address.gear.injEq]
      exact (toUInt8_eq_iff (by omega)).2 same
    · obtain ⟨bound, same⟩ := isGearTarget_group.1 stands
      have upper : ¬ target ≤ 63 := by
        simp only [UInt16.le_iff_toNat_le, UInt16.reduceToNat]
        omega
      have inside : target ≤ 79 := by
        simp only [UInt16.le_iff_toNat_le, UInt16.reduceToNat]
        omega
      have least : (64 : UInt16) ≤ target := UInt16.lt_iff_toNat_lt.1 (UInt16.not_le.1 upper)
      rw [ofGearTarget?, if_neg upper, if_pos inside, Option.some.injEq, Address.group.injEq]
      exact (lowered_eq_iff least (by omega)).2 same

theorem ofShiftedGroup?_eq_some_iff {target : UInt16} {address : Address} :
    ofShiftedGroup? target = some address ↔ address.IsShiftedGroup target := by
  unfold ofShiftedGroup? IsShiftedGroup
  split
  · rename_i inside
    have greatest : target.toNat ≤ 143 := UInt16.le_iff_toNat_le.1 inside.2
    have fits := Nat.lt_of_le_of_lt greatest (by decide : 143 < (128 : UInt16).toNat + 256)
    rw [Option.some.injEq]
    constructor
    · rintro rfl
      have same := (lowered_eq_iff inside.1 fits).1 rfl
      refine ⟨_, rfl, validate_group_iff.2 ?_, same⟩
      simp only [UInt16.reduceToNat] at same
      omega
    · rintro ⟨number, rfl, -, same⟩
      exact congrArg group ((lowered_eq_iff inside.1 fits).2 same)
  · rename_i outside
    simp only [reduceCtorEq, false_iff]
    rintro ⟨number, rfl, valid, same⟩
    have bound := validate_group_iff.1 valid
    simp only [UInt16.le_iff_toNat_le, UInt16.reduceToNat] at outside
    omega

end Address

namespace EventKind

/-- The contents of an event, as its target and its payload carry them. -/
def Describes (target : UInt16) (payload : Bytes) : EventKind → Prop
  | .buttonPress device input | .buttonHold device input | .occupancy device input =>
    (device.toNat < 64 ∧ device.toNat + 64 = target.toNat) ∧ payload.Holds 0 1 input.toNat
  | .absoluteInput device input value =>
    (device.toNat < 64 ∧ device.toNat + 64 = target.toNat) ∧ payload.Holds 0 1 input.toNat ∧
      payload.Holds 1 2 value.toNat
  | .sceneChange address scene => address.IsGearTarget target ∧ payload.Holds 0 1 scene.toNat
  | .systemVariableChange number raw magnitude =>
    (number.toNat = target.toNat ∧ number.toNat ≤ maxSystemVariable) ∧
      payload.HoldsSigned 0 4 raw.toInt ∧ payload.HoldsSigned 4 1 magnitude.toInt
  | .colourChange address colour =>
    (address.IsGearTarget target ∨ address.IsShiftedGroup target) ∧
      ∀ found, colour = some found ↔
        ∃ padding, payload = found.encode ++ padding ∧ (padding = [] ∨ payload.length = 7)
  | .profileChange profile => payload.Holds 0 2 profile.toNat
  | .groupOccupied carried => carried = payload
  | .levelChange address level => address.IsGearTarget target ∧ payload.Holds 1 1 level.toNat

def warnings : EventType → UInt16 → List EventWarning
  | .colourChange, target =>
    if 128 ≤ target.toNat ∧ target.toNat ≤ 143 then [.shiftedGroup target] else []
  | _, _ => []

variable {α : Type}

theorem orInvalid_eq_ok_iff {type : EventType} {target : UInt16} {found? : Option α} {found : α} :
    orInvalid type target found? = .ok found ↔ found? = some found := by
  cases found? <;> simp [orInvalid]

theorem quoting_eq_ok_iff {payload : Bytes} {result : Except WireError α} {found : α} :
    quoting payload result = .ok found ↔ result = .ok found := by
  cases result <;> simp [quoting]

theorem readInput_eq_ok_iff {type : EventType} {target : UInt16} {payload : Bytes}
    {device input : UInt8} :
    readInput type target payload = .ok (device, input) ↔
      (device.toNat < 64 ∧ device.toNat + 64 = target.toNat) ∧
        payload.Holds 0 1 input.toNat := by
  simp only [readInput, bind_eq_ok_iff, orInvalid_eq_ok_iff, quoting_eq_ok_iff,
    Field.uint8_eq_ok_iff, Address.deviceNumber?_eq_some_iff]
  constructor
  · rintro ⟨_, stands, _, holds, same⟩
    cases same
    exact ⟨stands, holds⟩
  · rintro ⟨stands, holds⟩
    exact ⟨_, stands, _, holds, rfl⟩

theorem toOption_decode_eq_iff {payload : Bytes} {colour : Option Colour} :
    (Colour.decode payload).toOption = colour ↔
      ∀ found, colour = some found ↔
        ∃ padding, payload = found.encode ++ padding ∧ (padding = [] ∨ payload.length = 7) := by
  simp only [← Colour.decode_eq_ok_iff]
  have some_iff (found : Colour) :
      (Colour.decode payload).toOption = some found ↔ Colour.decode payload = .ok found := by
    cases Colour.decode payload <;> simp [Except.toOption]
  constructor
  · rintro rfl found
    exact some_iff found
  · intro same
    exact Option.ext fun found => (some_iff found).trans (same found).symm

theorem read_colourChange_eq_ok_iff {target : UInt16} {payload : Bytes} {kind : EventKind}
    {warned : List EventWarning} :
    read .colourChange target payload = .ok (kind, warned) ↔
      ∃ address, (address.IsGearTarget target ∨ address.IsShiftedGroup target) ∧
        kind = .colourChange address (Colour.decode payload).toOption ∧
        warned = warnings .colourChange target := by
  have gears := Address.isSome_ofGearTarget? target
  have groups := Address.isSome_ofShiftedGroup? target
  simp only [← Address.ofGearTarget?_eq_some_iff, ← Address.ofShiftedGroup?_eq_some_iff, warnings,
    read]
  cases direct : Address.ofGearTarget? target with
  | some address =>
    rw [direct] at gears
    have low : target.toNat ≤ 79 := gears.1 rfl
    have single : Address.ofShiftedGroup? target = none := by
      rw [← Option.not_isSome_iff_eq_none, groups]
      omega
    rw [single, if_neg (by omega)]
    simp [eq_comm]
  | none =>
    cases shifted : Address.ofShiftedGroup? target with
    | some address =>
      rw [shifted] at groups
      rw [if_pos (groups.1 rfl)]
      simp [eq_comm]
    | none => simp

variable {target : UInt16} {payload : Bytes}

theorem read_of_describes {kind : EventKind} (described : kind.Describes target payload) :
    read kind.type target payload = .ok (kind, warnings kind.type target) := by
  cases kind with
  | buttonPress device input | buttonHold device input | occupancy device input =>
    exact bind_eq_ok_iff.2 ⟨_, readInput_eq_ok_iff.2 described, rfl⟩
  | absoluteInput device input value =>
    obtain ⟨stands, holds, word⟩ := described
    exact bind_eq_ok_iff.2 ⟨_, readInput_eq_ok_iff.2 ⟨stands, holds⟩,
      bind_eq_ok_iff.2 ⟨_, quoting_eq_ok_iff.2 (Field.uint16_eq_ok_iff.2 word), rfl⟩⟩
  | sceneChange address number | levelChange address number =>
    obtain ⟨stands, holds⟩ := described
    exact bind_eq_ok_iff.2 ⟨_, orInvalid_eq_ok_iff.2 (Address.ofGearTarget?_eq_some_iff.2 stands),
      bind_eq_ok_iff.2 ⟨_, quoting_eq_ok_iff.2 (Field.uint8_eq_ok_iff.2 holds), rfl⟩⟩
  | systemVariableChange number raw magnitude =>
    obtain ⟨⟨same, bound⟩, word, byte⟩ := described
    have inside : ¬ maxSystemVariable < target.toNat := by omega
    have lower : target.toUInt8 = number :=
      (Address.toUInt8_eq_iff (same ▸ number.toNat_lt)).2 same
    refine (if_neg inside).trans (bind_eq_ok_iff.2 ⟨_, quoting_eq_ok_iff.2
      (Field.int32_eq_ok_iff.2 word), bind_eq_ok_iff.2 ⟨_, quoting_eq_ok_iff.2
        (Field.int8_eq_ok_iff.2 byte), ?_⟩⟩)
    rw [lower]
    rfl
  | colourChange address colour =>
    obtain ⟨stands, colours⟩ := described
    have decoded := toOption_decode_eq_iff.2 colours
    exact read_colourChange_eq_ok_iff.2 ⟨address, stands, by rw [decoded], rfl⟩
  | profileChange profile =>
    exact bind_eq_ok_iff.2 ⟨_, quoting_eq_ok_iff.2 (Field.uint16_eq_ok_iff.2 described), rfl⟩
  | groupOccupied carried =>
    cases described
    rfl

theorem describes_of_read {type : EventType} {kind : EventKind} {warned : List EventWarning}
    (made : read type target payload = .ok (kind, warned)) :
    kind.type = type ∧ kind.Describes target payload ∧ warned = warnings type target := by
  cases type with
  | buttonPress | buttonHold | occupancy =>
    obtain ⟨_, found, same⟩ := bind_eq_ok_iff.1 made
    cases same
    exact ⟨rfl, readInput_eq_ok_iff.1 found, rfl⟩
  | absoluteInput =>
    obtain ⟨_, found, rest⟩ := bind_eq_ok_iff.1 made
    obtain ⟨stands, holds⟩ := readInput_eq_ok_iff.1 found
    obtain ⟨_, word, same⟩ := bind_eq_ok_iff.1 rest
    cases same
    exact ⟨rfl, ⟨stands, holds, Field.uint16_eq_ok_iff.1 (quoting_eq_ok_iff.1 word)⟩, rfl⟩
  | sceneChange | levelChange =>
    obtain ⟨_, stands, rest⟩ := bind_eq_ok_iff.1 made
    obtain ⟨_, holds, same⟩ := bind_eq_ok_iff.1 rest
    cases same
    exact ⟨rfl, ⟨Address.ofGearTarget?_eq_some_iff.1 (orInvalid_eq_ok_iff.1 stands),
      Field.uint8_eq_ok_iff.1 (quoting_eq_ok_iff.1 holds)⟩, rfl⟩
  | systemVariableChange =>
    simp only [read] at made
    split at made
    · cases made
    · rename_i inside
      obtain ⟨_, word, rest⟩ := bind_eq_ok_iff.1 made
      obtain ⟨_, byte, same⟩ := bind_eq_ok_iff.1 rest
      cases same
      have bound : target.toNat ≤ maxSystemVariable := Nat.not_lt.1 inside
      have lower := (Address.toUInt8_eq_iff (Nat.lt_of_le_of_lt bound (by decide))).1 rfl
      exact ⟨rfl, ⟨⟨lower, lower ▸ bound⟩,
        Field.int32_eq_ok_iff.1 (quoting_eq_ok_iff.1 word),
        Field.int8_eq_ok_iff.1 (quoting_eq_ok_iff.1 byte)⟩, rfl⟩
  | colourChange =>
    obtain ⟨address, stands, rfl, rfl⟩ := read_colourChange_eq_ok_iff.1 made
    exact ⟨rfl, ⟨stands, toOption_decode_eq_iff.1 rfl⟩, rfl⟩
  | profileChange =>
    obtain ⟨_, word, same⟩ := bind_eq_ok_iff.1 made
    cases same
    exact ⟨rfl, Field.uint16_eq_ok_iff.1 (quoting_eq_ok_iff.1 word), rfl⟩
  | groupOccupied =>
    cases made
    exact ⟨rfl, rfl, rfl⟩

theorem read_eq_ok_iff {type : EventType} {kind : EventKind} {warned : List EventWarning} :
    read type target payload = .ok (kind, warned) ↔
      kind.type = type ∧ kind.Describes target payload ∧ warned = warnings type target := by
  refine ⟨describes_of_read, ?_⟩
  rintro ⟨rfl, described, rfl⟩
  exact read_of_describes described

/-- Bytes behind the fields have no part in an event, unless it takes the payload as a whole. -/
theorem Describes.append {kind : EventKind} (described : kind.Describes target payload)
    (notColour : kind.type ≠ .colourChange) (notGroup : kind.type ≠ .groupOccupied)
    (more : Bytes) : kind.Describes target (payload ++ more) := by
  cases kind with
  | buttonPress _ _ | buttonHold _ _ | occupancy _ _ | sceneChange _ _ | levelChange _ _ =>
    exact ⟨described.1, described.2.append more⟩
  | absoluteInput _ _ _ | systemVariableChange _ _ _ =>
    exact ⟨described.1, described.2.1.append more, described.2.2.append more⟩
  | profileChange _ => exact Bytes.Holds.append described more
  | colourChange _ _ => exact absurd rfl notColour
  | groupOccupied _ => exact absurd rfl notGroup

end EventKind

namespace Event

variable {notification : Notification} {source : Endpoint} {event : Event}

theorem read_eq_ok_iff {warned : List EventWarning} :
    read notification source = .ok (event, warned) ↔
      event.type.code = notification.code ∧ event.target = notification.target ∧
        event.controller = ⟨source, some notification.mac⟩ ∧
        event.kind.Describes notification.target notification.payload ∧
        warned = EventKind.warnings event.type notification.target := by
  constructor
  · intro made
    unfold read at made
    split at made
    · cases made
    · rename_i type known
      obtain ⟨⟨kind, warned⟩, found, same⟩ := bind_eq_ok_iff.1 made
      cases same
      obtain ⟨rfl, described, rfl⟩ := EventKind.read_eq_ok_iff.1 found
      exact ⟨EventType.ofCode?_eq_some_iff.1 known, rfl, rfl, described, rfl⟩
  · obtain ⟨controller, target, kind⟩ := event
    rintro ⟨coded, same, identity, described, rfl⟩
    cases same
    cases identity
    simp only [read, EventType.ofCode?_eq_some_iff.2 coded]
    exact bind_eq_ok_iff.2 ⟨_, EventKind.read_of_describes described, rfl⟩

theorem decode_eq_ok_iff :
    decode notification source = .ok event ↔
      read notification source =
        .ok (event, EventKind.warnings event.type notification.target) := by
  constructor
  · intro decoded
    obtain ⟨⟨_, warned⟩, made, rfl⟩ := (map_eq_ok_iff _ _ _).1 decoded
    obtain ⟨-, -, -, -, rfl⟩ := read_eq_ok_iff.1 made
    exact made
  · intro made
    rw [decode, made]
    rfl

/-- A decoded event has the type of the notification's code, its target and its origin; the contents
are the numbers that target and payload carry, and the only warning is that of a colour change whose
group is counted from 128. -/
theorem decoded_contents (decoded : decode notification source = .ok event) :
    event.type.code = notification.code ∧ event.target = notification.target ∧
      event.controller = ⟨source, some notification.mac⟩ ∧
      event.kind.Describes notification.target notification.payload ∧
      read notification source =
        .ok (event, EventKind.warnings event.type notification.target) ∧
      (event.type ≠ .colourChange → event.type ≠ .groupOccupied → ∀ more,
        decode { notification with payload := notification.payload ++ more } source =
          .ok event) := by
  have made := decode_eq_ok_iff.1 decoded
  obtain ⟨coded, target, origin, described, -⟩ := read_eq_ok_iff.1 made
  refine ⟨coded, target, origin, described, made, fun notColour notGroup more => ?_⟩
  exact decode_eq_ok_iff.2 (read_eq_ok_iff.2
    ⟨coded, target, origin, described.append notColour notGroup more, rfl⟩)

/-- A system variable with a negative value and a negative magnitude, and a byte behind them. -/
theorem decoded_contents_negative :
    let notification : Notification :=
      ⟨⟨0x02, 0, 0, 0, 0, 0x01⟩, 5, 0x07, [0xFF, 0xFF, 0xFF, 0x85, 0xFE, 0x31]⟩
    let source : Endpoint := .v4 ⟨192, 168, 1, 9⟩ 5108
    let event : Event :=
      ⟨⟨source, some notification.mac⟩, 5, .systemVariableChange 5 (-123) (-2)⟩
    decode notification source = .ok event ∧
      event.kind.Describes notification.target notification.payload ∧
      read notification source = .ok (event, []) ∧
      decode { notification with payload := notification.payload ++ [0x07] } source =
        .ok event := by
  intro notification source event
  have decoded : decode notification source = .ok event := rfl
  obtain ⟨-, -, -, described, made, appended⟩ := decoded_contents decoded
  exact ⟨decoded, described, made, appended (by decide) (by decide) _⟩

example :
    read ⟨⟨0x02, 0, 0, 0, 0, 0x01⟩, 130, 0x08, [0x20, 0x0B, 0xB8, 1, 2, 3, 4]⟩
        (.v4 ⟨192, 168, 1, 9⟩ 5108) =
      .ok (⟨⟨.v4 ⟨192, 168, 1, 9⟩ 5108, some ⟨0x02, 0, 0, 0, 0, 0x01⟩⟩, 130,
        .colourChange (.group 2) (some (.white 3000))⟩, [.shiftedGroup 130]) := rfl

end Event

end LightingControl
