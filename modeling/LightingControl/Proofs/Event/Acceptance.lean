import LightingControl.Event.Decode
import LightingControl.Proofs.Numbers
/-!
# Which notifications are events

`EventType.Takes` and `EventType.fields` say which targets and which fields an event of each type
has.  A notification is refused for its code, then for its target, and then for the first field that
its payload does not reach to the end of; any other is an event.
-/

set_option autoImplicit false

namespace LightingControl

/-- A field of a payload: where it lies, and the name under which a reader reports that it is cut
off. -/
structure PayloadField where
  name : String
  offset : Nat
  width : Nat

namespace PayloadField

def stop (field : PayloadField) : Nat :=
  field.offset + field.width

def missing (payload : Bytes) (field : PayloadField) : WireError :=
  .payloadTooShort field.name field.stop payload.length payload

def check (payload : Bytes) (field : PayloadField) : Check :=
  ⟨field.stop ≤ payload.length, field.missing payload⟩

theorem holds_checks_iff {payload : Bytes} {fields : List PayloadField} :
    (∀ made ∈ fields.map (check payload), made.holds = true) ↔
      ∀ field ∈ fields, field.stop ≤ payload.length := by
  rw [List.forall_mem_map]
  exact forall₂_congr fun field _ => decide_eq_true_iff

end PayloadField

namespace EventType

def Takes : EventType → UInt16 → Prop
  | .buttonPress, target | .buttonHold, target | .absoluteInput, target | .occupancy, target =>
    64 ≤ target.toNat ∧ target.toNat ≤ 127
  | .sceneChange, target | .levelChange, target => target.toNat ≤ 79
  | .systemVariableChange, target => target.toNat ≤ 147
  | .colourChange, target => target.toNat ≤ 79 ∨ 128 ≤ target.toNat ∧ target.toNat ≤ 143
  | .profileChange, _ | .groupOccupied, _ => True

instance : (type : EventType) → (target : UInt16) → Decidable (type.Takes target)
  | .buttonPress, _ | .buttonHold, _ | .absoluteInput, _ | .occupancy, _ =>
    inferInstanceAs (Decidable (_ ∧ _))
  | .sceneChange, _ | .levelChange, _ | .systemVariableChange, _ =>
    inferInstanceAs (Decidable (_ ≤ _))
  | .colourChange, _ => inferInstanceAs (Decidable (_ ∨ _))
  | .profileChange, _ | .groupOccupied, _ => inferInstanceAs (Decidable True)

def leastLength : EventType → Nat
  | .colourChange | .groupOccupied => 0
  | .buttonPress | .buttonHold | .occupancy | .sceneChange => 1
  | .profileChange | .levelChange => 2
  | .absoluteInput => 3
  | .systemVariableChange => 5

/-- The fields that are read from a payload, in the order in which they are read. -/
def fields : EventType → List PayloadField
  | .buttonPress | .buttonHold | .occupancy | .sceneChange => [⟨"UINT8", 0, 1⟩]
  | .absoluteInput => [⟨"UINT8", 0, 1⟩, ⟨"UINT16", 1, 2⟩]
  | .systemVariableChange => [⟨"INT32", 0, 4⟩, ⟨"INT8", 4, 1⟩]
  | .profileChange => [⟨"UINT16", 0, 2⟩]
  | .levelChange => [⟨"UINT8", 1, 1⟩]
  | .colourChange | .groupOccupied => []

theorem leastLength_le_iff (type : EventType) (length : Nat) :
    type.leastLength ≤ length ↔ ∀ field ∈ type.fields, field.stop ≤ length := by
  cases type <;> simp [leastLength, fields, PayloadField.stop]
  all_goals omega

def checks (type : EventType) (target : UInt16) (payload : Bytes) : List Check :=
  ⟨type.Takes target, .invalidTarget type.text target⟩ :: type.fields.map (PayloadField.check payload)

/-- The first field that a payload does not reach to the end of. -/
def unread? (type : EventType) (payload : Bytes) : Option PayloadField :=
  type.fields.find? fun field => payload.length < field.stop

theorem unread?_isSome_iff (type : EventType) (payload : Bytes) :
    (type.unread? payload).isSome ↔ payload.length < type.leastLength := by
  rw [← Nat.not_le, leastLength_le_iff, unread?, List.find?_isSome]
  simp only [decide_eq_true_iff, Classical.not_forall, Nat.not_le, exists_prop]

theorem ofCode?_eq_some_iff {code : UInt8} {type : EventType} :
    ofCode? code = some type ↔ type.code = code := by
  constructor
  · intro known
    unfold ofCode? at known
    split at known <;> cases known <;> rfl
  · rintro rfl
    cases type <;> rfl

end EventType

namespace Address

theorem isSome_deviceNumber? (target : UInt16) :
    (deviceNumber? target).isSome ↔ 64 ≤ target.toNat ∧ target.toNat ≤ 127 := by
  unfold deviceNumber?
  split <;> simp_all [UInt16.le_iff_toNat_le]

theorem isSome_ofGearTarget? (target : UInt16) :
    (ofGearTarget? target).isSome ↔ target.toNat ≤ 79 := by
  unfold ofGearTarget?
  split
  · simp_all [UInt16.le_iff_toNat_le]
    omega
  · split <;> simp_all [UInt16.le_iff_toNat_le]

theorem isSome_ofShiftedGroup? (target : UInt16) :
    (ofShiftedGroup? target).isSome ↔ 128 ≤ target.toNat ∧ target.toNat ≤ 143 := by
  unfold ofShiftedGroup?
  split <;> simp_all [UInt16.le_iff_toNat_le]

end Address

namespace EventKind

variable {α : Type}

theorem passes_orInvalid (type : EventType) (target : UInt16) {found? : Option α} (fallback : α)
    {takes : Prop} [Decidable takes] (space : found?.isSome ↔ takes) :
    Passes (orInvalid type target found?) [⟨takes, .invalidTarget type.text target⟩]
      (found?.getD fallback) := by
  cases found? with
  | none =>
    have outside : ¬ takes := fun inside => Bool.false_ne_true (space.2 inside)
    simp [Passes, orInvalid, passing, outside]
  | some found => simp [Passes, orInvalid, passing, space.1 rfl]

theorem passes_quoting (name : String) (width : Nat) (payload : Bytes) (offset : Nat)
    (make : Bytes → α) :
    Passes (quoting payload ((Field.slice name width payload offset).map make))
      [PayloadField.check payload ⟨name, offset, width⟩]
      (make ((payload.drop offset).take width)) := by
  unfold Passes
  rw [Field.passes_map]
  by_cases inside : offset + width ≤ payload.length <;>
    simp [passing, Field.reaches, PayloadField.check, PayloadField.missing, PayloadField.stop,
      inside, quoting, WireError.withRaw]

theorem passes_readInput (type : EventType) (target : UInt16) (payload : Bytes) :
    Passes (readInput type target payload)
      [⟨64 ≤ target.toNat ∧ target.toNat ≤ 127, .invalidTarget type.text target⟩,
        PayloadField.check payload ⟨"UINT8", 0, 1⟩]
      ((Address.deviceNumber? target).getD 0,
        UInt8.ofNat (Bytes.value ((payload.drop 0).take 1))) :=
  (passes_orInvalid type target 0 (Address.isSome_deviceNumber? target)).bind
    ((passes_quoting _ _ payload _ _).last _)

theorem passes_colourChange (target : UInt16) (payload : Bytes) :
    ∃ found, Passes (read .colourChange target payload)
      (EventType.colourChange.checks target payload) found := by
  have gears := Address.isSome_ofGearTarget? target
  have groups := Address.isSome_ofShiftedGroup? target
  unfold read
  cases source : Address.ofGearTarget? target with
  | some address =>
    rw [source] at gears
    have takes : EventType.colourChange.Takes target := .inl (gears.1 rfl)
    refine ⟨(.colourChange address (Colour.decode payload).toOption, []), ?_⟩
    simp [Passes, EventType.checks, EventType.fields, passing, takes]
  | none =>
    rw [source] at gears
    cases shifted : Address.ofShiftedGroup? target with
    | some address =>
      rw [shifted] at groups
      have takes : EventType.colourChange.Takes target := .inr (groups.1 rfl)
      refine ⟨(.colourChange address (Colour.decode payload).toOption, [.shiftedGroup target]), ?_⟩
      simp [Passes, EventType.checks, EventType.fields, passing, takes]
    | none =>
      rw [shifted] at groups
      have outside : ¬ EventType.colourChange.Takes target := by
        rintro (gear | group)
        · exact Bool.false_ne_true (gears.2 gear)
        · exact Bool.false_ne_true (groups.2 group)
      refine ⟨(.colourChange .controller none, []), ?_⟩
      simp [Passes, EventType.checks, passing, outside]

/-- An event of a type is read with the checks of its target and then of its fields. -/
theorem passes_read (type : EventType) (target : UInt16) (payload : Bytes) :
    ∃ found, Passes (read type target payload) (type.checks target payload) found := by
  cases type with
  | buttonPress | buttonHold | occupancy => exact ⟨_, (passes_readInput _ target payload).last _⟩
  | absoluteInput =>
    exact ⟨_, (passes_readInput _ target payload).bind ((passes_quoting _ _ payload _ _).last _)⟩
  | sceneChange | levelChange =>
    exact ⟨_, (passes_orInvalid _ target .controller (Address.isSome_ofGearTarget? target)).bind
      ((passes_quoting _ _ payload _ _).last _)⟩
  | systemVariableChange =>
    exact ⟨_, .guarded Nat.not_lt.symm
      ((passes_quoting _ _ payload _ _).bind ((passes_quoting _ _ payload _ _).last _))⟩
  | colourChange => exact passes_colourChange target payload
  | profileChange => exact ⟨_, (passes_quoting _ _ payload _ _).last _⟩
  | groupOccupied => exact ⟨_, rfl⟩

end EventKind

namespace Event

variable {notification : Notification}

theorem decode_of_unknown (unknown : ∀ type : EventType, type.code ≠ notification.code)
    (source : Endpoint) :
    decode notification source =
      .error (.unknownEvent notification.code notification.target) := by
  have none : EventType.ofCode? notification.code = none :=
    Option.eq_none_iff_forall_ne_some.2 fun type known =>
      unknown type (EventType.ofCode?_eq_some_iff.1 known)
  simp only [decode, read, none]
  rfl

theorem passes_decode {type : EventType} (known : type.code = notification.code)
    (source : Endpoint) :
    ∃ event, Passes (decode notification source)
      (type.checks notification.target notification.payload) event := by
  obtain ⟨⟨kind, warnings⟩, passes⟩ :=
    EventKind.passes_read type notification.target notification.payload
  have whole : Passes (read notification source)
      (type.checks notification.target notification.payload)
      (⟨⟨source, some notification.mac⟩, notification.target, kind⟩, warnings) := by
    simp only [read, EventType.ofCode?_eq_some_iff.2 known]
    exact passes.last _
  exact ⟨_, whole.map (·.1)⟩

theorem decode_eq_ok_iff_of_known {type : EventType} (known : type.code = notification.code)
    (source : Endpoint) :
    (∃ event, decode notification source = .ok event) ↔
      type.Takes notification.target ∧ type.leastLength ≤ notification.payload.length := by
  obtain ⟨event, passes⟩ := passes_decode known source
  rw [passes, type.leastLength_le_iff, ← PayloadField.holds_checks_iff]
  simp only [passing_eq_ok_iff, EventType.checks, List.forall_mem_cons, decide_eq_true_iff,
    exists_and_left, exists_eq', and_true]

theorem decode_of_outside {type : EventType} (known : type.code = notification.code)
    (source : Endpoint) (outside : ¬ type.Takes notification.target) :
    decode notification source = .error (.invalidTarget type.text notification.target) := by
  obtain ⟨event, passes⟩ := passes_decode known source
  rw [passes, EventType.checks, passing, if_neg (by simp [outside])]

theorem decode_of_short {type : EventType} (known : type.code = notification.code)
    (source : Endpoint) (takes : type.Takes notification.target)
    (short : notification.payload.length < type.leastLength) :
    ∃ field, type.unread? notification.payload = some field ∧
      notification.payload.length < field.stop ∧
      decode notification source = .error (field.missing notification.payload) := by
  obtain ⟨event, passes⟩ := passes_decode known source
  obtain ⟨field, found⟩ := Option.isSome_iff_exists.1 ((type.unread?_isSome_iff _).2 short)
  obtain ⟨beyond, early, late, fields, before⟩ := List.find?_eq_some_iff_append.1 found
  have reached : ∀ earlier ∈ early, earlier.stop ≤ notification.payload.length :=
    fun earlier member => by simpa using before earlier member
  refine ⟨field, found, of_decide_eq_true beyond, ?_⟩
  rw [passes, EventType.checks, passing, if_pos (decide_eq_true takes), fields, List.map_append,
    List.map_cons]
  exact passing_of_fails event _ (field.check _) _ (PayloadField.holds_checks_iff.2 reached)
    (decide_eq_false (Nat.not_le.2 (of_decide_eq_true beyond)))

/-- A notification is an event exactly if its code is that of a type which takes its target, and its
payload has the least length of that type.  Any other is refused for its code, for its target, or
for the first field that its payload does not reach to the end of. -/
theorem decoded_exactly (notification : Notification) (source : Endpoint) :
    ((∃ type : EventType, type.code = notification.code) ↔ notification.code ∈
      ([0x00, 0x01, 0x02, 0x05, 0x06, 0x07, 0x08, 0x09, 0x0A, 0x0B] : List UInt8)) ∧
    ((∃ event, decode notification source = .ok event) ↔
      ∃ type : EventType, type.code = notification.code ∧ type.Takes notification.target ∧
        type.leastLength ≤ notification.payload.length) ∧
    ((∀ type : EventType, type.code ≠ notification.code) →
      decode notification source =
        .error (.unknownEvent notification.code notification.target)) ∧
    ∀ type : EventType, type.code = notification.code →
      (¬ type.Takes notification.target →
        decode notification source = .error (.invalidTarget type.text notification.target)) ∧
      (type.Takes notification.target → notification.payload.length < type.leastLength →
        ∃ field, type.unread? notification.payload = some field ∧
          notification.payload.length < field.stop ∧
          decode notification source =
            .error (.payloadTooShort field.name field.stop notification.payload.length
              notification.payload)) := by
  refine ⟨?_, ?_, fun unknown => decode_of_unknown unknown source,
    fun type known => ⟨decode_of_outside known source, decode_of_short known source⟩⟩
  · constructor
    · rintro ⟨type, known⟩
      rw [← known]
      cases type <;> decide
    · intro member
      have known : ∀ code ∈ EventType.all.map EventType.code,
          ∃ type : EventType, type.code = code :=
        fun code member => (List.mem_map.1 member).imp fun type coded => coded.2
      exact known _ member
  · constructor
    · rintro ⟨event, decoded⟩
      by_cases supported : ∃ type : EventType, type.code = notification.code
      · obtain ⟨type, known⟩ := supported
        exact ⟨type, known, (decode_eq_ok_iff_of_known known source).1 ⟨event, decoded⟩⟩
      · rw [decode_of_unknown (not_exists.1 supported)] at decoded
        cases decoded
    · rintro ⟨type, known, accepted⟩
      exact (decode_eq_ok_iff_of_known known source).2 accepted

end Event

end LightingControl
