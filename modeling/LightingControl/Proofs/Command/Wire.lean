import LightingControl.Command.Operation
import LightingControl.Proofs.Frame.Codec
import LightingControl.Proofs.Limits
/-!
# A request tells which operation it is for

`Operation.read` takes a request apart again: its code names the operation, and its body holds the
arguments.  A byte for a device and one for a group look alike, and are told apart because no
operation takes both.
-/

set_option autoImplicit false

namespace LightingControl

/-! ## Reading arguments -/

theorem Range.bounds_of_check {range : Range} {field : String} {value : Nat} {checked : Unit}
    (ok : range.check field value = .ok checked) : range.least ≤ value ∧ value ≤ range.greatest := by
  unfold Range.check at ok
  split at ok
  · assumption
  · cases ok

namespace Address

def ofWireByte (accepts : List TargetClass) (byte : UInt8) : Address :=
  if byte = broadcastByte then .broadcast
  else if byte < upperOffset then .gear byte
  else if accepts.contains .device then .device (byte - upperOffset)
  else .group (byte - upperOffset)

/-- The address in a byte from 64 on is not in doubt. -/
def Separate (accepts : List TargetClass) : Prop :=
  accepts.contains .device = true → accepts.contains .group = false

instance (accepts : List TargetClass) : Decidable (Separate accepts) :=
  inferInstanceAs (Decidable (_ → _))

theorem ofWireByte_gear {accepts : List TargetClass} {number : UInt8}
    (bound : number.toNat ≤ 63) : ofWireByte accepts number = .gear number := by
  have single : number ≠ broadcastByte := by
    rintro rfl
    exact absurd bound (by decide)
  have lower : number < upperOffset := UInt8.lt_iff_toNat_lt.2 (Nat.lt_succ_of_le bound)
  rw [ofWireByte, if_neg single, if_pos lower]

theorem ofWireByte_upper {accepts : List TargetClass} {number : UInt8}
    (bound : number.toNat ≤ 63) :
    ofWireByte accepts (number + upperOffset) =
      if accepts.contains .device then .device number else .group number := by
  have wire := toNat_upper bound
  have single : number + upperOffset ≠ broadcastByte := by
    intro same
    rw [same] at wire
    have byte : broadcastByte.toNat = 255 := rfl
    omega
  have upper : ¬number + upperOffset < upperOffset := by
    rw [UInt8.lt_iff_toNat_lt, wire]
    exact Nat.not_lt.2 (Nat.le_add_left 64 _)
  rw [ofWireByte, if_neg single, if_neg upper, UInt8.add_sub_cancel]

end Address

namespace Operation

theorem accepts_of_checkTarget {name : String} {accepts : List TargetClass}
    {target checked : Address} (ok : checkTarget name accepts target = .ok checked) :
    ∃ targetClass, target.class? = some targetClass ∧ accepts.contains targetClass = true ∧
      target.validate = .ok checked := by
  unfold checkTarget at ok
  split at ok
  · rename_i targetClass known
    split at ok
    · rename_i accepted
      exact ⟨targetClass, known, accepted, ok⟩
    · cases ok
  · cases ok

theorem target_of_checkTarget {name : String} {accepts : List TargetClass} {target checked : Address}
    (ok : checkTarget name accepts target = .ok checked) (separate : Address.Separate accepts) :
    checked = target ∧ Address.ofWireByte accepts target.wireByte = target := by
  obtain ⟨targetClass, known, accepted, valid⟩ := accepts_of_checkTarget ok
  -- The ranges keep gear, the bytes from 64 on and broadcast apart; `separate` settles the middle one.
  cases target with
  | gear number =>
    obtain ⟨_, inside, same⟩ := accepted_of_bind valid
    cases same
    exact ⟨rfl, Address.ofWireByte_gear (Range.bounds_of_check inside).2⟩
  | device number =>
    obtain ⟨_, inside, same⟩ := accepted_of_bind valid
    cases same
    cases known
    refine ⟨rfl, (Address.ofWireByte_upper (Range.bounds_of_check inside).2).trans ?_⟩
    rw [if_pos accepted]
  | group number =>
    obtain ⟨_, inside, same⟩ := accepted_of_bind valid
    cases same
    cases known
    have bound : number.toNat ≤ 63 := Nat.le_trans (Range.bounds_of_check inside).2 (by decide)
    refine ⟨rfl, (Address.ofWireByte_upper bound).trans (if_neg fun device => ?_)⟩
    rw [separate device] at accepted
    cases accepted
  | broadcast =>
    cases valid
    exact ⟨rfl, rfl⟩
  | controller | systemVariable _ | profile _ => cases known

theorem unlessUnset_of_check {range : Range} {field : String} {number byte : UInt8}
    (bounded : range.greatest < 0xFF)
    (ok : (do range.check field number.toNat; return number) = Except.ok byte) :
    unlessUnset byte = some number := by
  obtain ⟨_, inside, same⟩ := accepted_of_bind ok
  cases same
  obtain ⟨-, bound⟩ := Range.bounds_of_check inside
  rw [unlessUnset, if_neg]
  rintro rfl
  exact absurd (Nat.lt_of_le_of_lt bound bounded) (by decide)

theorem unlessUnset_of_inputByte {number : Option UInt8} {byte : UInt8}
    (ok : inputByte number = .ok byte) : unlessUnset byte = number := by
  cases number with
  | none =>
    cases ok
    rfl
  | some number => exact unlessUnset_of_check (by decide) ok

theorem unlessUnset_of_levelByte {level : Option UInt8} {byte : UInt8}
    (ok : levelByte level = .ok byte) : unlessUnset byte = level := by
  cases level with
  | none =>
    cases ok
    rfl
  | some level => exact unlessUnset_of_check (by decide) ok

theorem source_of_wireByte (source : Input) :
    (⟨source.address.wireByte - upperOffset, source.number⟩ : Input) = source := by
  rw [Input.address, Address.wireByte, UInt8.add_sub_cancel]

section

variable {name : String} {accepts : List TargetClass} {target : Address} {command : Command}

theorem accepted_target {make : Address → Command}
    (accepted : (do
      let target ← checkTarget name accepts target
      return make target) = Except.ok command)
    (separate : Address.Separate accepts) :
    command = make target ∧ Address.ofWireByte accepts target.wireByte = target := by
  obtain ⟨checked, ok, same⟩ := accepted_of_bind accepted
  cases same
  obtain ⟨rfl, known⟩ := target_of_checkTarget ok separate
  exact ⟨rfl, known⟩

theorem accepted_target_in_range {range : Range} {field : String} {value : Nat}
    {make : Address → Command}
    (accepted : (do
      let target ← checkTarget name accepts target
      range.check field value
      return make target) = Except.ok command)
    (separate : Address.Separate accepts) :
    command = make target ∧ Address.ofWireByte accepts target.wireByte = target := by
  obtain ⟨checked, ok, rest⟩ := accepted_of_bind accepted
  obtain ⟨_, -, same⟩ := accepted_of_bind rest
  cases same
  obtain ⟨rfl, known⟩ := target_of_checkTarget ok separate
  exact ⟨rfl, known⟩

theorem accepted_target_and_input {number : Option UInt8} {make : Address → UInt8 → Command}
    (accepted : (do
      let target ← checkTarget name accepts target
      let number ← inputByte number
      return make target number) = Except.ok command)
    (separate : Address.Separate accepts) :
    ∃ byte, command = make target byte ∧ Address.ofWireByte accepts target.wireByte = target ∧
      unlessUnset byte = number := by
  obtain ⟨checked, ok, rest⟩ := accepted_of_bind accepted
  obtain ⟨byte, given, same⟩ := accepted_of_bind rest
  cases same
  obtain ⟨rfl, known⟩ := target_of_checkTarget ok separate
  exact ⟨byte, rfl, known, unlessUnset_of_inputByte given⟩

theorem accepted_source {source : Input} {make : Input → Command}
    (accepted : (do
      let source ← source.validate
      return make source) = Except.ok command) : command = make source := by
  obtain ⟨checked, ok, same⟩ := accepted_of_bind accepted
  obtain ⟨_, -, rest⟩ := accepted_of_bind ok
  obtain ⟨_, -, unchanged⟩ := accepted_of_bind rest
  cases unchanged
  cases same
  rfl

theorem accepted_variable {index : UInt8} {make : Address → Command}
    (accepted : (do
      let target ← Address.ofSystemVariable index
      return make target) = Except.ok command) : command = make (.systemVariable index) := by
  obtain ⟨checked, ok, same⟩ := accepted_of_bind accepted
  obtain ⟨_, -, unchanged⟩ := accepted_of_bind ok
  cases unchanged
  cases same
  rfl

end

end Operation

theorem EventMode.ofByte_byte (mode : EventMode) : EventMode.ofByte mode.byte = mode := by
  obtain ⟨enabled, filtering, unicast, multicast⟩ := mode
  cases enabled <;> cases filtering <;> cases unicast <;> cases multicast <;> decide

theorem EventMask.ofBytes_upper_lower (mask : EventMask) :
    EventMask.ofBytes mask.upper mask.lower = mask := by
  rw [EventMask.ofBytes, EventMask.upper, EventMask.lower, wordOf_upperByte_lowerByte]

/-! ## Reading operations -/

namespace ControllerOperation

def ofCode? (code : UInt8) : Option ControllerOperation :=
  all.find? fun operation => operation.code = code

theorem ofCode?_code (operation : ControllerOperation) : ofCode? operation.code = some operation := by
  cases operation <;> rfl

end ControllerOperation

namespace AddressOperation

def ofCode? (code : UInt8) : Option AddressOperation :=
  all.find? fun operation => operation.code = code

theorem ofCode?_code (operation : AddressOperation) : ofCode? operation.code = some operation := by
  cases operation <;> rfl

theorem noController (operation : AddressOperation) :
    ControllerOperation.ofCode? operation.code = none := by
  cases operation <;> rfl

theorem separate (operation : AddressOperation) : Address.Separate operation.accepts := by
  cases operation <;> decide

end AddressOperation

namespace InputOperation

def ofCode? (code : UInt8) : Option InputOperation :=
  all.find? fun operation => operation.code = code

theorem ofCode?_code (operation : InputOperation) :
    ControllerOperation.ofCode? operation.code = none ∧
      AddressOperation.ofCode? operation.code = none ∧
      ofCode? operation.code = some operation := by
  cases operation <;> exact ⟨rfl, rfl, rfl⟩

end InputOperation

namespace Operation

def readArguments (code byte d0 d1 d2 : UInt8) (rest : Bytes) : Option Operation :=
  match code with
  | 0x36 => some (.setSystemVariable byte (wordOf d1 d2).toInt16)
  | 0x37 => some (.querySystemVariable byte)
  | 0x42 => some (.querySystemVariableName byte)
  | 0x08 => some (.enableEventEmit (.ofByte byte))
  | 0x31 => some (.addEventFilter (.ofWireByte filterTargets byte) (unlessUnset d0) (.ofBytes d1 d2))
  | 0x33 => some (.clearEventFilter (.ofWireByte filterTargets byte) (unlessUnset d0) (.ofBytes d1 d2))
  | 0x32 => some (.queryEventFilters (.ofWireByte filterTargets byte) (unlessUnset d2) d0)
  | 0x40 =>
    match rest with
    | [b, c, d] => some (.setUnicastTarget (some ⟨⟨d2, b, c, d⟩, wordOf d0 d1⟩))
    | _ => none
  | 0x1B => some (.querySceneLabelForGroup (.ofWireByte [.group] byte) d0)
  | 0x04 => some (.queryProfileLabel (wordOf d1 d2))
  | 0xC0 => some (.changeProfile (wordOf d1 d2))
  | 0x16 => some (.queryAddressesWithInstances d2)
  | 0x29 => some (.overrideButtonLed ⟨byte - upperOffset, d2⟩ (d1 = 2))
  | 0x0E =>
    (Colour.ofChannels? d1 (d2 :: rest)).map fun colour =>
      .setColour (.ofWireByte lightTargets byte) colour (unlessUnset d0)
  | 0xA0 => some (.inhibit (.ofWireByte lightTargets byte) (wordOf d1 d2))
  | 0xA2 => some (.arcLevel (.ofWireByte lightTargets byte) d2)
  | 0xB4 => some (.customFade (.ofWireByte [.gear, .group] byte) d0 (wordOf d1 d2))
  | 0xA1 => some (.recallScene (.ofWireByte lightTargets byte) d2)
  | _ => none

def read (code : UInt8) : Bytes → Option Operation
  | byte :: d0 :: d1 :: d2 :: rest =>
    match ControllerOperation.ofCode? code with
    | some operation => some (.controller operation)
    | none =>
      match AddressOperation.ofCode? code with
      | some operation => some (.address operation (.ofWireByte operation.accepts byte))
      | none =>
        match InputOperation.ofCode? code with
        | some operation => some (.input operation ⟨byte - upperOffset, d2⟩)
        | none => readArguments code byte d0 d1 d2 rest
  | _ => none

/-- The operation among those with the same command that is read from it. -/
def canonical : Operation → Operation
  | .setUnicastTarget none => .setUnicastTarget (some ⟨.unspecified, 0⟩)
  | .returnToScheduledProfile => .changeProfile scheduledProfile
  | operation => operation

theorem read_colour (byte level : UInt8) (colour : Colour) :
    read 0x0E (Payload.colour byte level colour).body =
      some (.setColour (.ofWireByte lightTargets byte) colour (unlessUnset level)) := by
  cases colour with
  | xy x y =>
    change some (setColour _ (.xy (wordOf (upperByte x) (lowerByte x))
      (wordOf (upperByte y) (lowerByte y))) _) = _
    rw [wordOf_upperByte_lowerByte, wordOf_upperByte_lowerByte]
  | white kelvin =>
    change some (setColour _ (.white (wordOf (upperByte kelvin) (lowerByte kelvin))) _) = _
    rw [wordOf_upperByte_lowerByte]
  | channels r g b w a f => rfl

/-- A request is read as the operation that it was made for. -/
theorem read_command {operation : Operation} {command : Command}
    (accepted : operation.command = .ok command) :
    read command.code command.body = some operation.canonical := by
  cases operation with
  | controller operation =>
    cases accepted
    simp only [read, basic, Command.body, Payload.body, ControllerOperation.ofCode?_code]
    rfl
  | address operation target =>
    obtain ⟨rfl, known⟩ := accepted_target accepted operation.separate
    simp only [read, basic, Command.body, Payload.body, operation.noController,
      AddressOperation.ofCode?_code, known]
    rfl
  | input operation source =>
    obtain rfl := accepted_source accepted
    obtain ⟨noController, noAddress, found⟩ := operation.ofCode?_code
    simp only [read, basic, Command.body, Payload.body, noController, noAddress, found,
      source_of_wireByte]
    rfl
  | setSystemVariable index value =>
    obtain rfl := accepted_variable accepted
    change some (setSystemVariable index
      (wordOf (upperByte value.toUInt16) (lowerByte value.toUInt16)).toInt16) = _
    rw [wordOf_upperByte_lowerByte]
    rfl
  | querySystemVariable index | querySystemVariableName index =>
    obtain rfl := accepted_variable accepted
    rfl
  | enableEventEmit mode =>
    cases accepted
    exact congrArg (some ∘ enableEventEmit) (EventMode.ofByte_byte mode)
  | addEventFilter target number mask =>
    obtain ⟨byte, rfl, known, given⟩ := accepted_target_and_input accepted (by decide)
    change some (addEventFilter (.ofWireByte filterTargets target.wireByte) (unlessUnset byte)
      (.ofBytes mask.upper mask.lower)) = _
    rw [known, given, EventMask.ofBytes_upper_lower]
    rfl
  | clearEventFilter target number mask =>
    obtain ⟨byte, rfl, known, given⟩ := accepted_target_and_input accepted (by decide)
    change some (clearEventFilter (.ofWireByte filterTargets target.wireByte) (unlessUnset byte)
      (.ofBytes mask.upper mask.lower)) = _
    rw [known, given, EventMask.ofBytes_upper_lower]
    rfl
  | queryEventFilters target number startAt =>
    obtain ⟨byte, rfl, known, given⟩ := accepted_target_and_input accepted (by decide)
    change some (queryEventFilters (.ofWireByte filterTargets target.wireByte) (unlessUnset byte)
      startAt) = _
    rw [known, given]
    rfl
  | setUnicastTarget endpoint =>
    cases accepted
    cases endpoint with
    | none => rfl
    | some endpoint =>
      change some (setUnicastTarget (some ⟨endpoint.ip,
        wordOf (upperByte endpoint.port) (lowerByte endpoint.port)⟩)) = _
      rw [wordOf_upperByte_lowerByte]
      rfl
  | querySceneLabelForGroup group scene =>
    obtain ⟨rfl, known⟩ := accepted_target_in_range accepted (by decide)
    exact congrArg (fun target => some (querySceneLabelForGroup target scene)) known
  | queryProfileLabel profile =>
    cases accepted
    exact congrArg (some ∘ queryProfileLabel) (wordOf_upperByte_lowerByte profile)
  | changeProfile profile =>
    cases accepted
    exact congrArg (some ∘ changeProfile) (wordOf_upperByte_lowerByte profile)
  | returnToScheduledProfile =>
    cases accepted
    rfl
  | queryAddressesWithInstances startAt =>
    obtain ⟨_, -, same⟩ := accepted_of_bind accepted
    cases same
    rfl
  | overrideButtonLed source on =>
    obtain rfl := accepted_source accepted
    have state : decide ((if on then 2 else 1 : UInt8) = 2) = on := by cases on <;> rfl
    change some (overrideButtonLed ⟨source.address.wireByte - upperOffset, source.number⟩
      (decide ((if on then 2 else 1 : UInt8) = 2))) = _
    rw [source_of_wireByte, state]
    rfl
  | setColour target colour level =>
    obtain ⟨checked, ok, rest⟩ := accepted_of_bind accepted
    obtain ⟨_, -, rest⟩ := accepted_of_bind rest
    obtain ⟨byte, given, same⟩ := accepted_of_bind rest
    cases same
    obtain ⟨rfl, known⟩ := target_of_checkTarget ok (by decide)
    refine (read_colour checked.wireByte byte colour).trans ?_
    rw [known, unlessUnset_of_levelByte given]
    rfl
  | inhibit target seconds =>
    obtain ⟨rfl, known⟩ := accepted_target accepted (by decide)
    change some (inhibit (.ofWireByte lightTargets target.wireByte)
      (wordOf (upperByte seconds) (lowerByte seconds))) = _
    rw [known, wordOf_upperByte_lowerByte]
    rfl
  | arcLevel target level =>
    obtain ⟨rfl, known⟩ := accepted_target_in_range accepted (by decide)
    exact congrArg (fun target => some (arcLevel target level)) known
  | customFade target level seconds =>
    obtain ⟨rfl, known⟩ := accepted_target_in_range accepted (by decide)
    change some (customFade (.ofWireByte [.gear, .group] target.wireByte) level
      (wordOf (upperByte seconds) (lowerByte seconds))) = _
    rw [known, wordOf_upperByte_lowerByte]
    rfl
  | recallScene target scene =>
    obtain ⟨rfl, known⟩ := accepted_target_in_range accepted (by decide)
    exact congrArg (fun target => some (recallScene target scene)) known

/-! ## Operations with the same command -/

inductive Alike : Operation → Operation → Prop where
  | same (operation : Operation) : Alike operation operation
  | noTarget : Alike (.setUnicastTarget none) (.setUnicastTarget (some ⟨.unspecified, 0⟩))
  | zeroTarget : Alike (.setUnicastTarget (some ⟨.unspecified, 0⟩)) (.setUnicastTarget none)
  | schedule : Alike .returnToScheduledProfile (.changeProfile scheduledProfile)
  | lastProfile : Alike (.changeProfile scheduledProfile) .returnToScheduledProfile

theorem command_canonical (operation : Operation) :
    operation.canonical.command = operation.command := by
  cases operation with
  | setUnicastTarget endpoint => cases endpoint <;> rfl
  | _ => rfl

theorem canonical_cases (operation : Operation) :
    operation = .setUnicastTarget none ∨ operation = .returnToScheduledProfile ∨
      operation.canonical = operation := by
  cases operation with
  | setUnicastTarget endpoint =>
    cases endpoint with
    | none => exact .inl rfl
    | some endpoint => exact .inr (.inr rfl)
  | returnToScheduledProfile => exact .inr (.inl rfl)
  | _ => exact .inr (.inr rfl)

theorem canonical_eq_iff (first second : Operation) :
    first.canonical = second.canonical ↔ Alike first second := by
  constructor
  · intro same
    obtain rfl | rfl | own := canonical_cases first <;>
      obtain rfl | rfl | other := canonical_cases second
    · exact .same _
    · cases same
    · rw [other] at same
      exact same ▸ .noTarget
    · cases same
    · exact .same _
    · rw [other] at same
      exact same ▸ .schedule
    · rw [own] at same
      exact same ▸ .zeroTarget
    · rw [own] at same
      exact same ▸ .lastProfile
    · rw [own, other] at same
      exact same ▸ .same _
  · rintro ⟨⟩ <;> rfl

theorem command_eq_iff {first second : Operation} {one other : Command}
    (accepted : first.command = .ok one) (alsoAccepted : second.command = .ok other) :
    one = other ↔ first.Alike second := by
  rw [← canonical_eq_iff]
  constructor
  · rintro rfl
    exact Option.some.inj ((read_command accepted).symm.trans (read_command alsoAccepted))
  · intro same
    rw [← command_canonical, same, command_canonical, alsoAccepted] at accepted
    exact (Except.ok.inj accepted).symm

/-- The datagram of a command tells its sequence number and the whole command, and, but for a target
of zeros and the profile that stands for the schedule, the operation with its arguments. -/
theorem wire_determines {first second : Operation} {one other : Command}
    (accepted : first.command = .ok one) (alsoAccepted : second.command = .ok other)
    (seq later : UInt8) :
    ((one.request seq).encode = (other.request later).encode ↔ seq = later ∧ one = other) ∧
      (one = other ↔ first.Alike second) := by
  have alike := command_eq_iff accepted alsoAccepted
  refine ⟨⟨fun wire => ?_, fun ⟨sameSeq, same⟩ => by rw [sameSeq, same]⟩, alike⟩
  have parsed (request : Request) : Frame.parse request.encode = .ok (.request request) :=
    (Frame.parse_eq_ok_iff _ (.request request)).2 rfl
  have request : one.request seq = other.request later := by
    have read := parsed (one.request seq)
    rw [wire, parsed] at read
    exact (Frame.request.inj (Except.ok.inj read)).symm
  have code : one.code = other.code := congrArg Request.command request
  have body : one.body = other.body := congrArg Request.body request
  refine ⟨congrArg Request.seq request, alike.2 ((canonical_eq_iff first second).1 ?_)⟩
  have read := read_command accepted
  rw [code, body, read_command alsoAccepted] at read
  exact (Option.some.inj read).symm

/-- Without a target and with a target of zeros the datagram is the same. -/
theorem wire_determines_noTarget :
    let zeros := setUnicastTarget (some ⟨.unspecified, 0⟩)
    let clear : Command := ⟨"set unicast target", 0x40, .controller, .dynamic [0, 0, 0, 0, 0, 0]⟩
    (setUnicastTarget none).command = .ok clear ∧ zeros.command = .ok clear ∧
      (setUnicastTarget none).Alike zeros ∧
      ∀ seq later, (clear.request seq).encode = (clear.request later).encode → seq = later := by
  intro zeros clear
  have without : (setUnicastTarget none).command = .ok clear := rfl
  have unspecified : zeros.command = .ok clear := rfl
  refine ⟨without, unspecified, (wire_determines without unspecified 0 0).2.1 rfl, ?_⟩
  intro seq later wire
  exact ((wire_determines without unspecified seq later).1.1 wire).1

end Operation

end LightingControl
