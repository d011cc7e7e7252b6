import LightingControl.Command.Operation
import LightingControl.Proofs.Limits
/-!
# Which arguments an operation takes

An operation first refuses a target of a class that it does not apply to, and then the first
argument that is out of range.  `Operation.accepts?` and `Operation.arguments` list what is checked,
in order; `Operation.passes` says that nothing else is, and that the command is what the operation
asks for.
-/

set_option autoImplicit false

namespace LightingControl

def Address.IsAmong (target : Address) (accepts : List TargetClass) : Prop :=
  ∃ targetClass ∈ accepts, target.class? = some targetClass

instance (target : Address) (accepts : List TargetClass) : Decidable (target.IsAmong accepts) :=
  inferInstanceAs (Decidable (∃ _ ∈ _, _))

namespace Operation

/-- The name that the command of an operation goes by, and the refusal of its target. -/
def name : Operation → String
  | .controller operation => operation.name
  | .address operation _ => operation.name
  | .input operation _ => operation.name
  | .setSystemVariable .. => "set system variable"
  | .querySystemVariable .. => "query system variable"
  | .querySystemVariableName .. => "query system variable name"
  | .enableEventEmit .. => "enable event emit"
  | .addEventFilter .. => "add event filter"
  | .clearEventFilter .. => "clear event filter"
  | .queryEventFilters .. => "query event filters"
  | .setUnicastTarget .. => "set unicast target"
  | .querySceneLabelForGroup .. => "query scene label for group"
  | .queryProfileLabel .. => "query profile label"
  | .changeProfile .. | .returnToScheduledProfile => "change profile"
  | .queryAddressesWithInstances .. => "query addresses with instances"
  | .overrideButtonLed .. => "override button LED"
  | .setColour .. => "set colour"
  | .inhibit .. => "inhibit"
  | .arcLevel .. => "arc level"
  | .customFade .. => "custom fade"
  | .recallScene .. => "recall scene"

def target : Operation → Address
  | .controller _ | .enableEventEmit _ | .setUnicastTarget _ | .queryAddressesWithInstances _ =>
    .controller
  | .address _ target | .addEventFilter target _ _ | .clearEventFilter target _ _
  | .queryEventFilters target _ _ | .querySceneLabelForGroup target _ | .setColour target _ _
  | .inhibit target _ | .arcLevel target _ | .customFade target _ _ | .recallScene target _ => target
  | .input _ source | .overrideButtonLed source _ => source.address
  | .setSystemVariable index _ | .querySystemVariable index | .querySystemVariableName index =>
    .systemVariable index
  | .queryProfileLabel profile | .changeProfile profile => .profile profile
  | .returnToScheduledProfile => .profile 0xFFFF

def accepts? : Operation → Option (List TargetClass)
  | .address operation _ => some operation.accepts
  | .addEventFilter .. | .clearEventFilter .. | .queryEventFilters .. =>
    some [.gear, .device, .broadcast]
  | .querySceneLabelForGroup .. => some [.group]
  | .customFade .. => some [.gear, .group]
  | .setColour .. | .inhibit .. | .arcLevel .. | .recallScene .. => some [.gear, .group, .broadcast]
  | _ => none

/-- The arguments that have to be in range apart from the number of the target, in the order in
which they are checked. -/
def further : Operation → List Argument
  | .input _ source | .overrideButtonLed source _ => [.input source.number]
  | .addEventFilter _ number _ | .clearEventFilter _ number _ | .queryEventFilters _ number _ =>
    number.toList.map .input
  | .querySceneLabelForGroup _ scene | .recallScene _ scene => [.scene scene]
  | .queryAddressesWithInstances startAt => [⟨"start address", startAt.toNat, ⟨0, 127⟩⟩]
  | .setColour _ colour level => colour.numbers ++ level.toList.map .level
  | .arcLevel _ level | .customFade _ level _ => [.level level]
  | _ => []

def arguments (operation : Operation) : List Argument :=
  operation.target.numbers ++ operation.further

def Applies (operation : Operation) : Prop :=
  ∀ accepts ∈ operation.accepts?, operation.target.IsAmong accepts

def misdirected (operation : Operation) : WireError :=
  .unsupportedAddress operation.name operation.target

def checks (operation : Operation) : List Check :=
  operation.accepts?.toList.map (fun accepts =>
    ⟨operation.target.IsAmong accepts, operation.misdirected⟩) ++
  operation.arguments.map Argument.check

/-- The body of an operation's command.  A colour is followed by zeros where there are less than
eight bytes; the body of a target for events begins with the number of bytes that follow. -/
def Shapes : Operation → Bytes → Prop
  | .enableEventEmit mode, body => body = [mode.byte, 0, 0, 0]
  | .setUnicastTarget _, body => ∃ data, body = 6 :: data ∧ data.length = 6
  | .setColour target colour _, body =>
    ∃ level zeros,
      body = target.wireByte :: level :: (colour.encode ++ List.replicate zeros 0) ∧
        (body.length = 8 ∨ body.length = 9 ∧ zeros = 0)
  | operation, body => ∃ d0 d1 d2, body = [operation.target.wireByte, d0, d1, d2]

structure Makes (operation : Operation) (command : Command) : Prop where
  name : command.name = operation.name
  target : command.target = operation.target
  shape : operation.Shapes command.body

theorem passes_checkTarget (name : String) (accepts : List TargetClass) (target : Address) :
    Passes (checkTarget name accepts target)
      (⟨target.IsAmong accepts, .unsupportedAddress name target⟩ ::
        target.numbers.map Argument.check) target := by
  by_cases among : target.IsAmong accepts
  · obtain ⟨targetClass, accepted, known⟩ := among
    have checked : checkTarget name accepts target = target.validate := by
      simp only [checkTarget, known, List.contains_iff_mem.2 accepted, if_true]
    unfold Passes
    rw [checked, target.passes_validate]
    simp [passing, Address.IsAmong, known, accepted]
  · have refused : checkTarget name accepts target = .error (.unsupportedAddress name target) := by
      unfold checkTarget
      split
      · rename_i targetClass known
        refine if_neg fun accepted => among ⟨targetClass, ?_, known⟩
        exact List.contains_iff_mem.1 accepted
      · rfl
    simp [Passes, refused, passing, among]

theorem passes_inputByte (number : Option UInt8) :
    Passes (inputByte number) ((number.toList.map Argument.input).map Argument.check)
      (number.getD wholeAddress) := by
  cases number with
  | none => rfl
  | some number => exact Range.passes_then _ _ _ _

theorem passes_levelByte (level : Option UInt8) :
    Passes (levelByte level) ((level.toList.map Argument.level).map Argument.check)
      (level.getD levelUnchanged) := by
  cases level with
  | none => rfl
  | some level => exact Range.passes_then _ _ _ _

theorem shapes_colour (address level : UInt8) (colour : Colour) :
    ∃ zeros, (Payload.colour address level colour).body =
        address :: level :: (colour.encode ++ List.replicate zeros 0) ∧
      ((Payload.colour address level colour).body.length = 8 ∨
        (Payload.colour address level colour).body.length = 9 ∧ zeros = 0) := by
  cases colour with
  | xy x y => exact ⟨1, rfl, .inl rfl⟩
  | white kelvin => exact ⟨3, rfl, .inl rfl⟩
  | channels r g b w a f => exact ⟨0, rfl, .inr ⟨rfl, rfl⟩⟩

/-- Every operation makes its checks and no others. -/
theorem passes (operation : Operation) :
    ∃ command, Passes operation.command operation.checks command ∧ operation.Makes command := by
  rw [checks, arguments, List.map_append]
  cases operation with
  | controller _ | queryProfileLabel _ | changeProfile _ | returnToScheduledProfile =>
    exact ⟨_, rfl, rfl, rfl, _, _, _, rfl⟩
  | address operation target | inhibit target seconds =>
    exact ⟨_, (passes_checkTarget _ _ target).bind (.done _), rfl, rfl, _, _, _, rfl⟩
  | input operation source | overrideButtonLed source on =>
    exact ⟨_, source.passes_validate.last _, rfl, rfl, _, _, _, rfl⟩
  | setSystemVariable index value | querySystemVariable index | querySystemVariableName index =>
    exact ⟨_, (Address.systemVariable index).passes_validate.last _, rfl, rfl, _, _, _, rfl⟩
  | enableEventEmit mode => exact ⟨_, rfl, rfl, rfl, rfl⟩
  | addEventFilter target number mask | clearEventFilter target number mask
  | queryEventFilters target number startAt =>
    exact ⟨_, (passes_checkTarget _ _ target).bind ((passes_inputByte number).last _),
      rfl, rfl, _, _, _, rfl⟩
  | setUnicastTarget endpoint =>
    refine ⟨_, rfl, rfl, rfl, ?_⟩
    cases endpoint with
    | none => exact ⟨_, rfl, rfl⟩
    | some endpoint => exact ⟨_, rfl, rfl⟩
  | querySceneLabelForGroup target scene | recallScene target scene
  | arcLevel target level | customFade target level seconds =>
    exact ⟨_, (passes_checkTarget _ _ target).bind (Range.passes_then _ _ _ _),
      rfl, rfl, _, _, _, rfl⟩
  | queryAddressesWithInstances startAt =>
    exact ⟨_, Range.passes_then _ _ _ _, rfl, rfl, _, _, _, rfl⟩
  | setColour target colour level =>
    rw [further, List.map_append]
    exact ⟨_, (passes_checkTarget _ _ target).bind
      (colour.passes_validate.bind ((passes_levelByte level).last _)), rfl, rfl, _,
      shapes_colour _ _ colour⟩

theorem holds_checks (operation : Operation) :
    (∀ check ∈ operation.checks, check.holds = true) ↔
      operation.Applies ∧ ∀ argument ∈ operation.arguments, argument.InRange := by
  simp [checks, Applies, or_imp, forall_and, Argument.holds_check]

/-- An operation is accepted exactly if it applies to the class of its target and all its arguments
are in range.  A target of another class is refused whatever its number, and otherwise the first
argument out of range is, with its limits.  The command of an accepted operation is well formed. -/
theorem accepted_exactly (operation : Operation) :
    ((∃ command, operation.command = .ok command) ↔
      operation.Applies ∧ ∀ argument ∈ operation.arguments, argument.InRange) ∧
    (¬ operation.Applies →
      operation.command = .error (.unsupportedAddress operation.name operation.target)) ∧
    (operation.Applies → ∀ early argument late, operation.arguments = early ++ argument :: late →
      (∀ earlier ∈ early, earlier.InRange) → ¬ argument.InRange →
        operation.command = .error (.outOfRange argument.field argument.value
          argument.range.least argument.range.greatest)) ∧
    ∀ command, operation.command = .ok command →
      operation.Makes command ∧ command.target.validate = .ok command.target ∧
        command.target.wireByte.toNat = command.target.wireNumber := by
  obtain ⟨made, passes, makes⟩ := operation.passes
  unfold Passes at passes
  rw [passes]
  refine ⟨?_, ?_, ?_, ?_⟩
  · rw [← holds_checks]
    simp only [passing_eq_ok_iff, exists_and_left, exists_eq', and_true]
  · intro other
    obtain ⟨accepts, given, outside⟩ : ∃ accepts, operation.accepts? = some accepts ∧
        ¬ operation.target.IsAmong accepts := by
      simpa [Applies] using other
    rw [checks, given]
    exact passing_of_fails made [] ⟨_, _⟩ _ (by simp) (decide_eq_false outside)
  · intro applies early argument late order before outside
    rw [checks, order, List.map_append, List.map_cons, ← List.append_assoc]
    refine passing_of_fails made _ argument.check _ ?_ (decide_eq_false outside)
    intro earlier member
    obtain direction | number := List.mem_append.1 member
    · obtain ⟨accepts, given, rfl⟩ := List.mem_map.1 direction
      exact decide_eq_true (applies accepts (Option.mem_toList.1 given))
    · obtain ⟨first, listed, rfl⟩ := List.mem_map.1 number
      exact first.holds_check.2 (before first listed)
  · intro command accepted
    obtain ⟨holds, rfl⟩ := passing_eq_ok_iff.1 accepted
    have inRange := ((holds_checks operation).1 holds).2
    rw [makes.target]
    have number : ∀ argument ∈ operation.target.numbers, argument.InRange :=
      fun argument member => inRange argument (List.mem_append_left _ member)
    exact ⟨makes, Address.validate_eq_ok_iff.2 number, Address.toNat_wireByte number⟩

end Operation

end LightingControl
