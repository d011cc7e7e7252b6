import LightingControl.Document.Answer
import LightingControl.Proofs.Colours
/-!
# What the decoders of answers check

`AnswerType` lists the types that the data of an answer can be read as, and `AnswerType.checks` what
the decoder of each type asks of the data, in order.  `passes_decode` says that this is all that it
asks.
-/

set_option autoImplicit false

namespace LightingControl

inductive AnswerType where
  | byte
  | flag
  | word
  | signedWord
  | longNumber
  | label
  | bytes
  | colour
  | eventMode
  | eventFilterPage
  | unicastTarget
  | version
  | profileInfo
  | profileNumbers
  | addressBitmap
  | bitmap16
  | gearStatus
  | colourFeatures
  | colourTempLimits
  | sceneLevels
  | sceneColours
  | arcLevel
  | groupInfo
  | inputs
  | occupancyTimers
  | inputGroups
  | buttonLed
  deriving DecidableEq, Repr

namespace AnswerType

def form : AnswerType → AnswerForm
  | .byte => .byte
  | .flag => .flag
  | .word => .word
  | .signedWord => .signedWord
  | .longNumber => .longNumber
  | .label => .label
  | .bytes => .bytes
  | .colour => .colour
  | .eventMode => .eventMode
  | .eventFilterPage => .eventFilterPage
  | .unicastTarget => .unicastTarget
  | .version => .version
  | .profileInfo => .profileInfo
  | .profileNumbers => .profileNumbers
  | .addressBitmap => .addressBitmap
  | .bitmap16 => .bitmap16
  | .gearStatus => .gearStatus
  | .colourFeatures => .colourFeatures
  | .colourTempLimits => .colourTempLimits
  | .sceneLevels => .sceneLevels
  | .sceneColours => .sceneColours
  | .arcLevel => .arcLevel
  | .groupInfo => .groupInfo
  | .inputs => .inputs
  | .occupancyTimers => .occupancyTimers
  | .inputGroups => .inputGroups
  | .buttonLed => .buttonLed

def decode (type : AnswerType) (data : Bytes) : Except WireError type.form.Value :=
  type.form.decode data

end AnswerType

namespace Field

def sized (name : String) (expected : Nat) (data : Bytes) : Check :=
  ⟨data.length = expected, .unexpectedLength name expected data.length data⟩

theorem passes_expectLength (name : String) (expected : Nat) (data : Bytes) :
    Passes (expectLength name expected data) [sized name expected data] () :=
  passes_one () _

end Field

def Field.atLeast (name : String) (least : Nat) (data : Bytes) : Check :=
  ⟨least ≤ data.length, .payloadTooShort name least data.length data⟩

theorem UnicastTarget.passes_decode (data : Bytes) :
    Passes (decode data) [Field.atLeast "UnicastTarget" 7 data]
      ⟨.ofByte (data.getD 0 0),
        ⟨⟨data.getD 3 0, data.getD 4 0, data.getD 5 0, data.getD 6 0⟩,
          wordOf (data.getD 1 0) (data.getD 2 0)⟩⟩ := by
  match data with
  | [] | [_] | [_, _] | [_, _, _] | [_, _, _, _] | [_, _, _, _, _] | [_, _, _, _, _, _] => rfl
  | _ :: _ :: _ :: _ :: _ :: _ :: _ :: _ => simp [Passes, decode, passing, Field.atLeast]

/-- A label is UTF-8 up to the NULs at its end. -/
def Field.readable (data : Bytes) : List Check :=
  match Utf8.decode data.trimNuls with
  | .ok _ => []
  | .error fault => [⟨false, .invalidLabel fault⟩]

theorem Field.passes_label (data : Bytes) : ∃ text, Passes (label data) (readable data) text := by
  unfold label readable
  cases Utf8.decode data.trimNuls with
  | ok text => exact ⟨text, rfl⟩
  | error fault => exact ⟨"", rfl⟩

/-- A light is told by its one byte, and refused for its length if it is any other. -/
def ButtonLed.told (data : Bytes) : Check :=
  ⟨data = [1] ∨ data = [2], .unexpectedLength "ButtonLed" 1 data.length data⟩

theorem ButtonLed.passes_decode (data : Bytes) :
    Passes (decode data) [told data] ⟨data = [2]⟩ := by
  unfold decode
  split
  · rfl
  · rfl
  · rename_i notOff notOn
    have neither : ¬ (data = [1] ∨ data = [2]) := not_or.2 ⟨notOff, notOn⟩
    simp only [Passes, passing, told, neither, decide_false, Bool.false_eq_true, if_false]

namespace AnswerType

open LightingControl.Field (atLeast reaches readable sized)

/-- What the decoder asks of the data, in order. -/
def checks : AnswerType → Bytes → List Check
  | .byte, data => [sized "UINT8" 1 data]
  | .flag, data => [sized "BOOL" 1 data]
  | .word, data => [sized "UINT16" 2 data, reaches "UINT16" 2 data 0]
  | .signedWord, data => [sized "INT16" 2 data, reaches "INT16" 2 data 0]
  | .longNumber, data =>
    [⟨1 ≤ data.length ∧ data.length ≤ 8, .unexpectedLength "UINT64" 8 data.length data⟩]
  | .label, data => readable data
  | .colour, data => Colour.checks data
  | .eventMode, data | .eventFilterPage, data | .gearStatus, data | .colourFeatures, data =>
    [reaches "UINT8" 1 data 0]
  | .unicastTarget, data => [atLeast "UnicastTarget" 7 data]
  | .profileInfo, data =>
    [atLeast "ProfileInfo" 12 data, reaches "UINT16" 2 data 0, reaches "UINT16" 2 data 2,
      reaches "UINT32" 4 data 4, reaches "UINT32" 4 data 8]
  | .bitmap16, data => [sized "Bitmap16" 2 data]
  | .version, data => [sized "Version" 3 data]
  | .groupInfo, data => [sized "GroupInfo" 3 data]
  | .inputGroups, data => [sized "InstanceGroups" 3 data]
  | .occupancyTimers, data => [sized "OccupancyTimers" 5 data]
  | .colourTempLimits, data =>
    [sized "ColourTempLimits" 10 data, reaches "UINT16" 2 data 0, reaches "UINT16" 2 data 2,
      reaches "UINT16" 2 data 4, reaches "UINT16" 2 data 6, reaches "UINT16" 2 data 8]
  | .arcLevel, data => [sized "ArcLevel" 1 data]
  | .buttonLed, data => [ButtonLed.told data]
  | .bytes, _ | .profileNumbers, _ | .addressBitmap, _ | .sceneLevels, _ | .sceneColours, _
  | .inputs, _ => []

/-- A decoder gives a value unless one of its checks fails, and refuses for the first that does. -/
theorem passes_decode (type : AnswerType) (data : Bytes) :
    ∃ value, Passes (type.decode data) (type.checks data) value := by
  have sized (name : String) (expected : Nat) := Field.passes_expectLength name expected data
  cases type with
  | byte => exact ⟨_, (sized _ _).last _⟩
  | flag => exact ⟨_, (sized _ _).last _⟩
  | arcLevel => exact ⟨_, (sized _ _).last _⟩
  | word => exact ⟨_, (sized _ _).bind (Field.passes_map _ _ data _ _)⟩
  | signedWord => exact ⟨_, (sized _ _).bind (Field.passes_map _ _ data _ _)⟩
  | longNumber =>
    have opposite : 1 ≤ data.length ∧ data.length ≤ 8 ↔
        ¬ (data.isEmpty || decide (8 < data.length)) = true := by
      rw [Bool.or_eq_true, List.isEmpty_iff_length_eq_zero, decide_eq_true_iff]
      omega
    exact ⟨_, .guarded opposite (.done _)⟩
  | label => exact Field.passes_label data
  | colour => exact ⟨_, Colour.passes_decode data⟩
  | eventMode => exact ⟨_, (Field.passes_map _ _ data _ _).map _⟩
  | gearStatus => exact ⟨_, (Field.passes_map _ _ data _ _).map _⟩
  | colourFeatures => exact ⟨_, (Field.passes_map _ _ data _ _).map _⟩
  | eventFilterPage => exact ⟨_, (Field.passes_map _ _ data _ _).last _⟩
  | unicastTarget => exact ⟨_, UnicastTarget.passes_decode data⟩
  | profileInfo =>
    exact ⟨_, .guarded Nat.not_lt.symm <| (Field.passes_map _ _ data _ _).bind <|
      (Field.passes_map _ _ data _ _).bind <| (Field.passes_map _ _ data _ _).bind <|
      (Field.passes_map _ _ data _ _).last _⟩
  | version => exact ⟨_, (sized _ _).last _⟩
  | groupInfo => exact ⟨_, (sized _ _).last _⟩
  | inputGroups => exact ⟨_, (sized _ _).last _⟩
  | bitmap16 => exact ⟨_, (sized _ _).last _⟩
  | occupancyTimers => exact ⟨_, (sized _ _).last _⟩
  | colourTempLimits =>
    exact ⟨_, (sized _ _).bind <| (Field.passes_map _ _ data _ _).bind <|
      (Field.passes_map _ _ data _ _).bind <| (Field.passes_map _ _ data _ _).bind <|
      (Field.passes_map _ _ data _ _).bind <| (Field.passes_map _ _ data _ _).last _⟩
  | buttonLed => exact ⟨_, ButtonLed.passes_decode data⟩
  | bytes | profileNumbers | addressBitmap | sceneLevels | sceneColours | inputs => exact ⟨_, rfl⟩

end AnswerType

end LightingControl
