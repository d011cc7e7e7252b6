import LightingControl.Proofs.Answer.Checks
import LightingControl.Proofs.Event.Acceptance
/-!
# What is told about lengths

A refusal that speaks of the length of data gives the length that they have, and one that they should
have but do not.  This holds of every decoder of answers, of colours and of events, with one exception:
the light of a button is told by one byte, and any byte but the two that are known is refused for a
length of one where one was expected.
-/

set_option autoImplicit false

namespace LightingControl

/-- What a refusal tells about the length of the data is true, and it quotes no other data. -/
def WireError.TrueOf (data : Bytes) : WireError → Prop
  | .payloadTooShort _ need got raw => got = data.length ∧ got < need ∧ (raw = [] ∨ raw = data)
  | .unexpectedLength _ expected got raw => got = data.length ∧ got ≠ expected ∧ raw = data
  | _ => True

def Check.Candid (data : Bytes) (check : Check) : Prop :=
  check.holds = false → check.refusal.TrueOf data

variable {α : Type} {data : Bytes}

theorem trueOf_of_passes {result : Except WireError α} {checks : List Check} {value : α}
    (passes : Passes result checks value) (candid : ∀ check ∈ checks, check.Candid data)
    {error : WireError} (refused : result = .error error) : error.TrueOf data := by
  obtain ⟨check, mem, fails, rfl⟩ := failed_of_passing (passes.symm.trans refused)
  exact candid check mem fails

namespace Field

theorem candid_reaches (name : String) (width : Nat) (data : Bytes) (offset : Nat) :
    (reaches name width data offset).Candid data := fun fails =>
  ⟨rfl, Nat.not_le.1 (of_decide_eq_false fails), .inl rfl⟩

theorem candid_sized (name : String) (expected : Nat) (data : Bytes) :
    (sized name expected data).Candid data := fun fails =>
  ⟨rfl, of_decide_eq_false fails, rfl⟩

theorem candid_atLeast (name : String) (least : Nat) (data : Bytes) :
    (atLeast name least data).Candid data := fun fails =>
  ⟨rfl, Nat.not_le.1 (of_decide_eq_false fails), .inr rfl⟩

theorem candid_readable (data : Bytes) : ∀ check ∈ readable data, check.Candid data := by
  unfold readable
  cases Utf8.decode data.trimNuls with
  | ok text => exact nofun
  | error fault =>
    intro check mem _
    rw [List.mem_singleton.1 mem]
    trivial

end Field

theorem PayloadField.candid_check (payload : Bytes) (field : PayloadField) :
    (field.check payload).Candid payload := fun fails =>
  ⟨rfl, Nat.not_le.1 (of_decide_eq_false fails), .inr rfl⟩

theorem Colour.candid_checks (data : Bytes) : ∀ check ∈ checks data, check.Candid data := by
  simp only [checks, List.forall_mem_cons]
  refine ⟨Field.candid_reaches _ _ data _, fun _ => trivial, fun fails => ?_, List.forall_mem_nil _⟩
  exact ⟨rfl, fun same => of_decide_eq_false fails (.inl same), rfl⟩

theorem EventType.candid_checks (type : EventType) (target : UInt16) (payload : Bytes) :
    ∀ check ∈ type.checks target payload, check.Candid payload := by
  rw [checks, List.forall_mem_cons, List.forall_mem_map]
  exact ⟨fun _ => trivial, fun field _ => field.candid_check payload⟩

theorem Event.trueOf_of_refused {notification : Notification} {source : Endpoint} {error : WireError}
    (refused : decode notification source = .error error) : error.TrueOf notification.payload := by
  by_cases supported : ∃ type : EventType, type.code = notification.code
  · obtain ⟨type, known⟩ := supported
    obtain ⟨event, passes⟩ := passes_decode known source
    exact trueOf_of_passes passes (type.candid_checks _ _) refused
  · rw [decode_of_unknown (not_exists.1 supported)] at refused
    cases refused
    trivial

theorem ButtonLed.decode_eq_error_iff (byte : UInt8) :
    decode [byte] = .error (.unexpectedLength "ButtonLed" 1 1 [byte]) ↔ byte ≠ 1 ∧ byte ≠ 2 := by
  rw [passes_decode, ← not_or, passing, told]
  by_cases known : byte = 1 ∨ byte = 2 <;> simp [known, passing]

namespace AnswerType

open LightingControl.Field

theorem candid_checks {type : AnswerType} (other : type ≠ .buttonLed) (data : Bytes) :
    ∀ check ∈ type.checks data, check.Candid data := by
  cases type with
  | label => exact candid_readable data
  | colour => exact Colour.candid_checks data
  | longNumber =>
    rw [checks, List.forall_mem_singleton]
    -- Eight is told as the expected length, and it is none of those that are refused.
    exact fun fails => ⟨rfl, fun same => of_decide_eq_false fails (by omega), rfl⟩
  | buttonLed => contradiction
  | _ => simp [checks, candid_reaches, candid_sized, candid_atLeast]

theorem trueOf_iff_of_refused {type : AnswerType} {error : WireError}
    (refused : type.decode data = .error error) :
    error.TrueOf data ↔ ¬ (type = .buttonLed ∧ data.length = 1) := by
  obtain ⟨value, passes⟩ := type.passes_decode data
  by_cases led : type = .buttonLed
  · subst led
    obtain ⟨check, mem, -, rfl⟩ := failed_of_passing (passes.symm.trans refused)
    rw [List.mem_singleton.1 mem]
    simp [ButtonLed.told, WireError.TrueOf]
  · have candid := trueOf_of_passes passes (candid_checks led data) refused
    simp [candid, led]

/-- What a decoder tells about the length of the data that it refuses is true, of every decoder and of
all data, but for the light of a button: of a single byte it tells that one was expected, unless the
byte is one of the two that are known. -/
theorem told_lengths_true_iff (data : Bytes) :
    (∀ (type : AnswerType) error, type.decode data = .error error →
      (error.TrueOf data ↔ ¬ (type = .buttonLed ∧ data.length = 1))) ∧
    (∀ byte : UInt8, buttonLed.decode [byte] = .error (.unexpectedLength "ButtonLed" 1 1 [byte]) ↔
      byte ≠ 1 ∧ byte ≠ 2) ∧
    (∀ error, Colour.decode data = .error error → error.TrueOf data) ∧
    ∀ notification source error, Event.decode notification source = .error error →
      error.TrueOf notification.payload := by
  refine ⟨fun type error refused => trueOf_iff_of_refused refused, ButtonLed.decode_eq_error_iff,
    fun error refused => ?_, fun notification source error refused =>
      Event.trueOf_of_refused refused⟩
  exact trueOf_of_passes (Colour.passes_decode data) (Colour.candid_checks data) refused

/-- A colour, an event and a light that are each refused for a length. -/
theorem told_lengths_true_iff_cut_off :
    let data : Bytes := [0x10, 0x12, 0x34]
    let notification : Notification := ⟨⟨0, 1, 2, 3, 4, 5⟩, 70, 0x02, data.take 2⟩
    let cut := WireError.unexpectedLength "Colour" 5 3 data
    let short := WireError.payloadTooShort "UINT16" 3 2 [0x10, 0x12]
    colour.decode data = .error cut ∧ cut.TrueOf data ∧ Colour.decode data = .error cut ∧
      Event.decode notification anyEndpoint = .error short ∧ short.TrueOf [0x10, 0x12] ∧
      buttonLed.decode data = .error (.unexpectedLength "ButtonLed" 1 3 data) ∧
      (WireError.unexpectedLength "ButtonLed" 1 3 data).TrueOf data := by
  intro data notification cut short
  obtain ⟨answers, -, colours, events⟩ := told_lengths_true_iff data
  have refused : colour.decode data = .error cut := rfl
  have unlit : buttonLed.decode data = .error (.unexpectedLength "ButtonLed" 1 3 data) := rfl
  have unread : Event.decode notification anyEndpoint = .error short := rfl
  exact ⟨refused, colours cut refused, refused, unread, events notification _ short unread, unlit,
    (answers _ _ unlit).2 (by decide)⟩

/-- A light is refused for a length of one byte where one byte was expected. -/
theorem light_of_one_byte_refused :
    let refusal := WireError.unexpectedLength "ButtonLed" 1 1 [0]
    buttonLed.decode [0] = .error refusal ∧ ¬ refusal.TrueOf [0] := by
  refine ⟨rfl, fun told => ?_⟩
  exact told.2.1 rfl

end AnswerType

end LightingControl
