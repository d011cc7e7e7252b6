import LightingControl.Address.Range
import LightingControl.Colour
import LightingControl.Proofs.Checks
/-!
# Arguments and their limits

An `Argument` is a value with the range it has to lie in, and the name that its refusal gives it.
Addresses, inputs and colours are valid exactly if the arguments in them are within their limits.
-/

set_option autoImplicit false

namespace LightingControl

structure Argument where
  field : String
  value : Nat
  range : Range

namespace Argument

def InRange (argument : Argument) : Prop :=
  argument.range.least ≤ argument.value ∧ argument.value ≤ argument.range.greatest

instance (argument : Argument) : Decidable argument.InRange :=
  inferInstanceAs (Decidable (_ ∧ _))

def refusal (argument : Argument) : WireError :=
  .outOfRange argument.field argument.value argument.range.least argument.range.greatest

def check (argument : Argument) : Check :=
  ⟨argument.InRange, argument.refusal⟩

theorem holds_check (argument : Argument) : argument.check.holds = true ↔ argument.InRange :=
  decide_eq_true_iff

def level (number : UInt8) : Argument := ⟨"level", number.toNat, ⟨0, 254⟩⟩

def scene (number : UInt8) : Argument := ⟨"scene", number.toNat, ⟨0, 11⟩⟩

def input (number : UInt8) : Argument := ⟨"instance", number.toNat, ⟨0, 31⟩⟩

end Argument

namespace Address

def numbers : Address → List Argument
  | .gear number => [⟨"gear", number.toNat, ⟨0, 63⟩⟩]
  | .device number => [⟨"device", number.toNat, ⟨0, 63⟩⟩]
  | .group number => [⟨"group", number.toNat, ⟨0, 15⟩⟩]
  | .systemVariable number => [⟨"system variable", number.toNat, ⟨0, 147⟩⟩]
  | .controller | .broadcast | .profile _ => []

/-- The byte of an address as a number that need not fit into a byte. -/
def wireNumber : Address → Nat
  | .controller | .profile _ => 0
  | .gear number | .systemVariable number => number.toNat
  | .device number | .group number => number.toNat + 64
  | .broadcast => 255

end Address

def Colour.numbers : Colour → List Argument
  | .white kelvin => [⟨"kelvin", kelvin.toNat, ⟨1000, 20000⟩⟩]
  | .xy .. | .channels .. => []

theorem Range.passes_check (range : Range) (field : String) (value : Nat) :
    Passes (range.check field value) [Argument.check ⟨field, value, range⟩] () :=
  passes_one () _

theorem Range.passes_then {α : Type} (range : Range) (field : String) (value : Nat) (made : α) :
    Passes (do range.check field value; return made) [Argument.check ⟨field, value, range⟩] made :=
  (range.passes_check field value).last fun _ => made

theorem Address.passes_validate (address : Address) :
    Passes address.validate (address.numbers.map Argument.check) address := by
  cases address with
  | gear number | device number | group number | systemVariable number =>
    exact Range.passes_then _ _ _ _
  | controller | broadcast | profile _ => rfl

theorem Address.validate_eq_ok_iff {address : Address} :
    address.validate = .ok address ↔ ∀ argument ∈ address.numbers, argument.InRange := by
  rw [address.passes_validate, passing_eq_ok_iff, List.forall_mem_map]
  simp only [Argument.holds_check, and_true]

theorem Input.passes_validate (source : Input) :
    Passes source.validate
      ((source.address.numbers ++ [Argument.input source.number]).map Argument.check) source :=
  source.address.passes_validate.bind (Range.passes_then _ _ _ source)

theorem Colour.passes_validate (colour : Colour) :
    Passes colour.validate (colour.numbers.map Argument.check) () := by
  cases colour with
  | white kelvin => exact Range.passes_check _ _ _
  | xy _ _ | channels _ _ _ _ _ _ => rfl

theorem Address.toNat_upper {number : UInt8} (bound : number.toNat ≤ 63) :
    (number + upperOffset).toNat = number.toNat + 64 := by
  rw [UInt8.toNat_add, upperOffset]
  exact Nat.mod_eq_of_lt (by simp; omega)

theorem Address.toNat_wireByte {address : Address}
    (inRange : ∀ argument ∈ address.numbers, argument.InRange) :
    address.wireByte.toNat = address.wireNumber := by
  cases address with
  | device number => exact toNat_upper (inRange _ List.mem_cons_self).2
  | group number =>
    have bound : number.toNat ≤ 15 := (inRange _ List.mem_cons_self).2
    exact toNat_upper (by omega)
  | controller | gear _ | broadcast | systemVariable _ | profile _ => rfl

end LightingControl
