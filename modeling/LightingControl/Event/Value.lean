import LightingControl.Event.Basic
/-!
# The value of a system variable

A variable travels as an integer and a decimal magnitude; its value is their product as a
double-precision number.  The power of ten is computed by repeated squaring, so that the rounding of
each step is fixed.
-/

set_option autoImplicit false

namespace LightingControl

namespace Decimal

/-- `power * square ^ n` by repeated squaring. -/
def raise (power square : Float) (n : Nat) : Float :=
  let power := if n % 2 = 1 then power * square else power
  if _h : n / 2 = 0 then power else raise power (square * square) (n / 2)
termination_by n

def powerOfTen (exponent : Int) : Float :=
  let power := raise 1.0 10.0 exponent.natAbs
  if exponent < 0 then 1.0 / power else power

end Decimal

def EventKind.systemVariableValue? : EventKind → Option Float
  | .systemVariableChange _ raw magnitude =>
    some (Float.ofInt raw.toInt * Decimal.powerOfTen magnitude.toInt)
  | _ => none

end LightingControl
