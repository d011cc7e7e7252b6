/-!
# Durations and moments

Lengths of time and points of time, in whole nanoseconds.
-/

set_option autoImplicit false

namespace LightingControl

structure Duration where
  nanoseconds : Nat
  deriving DecidableEq, Repr

namespace Duration

def zero : Duration := ⟨0⟩

def perSecond : Nat := 1000000000

def ofSeconds (count : Nat) : Duration := ⟨count * 1000000000⟩

def ofMillis (count : Nat) : Duration := ⟨count * 1000000⟩

def ofMicros (count : Nat) : Duration := ⟨count * 1000⟩

def seconds (duration : Duration) : Nat :=
  duration.nanoseconds / perSecond

def subsecond (duration : Duration) : Nat :=
  duration.nanoseconds % perSecond

def millis (duration : Duration) : Nat :=
  duration.nanoseconds / 1000000

def clamp (duration least greatest : Duration) : Duration :=
  if duration.nanoseconds < least.nanoseconds then least
  else if greatest.nanoseconds < duration.nanoseconds then greatest
  else duration

end Duration

/-- A moment, in nanoseconds after some fixed beginning. -/
abbrev Moment := Nat

namespace Moment

/-- The seconds of a moment are kept in 64 bits with a sign, so this is the first one that has no
representation. -/
def limit : Moment := UInt64.size / 2 * Duration.perSecond

def after? (now : Moment) (duration : Duration) : Option Moment :=
  if now + duration.nanoseconds < limit then some (now + duration.nanoseconds) else none

theorem after?_eq_some_iff {now later : Moment} {duration : Duration} :
    now.after? duration = some later ↔
      now + duration.nanoseconds < limit ∧ later = now + duration.nanoseconds := by
  unfold after?
  split <;> rename_i told
  · rw [Option.some.injEq, and_iff_right told, eq_comm]
  · exact iff_of_false nofun fun has => told has.1

theorem after?_eq_none_iff {now : Moment} {duration : Duration} :
    now.after? duration = none ↔ limit ≤ now + duration.nanoseconds := by
  rw [← Nat.not_lt, after?]
  split <;> simp_all

end Moment

end LightingControl
