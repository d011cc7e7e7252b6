import LightingControl.Config.Duration
import LightingControl.Response
/-!
# The registrations of one sequence number

A slot keeps what has become of every registration of its number, in the order of registration.  Only
the newest registration can still be pending.  The earlier ones are settled, each with the response
that was left to it or with nothing.

Time is an argument of the operations and never read from a clock.
-/

set_option autoImplicit false

namespace LightingControl

inductive Mailbox where
  | waiting
  | holding (response : Response)
  | closed
  deriving DecidableEq, Repr

structure PendingRequest where
  deadline : Moment
  /-- How often the request has been sent again. -/
  count : UInt32
  deriving DecidableEq, Repr

namespace PendingRequest

def retries (request : PendingRequest) : Nat :=
  request.count.toNat

/-- The request once it has been sent again with a new deadline, if 32 bits can hold the count. -/
def again? (request : PendingRequest) (deadline : Moment) : Option PendingRequest :=
  if request.retries + 1 < UInt32.size then some ⟨deadline, request.count + 1⟩ else none

end PendingRequest

inductive Retried where
  | counted (count : UInt32)
  | free
  /-- There is no room for the new count, and the program stops. -/
  | overflow
  deriving DecidableEq, Repr

def Retried.count? : Retried → Option Nat
  | .counted count => some count.toNat
  | .free | .overflow => none

instance : Coe Retried (Option Nat) := ⟨Retried.count?⟩

/-- What has become of the registrations of one number. -/
structure Slot where
  /-- What was left to each settled registration and has not been taken, oldest first. -/
  settled : List (Option Response)
  pending : Option PendingRequest
  deriving DecidableEq

namespace Slot

def empty : Slot := ⟨[], none⟩

def settle (slot : Slot) (left : Option Response) : Slot :=
  match slot.pending with
  | none => slot
  | some _ => ⟨slot.settled ++ [left], none⟩

theorem settle_of_free {slot : Slot} (free : slot.pending = none) (left : Option Response) :
    slot.settle left = slot := by
  rw [settle, free]

theorem settle_of_pending {slot : Slot} {request : PendingRequest}
    (pending : slot.pending = some request) (left : Option Response) :
    slot.settle left = ⟨slot.settled ++ [left], none⟩ := by
  rw [settle, pending]

@[simp] theorem settle_pending (slot : Slot) (left : Option Response) :
    (slot.settle left).pending = none := by
  cases pending : slot.pending with
  | none => rw [settle_of_free pending, pending]
  | some request => rw [settle_of_pending pending]

@[simp] theorem settle_settle (slot : Slot) (first second : Option Response) :
    (slot.settle first).settle second = slot.settle first :=
  settle_of_free (settle_pending slot first) second

/-- Adds a registration.  A request that is still pending is settled without a response. -/
def register (slot : Slot) (deadline : Moment) : Slot :=
  ⟨(slot.settle none).settled, some ⟨deadline, 0⟩⟩

def retry (slot : Slot) (deadline : Moment) : Retried × Slot :=
  match slot.pending with
  | none => (.free, slot)
  | some request =>
    match request.again? deadline with
    | none => (.overflow, slot)
    | some again => (.counted again.count, { slot with pending := some again })

def mailbox? (slot : Slot) (turn : Nat) : Option Mailbox :=
  match slot.settled[turn]? with
  | some (some response) => some (.holding response)
  | some none => some .closed
  | none => if turn = slot.settled.length ∧ slot.pending.isSome then some .waiting else none

def clear (slot : Slot) (turn : Nat) : Slot :=
  { slot with settled := slot.settled.set turn none }

@[simp] theorem clear_pending (slot : Slot) (turn : Nat) :
    (slot.clear turn).pending = slot.pending := rfl

theorem mailbox?_of_pending {slot : Slot} {request : PendingRequest}
    (pending : slot.pending = some request) :
    slot.mailbox? slot.settled.length = some .waiting := by
  simp [mailbox?, pending]

theorem mailbox?_settle {slot : Slot} {request : PendingRequest}
    (pending : slot.pending = some request) (left : Option Response) :
    (slot.settle left).mailbox? slot.settled.length =
      some (left.elim .closed .holding) := by
  rw [settle_of_pending pending]
  cases left <;> simp [mailbox?]

end Slot

end LightingControl
