import LightingControl.Tracker.Slot
import LightingControl.Tracker.Table
/-!
# Sequence numbers and pending requests

A tracker hands out sequence numbers in rotation and keeps the requests that await their response, at
most one for each number.  A registration gives its caller a `Ticket`; the ticket's mailbox receives
the response, and it closes without one when the request is removed in any other way.  Mailboxes stay
readable after their request has gone, so that what becomes of a registration can be read off them.
-/

set_option autoImplicit false

namespace LightingControl

/-- The right to the response of one registration: its number, and how many registrations of that
number came before. -/
structure Ticket where
  seq : UInt8
  turn : Nat
  deriving DecidableEq, Repr

inductive Waited where
  | response (response : Response)
  | timeout
  /-- The request was removed without a response, or the response has been taken. -/
  | dropped
  deriving DecidableEq, Repr

structure Tracker where
  rotation : UInt8
  slots : Table Slot
  deriving DecidableEq

namespace Tracker

def numbers : List UInt8 :=
  (List.range 256).map UInt8.ofNat

theorem mem_numbers (seq : UInt8) : seq ∈ numbers := by
  refine List.mem_map.2 ⟨seq.toNat, List.mem_range.2 seq.toNat_lt, ?_⟩
  exact UInt8.ofNat_toNat

def startingAt (seq : UInt8) : Tracker :=
  ⟨seq, .const .empty⟩

def slot (tracker : Tracker) (seq : UInt8) : Slot :=
  tracker.slots.get seq

def update (tracker : Tracker) (seq : UInt8) (slot : Slot) : Tracker :=
  { tracker with slots := tracker.slots.put seq slot }

@[simp] theorem update_rotation (tracker : Tracker) (seq : UInt8) (slot : Slot) :
    (tracker.update seq slot).rotation = tracker.rotation := rfl

@[simp] theorem slot_update_self (tracker : Tracker) (seq : UInt8) (slot : Slot) :
    (tracker.update seq slot).slot seq = slot :=
  Table.get_put_self _ _ _

theorem slot_update_of_ne (tracker : Tracker) {seq other : UInt8} (slot : Slot)
    (h : seq ≠ other) : (tracker.update seq slot).slot other = tracker.slot other :=
  Table.get_put_of_ne _ _ h

theorem ext {tracker other : Tracker} (rotation : tracker.rotation = other.rotation)
    (slots : ∀ seq, tracker.slot seq = other.slot seq) : tracker = other := by
  obtain ⟨_, _⟩ := tracker
  obtain ⟨_, _⟩ := other
  obtain rfl : _ = _ := rotation
  exact congrArg (Tracker.mk _) (Table.ext slots)

theorem update_slot (tracker : Tracker) (seq : UInt8) :
    tracker.update seq (tracker.slot seq) = tracker := by
  refine ext rfl fun other => ?_
  by_cases h : seq = other
  · subst h
    exact slot_update_self _ _ _
  · exact slot_update_of_ne _ _ h

def isPending (tracker : Tracker) (seq : UInt8) : Bool :=
  (tracker.slot seq).pending.isSome

def pendingCount (tracker : Tracker) : Nat :=
  numbers.countP tracker.isPending

/-- The first number that is not pending among `count` numbers from `seq` on, 0 coming after 255. -/
def firstFree (tracker : Tracker) : Nat → UInt8 → Option UInt8
  | 0, _ => none
  | count + 1, seq =>
    if tracker.isPending seq then firstFree tracker count (seq + 1) else some seq

/-- Hands out a number and moves the rotation past it.  With every number pending, the number at the
rotation is used again. -/
def next (tracker : Tracker) : UInt8 × Tracker :=
  let seq := (tracker.firstFree 256 tracker.rotation).getD tracker.rotation
  (seq, { tracker with rotation := seq + 1 })

def mailbox? (tracker : Tracker) (ticket : Ticket) : Option Mailbox :=
  (tracker.slot ticket.seq).mailbox? ticket.turn

/-- Removes the request pending under a number, if any, and leaves a response or nothing to it. -/
def remove (tracker : Tracker) (seq : UInt8) (left : Option Response) : Tracker :=
  tracker.update seq ((tracker.slot seq).settle left)

/-- Registers a request under a number.  A request still pending there is removed and its mailbox
closed. -/
def register (tracker : Tracker) (seq : UInt8) (deadline : Moment) : Ticket × Tracker :=
  let slot := (tracker.slot seq).register deadline
  (⟨seq, slot.settled.length⟩, tracker.update seq slot)

/-- Completes the request under the response's number; false if none is pending there. -/
def resolve (tracker : Tracker) (response : Response) : Bool × Tracker :=
  (tracker.isPending response.seq, tracker.remove response.seq (some response))

def retry (tracker : Tracker) (seq : UInt8) (deadline : Moment) : Retried × Tracker :=
  let (retried, slot) := (tracker.slot seq).retry deadline
  (retried, tracker.update seq slot)

def select (tracker : Tracker) (condition : PendingRequest → Bool) :
    List (UInt8 × PendingRequest) :=
  numbers.filterMap fun seq =>
    match (tracker.slot seq).pending with
    | some request => if condition request then some (seq, request) else none
    | none => none

def removeAll (tracker : Tracker) (seqs : List UInt8) : Tracker :=
  seqs.foldl (fun tracker seq => tracker.remove seq none) tracker

/-- Removes every request whose deadline is at or before `now`, and gives them by ascending number. -/
def expire (tracker : Tracker) (now : Moment) : List (UInt8 × PendingRequest) × Tracker :=
  let due := tracker.select fun request => request.deadline ≤ now
  (due, tracker.removeAll (due.map (·.1)))

def failAll (tracker : Tracker) : Nat × Tracker :=
  (tracker.pendingCount, tracker.removeAll numbers)

def withdraw (tracker : Tracker) (ticket : Ticket) : Tracker :=
  tracker.update ticket.seq ((tracker.slot ticket.seq).clear ticket.turn)

def take (tracker : Tracker) (ticket : Ticket) : Option Response × Tracker :=
  match tracker.mailbox? ticket with
  | some (.holding response) => (some response, tracker.withdraw ticket)
  | _ => (none, tracker)

/-- Waits for the response of a ticket up to a deadline that has passed: a response that has arrived
is taken, a closed mailbox is noticed, and all else is a timeout. -/
def wait (tracker : Tracker) (ticket : Ticket) : Waited × Tracker :=
  match tracker.mailbox? ticket with
  | some (.holding response) => (.response response, tracker.withdraw ticket)
  | some .waiting => (.timeout, tracker)
  | some .closed => (.dropped, tracker)
  | none => (.dropped, tracker)

end Tracker

end LightingControl
