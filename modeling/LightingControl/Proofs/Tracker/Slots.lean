import LightingControl.Tracker.Basic
/-!
# What the operations of a tracker do to each slot

Every operation leaves the rotation alone, except for `next`, which leaves the slots alone.
-/

set_option autoImplicit false

namespace LightingControl

def Slot.isDue (slot : Slot) (now : Moment) : Bool :=
  slot.pending.any fun request => request.deadline ≤ now

namespace PendingRequest

variable {request : PendingRequest}

theorem again?_of_lt (room : request.retries + 1 < UInt32.size) (deadline : Moment) :
    request.again? deadline = some ⟨deadline, request.count + 1⟩ :=
  if_pos room

theorem again?_of_full (full : ¬ request.retries + 1 < UInt32.size) (deadline : Moment) :
    request.again? deadline = none :=
  if_neg full

theorem again?_eq_some {again : PendingRequest} {deadline : Moment}
    (counted : request.again? deadline = some again) :
    again.deadline = deadline ∧ again.retries = request.retries + 1 := by
  by_cases room : request.retries + 1 < UInt32.size
  · rw [again?_of_lt room, Option.some.injEq] at counted
    subst counted
    refine ⟨rfl, ?_⟩
    rw [retries, UInt32.toNat_add]
    exact Nat.mod_eq_of_lt room
  · rw [again?_of_full room] at counted
    cases counted

/-- The request after a retry.  It stays as it is if there is no room for the new count. -/
def retried (request : PendingRequest) (deadline : Moment) : PendingRequest :=
  (request.again? deadline).getD request

end PendingRequest

theorem Slot.retry_snd (slot : Slot) (deadline : Moment) :
    (slot.retry deadline).2 =
      { slot with pending := slot.pending.map fun request => request.retried deadline } := by
  obtain ⟨settled, pending⟩ := slot
  cases pending with
  | none => rfl
  | some request =>
    cases counted : request.again? deadline <;>
      simp [retry, PendingRequest.retried, counted]

namespace Tracker

theorem slot_remove (tracker : Tracker) (seq other : UInt8) (left : Option Response) :
    (tracker.remove seq left).slot other =
      if seq = other then (tracker.slot other).settle left else tracker.slot other := by
  by_cases h : seq = other
  · subst h
    simp [remove]
  · rw [remove, slot_update_of_ne _ _ h, if_neg h]

theorem pending_of_free {tracker : Tracker} {seq : UInt8}
    (free : tracker.isPending seq = false) : (tracker.slot seq).pending = none := by
  simpa [isPending] using free

theorem slot_removeAll (tracker : Tracker) (seqs : List UInt8) (seq : UInt8) :
    (tracker.removeAll seqs).slot seq =
      if seq ∈ seqs then (tracker.slot seq).settle none else tracker.slot seq := by
  induction seqs generalizing tracker with
  | nil => rfl
  | cons first rest ih =>
    change ((tracker.remove first none).removeAll rest).slot seq = _
    rw [ih, slot_remove]
    by_cases here : first = seq
    · by_cases later : seq ∈ rest <;> simp [here, later]
    · have other : seq ≠ first := fun same => here same.symm
      simp [here, other]

@[simp] theorem removeAll_rotation (tracker : Tracker) (seqs : List UInt8) :
    (tracker.removeAll seqs).rotation = tracker.rotation := by
  induction seqs generalizing tracker with
  | nil => rfl
  | cons first rest ih => exact ih _

theorem mem_select (tracker : Tracker) (condition : PendingRequest → Bool) (seq : UInt8) :
    seq ∈ (tracker.select condition).map (·.1) ↔ (tracker.slot seq).pending.any condition := by
  rw [select, List.mem_map]
  constructor
  · rintro ⟨⟨other, request⟩, found, rfl⟩
    obtain ⟨number, _, same⟩ := List.mem_filterMap.1 found
    cases pending : (tracker.slot number).pending with
    | none => simp [pending] at same
    | some request =>
      by_cases holds : condition request = true
      · simp only [pending, holds, if_true, Option.some.injEq, Prod.mk.injEq] at same
        obtain ⟨rfl, -⟩ := same
        simp [pending, holds]
      · simp [pending, holds] at same
  · intro any
    cases pending : (tracker.slot seq).pending with
    | none => simp [pending] at any
    | some request =>
      have holds : condition request = true := by simpa [pending] using any
      refine ⟨(seq, request), List.mem_filterMap.2 ⟨seq, mem_numbers seq, ?_⟩, rfl⟩
      simp [pending, holds]

theorem slot_expire (tracker : Tracker) (now : Moment) (seq : UInt8) :
    (tracker.expire now).2.slot seq =
      if (tracker.slot seq).isDue now then (tracker.slot seq).settle none
      else tracker.slot seq := by
  change (tracker.removeAll _).slot seq = _
  simp only [slot_removeAll, mem_select]
  rfl

@[simp] theorem expire_rotation (tracker : Tracker) (now : Moment) :
    (tracker.expire now).2.rotation = tracker.rotation :=
  removeAll_rotation _ _

theorem resolve_of_free {tracker : Tracker} {response : Response}
    (free : tracker.isPending response.seq = false) :
    tracker.resolve response = (false, tracker) := by
  rw [resolve, free, remove, Slot.settle_of_free (pending_of_free free), update_slot]

theorem retry_of_free {tracker : Tracker} {seq : UInt8} (free : tracker.isPending seq = false)
    (deadline : Moment) : tracker.retry seq deadline = (.free, tracker) := by
  simp only [retry, Slot.retry, pending_of_free free, update_slot]

theorem retry_of_again {tracker : Tracker} {seq : UInt8} {request again : PendingRequest}
    (pending : (tracker.slot seq).pending = some request) {deadline : Moment}
    (counted : request.again? deadline = some again) :
    tracker.retry seq deadline =
      (.counted again.count,
        tracker.update seq { tracker.slot seq with pending := some again }) := by
  simp only [retry, Slot.retry, pending, counted]

theorem retry_of_full {tracker : Tracker} {seq : UInt8} {request : PendingRequest}
    (pending : (tracker.slot seq).pending = some request) {deadline : Moment}
    (full : request.again? deadline = none) :
    tracker.retry seq deadline = (.overflow, tracker) := by
  simp only [retry, Slot.retry, pending, full, update_slot]

@[simp] theorem isPending_withdraw (tracker : Tracker) (ticket : Ticket) (seq : UInt8) :
    (tracker.withdraw ticket).isPending seq = tracker.isPending seq := by
  by_cases h : ticket.seq = seq
  · subst h
    simp [isPending, withdraw]
  · rw [isPending, withdraw, slot_update_of_ne _ _ h, isPending]

theorem isPending_expire_of_free {tracker : Tracker} {seq : UInt8}
    (free : tracker.isPending seq = false) (now : Moment) :
    (tracker.expire now).2.isPending seq = false := by
  rw [isPending, slot_expire]
  split
  · simp
  · exact free

theorem mailbox?_expire_of_free {tracker : Tracker} {ticket : Ticket}
    (free : tracker.isPending ticket.seq = false) (now : Moment) :
    (tracker.expire now).2.mailbox? ticket = tracker.mailbox? ticket := by
  have notDue : (tracker.slot ticket.seq).isDue now = false := by
    rw [Slot.isDue, pending_of_free free]
    rfl
  rw [mailbox?, slot_expire, notDue, mailbox?]
  rfl

theorem slot_expire_of_due {tracker : Tracker} {seq : UInt8} {request : PendingRequest}
    (pending : (tracker.slot seq).pending = some request) {now : Moment}
    (due : request.deadline ≤ now) :
    (tracker.expire now).2.slot seq = (tracker.slot seq).settle none := by
  have isDue : (tracker.slot seq).isDue now = true := by
    simp [Slot.isDue, pending, due]
  rw [slot_expire, isDue]
  rfl

theorem mailbox?_expire_of_due {tracker : Tracker} {ticket : Ticket} {request : PendingRequest}
    (newest : ticket.turn = (tracker.slot ticket.seq).settled.length)
    (pending : (tracker.slot ticket.seq).pending = some request) {now : Moment}
    (due : request.deadline ≤ now) : (tracker.expire now).2.mailbox? ticket = some .closed := by
  rw [mailbox?, slot_expire_of_due pending due, newest]
  exact Slot.mailbox?_settle pending none

theorem isPending_expire_of_due {tracker : Tracker} {seq : UInt8} {request : PendingRequest}
    (pending : (tracker.slot seq).pending = some request) {now : Moment}
    (due : request.deadline ≤ now) : (tracker.expire now).2.isPending seq = false := by
  rw [isPending, slot_expire_of_due pending due, Slot.settle_pending]
  rfl

end Tracker

end LightingControl
