import LightingControl.Proofs.Runs
import LightingControl.Proofs.Tracker.Slots
/-!
# Sequences of calls to a tracker

A call is an operation of the tracker, or the holder of a ticket looks for the response.  `slot_call`
says what a call does to each slot, and everything about sequences of calls follows from it.
-/

set_option autoImplicit false

namespace LightingControl

namespace Slot

theorem clear_of_not_holding {slot : Slot} {turn : Nat}
    (other : ∀ response, slot.mailbox? turn ≠ some (.holding response)) :
    slot.clear turn = slot := by
  have same : slot.settled.set turn none = slot.settled := by
    cases left : slot.settled[turn]? with
    | none => exact List.set_eq_of_length_le (List.getElem?_eq_none_iff.1 left)
    | some left' =>
      cases left' with
      | none =>
        obtain ⟨inside, here⟩ := List.getElem?_eq_some_iff.1 left
        rw [← here, List.set_getElem_self]
      | some response => exact absurd (by simp only [mailbox?, left]) (other response)
  rw [clear, same]

theorem mailbox?_eq_holding_iff (slot : Slot) (turn : Nat) (response : Response) :
    slot.mailbox? turn = some (.holding response) ↔ slot.settled[turn]? = some (some response) := by
  unfold mailbox?
  split
  · simp [*]
  · simp [*]
  · simp only [*, reduceCtorEq, iff_false]
    split <;> simp

end Slot

def Waited.response? : Waited → Option Response
  | .response found => some found
  | .timeout | .dropped => none

namespace Tracker

inductive Call where
  | next
  | register (seq : UInt8) (deadline : Moment)
  | resolve (response : Response)
  | retry (seq : UInt8) (deadline : Moment)
  | expire (now : Moment)
  | failAll
  | take (ticket : Ticket)
  | wait (ticket : Ticket)
  deriving DecidableEq, Repr

def call (tracker : Tracker) : Call → Tracker
  | .next => tracker.next.2
  | .register seq deadline => (tracker.register seq deadline).2
  | .resolve response => (tracker.resolve response).2
  | .retry seq deadline => (tracker.retry seq deadline).2
  | .expire now => (tracker.expire now).2
  | .failAll => tracker.failAll.2
  | .take ticket => (tracker.take ticket).2
  | .wait ticket => (tracker.wait ticket).2

def after (tracker : Tracker) (calls : List Call) : Tracker :=
  calls.foldl call tracker

@[simp] theorem after_nil (tracker : Tracker) : tracker.after [] = tracker := rfl

@[simp] theorem after_cons (tracker : Tracker) (first : Call) (rest : List Call) :
    tracker.after (first :: rest) = (tracker.call first).after rest := rfl

theorem after_append (tracker : Tracker) (early late : List Call) :
    tracker.after (early ++ late) = (tracker.after early).after late :=
  List.foldl_append

def along {α : Type} (tracker : Tracker) (observe : Tracker → Call → List α) (calls : List Call) :
    List α :=
  observations call observe tracker calls

@[simp] theorem along_nil {α : Type} (tracker : Tracker) (observe : Tracker → Call → List α) :
    tracker.along observe [] = [] := rfl

theorem along_cons {α : Type} (tracker : Tracker) (observe : Tracker → Call → List α) (first : Call)
    (rest : List Call) :
    tracker.along observe (first :: rest) =
      observe tracker first ++ (tracker.call first).along observe rest := rfl

theorem along_append {α : Type} (tracker : Tracker) (observe : Tracker → Call → List α)
    (early late : List Call) :
    tracker.along observe (early ++ late) =
      tracker.along observe early ++ (tracker.after early).along observe late :=
  observations_append call observe tracker early late

@[simp] def issued (tracker : Tracker) : Call → List Ticket
  | .register seq deadline => [(tracker.register seq deadline).1]
  | _ => []

/-- The numbers of the requests that give way to a new registration. -/
@[simp] def replaced (tracker : Tracker) : Call → List UInt8
  | .register seq _ => if tracker.isPending seq then [seq] else []
  | _ => []

@[simp] def accepted (tracker : Tracker) : Call → List Response
  | .resolve response => if (tracker.resolve response).1 then [response] else []
  | _ => []

@[simp] def expired (tracker : Tracker) : Call → List (UInt8 × PendingRequest)
  | .expire now => (tracker.expire now).1
  | _ => []

@[simp] def failed (tracker : Tracker) : Call → List Nat
  | .failAll => [tracker.failAll.1]
  | _ => []

@[simp] def delivered (tracker : Tracker) : Call → List (Ticket × Response)
  | .take ticket => (tracker.take ticket).1.toList.map (ticket, ·)
  | .wait ticket => (tracker.wait ticket).1.response?.toList.map (ticket, ·)
  | _ => []

def deliveredTo (tracker : Tracker) (ticket : Ticket) (calls : List Call) : List Response :=
  ((tracker.along delivered calls).filter fun delivery => delivery.1 = ticket).map (·.2)

theorem deliveredTo_append (tracker : Tracker) (ticket : Ticket) (early late : List Call) :
    tracker.deliveredTo ticket (early ++ late) =
      tracker.deliveredTo ticket early ++ (tracker.after early).deliveredTo ticket late := by
  simp only [deliveredTo, along_append, List.filter_append, List.map_append]

theorem slot_withdraw (tracker : Tracker) (ticket : Ticket) (seq : UInt8) :
    (tracker.withdraw ticket).slot seq =
      if ticket.seq = seq then (tracker.slot seq).clear ticket.turn else tracker.slot seq := by
  by_cases h : ticket.seq = seq
  · subst h
    simp [withdraw]
  · rw [withdraw, slot_update_of_ne _ _ h, if_neg h]

theorem withdraw_of_not_holding {tracker : Tracker} {ticket : Ticket}
    (other : ∀ response, tracker.mailbox? ticket ≠ some (.holding response)) :
    tracker.withdraw ticket = tracker := by
  rw [withdraw, Slot.clear_of_not_holding other, update_slot]

def look (tracker : Tracker) (ticket : Ticket) : Waited :=
  match tracker.mailbox? ticket with
  | some (.holding response) => .response response
  | some .waiting => .timeout
  | some .closed | none => .dropped

theorem wait_eq (tracker : Tracker) (ticket : Ticket) :
    tracker.wait ticket = (tracker.look ticket, tracker.withdraw ticket) := by
  unfold wait look
  cases found : tracker.mailbox? ticket with
  | none => rw [withdraw_of_not_holding (by simp [found])]
  | some mailbox =>
    cases mailbox with
    | holding response => rfl
    | waiting => rw [withdraw_of_not_holding (by simp [found])]
    | closed => rw [withdraw_of_not_holding (by simp [found])]

theorem take_eq (tracker : Tracker) (ticket : Ticket) :
    tracker.take ticket = ((tracker.look ticket).response?, tracker.withdraw ticket) := by
  unfold take look
  cases found : tracker.mailbox? ticket with
  | none =>
    rw [withdraw_of_not_holding (by simp [found])]
    rfl
  | some mailbox =>
    cases mailbox with
    | holding response => rfl
    | waiting =>
      rw [withdraw_of_not_holding (by simp [found])]
      rfl
    | closed =>
      rw [withdraw_of_not_holding (by simp [found])]
      rfl

def Call.reads (ticket : Ticket) : Call → Bool
  | .take other | .wait other => other = ticket
  | _ => false

theorem deliveredTo_cons (tracker : Tracker) (ticket : Ticket) (first : Call) (rest : List Call) :
    tracker.deliveredTo ticket (first :: rest) =
      tracker.deliveredTo ticket [first] ++ (tracker.call first).deliveredTo ticket rest :=
  deliveredTo_append tracker ticket [first] rest

theorem deliveredTo_singleton (tracker : Tracker) (ticket : Ticket) (first : Call) :
    tracker.deliveredTo ticket [first] =
      if first.reads ticket then (tracker.look ticket).response?.toList else [] := by
  -- A look of another ticket is filtered out.
  have looked (other : Ticket) :
      (((tracker.look other).response?.toList.map (other, ·)).filter
        fun delivery => delivery.1 = ticket).map (·.2) =
        if other = ticket then (tracker.look ticket).response?.toList else [] := by
    by_cases same : other = ticket
    · subst same
      cases (tracker.look other).response? <;> simp
    · cases (tracker.look other).response? <;> simp [same]
  cases first with
  | take other => simpa [deliveredTo, along_cons, delivered, take_eq, Call.reads] using looked other
  | wait other => simpa [deliveredTo, along_cons, delivered, wait_eq, Call.reads] using looked other
  | _ => rfl

/-! ## What a call does to a slot -/

def Call.onSlot (seq : UInt8) : Call → Slot → Slot
  | .next, slot => slot
  | .register other deadline, slot => if other = seq then slot.register deadline else slot
  | .resolve response, slot =>
    if response.seq = seq then slot.settle (some response) else slot
  | .retry other deadline, slot => if other = seq then (slot.retry deadline).2 else slot
  | .expire now, slot => if slot.isDue now then slot.settle none else slot
  | .failAll, slot => slot.settle none
  | .take ticket, slot | .wait ticket, slot =>
    if ticket.seq = seq then slot.clear ticket.turn else slot

theorem slot_register (tracker : Tracker) (seq other : UInt8) (deadline : Moment) :
    (tracker.register seq deadline).2.slot other =
      if seq = other then (tracker.slot other).register deadline else tracker.slot other := by
  by_cases h : seq = other
  · subst h
    simp [register]
  · rw [register, slot_update_of_ne _ _ h, if_neg h]

theorem slot_retry (tracker : Tracker) (seq other : UInt8) (deadline : Moment) :
    (tracker.retry seq deadline).2.slot other =
      if seq = other then ((tracker.slot other).retry deadline).2 else tracker.slot other := by
  by_cases h : seq = other
  · subst h
    simp [retry]
  · rw [retry, slot_update_of_ne _ _ h, if_neg h]

theorem slot_failAll (tracker : Tracker) (seq : UInt8) :
    tracker.failAll.2.slot seq = (tracker.slot seq).settle none := by
  rw [failAll, slot_removeAll, if_pos (mem_numbers seq)]

theorem slot_call (tracker : Tracker) (call : Call) (seq : UInt8) :
    (tracker.call call).slot seq = call.onSlot seq (tracker.slot seq) := by
  cases call with
  | next => rfl
  | register other deadline => exact slot_register _ _ _ _
  | resolve response => exact slot_remove _ _ _ _
  | retry other deadline => exact slot_retry _ _ _ _
  | expire now => exact slot_expire _ _ _
  | failAll => exact slot_failAll _ _
  | take ticket =>
    rw [Tracker.call, take_eq]
    exact slot_withdraw _ _ _
  | wait ticket =>
    rw [Tracker.call, wait_eq]
    exact slot_withdraw _ _ _

end Tracker

end LightingControl
