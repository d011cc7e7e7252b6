import LightingControl.Proofs.Tracker.Balance
/-!
# What becomes of a registration

A registration waits until the first later call that ends its wait, and that call decides what its
holder gets.  `Standing.next` says how one call moves a registration; the fate of a registration
follows by induction on the calls.
-/

set_option autoImplicit false

namespace LightingControl.Tracker

/-- The call ends the wait of the request under a number. -/
def Call.ends (seq : UInt8) (request : PendingRequest) : Call → Bool
  | .register other _ => other = seq
  | .resolve response => response.seq = seq
  | .expire now => request.deadline ≤ now
  | .failAll => true
  | .next | .retry _ _ | .take _ | .wait _ => false

/-- The request under a number after a call that does not end its wait. -/
def Call.moves (seq : UInt8) (request : PendingRequest) : Call → PendingRequest
  | .retry other later => if other = seq then request.retried later else request
  | _ => request

def Call.leaves : Call → Option Response
  | .resolve response => some response
  | _ => none

def ending? (seq : UInt8) (request : PendingRequest) :
    List Call → Option (List Call × Call × List Call)
  | [] => none
  | first :: rest =>
    if first.ends seq request then some ([], first, rest)
    else
      (ending? seq (first.moves seq request) rest).map fun (early, last, late) =>
        (first :: early, last, late)

inductive Standing where
  | waiting (request : PendingRequest)
  | settled (left : Option Response)

def Standing.next (ticket : Ticket) (call : Call) : Standing → Standing
  | .waiting request =>
    if call.ends ticket.seq request then .settled call.leaves
    else .waiting (call.moves ticket.seq request)
  | .settled left => .settled (if call.reads ticket then none else left)

def Stands (tracker : Tracker) (ticket : Ticket) : Standing → Prop
  | .waiting request =>
    (tracker.slot ticket.seq).settled.length = ticket.turn ∧
      (tracker.slot ticket.seq).pending = some request
  | .settled left => (tracker.slot ticket.seq).settled[ticket.turn]? = some left

variable {tracker : Tracker} {ticket : Ticket} {request : PendingRequest} {left : Option Response}

theorem stands_register (tracker : Tracker) (seq : UInt8) (deadline : Moment) :
    (tracker.register seq deadline).2.Stands (tracker.register seq deadline).1
      (.waiting ⟨deadline, 0⟩) := by
  refine ⟨?_, ?_⟩ <;> simp [register, Slot.register]

theorem settled_of_waiting {slot : Slot} {turn : Nat} {request : PendingRequest}
    (newest : slot.settled.length = turn) (pending : slot.pending = some request)
    (left : Option Response) : (slot.settle left).settled[turn]? = some left := by
  rw [Slot.settle_of_pending pending, ← newest]
  exact List.getElem?_concat_length

theorem Stands.call_of_waiting (stands : tracker.Stands ticket (.waiting request)) (call : Call) :
    (tracker.call call).Stands ticket (Standing.next ticket call (.waiting request)) := by
  obtain ⟨newest, pending⟩ := stands
  have ended (left : Option Response) := settled_of_waiting newest pending left
  have kept : tracker.Stands ticket (.waiting request) := ⟨newest, pending⟩
  unfold Stands at kept ⊢
  rw [slot_call]
  cases call with
  | next => exact kept
  | register other later =>
    by_cases same : other = ticket.seq
    · simpa [Standing.next, Call.ends, Call.onSlot, Call.leaves, Slot.register, same]
        using ended none
    · simpa [Standing.next, Call.ends, Call.onSlot, Call.moves, same] using kept
  | resolve response =>
    by_cases same : response.seq = ticket.seq
    · simpa [Standing.next, Call.ends, Call.onSlot, Call.leaves, same] using ended (some response)
    · simpa [Standing.next, Call.ends, Call.onSlot, Call.moves, same] using kept
  | retry other later =>
    by_cases same : other = ticket.seq
    · simpa [Standing.next, Call.ends, Call.onSlot, Call.moves, Slot.retry_snd, pending, same]
        using newest
    · simpa [Standing.next, Call.ends, Call.onSlot, Call.moves, same] using kept
  | expire now =>
    by_cases due : request.deadline ≤ now
    · simpa [Standing.next, Call.ends, Call.onSlot, Call.leaves, Slot.isDue, pending, due]
        using ended none
    · simpa [Standing.next, Call.ends, Call.onSlot, Call.moves, Slot.isDue, pending, due]
        using newest
  | failAll => exact ended none
  | take other | wait other =>
    by_cases same : other.seq = ticket.seq
    · simpa [Standing.next, Call.ends, Call.onSlot, Call.moves, Slot.clear, same] using kept
    · simpa [Standing.next, Call.ends, Call.onSlot, Call.moves, same] using kept

theorem settled_of_settle {slot : Slot} {turn : Nat}
    (settled : slot.settled[turn]? = some left) (later : Option Response) :
    (slot.settle later).settled[turn]? = some left := by
  cases pending : slot.pending with
  | none => rwa [Slot.settle_of_free pending]
  | some request =>
    obtain ⟨inside, -⟩ := List.getElem?_eq_some_iff.1 settled
    rw [Slot.settle_of_pending pending]
    exact (List.getElem?_append_left inside).trans settled

theorem settled_of_clear {slot : Slot} {turn : Nat} (settled : slot.settled[turn]? = some left)
    (other : Nat) :
    (slot.clear other).settled[turn]? = some (if other = turn then none else left) := by
  obtain ⟨inside, -⟩ := List.getElem?_eq_some_iff.1 settled
  rw [Slot.clear, List.getElem?_set]
  by_cases same : other = turn
  · simp [same, inside]
  · simpa [same] using settled

theorem Stands.call_of_settled (stands : tracker.Stands ticket (.settled left)) (call : Call) :
    (tracker.call call).Stands ticket (Standing.next ticket call (.settled left)) := by
  change (tracker.slot ticket.seq).settled[ticket.turn]? = some left at stands
  have kept := settled_of_settle stands
  change ((tracker.call call).slot ticket.seq).settled[ticket.turn]? = some _
  rw [slot_call]
  cases call with
  | next => exact stands
  | register other later =>
    rw [Call.onSlot]
    split
    · exact kept none
    · exact stands
  | resolve response =>
    rw [Call.onSlot]
    split
    · exact kept (some response)
    · exact stands
  | retry other later =>
    rw [Call.onSlot]
    split
    · rw [Slot.retry_settled]
      exact stands
    · exact stands
  | expire now =>
    rw [Call.onSlot]
    split
    · exact kept none
    · exact stands
  | failAll => exact kept none
  | take other | wait other =>
    obtain ⟨seq, turn⟩ := other
    obtain ⟨own, newest⟩ := ticket
    by_cases same : seq = own
    · have cleared := settled_of_clear stands turn
      simpa [Call.onSlot, Call.reads, same] using cleared
    · simpa [Call.onSlot, Call.reads, same] using stands

theorem Stands.call {standing : Standing} (stands : tracker.Stands ticket standing) (call : Call) :
    (tracker.call call).Stands ticket (standing.next ticket call) := by
  cases standing with
  | waiting request => exact stands.call_of_waiting call
  | settled left => exact stands.call_of_settled call

theorem Stands.look_of_waiting (stands : tracker.Stands ticket (.waiting request)) :
    tracker.look ticket = .timeout := by
  obtain ⟨newest, pending⟩ := stands
  have waiting : tracker.mailbox? ticket = some .waiting := by
    rw [mailbox?, ← newest]
    exact Slot.mailbox?_of_pending pending
  rw [look, waiting]

theorem Stands.look_of_settled (stands : tracker.Stands ticket (.settled left)) :
    tracker.look ticket = left.elim .dropped .response := by
  change (tracker.slot ticket.seq).settled[ticket.turn]? = some left at stands
  rw [look, mailbox?, Slot.mailbox?, stands]
  cases left <;> rfl

/-! ## Calls one after the other -/

theorem Stands.after_of_settled (stands : tracker.Stands ticket (.settled left))
    (calls : List Call) :
    (tracker.after calls).Stands ticket
        (.settled (if calls.any (Call.reads ticket) then none else left)) ∧
      tracker.deliveredTo ticket calls =
        if calls.any (Call.reads ticket) then left.toList else [] := by
  induction calls generalizing tracker left with
  | nil => exact ⟨stands, rfl⟩
  | cons first rest ih =>
    obtain ⟨after, delivered⟩ := ih (stands.call first)
    rw [after_cons, deliveredTo_cons, deliveredTo_singleton, delivered, stands.look_of_settled,
      List.any_cons]
    cases reads : first.reads ticket with
    | true =>
      rw [reads, if_pos rfl, ite_self] at after
      refine ⟨after, ?_⟩
      cases left <;> simp [Waited.response?]
    | false =>
      rw [reads] at after
      exact ⟨after, by simp⟩

theorem Stands.after_of_endless (stands : tracker.Stands ticket (.waiting request))
    {calls : List Call} (endless : ending? ticket.seq request calls = none) :
    (∃ later, (tracker.after calls).Stands ticket (.waiting later)) ∧
      tracker.deliveredTo ticket calls = [] := by
  induction calls generalizing tracker request with
  | nil => exact ⟨⟨request, stands⟩, rfl⟩
  | cons first rest ih =>
    rw [ending?] at endless
    split at endless
    · cases endless
    · rename_i goesOn
      have moved := stands.call first
      rw [Standing.next, if_neg goesOn] at moved
      obtain ⟨after, delivered⟩ := ih moved (Option.map_eq_none_iff.1 endless)
      refine ⟨after, ?_⟩
      rw [deliveredTo_cons, deliveredTo_singleton, stands.look_of_waiting, delivered]
      simp [Waited.response?]

theorem Stands.ending (stands : tracker.Stands ticket (.waiting request)) {calls : List Call}
    {early late : List Call} {last : Call}
    (found : ending? ticket.seq request calls = some (early, last, late)) :
    calls = early ++ last :: late ∧ ending? ticket.seq request early = none ∧
      ∃ later, (tracker.after early).Stands ticket (.waiting later) ∧
        last.ends ticket.seq later = true := by
  induction calls generalizing tracker request early with
  | nil => cases found
  | cons first rest ih =>
    rw [ending?] at found
    split at found
    · rename_i ends
      cases found
      exact ⟨rfl, rfl, request, stands, ends⟩
    · rename_i goesOn
      obtain ⟨⟨before, call, after⟩, more, same⟩ := Option.map_eq_some_iff.1 found
      cases same
      have moved := stands.call first
      rw [Standing.next, if_neg goesOn] at moved
      obtain ⟨split, endless, waits⟩ := ih moved more
      refine ⟨by rw [split, List.cons_append], ?_, waits⟩
      rw [ending?, if_neg goesOn, endless]
      rfl

/-- The call that ends the wait decides what the holder gets, and the first look after it gets it. -/
theorem Stands.after_of_ending (stands : tracker.Stands ticket (.waiting request))
    {calls early late : List Call} {last : Call}
    (found : ending? ticket.seq request calls = some (early, last, late)) :
    (tracker.after calls).Stands ticket
        (.settled (if late.any (Call.reads ticket) then none else last.leaves)) ∧
      tracker.deliveredTo ticket calls =
        if late.any (Call.reads ticket) then last.leaves.toList else [] := by
  obtain ⟨split, endless, later, waits, ends⟩ := stands.ending found
  have ended := waits.call last
  rw [Standing.next, if_pos ends] at ended
  obtain ⟨after, delivered⟩ := ended.after_of_settled late
  obtain ⟨-, nothing⟩ := stands.after_of_endless endless
  rw [split, after_append, after_cons, deliveredTo_append, deliveredTo_cons, deliveredTo_singleton,
    waits.look_of_waiting, nothing, delivered]
  exact ⟨after, by simp [Waited.response?]⟩

/-- The holder of a ticket has got these responses along the calls, and after them both ways of looking
into the mailbox give the same. -/
def Gets (tracker : Tracker) (ticket : Ticket) (calls : List Call) (responses : List Response)
    (now : Waited) : Prop :=
  tracker.deliveredTo ticket calls = responses ∧
    ((tracker.after calls).take ticket).1 = now.response? ∧
    ((tracker.after calls).wait ticket).1 = now

theorem gets_of_look {calls : List Call} {responses : List Response} {now : Waited}
    (delivered : tracker.deliveredTo ticket calls = responses)
    (look : (tracker.after calls).look ticket = now) : tracker.Gets ticket calls responses now := by
  refine ⟨delivered, ?_, ?_⟩
  · rw [take_eq, look]
  · rw [wait_eq, look]

theorem Stands.gets_of_ending (stands : tracker.Stands ticket (.waiting request))
    {calls early late : List Call} {last : Call}
    (found : ending? ticket.seq request calls = some (early, last, late)) :
    if late.any (Call.reads ticket) then tracker.Gets ticket calls last.leaves.toList .dropped
    else tracker.Gets ticket calls [] (last.leaves.elim .dropped .response) := by
  obtain ⟨after, delivered⟩ := stands.after_of_ending found
  split <;> rename_i looked
  · rw [if_pos looked] at after delivered
    exact gets_of_look delivered after.look_of_settled
  · rw [if_neg looked] at after delivered
    exact gets_of_look delivered after.look_of_settled

theorem Stands.isPending (stands : tracker.Stands ticket (.waiting request)) :
    tracker.isPending ticket.seq = true := by
  obtain ⟨-, pending⟩ := stands
  rw [Tracker.isPending, pending]
  rfl

theorem length_deliveredTo_le (tracker : Tracker) (ticket : Ticket) (calls : List Call) :
    (tracker.deliveredTo ticket calls).length ≤ 1 := by
  induction calls generalizing tracker with
  | nil => exact Nat.zero_le 1
  | cons first rest ih =>
    cases found : tracker.look ticket with
    | response response =>
      have stands : tracker.Stands ticket (.settled (some response)) :=
        (look_eq_response_iff _ _ _).1 found
      rw [(stands.after_of_settled (first :: rest)).2]
      split <;> simp
    | timeout | dropped =>
      rw [deliveredTo_cons, deliveredTo_singleton, found]
      simpa [Waited.response?] using ih _

/-- The first call that ends the wait of a registration decides what its holder gets.  A ticket is given
once and yields at most one response, with its own number; no response is delivered more often than it
completed a request; and every registration is pending or was removed in exactly one way. -/
theorem one_fate (start : UInt8) :
    (∀ before seq deadline calls,
      let registration := ((startingAt start).after before).register seq deadline
      let ticket := registration.1
      let tracker := registration.2
      match ending? seq ⟨deadline, 0⟩ calls with
      | none => (tracker.after calls).isPending seq = true ∧ tracker.Gets ticket calls [] .timeout
      | some (early, .resolve response, late) =>
        calls = early ++ .resolve response :: late ∧ response.seq = seq ∧
          ((tracker.after early).resolve response).1 = true ∧
          if late.any (Call.reads ticket) then tracker.Gets ticket calls [response] .dropped
          else tracker.Gets ticket calls [] (.response response)
      | some (early, other, late) =>
        calls = early ++ other :: late ∧ tracker.Gets ticket calls [] .dropped) ∧
    ∀ calls,
      let tracker := startingAt start
      (tracker.along issued calls).Nodup ∧
      (∀ ticket, (tracker.deliveredTo ticket calls).length ≤ 1) ∧
      (∀ delivery ∈ tracker.along delivered calls, delivery.2.seq = delivery.1.seq) ∧
      (∀ response, ((tracker.along delivered calls).map (·.2)).count response ≤
        (tracker.along accepted calls).count response) ∧
      (tracker.along issued calls).length =
        (tracker.after calls).pendingCount + (tracker.along accepted calls).length +
          (tracker.along expired calls).length + (tracker.along failed calls).sum +
          (tracker.along replaced calls).length := by
  refine ⟨?_, ?_⟩
  · intro before seq deadline calls registration ticket tracker
    have stands : tracker.Stands ticket (.waiting ⟨deadline, 0⟩) := stands_register _ _ _
    split <;> rename_i found
    · obtain ⟨⟨later, waits⟩, nothing⟩ := stands.after_of_endless found
      exact ⟨waits.isPending, gets_of_look nothing waits.look_of_waiting⟩
    · rename_i early response late
      obtain ⟨split, -, later, waits, ends⟩ := stands.ending found
      have own : response.seq = seq := of_decide_eq_true ends
      have pending : (tracker.after early).isPending response.seq = true := own ▸ waits.isPending
      exact ⟨split, own, pending, stands.gets_of_ending found⟩
    · rename_i early last late other
      obtain ⟨split, -⟩ := stands.ending found
      have nothing : last.leaves = none := by
        cases last with
        | resolve response => exact absurd rfl (other response)
        | _ => rfl
      have gets := stands.gets_of_ending found
      rw [nothing] at gets
      refine ⟨split, ?_⟩
      split at gets <;> exact gets
  · intro calls tracker
    have sorted : tracker.Sorted := sorted_startingAt start
    refine ⟨nodup_issued _ _, fun ticket => length_deliveredTo_le _ _ _, ?_, ?_, ?_⟩
    · intro delivery mem
      exact sorted.seq_of_delivered calls mem
    · intro response
      have held := sorted.holds_after calls response
      rw [holds_startingAt] at held
      omega
    · have total := pendingCount_after tracker calls
      rw [pendingCount_startingAt] at total
      omega

/-- The number is registered again while it is pending, and the deadline moves past an expiry. -/
theorem one_fate_reused_number :
    let response : Response := ⟨.answer, 5, [0x42]⟩
    let calls : List Call :=
      [.retry 5 40, .expire 30, .resolve response, .wait ⟨5, 0⟩, .wait ⟨5, 1⟩, .take ⟨5, 1⟩]
    let all : List Call := .register 5 10 :: .register 5 20 :: calls
    let tracker := (((startingAt 250).after [.register 5 10]).register 5 20).2
    tracker.Gets ⟨5, 1⟩ calls [response] .dropped ∧
      (⟨5, 1⟩, response) ∈ (startingAt 250).along delivered all ∧ response.seq = 5 := by
  intro response calls all tracker
  obtain ⟨fate, totals⟩ := one_fate 250
  have delivered : (⟨5, 1⟩, response) ∈ (startingAt 250).along delivered all := by decide +kernel
  obtain ⟨-, -, own, -⟩ := totals all
  obtain ⟨-, -, -, gets⟩ := fate [.register 5 10] 5 20 calls
  have ticket : (((startingAt 250).after [.register 5 10]).register 5 20).1 = ⟨5, 1⟩ := by
    decide +kernel
  rw [ticket] at gets
  exact ⟨gets, delivered, own _ delivered⟩

end LightingControl.Tracker
