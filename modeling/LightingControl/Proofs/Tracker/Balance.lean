import Mathlib.Algebra.GroupWithZero.Nat
import LightingControl.Proofs.Tracker.Calls
/-!
# What calls add up to

Every registration gets a ticket of its own and is still pending or was removed in one of four ways.
Every response that completed a request is in a mailbox or was delivered, once.
-/

set_option autoImplicit false

namespace LightingControl

namespace Slot

def turns (slot : Slot) : Nat :=
  slot.settled.length + slot.pending.toList.length

@[simp] theorem turns_settle (slot : Slot) (left : Option Response) :
    (slot.settle left).turns = slot.turns := by
  cases pending : slot.pending with
  | none => rw [settle_of_free pending]
  | some request => simp [settle_of_pending pending, turns, pending]

theorem length_settle (slot : Slot) (left : Option Response) :
    (slot.settle left).settled.length = slot.turns := by
  rw [← turns_settle slot left, turns, settle_pending]
  rfl

@[simp] theorem turns_register (slot : Slot) (deadline : Moment) :
    (slot.register deadline).turns = slot.turns + 1 := by
  rw [turns, register, length_settle]
  rfl

@[simp] theorem turns_retry (slot : Slot) (deadline : Moment) :
    (slot.retry deadline).2.turns = slot.turns := by
  rw [retry_snd]
  cases pending : slot.pending <;> simp [turns, pending]

@[simp] theorem turns_clear (slot : Slot) (turn : Nat) : (slot.clear turn).turns = slot.turns := by
  simp [turns, clear]

theorem retry_settled (slot : Slot) (deadline : Moment) :
    (slot.retry deadline).2.settled = slot.settled := by
  rw [retry_snd]

theorem retry_isSome (slot : Slot) (deadline : Moment) :
    (slot.retry deadline).2.pending.isSome = slot.pending.isSome := by
  rw [retry_snd, Option.isSome_map]

theorem mem_settle {slot : Slot} {left found : Option Response}
    (mem : found ∈ (slot.settle left).settled) : found ∈ slot.settled ∨ found = left := by
  cases pending : slot.pending with
  | none =>
    rw [settle_of_free pending] at mem
    exact .inl mem
  | some request =>
    rw [settle_of_pending pending] at mem
    simpa using mem

def holds (slot : Slot) (response : Response) : Nat :=
  slot.settled.count (some response)

@[simp] theorem holds_settle_none (slot : Slot) (response : Response) :
    (slot.settle none).holds response = slot.holds response := by
  cases pending : slot.pending with
  | none => rw [settle_of_free pending]
  | some request => simp [settle_of_pending pending, holds]

@[simp] theorem holds_register (slot : Slot) (deadline : Moment) (response : Response) :
    (slot.register deadline).holds response = slot.holds response :=
  holds_settle_none slot response

@[simp] theorem holds_retry (slot : Slot) (deadline : Moment) (response : Response) :
    (slot.retry deadline).2.holds response = slot.holds response := by
  rw [holds, retry_settled, holds]

theorem holds_settle_some (slot : Slot) (left response : Response) :
    (slot.settle (some left)).holds response =
      slot.holds response + if slot.pending.isSome ∧ left = response then 1 else 0 := by
  cases pending : slot.pending with
  | none => simp [settle_of_free pending]
  | some request => simp [settle_of_pending pending, holds, List.count_cons]

theorem holds_clear (slot : Slot) (turn : Nat) (response : Response) :
    (slot.clear turn).holds response +
        (if slot.settled[turn]? = some (some response) then 1 else 0) = slot.holds response := by
  rw [holds, holds, clear]
  by_cases inside : turn < slot.settled.length
  · rw [List.count_set inside, List.getElem?_eq_getElem inside]
    by_cases here : slot.settled[turn] = some response
    · have some_mem := List.getElem_mem inside
      rw [here] at some_mem
      have positive := List.count_pos_iff.2 some_mem
      simp [here]
      omega
    · simp [here]
  · have outside : slot.settled.length ≤ turn := Nat.not_lt.1 inside
    rw [List.set_eq_of_length_le outside, List.getElem?_eq_none outside]
    rfl

end Slot

namespace Tracker

theorem turns_le_call (tracker : Tracker) (call : Call) (seq : UInt8) :
    (tracker.slot seq).turns ≤ ((tracker.call call).slot seq).turns := by
  rw [slot_call]
  cases call with
  | next => exact Nat.le_refl _
  | failAll => simp [Call.onSlot]
  | _ =>
    rw [Call.onSlot]
    split <;> simp

theorem register_ticket (tracker : Tracker) (seq : UInt8) (deadline : Moment) :
    (tracker.register seq deadline).1 = ⟨seq, (tracker.slot seq).turns⟩ := by
  rw [register, Slot.register, Slot.length_settle]

theorem turns_le_of_issued (tracker : Tracker) (calls : List Call) {ticket : Ticket}
    (mem : ticket ∈ tracker.along issued calls) :
    (tracker.slot ticket.seq).turns ≤ ticket.turn := by
  induction calls generalizing tracker with
  | nil => cases mem
  | cons first rest ih =>
    rw [along_cons, List.mem_append] at mem
    obtain now | later := mem
    · cases first with
      | register seq deadline =>
        rw [issued, List.mem_singleton, register_ticket] at now
        subst now
        exact Nat.le_refl _
      | _ => cases now
    · exact Nat.le_trans (turns_le_call tracker first _) (ih _ later)

theorem nodup_issued (tracker : Tracker) (calls : List Call) :
    (tracker.along issued calls).Nodup := by
  induction calls generalizing tracker with
  | nil => exact List.nodup_nil
  | cons first rest ih =>
    rw [along_cons]
    cases first with
    | register seq deadline =>
      rw [issued, List.singleton_append, List.nodup_cons]
      refine ⟨?_, ih _⟩
      intro again
      have bound := turns_le_of_issued _ rest again
      rw [register_ticket, call, slot_register, if_pos rfl, Slot.turns_register] at bound
      exact absurd bound (Nat.not_succ_le_self _)
    | _ =>
      simp only [issued, List.nil_append]
      exact ih _

/-! ## Requests -/

theorem nodup_numbers : numbers.Nodup := by
  refine List.pairwise_map.2 (List.nodup_range.imp_of_mem ?_)
  intro i j hi hj ne same
  have equal := congrArg UInt8.toNat same
  rw [List.mem_range] at hi hj
  rw [UInt8.toNat_ofNat_of_lt' hi, UInt8.toNat_ofNat_of_lt' hj] at equal
  exact ne equal

theorem pendingCount_update (tracker : Tracker) (seq : UInt8) (slot : Slot) :
    (tracker.update seq slot).pendingCount + (if tracker.isPending seq then 1 else 0) =
      tracker.pendingCount + if slot.pending.isSome then 1 else 0 := by
  have split : List.Perm numbers (seq :: numbers.erase seq) := List.perm_cons_erase (mem_numbers seq)
  have others : (numbers.erase seq).countP (tracker.update seq slot).isPending =
      (numbers.erase seq).countP tracker.isPending := by
    refine List.countP_congr fun other mem => ?_
    have ne : seq ≠ other := by
      rintro rfl
      exact nodup_numbers.not_mem_erase mem
    rw [isPending, slot_update_of_ne _ _ ne, isPending]
  have self : (tracker.update seq slot).isPending seq = slot.pending.isSome := by
    rw [isPending, slot_update_self]
  rw [pendingCount, pendingCount, split.countP_eq, split.countP_eq, List.countP_cons,
    List.countP_cons, others, self]
  omega

theorem pendingCount_update_of_eq (tracker : Tracker) (seq : UInt8) {slot : Slot}
    (same : slot.pending.isSome = tracker.isPending seq) :
    (tracker.update seq slot).pendingCount = tracker.pendingCount := by
  have moved := pendingCount_update tracker seq slot
  rw [same] at moved
  exact Nat.add_right_cancel moved

theorem pendingCount_withdraw (tracker : Tracker) (ticket : Ticket) :
    (tracker.withdraw ticket).pendingCount = tracker.pendingCount :=
  pendingCount_update_of_eq _ _ rfl

theorem length_select (tracker : Tracker) (condition : PendingRequest → Bool) :
    (tracker.select condition).length =
      numbers.countP fun seq => (tracker.slot seq).pending.any condition := by
  rw [select, List.length_filterMap_eq_countP]
  refine List.countP_congr fun seq _ => ?_
  cases (tracker.slot seq).pending with
  | none => simp
  | some request => by_cases h : condition request = true <;> simp [h]

theorem isPending_expire (tracker : Tracker) (now : Moment) (seq : UInt8) :
    (tracker.expire now).2.isPending seq =
      (tracker.isPending seq && !(tracker.slot seq).isDue now) := by
  rw [isPending, slot_expire, isPending]
  cases due : (tracker.slot seq).isDue now <;> simp

theorem isPending_of_isDue {tracker : Tracker} {seq : UInt8} {now : Moment}
    (due : (tracker.slot seq).isDue now = true) : tracker.isPending seq = true := by
  cases pending : (tracker.slot seq).pending with
  | none => simp [Slot.isDue, pending] at due
  | some request => simp [isPending, pending]

theorem pendingCount_expire (tracker : Tracker) (now : Moment) :
    (tracker.expire now).2.pendingCount + (tracker.expire now).1.length = tracker.pendingCount := by
  have due : (tracker.expire now).1.length =
      numbers.countP fun seq => (tracker.slot seq).isDue now := length_select _ _
  rw [due, pendingCount, pendingCount]
  induction numbers with
  | nil => rfl
  | cons seq rest ih =>
    have here := isPending_expire tracker now seq
    rw [List.countP_cons, List.countP_cons, List.countP_cons, here]
    cases isDue : (tracker.slot seq).isDue now with
    | false => simp; omega
    | true => simp [isPending_of_isDue isDue]; omega

theorem pendingCount_failAll (tracker : Tracker) : tracker.failAll.2.pendingCount = 0 := by
  rw [pendingCount, List.countP_eq_zero]
  intro seq _
  simp [isPending, slot_failAll]

theorem pendingCount_register (tracker : Tracker) (seq : UInt8) (deadline : Moment) :
    (tracker.register seq deadline).2.pendingCount + (if tracker.isPending seq then 1 else 0) =
      tracker.pendingCount + 1 :=
  pendingCount_update tracker seq ((tracker.slot seq).register deadline)

theorem pendingCount_resolve (tracker : Tracker) (response : Response) :
    (tracker.resolve response).2.pendingCount +
        (if (tracker.resolve response).1 then 1 else 0) = tracker.pendingCount := by
  have moved := pendingCount_update tracker response.seq
    ((tracker.slot response.seq).settle (some response))
  rw [Slot.settle_pending] at moved
  exact moved

theorem pendingCount_retry (tracker : Tracker) (seq : UInt8) (deadline : Moment) :
    (tracker.retry seq deadline).2.pendingCount = tracker.pendingCount :=
  pendingCount_update_of_eq _ _ (Slot.retry_isSome _ _)

theorem pendingCount_call (tracker : Tracker) (call : Call) :
    tracker.pendingCount + (tracker.issued call).length =
      (tracker.call call).pendingCount + (tracker.accepted call).length +
        (tracker.expired call).length + (tracker.failed call).sum +
        (tracker.replaced call).length := by
  cases call with
  | next =>
    have same : (tracker.call .next).pendingCount = tracker.pendingCount := rfl
    simp [same]
  | register seq deadline =>
    have moved : (tracker.call (.register seq deadline)).pendingCount +
        (if tracker.isPending seq then 1 else 0) = tracker.pendingCount + 1 :=
      pendingCount_register tracker seq deadline
    cases pending : tracker.isPending seq <;> simpa [pending] using moved.symm
  | resolve response =>
    have moved : (tracker.call (.resolve response)).pendingCount +
        (if (tracker.resolve response).1 then 1 else 0) = tracker.pendingCount :=
      pendingCount_resolve tracker response
    cases found : (tracker.resolve response).1 <;> simpa [found] using moved.symm
  | retry seq deadline =>
    have same : (tracker.call (.retry seq deadline)).pendingCount = tracker.pendingCount :=
      pendingCount_retry tracker seq deadline
    simp [same]
  | expire now =>
    have moved : (tracker.call (.expire now)).pendingCount + (tracker.expire now).1.length =
        tracker.pendingCount :=
      pendingCount_expire tracker now
    simpa using moved.symm
  | failAll =>
    have none_left : (tracker.call .failAll).pendingCount = 0 := pendingCount_failAll tracker
    simp [none_left, failAll]
  | take ticket =>
    have same : (tracker.call (.take ticket)).pendingCount = tracker.pendingCount := by
      rw [Tracker.call, take_eq, pendingCount_withdraw]
    simp [same]
  | wait ticket =>
    have same : (tracker.call (.wait ticket)).pendingCount = tracker.pendingCount := by
      rw [Tracker.call, wait_eq, pendingCount_withdraw]
    simp [same]

/-- The requests that were pending and those that are added are pending or were removed. -/
theorem pendingCount_after (tracker : Tracker) (calls : List Call) :
    tracker.pendingCount + (tracker.along issued calls).length =
      (tracker.after calls).pendingCount + (tracker.along accepted calls).length +
        (tracker.along expired calls).length + (tracker.along failed calls).sum +
        (tracker.along replaced calls).length := by
  induction calls generalizing tracker with
  | nil => rfl
  | cons first rest ih =>
    have now := pendingCount_call tracker first
    have later := ih (tracker.call first)
    simp only [along_cons, List.length_append, List.sum_append, after_cons]
    omega

theorem pendingCount_startingAt (seq : UInt8) : (startingAt seq).pendingCount = 0 := by
  rw [pendingCount, List.countP_eq_zero]
  intro other _
  simp [isPending, slot, startingAt, Slot.empty]

/-! ## Responses -/

/-- A mailbox holds only a response with the number of its ticket. -/
def Sorted (tracker : Tracker) : Prop :=
  ∀ seq response, some response ∈ (tracker.slot seq).settled → response.seq = seq

theorem sorted_startingAt (seq : UInt8) : (startingAt seq).Sorted := by
  intro other response mem
  simp [startingAt, slot, Slot.empty] at mem

theorem holds_startingAt (seq other : UInt8) (response : Response) :
    ((startingAt seq).slot other).holds response = 0 := by
  simp [startingAt, slot, Slot.empty, Slot.holds]

theorem Sorted.call {tracker : Tracker} (sorted : tracker.Sorted) (call : Call) :
    (tracker.call call).Sorted := by
  intro seq response mem
  rw [slot_call] at mem
  -- All that a slot does not keep is a response with its own number.
  have settled {left : Option Response}
      (mem : some response ∈ ((tracker.slot seq).settle left).settled)
      (own : some response = left → response.seq = seq) : response.seq = seq :=
    (Slot.mem_settle mem).elim (sorted seq response) own
  cases call with
  | next => exact sorted seq response mem
  | register other deadline =>
    rw [Call.onSlot] at mem
    split at mem
    · exact settled mem (by simp)
    · exact sorted seq response mem
  | resolve found =>
    rw [Call.onSlot] at mem
    split at mem
    · rename_i same
      refine settled mem fun equal => ?_
      rw [Option.some.inj equal]
      exact same
    · exact sorted seq response mem
  | retry other deadline =>
    rw [Call.onSlot] at mem
    split at mem
    · rw [Slot.retry_settled] at mem
      exact sorted seq response mem
    · exact sorted seq response mem
  | expire now =>
    rw [Call.onSlot] at mem
    split at mem
    · exact settled mem (by simp)
    · exact sorted seq response mem
  | failAll => exact settled mem (by simp)
  | take ticket | wait ticket =>
    rw [Call.onSlot] at mem
    split at mem
    · obtain kept | cleared := List.mem_or_eq_of_mem_set mem
      · exact sorted seq response kept
      · cases cleared
    · exact sorted seq response mem

theorem look_eq_response_iff (tracker : Tracker) (ticket : Ticket) (response : Response) :
    tracker.look ticket = .response response ↔
      (tracker.slot ticket.seq).settled[ticket.turn]? = some (some response) := by
  rw [← Slot.mailbox?_eq_holding_iff, look]
  change _ ↔ tracker.mailbox? ticket = _
  split <;> simp [*]

theorem Sorted.seq_of_look {tracker : Tracker} (sorted : tracker.Sorted) {ticket : Ticket}
    {response : Response} (found : tracker.look ticket = .response response) :
    response.seq = ticket.seq :=
  sorted _ _ (List.mem_of_getElem? ((look_eq_response_iff _ _ _).1 found))

theorem count_look (tracker : Tracker) (ticket : Ticket) (response : Response) :
    (tracker.look ticket).response?.toList.count response =
      if (tracker.slot ticket.seq).settled[ticket.turn]? = some (some response) then 1 else 0 := by
  simp only [← look_eq_response_iff]
  cases tracker.look ticket with
  | response found => simp [Waited.response?, List.count_singleton]
  | timeout => simp [Waited.response?]
  | dropped => simp [Waited.response?]

theorem Sorted.holds_withdraw {tracker : Tracker} (sorted : tracker.Sorted) (ticket : Ticket)
    (response : Response) :
    (tracker.look ticket).response?.toList.count response +
        ((tracker.withdraw ticket).slot response.seq).holds response =
      (tracker.slot response.seq).holds response := by
  rw [count_look, slot_withdraw]
  by_cases same : ticket.seq = response.seq
  · rw [if_pos same, same, Nat.add_comm]
    exact Slot.holds_clear _ _ _
  · have none_here : (tracker.slot ticket.seq).settled[ticket.turn]? ≠ some (some response) :=
      fun here => same (sorted _ _ (List.mem_of_getElem? here)).symm
    rw [if_neg same, if_neg none_here, Nat.zero_add]

theorem accepted_resolve (tracker : Tracker) (response : Response) :
    tracker.accepted (.resolve response) =
      if tracker.isPending response.seq then [response] else [] := rfl

theorem Sorted.holds_call {tracker : Tracker} (sorted : tracker.Sorted) (call : Call)
    (response : Response) :
    ((tracker.delivered call).map (·.2)).count response +
        ((tracker.call call).slot response.seq).holds response =
      (tracker.slot response.seq).holds response + (tracker.accepted call).count response := by
  cases call with
  | take ticket =>
    have moved := sorted.holds_withdraw ticket response
    simpa [Tracker.call, take_eq, Function.comp_def] using moved
  | wait ticket =>
    have moved := sorted.holds_withdraw ticket response
    simpa [Tracker.call, wait_eq, Function.comp_def] using moved
  | resolve found =>
    rw [slot_call, Call.onSlot]
    simp only [delivered, accepted_resolve, List.map_nil, List.count_nil, Nat.zero_add]
    split
    · rename_i same
      simp only [Slot.holds_settle_some, isPending, same]
      cases (tracker.slot response.seq).pending <;> simp [List.count_singleton]
    · rename_i other
      have ne : found ≠ response := fun equal => other (congrArg Response.seq equal)
      cases tracker.isPending found.seq <;> simp [ne]
  | register _ _ | retry _ _ | expire _ =>
    rw [slot_call, Call.onSlot]
    split <;> simp
  | failAll | next => simp [slot_call, Call.onSlot]

/-- The responses accepted are the responses delivered and those still in a mailbox. -/
theorem Sorted.holds_after {tracker : Tracker} (sorted : tracker.Sorted) (calls : List Call)
    (response : Response) :
    ((tracker.along delivered calls).map (·.2)).count response +
        ((tracker.after calls).slot response.seq).holds response =
      (tracker.slot response.seq).holds response + (tracker.along accepted calls).count response := by
  induction calls generalizing tracker with
  | nil => simp
  | cons first rest ih =>
    have now := sorted.holds_call first response
    have later := ih (sorted.call first)
    simp only [along_cons, List.map_append, List.count_append, after_cons]
    omega

theorem Sorted.seq_of_delivered {tracker : Tracker} (sorted : tracker.Sorted) (calls : List Call)
    {delivery : Ticket × Response} (mem : delivery ∈ tracker.along delivered calls) :
    delivery.2.seq = delivery.1.seq := by
  induction calls generalizing tracker with
  | nil => cases mem
  | cons first rest ih =>
    rw [along_cons, List.mem_append] at mem
    obtain now | later := mem
    · have looked {ticket : Ticket}
          (mem : delivery ∈ (tracker.look ticket).response?.toList.map (ticket, ·)) :
          delivery.2.seq = delivery.1.seq := by
        cases found : tracker.look ticket with
        | response response =>
          rw [found] at mem
          simp only [Waited.response?, Option.toList_some, List.map_cons, List.map_nil,
            List.mem_singleton] at mem
          subst mem
          exact sorted.seq_of_look found
        | timeout | dropped => simp [found, Waited.response?] at mem
      cases first with
      | take ticket =>
        rw [delivered, take_eq] at now
        exact looked now
      | wait ticket =>
        rw [delivered, wait_eq] at now
        exact looked now
      | _ => cases now
    · exact ih (sorted.call first) later

end Tracker

end LightingControl
