import LightingControl.Proofs.Tracker.Calls
/-!
# Calls about different numbers

A call that registers, completes or retries a request, or looks into its mailbox, is about one number.
What becomes of a number, and what its calls are answered, depends only on the calls about it and their
order, however calls about other numbers come between them.
-/

set_option autoImplicit false

namespace LightingControl.Tracker

/-- The number that a call is about; the other calls are about all of them or about none yet. -/
def Call.number? : Call → Option UInt8
  | .register seq _ | .retry seq _ => some seq
  | .resolve response => some response.seq
  | .take ticket | .wait ticket => some ticket.seq
  | .next | .expire _ | .failAll => none

inductive Answer where
  | registered (ticket : Ticket)
  | completed (found : Bool)
  | retried (retried : Retried)
  | taken (response : Option Response)
  | waited (waited : Waited)
  deriving DecidableEq, Repr

def answer? (tracker : Tracker) : Call → Option Answer
  | .register seq deadline => some (.registered (tracker.register seq deadline).1)
  | .resolve response => some (.completed (tracker.resolve response).1)
  | .retry seq deadline => some (.retried (tracker.retry seq deadline).1)
  | .take ticket => some (.taken (tracker.take ticket).1)
  | .wait ticket => some (.waited (tracker.wait ticket).1)
  | .next | .expire _ | .failAll => none

def answersAbout (tracker : Tracker) (seq : UInt8) (calls : List Call) : List Answer :=
  tracker.along
    (fun tracker call => if call.number? = some seq then (tracker.answer? call).toList else []) calls

variable {tracker other : Tracker} {first second call : Call} {seq number : UInt8}

theorem Call.onSlot_of_ne (about : call.number? = some seq) (apart : seq ≠ number) (slot : Slot) :
    call.onSlot number slot = slot := by
  cases call with
  | next | expire now | failAll => cases about
  | register own deadline | retry own deadline | resolve response =>
    cases about
    exact if_neg apart
  | take ticket | wait ticket =>
    cases about
    exact if_neg apart

theorem slot_call_of_ne (tracker : Tracker) (about : call.number? = some seq) (apart : seq ≠ number) :
    (tracker.call call).slot number = tracker.slot number := by
  rw [slot_call, Call.onSlot_of_ne about apart]

theorem rotation_call (tracker : Tracker) (about : call.number? = some seq) :
    (tracker.call call).rotation = tracker.rotation := by
  cases call with
  | next | expire now | failAll => cases about
  | register own deadline | resolve response | retry own deadline => rfl
  | take ticket => rw [Tracker.call, take_eq]; rfl
  | wait ticket => rw [Tracker.call, wait_eq]; rfl

theorem answer?_congr (about : call.number? = some seq) (same : tracker.slot seq = other.slot seq) :
    tracker.answer? call = other.answer? call := by
  cases call with
  | next | expire now | failAll => cases about
  | register own deadline | resolve response | retry own deadline =>
    cases about
    simp only [answer?, register, resolve, isPending, retry, same]
  | take ticket =>
    cases about
    simp only [answer?, take_eq, look, mailbox?, same]
  | wait ticket =>
    cases about
    simp only [answer?, wait_eq, look, mailbox?, same]

/-- Two calls about different numbers have the same effect in either order. -/
theorem call_comm (tracker : Tracker) (isFirst : first.number? = some seq)
    (isSecond : second.number? = some number) (apart : seq ≠ number) :
    (tracker.call first).call second = (tracker.call second).call first := by
  refine ext ?_ fun place => ?_
  · simp only [rotation_call _ isFirst, rotation_call _ isSecond]
  · by_cases here : seq = place
    · subst here
      rw [slot_call_of_ne _ isSecond apart.symm, slot_call, slot_call,
        slot_call_of_ne _ isSecond apart.symm]
    · rw [slot_call, slot_call_of_ne _ isFirst here, slot_call_of_ne _ isFirst here, slot_call]

theorem answersAbout_cons (tracker : Tracker) (seq : UInt8) (first : Call) (rest : List Call) :
    tracker.answersAbout seq (first :: rest) =
      (if first.number? = some seq then (tracker.answer? first).toList else []) ++
        (tracker.call first).answersAbout seq rest :=
  along_cons tracker _ first rest

theorem rotation_after {calls : List Call} (numbered : ∀ call ∈ calls, call.number? ≠ none) :
    (tracker.after calls).rotation = tracker.rotation := by
  induction calls generalizing tracker with
  | nil => rfl
  | cons first rest ih =>
    obtain ⟨here, later⟩ := List.forall_mem_cons.1 numbered
    obtain ⟨seq, about⟩ := Option.ne_none_iff_exists'.1 here
    rw [after_cons, ih later, rotation_call _ about]

theorem after_filter (same : tracker.slot seq = other.slot seq) {calls : List Call}
    (numbered : ∀ call ∈ calls, call.number? ≠ none) :
    let own := calls.filter fun call => call.number? = some seq
    (tracker.after calls).slot seq = (other.after own).slot seq ∧
      tracker.answersAbout seq calls = other.answersAbout seq own := by
  induction calls generalizing tracker other with
  | nil => exact ⟨same, rfl⟩
  | cons first rest ih =>
    obtain ⟨here, later⟩ := List.forall_mem_cons.1 numbered
    by_cases about : first.number? = some seq
    · have alike : (tracker.call first).slot seq = (other.call first).slot seq := by
        rw [slot_call, slot_call, same]
      obtain ⟨slot, answers⟩ := ih alike later
      rw [List.filter_cons_of_pos (by simpa using about)]
      refine ⟨slot, ?_⟩
      rw [answersAbout_cons, answersAbout_cons, answers, answer?_congr about same]
    · obtain ⟨number, isNumber⟩ := Option.ne_none_iff_exists'.1 here
      have apart : number ≠ seq := fun equal => about (equal ▸ isNumber)
      have alike : (tracker.call first).slot seq = other.slot seq := by
        rw [slot_call_of_ne _ isNumber apart, same]
      obtain ⟨slot, answers⟩ := ih alike later
      rw [List.filter_cons_of_neg (by simpa using about)]
      refine ⟨slot, ?_⟩
      rw [answersAbout_cons, if_neg about, List.nil_append, answers]

/-- Calls about different numbers can be made in either order: the trackers they lead to are the same,
with their table, rotation and mailboxes, and so are the answers.  In whatever way the calls about
several numbers are mixed, nothing but their order within each number matters.  To complete or retry a
request that is not pending is refused and has no effect. -/
theorem calls_independent (tracker : Tracker) :
    (∀ first second seq number, first.number? = some seq → second.number? = some number →
      seq ≠ number →
      (tracker.call first).call second = (tracker.call second).call first ∧
        ((tracker.call first).call second).rotation = tracker.rotation ∧
        (tracker.call second).answer? first = tracker.answer? first ∧
        (tracker.call first).answer? second = tracker.answer? second) ∧
      (∀ calls mixed : List Call, (∀ call ∈ calls ++ mixed, call.number? ≠ none) →
        (∀ seq, (calls.filter fun call => call.number? = some seq) =
          mixed.filter fun call => call.number? = some seq) →
        tracker.after calls = tracker.after mixed ∧
          ∀ seq, tracker.answersAbout seq calls = tracker.answersAbout seq mixed) ∧
      (∀ response, tracker.isPending response.seq = false →
        tracker.resolve response = (false, tracker)) ∧
      ∀ seq deadline, tracker.isPending seq = false →
        tracker.retry seq deadline = (.free, tracker) := by
  refine ⟨?_, ?_, fun response => resolve_of_free, fun seq deadline free => retry_of_free free _⟩
  · intro first second seq number isFirst isSecond apart
    refine ⟨tracker.call_comm isFirst isSecond apart, ?_, ?_, ?_⟩
    · rw [rotation_call _ isSecond, rotation_call _ isFirst]
    · exact answer?_congr isFirst (slot_call_of_ne _ isSecond apart.symm)
    · exact answer?_congr isSecond (slot_call_of_ne _ isFirst apart)
  · intro calls mixed numbered streams
    obtain ⟨numbered, numberedMixed⟩ := List.forall_mem_append.1 numbered
    have alone (seq : UInt8) := after_filter (Eq.refl (tracker.slot seq)) numbered
    have aloneMixed (seq : UInt8) := after_filter (Eq.refl (tracker.slot seq)) numberedMixed
    refine ⟨ext ?_ fun seq => ?_, fun seq => ?_⟩
    · rw [rotation_after numbered, rotation_after numberedMixed]
    · rw [(alone seq).1, streams, ← (aloneMixed seq).1]
    · rw [(alone seq).2, streams, ← (aloneMixed seq).2]

/-- A pending request is replaced and sent again while the response to another one arrives and is
taken, in two orders. -/
theorem calls_independent_overlapping :
    let tracker := (startingAt 250).after [.register 1 10, .register 2 20]
    let reply : Response := ⟨.answer, 2, [7]⟩
    let calls : List Call := [.register 1 30, .resolve reply, .retry 1 40, .take ⟨2, 0⟩]
    let mixed : List Call := [.resolve reply, .take ⟨2, 0⟩, .register 1 30, .retry 1 40]
    (∀ call ∈ calls ++ mixed, call.number? ≠ none) ∧
      (tracker.call (.register 1 30)).call (.resolve reply) =
        (tracker.call (.resolve reply)).call (.register 1 30) ∧
      tracker.after calls = tracker.after mixed ∧
      tracker.answersAbout 2 calls = [.completed true, .taken (some reply)] ∧
      tracker.answersAbout 1 mixed = [.registered ⟨1, 1⟩, .retried (.counted 1)] ∧
      tracker.resolve ⟨.ok, 3, []⟩ = (false, tracker) ∧ tracker.retry 4 50 = (.free, tracker) := by
  intro tracker reply calls mixed
  have numbered : ∀ call ∈ calls ++ mixed, call.number? ≠ none := by decide
  obtain ⟨either, runs, completing, retrying⟩ := calls_independent tracker
  obtain ⟨order, -⟩ := either (.register 1 30) (.resolve reply) 1 2 rfl rfl (by decide)
  have streams (seq : UInt8) : (calls.filter fun call => call.number? = some seq) =
      mixed.filter fun call => call.number? = some seq := by
    by_cases one : 1 = seq
    · subst one
      rfl
    · by_cases two : 2 = seq
      · subst two
        rfl
      · simp [calls, mixed, reply, Call.number?, one, two]
  obtain ⟨same, answers⟩ := runs calls mixed numbered streams
  refine ⟨numbered, order, same, ?_, ?_, completing ⟨.ok, 3, []⟩ ?_, retrying 4 50 ?_⟩
  · rw [answers]
    decide +kernel
  · rw [← answers]
    decide +kernel
  · decide +kernel
  · decide +kernel

end LightingControl.Tracker
