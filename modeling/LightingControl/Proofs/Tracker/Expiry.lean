import Mathlib.Data.List.Induction
import Mathlib.Data.List.Nodup
import LightingControl.Proofs.Tracker.Entries
/-!
# What expires

A request expires by the deadline that was set last, and takes with it how often it was sent again
since it was registered.  To expire twice is to expire once, at the later moment.
-/

set_option autoImplicit false

namespace LightingControl

namespace Slot

theorem isDue_iff {slot : Slot} {now : Moment} :
    slot.isDue now = true ↔
      ∃ request, slot.pending = some request ∧ request.deadline ≤ now := by
  rw [isDue, Option.any_eq_true]
  simp only [decide_eq_true_iff]

theorem isDue_mono {slot : Slot} {now later : Moment} (ordered : now ≤ later)
    (due : slot.isDue now = true) : slot.isDue later = true := by
  obtain ⟨request, pending, due⟩ := isDue_iff.1 due
  exact isDue_iff.2 ⟨request, pending, Nat.le_trans due ordered⟩

theorem isDue_settle (slot : Slot) (left : Option Response) (now : Moment) :
    (slot.settle left).isDue now = false := by
  rw [isDue, settle_pending]
  rfl

theorem exists_of_pending_retry {slot : Slot} {deadline : Moment} {request : PendingRequest}
    (pending : (slot.retry deadline).2.pending = some request) :
    ∃ old, slot.pending = some old ∧ request = old.retried deadline := by
  rw [retry_snd] at pending
  obtain ⟨old, before, retried⟩ := Option.map_eq_some_iff.1 pending
  exact ⟨old, before, retried.symm⟩

end Slot

namespace Tracker

variable (tracker : Tracker) {now later : Moment}

theorem isPending_of_expired {seq : UInt8} {request : PendingRequest}
    (expired : (seq, request) ∈ (tracker.expire now).1) :
    (tracker.expire now).2.isPending seq = false := by
  obtain ⟨pending, due⟩ := (mem_expire tracker now seq request).1 expired
  exact isPending_expire_of_due pending due

theorem slot_expire_of_not_expired {seq : UInt8}
    (kept : ∀ request, (seq, request) ∉ (tracker.expire now).1) :
    (tracker.expire now).2.slot seq = tracker.slot seq := by
  rw [slot_expire, if_neg]
  intro isDue
  obtain ⟨request, due⟩ := Slot.isDue_iff.1 isDue
  exact kept request ((mem_expire tracker now seq request).2 due)

theorem pending_expire_iff (seq : UInt8) (request : PendingRequest) :
    ((tracker.expire now).2.slot seq).pending = some request ↔
      (tracker.slot seq).pending = some request ∧ now < request.deadline := by
  rw [slot_expire]
  by_cases due : (tracker.slot seq).isDue now = true
  · rw [if_pos due, Slot.settle_pending]
    obtain ⟨other, pending, passed⟩ := Slot.isDue_iff.1 due
    refine iff_of_false (by simp) fun ⟨same, ahead⟩ => ?_
    rw [pending, Option.some.injEq] at same
    exact Nat.not_lt.2 (same ▸ passed) ahead
  · rw [if_neg due]
    refine (and_iff_left_of_imp fun pending => Nat.lt_of_not_le fun passed => ?_).symm
    exact due (Slot.isDue_iff.2 ⟨request, pending, passed⟩)

theorem expire_expire_state (ordered : now ≤ later) :
    ((tracker.expire now).2.expire later).2 = (tracker.expire later).2 := by
  refine ext (by simp only [expire_rotation]) fun seq => ?_
  rw [slot_expire, slot_expire, slot_expire]
  by_cases due : (tracker.slot seq).isDue now = true
  · rw [if_pos due, if_pos (Slot.isDue_mono ordered due), Slot.isDue_settle,
      if_neg Bool.false_ne_true]
  · rw [if_neg due]

theorem expire_expire (ordered : now ≤ later) :
    ((tracker.expire now).1 ++ ((tracker.expire now).2.expire later).1).Perm
      (tracker.expire later).1 := by
  have once (tracker : Tracker) (now : Moment) : (tracker.expire now).1.Nodup :=
    (nodup_expire tracker now).of_map
  have apart : (tracker.expire now).1.Disjoint ((tracker.expire now).2.expire later).1 := by
    rintro ⟨seq, request⟩ before after
    obtain ⟨-, passed⟩ := (mem_expire tracker now seq request).1 before
    obtain ⟨kept, -⟩ := (mem_expire _ later seq request).1 after
    exact Nat.not_lt.2 passed ((pending_expire_iff tracker seq request).1 kept).2
  refine (List.perm_ext_iff_of_nodup ((once _ _).append (once _ _) apart) (once _ _)).2 ?_
  rintro ⟨seq, request⟩
  rw [List.mem_append, mem_expire, mem_expire, mem_expire, pending_expire_iff]
  constructor
  · rintro (⟨pending, passed⟩ | ⟨⟨pending, -⟩, passed⟩)
    · exact ⟨pending, Nat.le_trans passed ordered⟩
    · exact ⟨pending, passed⟩
  · rintro ⟨pending, passed⟩
    obtain ahead | soon := Nat.lt_or_ge now request.deadline
    · exact .inr ⟨⟨pending, ahead⟩, passed⟩
    · exact .inl ⟨pending, soon⟩

theorem expire_again :
    (tracker.expire now).2.expire now = ([], (tracker.expire now).2) := by
  have together := tracker.expire_expire (Nat.le_refl now)
  have none : ((tracker.expire now).2.expire now).1 = [] := by
    have length := together.length_eq
    rw [List.length_append] at length
    exact List.eq_nil_of_length_eq_zero (by omega)
  exact Prod.ext none (tracker.expire_expire_state (Nat.le_refl now))

theorem expire_retry_of_lt {seq : UInt8} {request : PendingRequest} {deadline : Moment}
    (pending : (tracker.slot seq).pending = some request)
    (room : request.retries + 1 < UInt32.size) (ahead : now < deadline) :
    ((tracker.retry seq deadline).2.expire now).2.slot seq =
      { tracker.slot seq with pending := some ⟨deadline, request.count + 1⟩ } := by
  rw [retry_of_again pending (PendingRequest.again?_of_lt room deadline), slot_expire,
    slot_update_self, if_neg]
  simp [Slot.isDue, ahead]

/-- The call would set the deadline of a request under the number. -/
def Call.sets (seq : UInt8) : Call → Bool
  | .register other _ | .retry other _ => other = seq
  | _ => false

theorem Call.pending_onSlot {call : Call} {seq : UInt8} {slot : Slot} {request : PendingRequest}
    (pending : (call.onSlot seq slot).pending = some request) :
    (∃ deadline, call = .register seq deadline ∧ request = ⟨deadline, 0⟩) ∨
      (∃ old deadline, call = .retry seq deadline ∧ slot.pending = some old ∧
        request = old.retried deadline) ∨
      call.sets seq = false ∧ slot.pending = some request := by
  cases call with
  | next => exact .inr (.inr ⟨rfl, pending⟩)
  | register other deadline =>
    rw [onSlot] at pending
    split at pending
    · rename_i same
      subst same
      exact .inl ⟨deadline, rfl, (Option.some.inj pending).symm⟩
    · rename_i ne
      exact .inr (.inr ⟨decide_eq_false ne, pending⟩)
  | retry other deadline =>
    rw [onSlot] at pending
    split at pending
    · rename_i same
      subst same
      obtain ⟨old, before, counted⟩ := Slot.exists_of_pending_retry pending
      exact .inr (.inl ⟨old, deadline, rfl, before, counted⟩)
    · rename_i ne
      exact .inr (.inr ⟨decide_eq_false ne, pending⟩)
  | resolve response | expire now =>
    rw [onSlot] at pending
    split at pending
    · simp at pending
    · exact .inr (.inr ⟨rfl, pending⟩)
  | failAll => simp [onSlot] at pending
  | take ticket | wait ticket =>
    rw [onSlot] at pending
    refine .inr (.inr ⟨rfl, ?_⟩)
    split at pending
    · rwa [Slot.clear_pending] at pending
    · exact pending

/-- The deadlines that retries set for the request that is pending under the number. -/
def prolonged (seq : UInt8) (tracker : Tracker) : Call → List Moment
  | .retry other deadline =>
    let count : Option Nat := (tracker.retry other deadline).1
    if other = seq ∧ count.isSome then [deadline] else []
  | _ => []

theorem prolonged_of_again {seq : UInt8} {tracker : Tracker} {request again : PendingRequest}
    (pending : (tracker.slot seq).pending = some request) {deadline : Moment}
    (counted : request.again? deadline = some again) :
    prolonged seq tracker (.retry seq deadline) = [deadline] := by
  rw [prolonged, retry_of_again pending counted]
  exact if_pos ⟨rfl, rfl⟩

theorem prolonged_of_full {seq : UInt8} {tracker : Tracker} {request : PendingRequest}
    (pending : (tracker.slot seq).pending = some request) {deadline : Moment}
    (full : request.again? deadline = none) :
    prolonged seq tracker (.retry seq deadline) = [] := by
  rw [prolonged, retry_of_full pending full]
  exact if_neg fun has => Bool.false_ne_true has.2

theorem prolonged_of_not_sets {seq : UInt8} {call : Call} (other : call.sets seq = false)
    (tracker : Tracker) : prolonged seq tracker call = [] := by
  cases call with
  | retry number deadline => exact if_neg fun ⟨same, _⟩ => of_decide_eq_false other same
  | _ => rfl

/-- The deadlines set by retries after the calls of `early` and a registration. -/
def retriedSince (start : Tracker) (seq : UInt8) (deadline : Moment) (early late : List Call) :
    List Moment :=
  (start.after (early ++ [.register seq deadline])).along (prolonged seq) late

theorem retriedSince_concat (start : Tracker) (seq : UInt8) (deadline : Moment)
    (early late : List Call) (call : Call) :
    start.retriedSince seq deadline early (late ++ [call]) =
      start.retriedSince seq deadline early late ++
        prolonged seq (start.after (early ++ .register seq deadline :: late)) call := by
  rw [retriedSince, along_append, along_cons, along_nil, List.append_nil, ← after_append,
    List.append_assoc]
  rfl

/-- A pending request was registered, and the retries since then are counted and the last of them
has set its deadline. -/
theorem exists_register_of_pending (first : UInt8) (calls : List Call) {seq : UInt8}
    {request : PendingRequest}
    (pending : (((startingAt first).after calls).slot seq).pending = some request) :
    ∃ early deadline late, calls = early ++ .register seq deadline :: late ∧
      (∀ again, .register seq again ∉ late) ∧
      let retried := (startingAt first).retriedSince seq deadline early late
      request.retries = retried.length ∧ request.deadline = retried.getLast?.getD deadline := by
  induction calls using List.reverseRecOn generalizing request with
  | nil => simp [startingAt, slot, Slot.empty] at pending
  | append_singleton rest last ih =>
    rw [after_append, after_cons, after_nil, slot_call] at pending
    obtain ⟨deadline, rfl, rfl⟩ | ⟨old, moved, rfl, before, rfl⟩ | ⟨other, before⟩ :=
      last.pending_onSlot pending
    · exact ⟨rest, deadline, [], rfl, fun _ => List.not_mem_nil, rfl, rfl⟩
    · obtain ⟨early, deadline, late, rfl, newest, retries, due⟩ := ih before
      refine ⟨early, deadline, late ++ [.retry seq moved], by simp, fun again => ?_, ?_⟩
      · simpa using newest again
      · rw [retriedSince_concat]
        cases counted : old.again? moved with
        | none =>
          rw [prolonged_of_full before counted, List.append_nil, PendingRequest.retried, counted]
          exact ⟨retries, due⟩
        | some again =>
          obtain ⟨deadline, count⟩ := PendingRequest.again?_eq_some counted
          rw [prolonged_of_again before counted, PendingRequest.retried, counted]
          simp [deadline, count, retries]
    · obtain ⟨early, deadline, late, rfl, newest, retries, due⟩ := ih before
      refine ⟨early, deadline, late ++ [last], by simp, fun again mem => ?_, ?_⟩
      · obtain before | now := List.mem_append.1 mem
        · exact newest again before
        · rw [← List.mem_singleton.1 now] at other
          exact of_decide_eq_false other rfl
      · rw [retriedSince_concat, prolonged_of_not_sets other, List.append_nil]
        exact ⟨retries, due⟩

/-- What expires is what is due by the deadline that was set last.  It is given once and removed, and
all else is left as it is.  To expire at a moment and then at a later one is to expire at the later
one. -/
theorem expiry_composes (tracker : Tracker) (ordered : now ≤ later) :
    let due := (tracker.expire now).1
    let left := (tracker.expire now).2
    (∀ seq request, (seq, request) ∈ due ↔
        (tracker.slot seq).pending = some request ∧ request.deadline ≤ now) ∧
      (due.map (·.1)).Nodup ∧
      left.rotation = tracker.rotation ∧
      (∀ seq request, (seq, request) ∈ due → left.isPending seq = false) ∧
      (∀ seq, (∀ request, (seq, request) ∉ due) →
        left.slot seq = tracker.slot seq ∧
          left.pendingTable.entries seq = tracker.pendingTable.entries seq) ∧
      (due ++ (left.expire later).1).Perm (tracker.expire later).1 ∧
      (left.expire later).2 = (tracker.expire later).2 ∧
      left.expire now = ([], left) ∧
      (∀ seq request deadline, (tracker.slot seq).pending = some request →
        (request.retries + 1 < UInt32.size → now < deadline →
          let retried := (tracker.retry seq deadline).2
          (∀ other, (seq, other) ∉ (retried.expire now).1) ∧
            (retried.expire now).2.slot seq =
              { tracker.slot seq with pending := some ⟨deadline, request.count + 1⟩ }) ∧
          (¬ request.retries + 1 < UInt32.size →
            tracker.retry seq deadline = (.overflow, tracker))) ∧
      (∀ order, tracker.pendingTable.Order order →
        (tracker.pendingTable.expire order now).1.Perm
            ((due.map (·.1)).filterMap tracker.pendingTable.entries) ∧
          (tracker.pendingTable.expire order now).2 = left.pendingTable) ∧
      ∀ first calls, tracker = (startingAt first).after calls →
        (∀ table, PendingTable.empty.Reaches table calls ↔ table = tracker.pendingTable) ∧
        ∀ seq request, (seq, request) ∈ due →
          ∃ early deadline late, calls = early ++ .register seq deadline :: late ∧
            (∀ again, .register seq again ∉ late) ∧
            let retried := (startingAt first).retriedSince seq deadline early late
            request.retries = retried.length ∧ retried.length < UInt32.size ∧
              request.deadline = retried.getLast?.getD deadline := by
  intro due left
  refine ⟨mem_expire tracker now, nodup_expire tracker now, expire_rotation tracker now,
    fun _ _ => tracker.isPending_of_expired, ?_, tracker.expire_expire ordered,
    tracker.expire_expire_state ordered, tracker.expire_again, ?_,
    fun _ => tracker.expire_pendingTable now, ?_⟩
  · intro seq kept
    have same : left.slot seq = tracker.slot seq := tracker.slot_expire_of_not_expired kept
    exact ⟨same, congrArg (Slot.entryFor · seq) same⟩
  · intro seq request deadline pending
    refine ⟨?_, fun full => retry_of_full pending (PendingRequest.again?_of_full full deadline)⟩
    intro room ahead retried
    refine ⟨fun other expired => ?_, tracker.expire_retry_of_lt pending room ahead⟩
    have free := retried.isPending_of_expired expired
    rw [isPending, tracker.expire_retry_of_lt pending room ahead] at free
    cases free
  · rintro first calls rfl
    refine ⟨fun table => ?_, fun seq request expired => ?_⟩
    · rw [← pendingTable_startingAt first, PendingTable.reaches_iff]
    · obtain ⟨early, deadline, late, split, newest, retries, due⟩ :=
        exists_register_of_pending first calls ((mem_expire _ now seq request).1 expired).1
      refine ⟨early, deadline, late, split, newest, retries, ?_, due⟩
      exact retries ▸ request.count.toNat_lt

/-- One request is due, the deadline of another has been moved ahead by two retries, that of a third
has been moved back, and a fourth is due only later. -/
theorem expiry_composes_retried :
    let calls : List Call :=
      [.register 1 10, .register 2 60, .register 3 10, .retry 3 90, .retry 3 95, .register 4 100,
        .retry 4 5]
    let tracker := (startingAt 250).after calls
    let due := (tracker.expire 10).1
    let left := (tracker.expire 10).2
    10 ≤ 60 ∧
      due = [(1, ⟨10, 0⟩), (4, ⟨5, 1⟩)] ∧
      left.pendingTable.entries 3 = some ⟨3, ⟨95, 2⟩, ⟨3, 0⟩⟩ ∧
      (tracker.expire 60).1 = [(1, ⟨10, 0⟩), (2, ⟨60, 0⟩), (4, ⟨5, 1⟩)] ∧
      (due ++ (left.expire 60).1).Perm (tracker.expire 60).1 ∧
      (left.expire 60).2 = (tracker.expire 60).2 ∧
      left.expire 10 = ([], left) := by
  intro calls tracker due left
  have ordered : 10 ≤ 60 := by decide
  obtain ⟨-, -, -, -, kept, total, state, again, -⟩ := expiry_composes tracker ordered
  have given : due = [(1, ⟨10, 0⟩), (4, ⟨5, 1⟩)] := by decide +kernel
  have other : ∀ request, (3, request) ∉ due := by
    rw [given]
    simp
  refine ⟨ordered, given, ?_, by decide +kernel, total, state, again⟩
  rw [(kept 3 other).2]
  decide +kernel

end Tracker
end LightingControl
