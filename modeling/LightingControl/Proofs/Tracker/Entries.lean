import Mathlib.Data.List.Basic
import Mathlib.Logic.Function.Basic
import LightingControl.Proofs.Tracker.Balance
/-!
# The table of pending requests

A pending request stands in a table under its number, and has the number itself too.  Expiry goes
through the entries in whatever order the table has, notes the numbers that are due as the entries
have them, and then removes what stands under these numbers.  This removes the entries that were due
because every entry stands under the number that it has.
-/

set_option autoImplicit false

namespace LightingControl

/-- A pending request with its number and the ticket that waits for its response. -/
structure Entry where
  seq : UInt8
  request : PendingRequest
  waiter : Ticket
  deriving DecidableEq, Repr

structure PendingTable where
  entries : UInt8 → Option Entry
  turns : UInt8 → Nat

namespace PendingTable

def empty : PendingTable :=
  ⟨fun _ => none, fun _ => 0⟩

def put (table : PendingTable) (seq : UInt8) (entry : Option Entry) : PendingTable :=
  { table with entries := Function.update table.entries seq entry }

def register (table : PendingTable) (seq : UInt8) (deadline : Moment) : Ticket × PendingTable :=
  let waiter : Ticket := ⟨seq, table.turns seq⟩
  (waiter,
    { table.put seq (some ⟨seq, ⟨deadline, 0⟩, waiter⟩) with
      turns := Function.update table.turns seq (table.turns seq + 1) })

def remove (table : PendingTable) (seq : UInt8) : Option Entry × PendingTable :=
  (table.entries seq, table.put seq none)

def retry (table : PendingTable) (seq : UInt8) (deadline : Moment) : Retried × PendingTable :=
  match table.entries seq with
  | none => (.free, table)
  | some entry =>
    match entry.request.again? deadline with
    | none => (.overflow, table)
    | some request => (.counted request.count, table.put seq (some { entry with request }))

def due (table : PendingTable) (order : List UInt8) (now : Moment) : List UInt8 :=
  ((order.filterMap table.entries).filter fun entry => entry.request.deadline ≤ now).map Entry.seq

def removeEach (table : PendingTable) : List UInt8 → List Entry × PendingTable
  | [] => ([], table)
  | first :: rest =>
    let (found, table) := table.remove first
    let (others, table) := table.removeEach rest
    (found.toList ++ others, table)

def expire (table : PendingTable) (order : List UInt8) (now : Moment) :
    List Entry × PendingTable :=
  table.removeEach (table.due order now)

def clear (table : PendingTable) : PendingTable :=
  { table with entries := fun _ => none }

/-- An order that the table can be gone through in: every number that has an entry, once. -/
structure Order (table : PendingTable) (order : List UInt8) : Prop where
  once : order.Nodup
  all : ∀ seq, seq ∈ order ↔ (table.entries seq).isSome

def Keyed (table : PendingTable) : Prop :=
  ∀ seq entry, table.entries seq = some entry → entry.seq = seq

def isDue (table : PendingTable) (now : Moment) (seq : UInt8) : Bool :=
  (table.entries seq).any fun entry => entry.request.deadline ≤ now

theorem ext {first second : PendingTable} (entries : ∀ seq, first.entries seq = second.entries seq)
    (turns : ∀ seq, first.turns seq = second.turns seq) : first = second := by
  obtain ⟨_, _⟩ := first
  obtain ⟨_, _⟩ := second
  obtain rfl := funext entries
  obtain rfl := funext turns
  rfl

theorem due_eq {table : PendingTable} (keyed : table.Keyed) (order : List UInt8) (now : Moment) :
    table.due order now = order.filter (table.isDue now) := by
  induction order with
  | nil => rfl
  | cons first rest ih =>
    change table.due rest now = _ at ih
    rw [due] at ih ⊢
    rw [List.filter_cons, ← ih, isDue]
    cases found : table.entries first with
    | none => rw [List.filterMap_cons_none found]; rfl
    | some entry =>
      rw [List.filterMap_cons_some found, List.filter_cons, Option.any_some]
      split
      · rw [List.map_cons, keyed first entry found]
      · rfl

theorem removeEach_eq (table : PendingTable) {seqs : List UInt8} (once : seqs.Nodup) :
    table.removeEach seqs =
      (seqs.filterMap table.entries,
        { table with entries := fun seq => if seq ∈ seqs then none else table.entries seq }) := by
  induction seqs generalizing table with
  | nil => simp [removeEach]
  | cons first rest ih =>
    obtain ⟨new, once⟩ := List.nodup_cons.1 once
    have others : rest.filterMap (table.put first none).entries = rest.filterMap table.entries := by
      refine List.filterMap_congr fun seq mem => ?_
      exact Function.update_of_ne (fun same : seq = first => new (same ▸ mem)) _ _
    simp only [removeEach, remove, ih _ once, others]
    refine Prod.ext ?_ (PendingTable.ext (fun seq => ?_) fun _ => rfl)
    · cases found : table.entries first with
      | none => rw [List.filterMap_cons_none found]; rfl
      | some entry => exact (List.filterMap_cons_some found).symm
    · by_cases same : seq = first
      · simp [put, same]
      · simp [put, same]

/-- What expiry does to a table of which every entry stands under its own number. -/
theorem expire_eq {table : PendingTable} (keyed : table.Keyed) {order : List UInt8}
    (goes : table.Order order) (now : Moment) :
    table.expire order now =
      ((order.filter (table.isDue now)).filterMap table.entries,
        { table with
          entries := fun seq => if table.isDue now seq then none else table.entries seq }) := by
  rw [expire, due_eq keyed, removeEach_eq table (goes.once.filter _)]
  refine Prod.ext rfl (PendingTable.ext (fun seq => ?_) fun _ => rfl)
  have member : seq ∈ order.filter (table.isDue now) ↔ table.isDue now seq = true := by
    rw [List.mem_filter, goes.all]
    refine and_iff_right_of_imp fun due => ?_
    rw [isDue] at due
    cases found : table.entries seq with
    | none => simp [found] at due
    | some entry => rfl
  simp only [member]

end PendingTable

/-! ## The table of a tracker -/

/-- What stands in the table for a number with this slot. -/
def Slot.entryFor (slot : Slot) (seq : UInt8) : Option Entry :=
  slot.pending.map fun request => ⟨seq, request, ⟨seq, slot.settled.length⟩⟩

namespace Slot

theorem entryFor_of_free {slot : Slot} (free : slot.pending = none) (seq : UInt8) :
    slot.entryFor seq = none := by
  rw [entryFor, free, Option.map_none]

theorem entryFor_of_pending {slot : Slot} {request : PendingRequest}
    (pending : slot.pending = some request) (seq : UInt8) :
    slot.entryFor seq = some ⟨seq, request, ⟨seq, slot.settled.length⟩⟩ := by
  rw [entryFor, pending, Option.map_some]

@[simp] theorem entryFor_settle (slot : Slot) (left : Option Response) (seq : UInt8) :
    (slot.settle left).entryFor seq = none :=
  entryFor_of_free (settle_pending slot left) seq

theorem entryFor_register (slot : Slot) (deadline : Moment) (seq : UInt8) :
    (slot.register deadline).entryFor seq = some ⟨seq, ⟨deadline, 0⟩, ⟨seq, slot.turns⟩⟩ := by
  rw [register, length_settle slot none |>.symm]
  rfl

@[simp] theorem entryFor_clear (slot : Slot) (turn : Nat) (seq : UInt8) :
    (slot.clear turn).entryFor seq = slot.entryFor seq := by
  simp only [entryFor, clear, List.length_set]

theorem isSome_entryFor (slot : Slot) (seq : UInt8) :
    (slot.entryFor seq).isSome = slot.pending.isSome :=
  Option.isSome_map

end Slot

namespace Tracker

def pendingTable (tracker : Tracker) : PendingTable :=
  ⟨fun seq => (tracker.slot seq).entryFor seq, fun seq => (tracker.slot seq).turns⟩

theorem pendingTable_startingAt (seq : UInt8) : (startingAt seq).pendingTable = .empty := by
  refine PendingTable.ext (fun other => ?_) fun other => ?_ <;>
    simp [pendingTable, PendingTable.empty, Slot.entryFor, startingAt, slot, Slot.empty, Slot.turns]

theorem keyed_pendingTable (tracker : Tracker) : tracker.pendingTable.Keyed := by
  intro seq entry found
  obtain ⟨request, -, rfl⟩ := Option.map_eq_some_iff.1 found
  rfl

theorem isDue_pendingTable (tracker : Tracker) (now : Moment) (seq : UInt8) :
    tracker.pendingTable.isDue now seq = (tracker.slot seq).isDue now := by
  change ((tracker.slot seq).entryFor seq).any _ = _
  rw [Slot.entryFor, Option.any_map]
  rfl

theorem pendingTable_update (tracker : Tracker) (seq : UInt8) (slot : Slot) :
    (tracker.update seq slot).pendingTable =
      { tracker.pendingTable.put seq (slot.entryFor seq) with
        turns := Function.update tracker.pendingTable.turns seq slot.turns } := by
  refine PendingTable.ext (fun other => ?_) fun other => ?_ <;>
    by_cases same : seq = other
  · subst same
    simp [pendingTable, PendingTable.put]
  · simp [pendingTable, PendingTable.put, slot_update_of_ne _ _ same, Ne.symm same]
  · subst same
    simp [pendingTable]
  · simp [pendingTable, slot_update_of_ne _ _ same, Ne.symm same]

theorem pendingTable_update_of_turns (tracker : Tracker) (seq : UInt8) {slot : Slot}
    (same : slot.turns = (tracker.slot seq).turns) :
    (tracker.update seq slot).pendingTable = tracker.pendingTable.put seq (slot.entryFor seq) := by
  have kept : Function.update tracker.pendingTable.turns seq slot.turns =
      tracker.pendingTable.turns := by
    rw [same]
    exact Function.update_eq_self _ _
  rw [pendingTable_update, kept]
  rfl

theorem pendingTable_register (tracker : Tracker) (seq : UInt8) (deadline : Moment) :
    tracker.pendingTable.register seq deadline =
      ((tracker.register seq deadline).1, (tracker.register seq deadline).2.pendingTable) := by
  refine Prod.ext (register_ticket tracker seq deadline).symm ?_
  change _ = (tracker.update seq _).pendingTable
  rw [pendingTable_update, Slot.entryFor_register, Slot.turns_register]
  rfl

theorem pendingTable_resolve (tracker : Tracker) (response : Response) :
    (tracker.pendingTable.remove response.seq).1.isSome = (tracker.resolve response).1 ∧
      (tracker.pendingTable.remove response.seq).2 =
        (tracker.resolve response).2.pendingTable := by
  refine ⟨Slot.isSome_entryFor _ _, ?_⟩
  change _ = (tracker.update response.seq _).pendingTable
  rw [pendingTable_update_of_turns tracker _ (Slot.turns_settle _ _), Slot.entryFor_settle]
  rfl

theorem pendingTable_retry (tracker : Tracker) (seq : UInt8) (deadline : Moment) :
    tracker.pendingTable.retry seq deadline =
      ((tracker.retry seq deadline).1, (tracker.retry seq deadline).2.pendingTable) := by
  have entry : tracker.pendingTable.entries seq = (tracker.slot seq).entryFor seq := rfl
  rw [PendingTable.retry, entry]
  cases pending : (tracker.slot seq).pending with
  | none =>
    rw [Slot.entryFor_of_free pending, retry_of_free (by rw [isPending, pending]; rfl)]
  | some request =>
    rw [Slot.entryFor_of_pending pending]
    cases counted : request.again? deadline with
    | none =>
      rw [retry_of_full pending counted]
      simp only [counted]
    | some again =>
      rw [retry_of_again pending counted,
        pendingTable_update_of_turns tracker _ (by simp [Slot.turns, pending])]
      simp only [counted]
      rfl

theorem pendingTable_failAll (tracker : Tracker) :
    tracker.failAll.2.pendingTable = tracker.pendingTable.clear := by
  refine PendingTable.ext (fun seq => ?_) fun seq => ?_
  · simp [pendingTable, PendingTable.clear, slot_failAll]
  · simp [pendingTable, PendingTable.clear, slot_failAll]

theorem pendingTable_withdraw (tracker : Tracker) (ticket : Ticket) :
    (tracker.withdraw ticket).pendingTable = tracker.pendingTable := by
  rw [withdraw, pendingTable_update_of_turns tracker _ (Slot.turns_clear _ _), Slot.entryFor_clear]
  refine PendingTable.ext (fun seq => ?_) fun _ => rfl
  exact congrFun (Function.update_eq_self _ _) seq

theorem pendingTable_expire (tracker : Tracker) (now : Moment) :
    (tracker.expire now).2.pendingTable =
      { tracker.pendingTable with
        entries := fun seq =>
          if tracker.pendingTable.isDue now seq then none
          else tracker.pendingTable.entries seq } := by
  refine PendingTable.ext (fun seq => ?_) fun seq => ?_
  · change ((tracker.expire now).2.slot seq).entryFor seq =
      if tracker.pendingTable.isDue now seq then none else (tracker.slot seq).entryFor seq
    rw [slot_expire, isDue_pendingTable]
    split
    · exact Slot.entryFor_settle _ _ _
    · rfl
  · change ((tracker.expire now).2.slot seq).turns = (tracker.slot seq).turns
    rw [slot_expire]
    split
    · exact Slot.turns_settle _ _
    · rfl

theorem map_fst_expire (tracker : Tracker) (now : Moment) :
    (tracker.expire now).1.map (·.1) =
      numbers.filter fun seq => (tracker.slot seq).isDue now := by
  change (tracker.select _).map (·.1) = _
  rw [select, List.map_filterMap, ← List.filterMap_eq_filter]
  refine List.filterMap_congr fun seq _ => ?_
  cases pending : (tracker.slot seq).pending with
  | none => simp [Option.guard, Slot.isDue, pending]
  | some request =>
    by_cases due : request.deadline ≤ now <;> simp [Option.guard, Slot.isDue, pending, due]

theorem mem_expire (tracker : Tracker) (now : Moment) (seq : UInt8) (request : PendingRequest) :
    (seq, request) ∈ (tracker.expire now).1 ↔
      (tracker.slot seq).pending = some request ∧ request.deadline ≤ now := by
  change (seq, request) ∈ tracker.select _ ↔ _
  rw [select, List.mem_filterMap]
  constructor
  · rintro ⟨number, -, found⟩
    split at found
    · rename_i other pending
      split at found
      · rename_i due
        obtain ⟨rfl, rfl⟩ := Prod.mk.inj (Option.some.inj found)
        exact ⟨pending, of_decide_eq_true due⟩
      · cases found
    · cases found
  · rintro ⟨pending, due⟩
    exact ⟨seq, mem_numbers seq, by simp only [pending, decide_eq_true due, if_true]⟩

theorem nodup_expire (tracker : Tracker) (now : Moment) :
    ((tracker.expire now).1.map (·.1)).Nodup := by
  rw [map_fst_expire]
  exact nodup_numbers.filter _

theorem expire_pendingTable (tracker : Tracker) (now : Moment) {order : List UInt8}
    (goes : tracker.pendingTable.Order order) :
    (tracker.pendingTable.expire order now).1.Perm
        (((tracker.expire now).1.map (·.1)).filterMap tracker.pendingTable.entries) ∧
      (tracker.pendingTable.expire order now).2 = (tracker.expire now).2.pendingTable := by
  rw [PendingTable.expire_eq tracker.keyed_pendingTable goes, pendingTable_expire, map_fst_expire]
  refine ⟨List.Perm.filterMap _ ?_, rfl⟩
  refine (List.perm_ext_iff_of_nodup (goes.once.filter _) (nodup_numbers.filter _)).2 fun seq => ?_
  rw [List.mem_filter, List.mem_filter, goes.all, isDue_pendingTable]
  refine and_congr_left fun due => iff_of_true ?_ (mem_numbers seq)
  exact (Slot.isSome_entryFor _ seq).trans (isPending_of_isDue due)

theorem exists_order (tracker : Tracker) : ∃ order, tracker.pendingTable.Order order := by
  refine ⟨numbers.filter tracker.isPending, nodup_numbers.filter _, fun seq => ?_⟩
  rw [List.mem_filter, and_iff_right (mem_numbers seq)]
  exact (congrArg (· = true) (Slot.isSome_entryFor _ seq)).to_iff.symm

end Tracker

namespace PendingTable

/-- What a call makes of a table, which expiry goes through in any order. -/
def Becomes (table : PendingTable) (later : PendingTable) : Tracker.Call → Prop
  | .register seq deadline => later = (table.register seq deadline).2
  | .resolve response => later = (table.remove response.seq).2
  | .retry seq deadline => later = (table.retry seq deadline).2
  | .expire now => ∃ order, table.Order order ∧ later = (table.expire order now).2
  | .failAll => later = table.clear
  | .next | .take _ | .wait _ => later = table

def Reaches (table : PendingTable) (final : PendingTable) : List Tracker.Call → Prop
  | [] => final = table
  | first :: rest => ∃ next, table.Becomes next first ∧ next.Reaches final rest

theorem becomes_iff (tracker : Tracker) (later : PendingTable) (call : Tracker.Call) :
    tracker.pendingTable.Becomes later call ↔ later = (tracker.call call).pendingTable := by
  cases call with
  | next => exact Iff.rfl
  | register seq deadline => rw [Becomes, Tracker.pendingTable_register]; rfl
  | resolve response => rw [Becomes, (Tracker.pendingTable_resolve tracker response).2]; rfl
  | retry seq deadline => rw [Becomes, Tracker.pendingTable_retry]; rfl
  | expire now =>
    constructor
    · rintro ⟨order, goes, rfl⟩
      exact (Tracker.expire_pendingTable tracker now goes).2
    · rintro rfl
      obtain ⟨order, goes⟩ := tracker.exists_order
      exact ⟨order, goes, (Tracker.expire_pendingTable tracker now goes).2.symm⟩
  | failAll => rw [Becomes, ← Tracker.pendingTable_failAll]; rfl
  | take ticket => rw [Becomes, Tracker.call, Tracker.take_eq, Tracker.pendingTable_withdraw]
  | wait ticket => rw [Becomes, Tracker.call, Tracker.wait_eq, Tracker.pendingTable_withdraw]

/-- The table is determined by the calls, and is that of the tracker. -/
theorem reaches_iff (tracker : Tracker) (final : PendingTable) (calls : List Tracker.Call) :
    tracker.pendingTable.Reaches final calls ↔ final = (tracker.after calls).pendingTable := by
  induction calls generalizing tracker with
  | nil => exact Iff.rfl
  | cons first rest ih =>
    rw [Reaches, Tracker.after_cons, ← ih]
    constructor
    · rintro ⟨next, becomes, reaches⟩
      rw [(becomes_iff tracker next first).1 becomes] at reaches
      exact reaches
    · intro reaches
      exact ⟨_, (becomes_iff tracker _ first).2 rfl, reaches⟩

end PendingTable

end LightingControl
