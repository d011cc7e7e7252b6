import LightingControl.Proofs.Tracker.Balance
/-!
# Numbers are handed out in rotation

The free numbers wait in a queue, in the order in which they come from the rotation on.  A number
that is handed out goes to the end of the queue; so as many calls in a row as there are free numbers
hand out the whole queue, and leave it as it was.
-/

set_option autoImplicit false

namespace LightingControl

namespace Tracker

/-- `count` numbers from `seq` on, 0 coming after 255. -/
def numbersFrom : Nat → UInt8 → List UInt8
  | 0, _ => []
  | count + 1, seq => seq :: numbersFrom count (seq + 1)

theorem add_one_add (seq : UInt8) (i : Nat) :
    seq + 1 + UInt8.ofNat i = seq + UInt8.ofNat (i + 1) := by
  rw [UInt8.ofNat_add, UInt8.add_comm (UInt8.ofNat i), ← UInt8.add_assoc]
  rfl

theorem numbersFrom_eq (count : Nat) (seq : UInt8) :
    numbersFrom count seq = (List.range count).map fun i => seq + UInt8.ofNat i := by
  induction count generalizing seq with
  | zero => rfl
  | succ count ih =>
    rw [numbersFrom, ih, List.range_succ_eq_map, List.map_cons, List.map_map]
    exact congrArg₂ List.cons (UInt8.add_zero seq).symm
      (List.map_congr_left fun i _ => add_one_add seq i)

theorem toNat_distance (seq : UInt8) {i : Nat} (bound : i < 256) :
    (seq + UInt8.ofNat i - seq).toNat = i := by
  rw [UInt8.add_comm, UInt8.add_sub_cancel, UInt8.toNat_ofNat_of_lt' bound]

theorem increasing_numbersFrom (seq : UInt8) :
    (numbersFrom 256 seq).Pairwise fun early late => early - seq < late - seq := by
  rw [numbersFrom_eq, List.pairwise_map]
  refine List.pairwise_lt_range.imp_of_mem fun {i j} hi hj before => ?_
  rw [UInt8.lt_iff_toNat_lt, toNat_distance seq (List.mem_range.1 hi),
    toNat_distance seq (List.mem_range.1 hj)]
  exact before

theorem nodup_of_increasing {seq : UInt8} {numbers : List UInt8}
    (increasing : numbers.Pairwise fun early late => early - seq < late - seq) : numbers.Nodup := by
  refine increasing.imp fun {early late} before same => ?_
  rw [same] at before
  exact UInt8.lt_irrefl _ before

theorem mem_numbersFrom (seq other : UInt8) : other ∈ numbersFrom 256 seq := by
  rw [numbersFrom_eq, List.mem_map]
  refine ⟨(other - seq).toNat, List.mem_range.2 (other - seq).toNat_lt, ?_⟩
  rw [UInt8.ofNat_toNat, UInt8.add_comm, UInt8.sub_add_cancel]

theorem numbersFrom_succ (seq : UInt8) :
    numbersFrom 256 seq = seq :: numbersFrom 255 (seq + 1) := rfl

theorem numbersFrom_next (seq : UInt8) :
    numbersFrom 256 (seq + 1) = numbersFrom 255 (seq + 1) ++ [seq] := by
  have last : seq + 1 + UInt8.ofNat 255 = seq := (add_one_add seq 255).trans (UInt8.add_zero seq)
  rw [numbersFrom_eq, numbersFrom_eq, List.range_succ, List.map_append, List.map_singleton, last]

theorem numbersFrom_behind {seq first : UInt8} {early late : List UInt8}
    (round : numbersFrom 256 seq = early ++ first :: late) :
    numbersFrom 256 (first + 1) = late ++ early ++ [first] := by
  -- Along the numbers before `first`, each of which moves to the end.
  induction early generalizing seq late with
  | nil =>
    rw [List.nil_append, numbersFrom_succ] at round
    obtain ⟨rfl, rfl⟩ := List.cons.inj round
    rw [numbersFrom_next, List.append_nil]
  | cons here rest ih =>
    rw [List.cons_append, numbersFrom_succ] at round
    obtain ⟨rfl, following⟩ := List.cons.inj round
    have turned := numbersFrom_next seq
    rw [following, List.append_assoc, List.cons_append] at turned
    rw [ih turned]
    simp only [List.append_assoc, List.cons_append, List.nil_append]

/-- The numbers that are not pending, in the order in which they come from the rotation on. -/
def queue (tracker : Tracker) : List UInt8 :=
  (numbersFrom 256 tracker.rotation).filter fun seq => !tracker.isPending seq

theorem mem_queue (tracker : Tracker) (seq : UInt8) :
    seq ∈ tracker.queue ↔ tracker.isPending seq = false := by
  simp [queue, mem_numbersFrom]

theorem increasing_queue (tracker : Tracker) :
    tracker.queue.Pairwise fun early late => early - tracker.rotation < late - tracker.rotation :=
  (increasing_numbersFrom tracker.rotation).filter _

theorem nodup_queue (tracker : Tracker) : tracker.queue.Nodup :=
  nodup_of_increasing tracker.increasing_queue

theorem length_queue (tracker : Tracker) : tracker.queue.length = 256 - tracker.pendingCount := by
  have same : List.Perm (numbersFrom 256 tracker.rotation) numbers :=
    (List.perm_ext_iff_of_nodup (nodup_of_increasing (increasing_numbersFrom _)) nodup_numbers).2
      fun seq => iff_of_true (mem_numbersFrom _ seq) (mem_numbers seq)
  have total : numbers.length = 256 := by rw [numbers, List.length_map, List.length_range]
  have split := List.length_eq_countP_add_countP tracker.isPending (l := numbers)
  have free : tracker.queue.length = numbers.countP fun seq => !tracker.isPending seq := by
    rw [queue, ← List.countP_eq_length_filter, same.countP_eq]
  have others : (numbers.countP fun seq => ¬ tracker.isPending seq = true) =
      numbers.countP fun seq => !tracker.isPending seq :=
    List.countP_congr fun seq _ => by simp
  rw [pendingCount, free]
  omega

theorem firstFree_eq (tracker : Tracker) (count : Nat) (seq : UInt8) :
    tracker.firstFree count seq =
      (numbersFrom count seq).find? fun number => !tracker.isPending number := by
  induction count generalizing seq with
  | zero => rfl
  | succ count ih =>
    rw [firstFree, numbersFrom, List.find?_cons, ih]
    cases tracker.isPending seq <;> rfl

theorem next_eq (tracker : Tracker) :
    tracker.next =
      let seq := tracker.queue.head?.getD tracker.rotation
      (seq, { tracker with rotation := seq + 1 }) := by
  rw [next, firstFree_eq, queue, List.head?_filter]

theorem next_of_queue {tracker : Tracker} {first : UInt8} {rest : List UInt8}
    (waiting : tracker.queue = first :: rest) :
    tracker.next = (first, { tracker with rotation := first + 1 }) := by
  rw [next_eq, waiting]
  rfl

/-- The number that is handed out goes to the end of the queue. -/
theorem queue_next {tracker : Tracker} {first : UInt8} {rest : List UInt8}
    (waiting : tracker.queue = first :: rest) : tracker.next.2.queue = rest ++ [first] := by
  obtain ⟨early, late, round, skipped, free, following⟩ := List.filter_eq_cons_iff.1 waiting
  have none : early.filter (fun seq => !tracker.isPending seq) = [] :=
    List.filter_eq_nil_iff.2 skipped
  have alone : [first].filter (fun seq => !tracker.isPending seq) = [first] :=
    List.filter_cons_of_pos free
  rw [next_of_queue waiting]
  change (numbersFrom 256 (first + 1)).filter (fun seq => !tracker.isPending seq) = _
  rw [numbersFrom_behind round, List.filter_append, List.filter_append, following, none, alone,
    List.append_nil]

/-- The number at the rotation is looked at and the rotation moves past it, until a number is found
that is not pending or so many have been looked at. -/
def search : Nat → Tracker → UInt8 × Tracker
  | 0, tracker => (tracker.rotation, { tracker with rotation := tracker.rotation + 1 })
  | count + 1, tracker =>
    let moved : Tracker := { tracker with rotation := tracker.rotation + 1 }
    if tracker.isPending tracker.rotation then search count moved else (tracker.rotation, moved)

theorem search_eq (count : Nat) (tracker : Tracker) :
    search count tracker =
      let seq := (tracker.firstFree count tracker.rotation).getD
        (tracker.rotation + UInt8.ofNat count)
      (seq, { tracker with rotation := seq + 1 }) := by
  induction count generalizing tracker with
  | zero =>
    have here : tracker.rotation + UInt8.ofNat 0 = tracker.rotation := UInt8.add_zero _
    simp only [search, firstFree, Option.getD_none, here]
  | succ count ih =>
    by_cases pending : tracker.isPending tracker.rotation = true
    · have moved : ({ tracker with rotation := tracker.rotation + 1 } : Tracker).firstFree count =
          tracker.firstFree count := by
        funext seq
        rw [firstFree_eq, firstFree_eq]
        rfl
      simp only [search, firstFree, pending, if_true, ih, moved, add_one_add]
    · simp only [search, firstFree, pending, Bool.false_eq_true, if_false, Option.getD_some]

/-- `next` looks at one number after the other, all 256 at most. -/
theorem next_eq_search (tracker : Tracker) : tracker.next = search 256 tracker := by
  have round : tracker.rotation + UInt8.ofNat 256 = tracker.rotation := UInt8.add_zero _
  rw [search_eq, round]
  rfl

/-! ## Numbers handed out in a row -/

@[simp] def handedOut (tracker : Tracker) : Call → List UInt8
  | .next => [tracker.next.1]
  | _ => []

def drawing (count : Nat) : List Call :=
  List.replicate count .next

def drawn (tracker : Tracker) (count : Nat) : List UInt8 :=
  tracker.along handedOut (drawing count)

theorem drawn_succ (tracker : Tracker) (count : Nat) :
    tracker.drawn (count + 1) = tracker.next.1 :: tracker.next.2.drawn count := rfl

theorem drawn_add (tracker : Tracker) (count more : Nat) :
    tracker.drawn (count + more) =
      tracker.drawn count ++ (tracker.after (drawing count)).drawn more := by
  rw [drawn, drawing, ← List.replicate_append_replicate, along_append]
  rfl

theorem drawn_of_queue {tracker : Tracker} {early late : List UInt8}
    (waiting : tracker.queue = early ++ late) :
    tracker.drawn early.length = early ∧
      (tracker.after (drawing early.length)).queue = late ++ early := by
  induction early generalizing tracker late with
  | nil => exact ⟨rfl, by rw [List.append_nil]; exact waiting⟩
  | cons first rest ih =>
    rw [List.cons_append] at waiting
    have next := queue_next waiting
    rw [List.append_assoc] at next
    obtain ⟨numbers, behind⟩ := ih next
    refine ⟨?_, ?_⟩
    · rw [List.length_cons, drawn_succ, numbers, next_of_queue waiting]
    · rw [List.append_assoc] at behind
      exact behind

theorem drawn_congr {tracker other : Tracker} {first : UInt8} {rest : List UInt8}
    (waiting : tracker.queue = first :: rest) (same : other.queue = first :: rest) (count : Nat) :
    tracker.drawn count = other.drawn count := by
  induction count generalizing tracker other first rest with
  | zero => rfl
  | succ count ih =>
    have moved := queue_next waiting
    have alike := queue_next same
    cases turned : rest ++ [first] with
    | nil => exact absurd turned (List.append_ne_nil_of_right_ne_nil _ (List.cons_ne_nil _ _))
    | cons second others =>
      rw [turned] at moved alike
      rw [drawn_succ, drawn_succ, ih moved alike, next_of_queue waiting, next_of_queue same]

/-- First the whole queue is handed out, and then what would have been handed out without that. -/
theorem drawn_round (tracker : Tracker) (count : Nat) :
    tracker.drawn (tracker.queue.length + count) = tracker.queue ++ tracker.drawn count := by
  obtain ⟨round, same⟩ := drawn_of_queue (List.append_nil tracker.queue).symm
  rw [List.nil_append] at same
  rw [drawn_add, round]
  cases waiting : tracker.queue with
  | nil => rfl
  | cons first rest =>
    rw [waiting] at same
    rw [drawn_congr same waiting]

theorem next_of_full {tracker : Tracker} (full : tracker.pendingCount = 256) :
    tracker.next = (tracker.rotation, { tracker with rotation := tracker.rotation + 1 }) := by
  have empty : tracker.queue = [] := by
    rw [← List.length_eq_zero_iff, length_queue, full]
  rw [next_eq, empty]
  rfl

theorem first_of_next {tracker : Tracker} (room : tracker.pendingCount < 256) :
    tracker.isPending tracker.next.1 = false ∧
      ∀ seq, tracker.isPending seq = false →
        tracker.next.1 - tracker.rotation ≤ seq - tracker.rotation := by
  have increasing := tracker.increasing_queue
  have length := tracker.length_queue
  cases waiting : tracker.queue with
  | nil =>
    rw [waiting, List.length_nil] at length
    omega
  | cons first rest =>
    rw [waiting] at increasing
    rw [next_of_queue waiting]
    refine ⟨(tracker.mem_queue first).1 (waiting ▸ List.mem_cons_self), fun seq free => ?_⟩
    have member := (tracker.mem_queue seq).2 free
    rw [waiting] at member
    obtain rfl | later := List.mem_cons.1 member
    · exact UInt8.le_refl _
    · exact UInt8.le_of_lt (List.rel_of_pairwise_cons increasing later)

/-- A call of `next` goes from number to number, 256 at most, and moves the rotation past the one
that it hands out, which is the free number that comes first from the rotation on, or with every
number pending the one at the rotation.  As many calls in a row as there are free numbers hand out
each free number once, in the order from the rotation on, and then the same numbers follow again. -/
theorem allocation (tracker : Tracker) :
    tracker.next = search 256 tracker ∧
    tracker.next.2 = { tracker with rotation := tracker.next.1 + 1 } ∧
    (tracker.pendingCount = 256 → tracker.next.1 = tracker.rotation) ∧
    (tracker.pendingCount < 256 →
      tracker.isPending tracker.next.1 = false ∧
        ∀ seq, tracker.isPending seq = false →
          tracker.next.1 - tracker.rotation ≤ seq - tracker.rotation) ∧
    let free := 256 - tracker.pendingCount
    let round := tracker.drawn free
    round.length = free ∧ round.Nodup ∧
      (∀ seq, seq ∈ round ↔ tracker.isPending seq = false) ∧
      (round.Pairwise fun early late => early - tracker.rotation < late - tracker.rotation) ∧
      ∀ count, tracker.drawn (free + count) = round ++ tracker.drawn count := by
  have round : tracker.drawn (256 - tracker.pendingCount) = tracker.queue := by
    rw [← length_queue]
    exact (drawn_of_queue (List.append_nil tracker.queue).symm).1
  refine ⟨tracker.next_eq_search, rfl, fun full => ?_, first_of_next, ?_⟩
  · rw [next_of_full full]
  · simp only [round]
    refine ⟨tracker.length_queue, tracker.nodup_queue, tracker.mem_queue,
      tracker.increasing_queue, ?_⟩
    intro count
    rw [← length_queue]
    exact tracker.drawn_round count

example : ((startingAt 254).register 255 0).2.drawn 3 = [254, 0, 1] := by decide +kernel

end Tracker

end LightingControl
