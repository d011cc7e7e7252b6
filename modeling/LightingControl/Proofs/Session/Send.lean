import LightingControl.Proofs.Session.Attempts
import LightingControl.Proofs.Settings
/-!
# What a command sends and what it ends with

The first attempt during which an answer arrives is the last one, and its first answer is the result,
unless a deadline comes up that has no representation.
-/

set_option autoImplicit false

namespace LightingControl

/-- The program has stopped for want of a deadline. -/
def Exchange.Stopped (exchange : Exchange Response) : Prop :=
  exchange.result = .error (.abort .deadlineOverflow)

namespace Session

variable {command : Command} {wire : Bytes} {seq : UInt8} {early late : Nat → List Bytes}
  {retries made : Nat} {session : Session} {exchange : Exchange Response}

/-! ## Along a course -/

theorem Course.kept (course : Course command wire seq early late retries made session exchange) :
    Kept session exchange.session := by
  induction course with
  | answered _ _ kept _ _ => exact kept
  | exhausted _ kept _ _ => exact kept
  | stopped _ _ kept _ _ => exact kept
  | again _ _ kept _ _ _ ih => exact kept.trans ih

theorem Course.free (course : Course command wire seq early late retries made session exchange)
    (lasts : ¬ exchange.Stopped) : exchange.session.tracker.isPending seq = false := by
  induction course with
  | answered _ _ _ free _ => exact free
  | exhausted _ _ free _ => exact free
  | stopped => exact absurd rfl lasts
  | again _ _ _ _ _ _ ih => exact ih lasts

theorem Course.same_wire
    (course : Course command wire seq early late retries made session exchange) :
    ∀ request ∈ exchange.requests, request = wire := by
  induction course with
  | answered | exhausted | stopped => simp
  | again _ _ _ _ _ _ ih => simpa using ih

theorem Course.sends_something
    (course : Course command wire seq early late retries made session exchange) :
    exchange.requests ≠ [] := by
  cases course <;> exact List.cons_ne_nil _ _

theorem Course.length_requests_le
    (course : Course command wire seq early late retries made session exchange) :
    exchange.requests.length ≤ retries + 1 := by
  induction course with
  | answered | exhausted | stopped => simp
  | again _ _ _ _ _ _ ih => simpa using ih

theorem Course.dated_of_sent
    (course : Course command wire seq early late retries made session exchange)
    (first : session.Dated 0) {k : Nat} (sent : k < exchange.requests.length) :
    session.Dated k := by
  induction course generalizing k with
  | answered | exhausted | stopped =>
    obtain rfl : k = 0 := Nat.lt_one_iff.1 sent
    exact first
  | again _ dated kept clock _ _ ih =>
    have later := dated_after_wait clock kept.config
    match k with
    | 0 => exact first
    | k + 1 => exact (later k).1 (ih ((later 0).2 dated) (Nat.lt_of_succ_lt_succ sent))

theorem Course.seq_of_ok
    (course : Course command wire seq early late retries made session exchange)
    {response : Response} (ok : exchange.result = .ok response) : response.seq = seq := by
  induction course with
  | answered answer _ _ _ _ =>
    cases ok
    exact seq_of_answer? answer
  | exhausted | stopped => cases ok
  | again _ _ _ _ _ _ ih => exact ih ok

/-- What comes after an attempt counts its own attempts from one later. -/
theorem later_attempt (made k : Nat) : made + 1 + k = made + (k + 1) := by omega

/-- The first attempt with an answer ends the exchange with that answer. -/
theorem Course.of_answer
    (course : Course command wire seq early late retries made session exchange)
    (lasts : ¬ exchange.Stopped) {k : Nat} (enough : k ≤ retries)
    (before : ∀ j < k, answer? seq (early (made + j) ++ late (made + j)) = none)
    {response : Response}
    (found : answer? seq (early (made + k) ++ late (made + k)) = some response) :
    exchange.requests = List.replicate (k + 1) wire ∧ exchange.result = .ok response := by
  induction course generalizing k with
  | answered answer _ _ _ _ =>
    match k with
    | 0 =>
      rw [Nat.add_zero, answer] at found
      cases found
      exact ⟨rfl, rfl⟩
    | k + 1 =>
      have silent := before 0 (Nat.succ_pos k)
      rw [Nat.add_zero, answer] at silent
      cases silent
  | exhausted silent _ _ _ =>
    obtain rfl : k = 0 := Nat.le_zero.1 enough
    rw [Nat.add_zero, silent] at found
    cases found
  | stopped => exact absurd rfl lasts
  | @again _ made _ _ _ _ silent _ _ _ _ _ ih =>
    match k with
    | 0 =>
      rw [Nat.add_zero, silent] at found
      cases found
    | k + 1 =>
      simp only [later_attempt] at ih
      obtain ⟨requests, result⟩ := ih lasts (Nat.le_of_succ_le_succ enough)
        (fun j less => before (j + 1) (Nat.succ_lt_succ less)) found
      refine ⟨?_, result⟩
      dsimp only
      rw [requests]
      rfl

/-- Without an answer every attempt is made, and their number is reported. -/
theorem Course.of_silence
    (course : Course command wire seq early late retries made session exchange)
    (lasts : ¬ exchange.Stopped)
    (silent : ∀ k ≤ retries, answer? seq (early (made + k) ++ late (made + k)) = none) :
    exchange.requests = List.replicate (retries + 1) wire ∧
      exchange.result = .error (.error
        (.noResponse command.name command.target (made + retries + 1))) := by
  induction course with
  | answered answer _ _ _ _ =>
    have none := silent 0 (Nat.zero_le _)
    rw [Nat.add_zero, answer] at none
    cases none
  | exhausted => exact ⟨rfl, rfl⟩
  | stopped => exact absurd rfl lasts
  | @again retries made _ _ _ _ _ _ _ _ _ _ ih =>
    simp only [later_attempt] at ih
    obtain ⟨requests, result⟩ := ih lasts fun k bound => silent (k + 1) (Nat.succ_le_succ bound)
    refine ⟨?_, result⟩
    dsimp only
    rw [requests]
    rfl

theorem Course.passed
    (course : Course command wire seq early late retries made session exchange) :
    Passed session
      ((List.range' made exchange.requests.length).flatMap fun i => heard seq (early i) (late i))
      exchange.forwarded := by
  induction course with
  | answered _ _ _ _ passed => simpa using passed
  | exhausted _ _ _ passed => simpa using passed
  | stopped _ _ _ _ passed => simpa using passed
  | again _ _ kept _ passed _ ih => exact passed.append kept ih

/-- A command stops the program if no answer keeps it from a deadline without representation.  If that
is the first such deadline, the request has been transmitted once for each attempt until then, and
stays pending without an answer. -/
theorem Course.of_undated
    (course : Course command wire seq early late retries made session exchange) {n : Nat}
    (more : n < retries)
    (before : ∀ j < n, answer? seq (early (made + j) ++ late (made + j)) = none)
    (silent : answer? seq (early (made + n)) = none) (undated : ¬ session.Dated (n + 1)) :
    exchange.Stopped ∧
      (session.Dated n →
        exchange.requests = List.replicate (n + 1) wire ∧
          (answer? seq (early (made + n) ++ late (made + n)) = none →
            exchange.session.tracker.isPending seq = true)) := by
  induction course generalizing n with
  | answered answer dated _ _ _ =>
    match n with
    | 0 => exact absurd (dated silent (Nat.ne_zero_of_lt more)) undated
    | n + 1 =>
      have none := before 0 (Nat.succ_pos n)
      rw [Nat.add_zero, answer] at none
      cases none
  | exhausted => exact absurd more (Nat.not_lt_zero n)
  | stopped _ first _ pending _ =>
    refine ⟨rfl, fun dated => ?_⟩
    obtain rfl : n = 0 := Nat.eq_zero_of_not_pos fun later => first (dated.of_le later)
    exact ⟨rfl, pending⟩
  | @again _ made _ _ _ _ _ dated kept clock _ _ ih =>
    match n with
    | 0 => exact absurd dated undated
    | n + 1 =>
      have later := dated_after_wait clock kept.config
      simp only [later_attempt] at ih
      obtain ⟨stopped, first⟩ := ih (Nat.lt_of_succ_lt_succ more)
        (fun j less => before (j + 1) (Nat.succ_lt_succ less)) silent (mt (later _).1 undated)
      refine ⟨stopped, fun dated => ?_⟩
      obtain ⟨requests, pending⟩ := first ((later n).2 dated)
      refine ⟨?_, pending⟩
      dsimp only
      rw [requests]
      rfl

theorem Course.exists_of_stopped
    (course : Course command wire seq early late retries made session exchange)
    (stopped : exchange.Stopped) :
    ∃ n < retries, (∀ j < n, answer? seq (early (made + j) ++ late (made + j)) = none) ∧
      answer? seq (early (made + n)) = none ∧ ¬ session.Dated (n + 1) := by
  induction course with
  | answered | exhausted => cases stopped
  | stopped silent undated => exact ⟨0, Nat.succ_pos _, nofun, silent, undated⟩
  | @again _ made _ _ _ _ silent _ kept clock _ _ ih =>
    obtain ⟨n, more, before, quiet, undated⟩ := ih stopped
    simp only [later_attempt] at before quiet
    refine ⟨n + 1, Nat.succ_lt_succ more, fun j less => ?_, quiet, ?_⟩
    · cases j with
      | zero => exact silent
      | succ j => exact before j (Nat.lt_of_succ_lt_succ less)
    · exact mt (dated_after_wait clock kept.config _).2 undated

/-! ## A whole command -/

def registered (session : Session) : Ticket × Session :=
  let (seq, tracker) := session.tracker.next
  let (ticket, tracker) := tracker.register seq session.deadline
  (ticket, { session with tracker })

theorem toNat_attemptBound? {retries bound : UInt32} (found : attemptBound? retries = some bound) :
    retries.toNat + 1 < UInt32.size ∧ bound.toNat = retries.toNat + 1 := by
  unfold attemptBound? at found
  split at found
  · rename_i bounded
    cases found
    refine ⟨bounded, ?_⟩
    rw [UInt32.toNat_add, Nat.mod_eq_of_lt (by simpa using bounded)]
    rfl
  · cases found

theorem attemptBound?_of_bounded {retries : UInt32} (bounded : retries.toNat + 1 < UInt32.size) :
    attemptBound? retries = some (retries + 1) :=
  if_pos bounded

theorem send_of_closed (isClosed : session.closed = true) (command : Command)
    (during late : Nat → List Happening) :
    session.send command during late = ⟨session, [], [], .error (.error .closed)⟩ := by
  rw [send, if_pos isClosed]

theorem send_of_dated (isOpen : session.closed = false)
    (bounded : session.config.retries.toNat + 1 < UInt32.size) (dated : session.Dated 0)
    (command : Command) (during late : Nat → List Happening) :
    session.send command during late =
      session.registered.2.attempt command (command.request session.tracker.next.1).encode
        session.registered.1 during late session.config.retries.toNat 0 := by
  have found := attemptBound?_of_bounded bounded
  have notClosed : ¬ session.closed = true := by simp [isOpen]
  have retries : (session.config.retries + 1).toNat - 1 = session.config.retries.toNat := by
    rw [(toNat_attemptBound? found).2]
    rfl
  unfold send
  rw [if_neg notClosed]
  simp only [found, retries, deadline?_of_dated dated]
  rfl

theorem send_of_undated (isOpen : session.closed = false)
    (bounded : session.config.retries.toNat + 1 < UInt32.size) (undated : ¬ session.Dated 0)
    (command : Command) (during late : Nat → List Happening) :
    session.send command during late =
      ⟨{ session with tracker := session.tracker.next.2 }, [], [],
        .error (.abort .deadlineOverflow)⟩ := by
  have notClosed : ¬ session.closed = true := by simp [isOpen]
  unfold send
  rw [if_neg notClosed]
  simp only [attemptBound?_of_bounded bounded, deadline?_of_undated undated]

theorem send_of_overflow (isOpen : session.closed = false)
    (overflow : ¬ session.config.retries.toNat + 1 < UInt32.size) (command : Command)
    (during after : Nat → List Happening) :
    session.send command during after =
      ⟨{ session with tracker := session.tracker.next.2 }, [], [],
        .error (.abort .attemptBoundOverflow)⟩ := by
  have notClosed : ¬ session.closed = true := by simp [isOpen]
  have none : attemptBound? session.config.retries = none := if_neg overflow
  unfold send
  rw [if_neg notClosed]
  simp only [none]

theorem awaiting_registered (isOpen : session.closed = false) :
    Awaiting session.registered.2 session.registered.1 0 := by
  refine ⟨isOpen, ?_, ⟨session.deadline, 0⟩, ?_, Nat.le_refl _, rfl⟩
  · simp [registered, Tracker.register]
  · simp [registered, Tracker.register, Slot.register]

theorem course_send (isOpen : session.closed = false)
    (bounded : session.config.retries.toNat + 1 < UInt32.size) (dated : session.Dated 0)
    (command : Command) (early late : Nat → List Bytes) :
    Course command (command.request session.tracker.next.1).encode session.tracker.next.1 early late
      session.config.retries.toNat 0 session.registered.2
      (session.send command (arrivals early) (arrivals late)) := by
  rw [send_of_dated isOpen bounded dated]
  exact course_attempt (awaiting_registered isOpen) (by omega)

theorem open_of_sent {during after : Nat → List Happening}
    (sent : (session.send command during after).requests ≠ []) :
    session.closed = false ∧ session.config.retries.toNat + 1 < UInt32.size ∧ session.Dated 0 := by
  cases isOpen : session.closed with
  | true =>
    rw [send_of_closed isOpen] at sent
    exact absurd rfl sent
  | false =>
    by_cases bounded : session.config.retries.toNat + 1 < UInt32.size
    · by_cases dated : session.Dated 0
      · exact ⟨rfl, bounded, dated⟩
      · rw [send_of_undated isOpen bounded dated] at sent
        exact absurd rfl sent
    · rw [send_of_overflow isOpen bounded] at sent
      exact absurd rfl sent

/-! ## When the outcome is as it should be -/

/-- No answer keeps a command from working out the deadline of attempt `n`.  An answer that is late for
its attempt does so only after the next deadline has been worked out. -/
def Reached (seq : UInt8) (early late : Nat → List Bytes) : Nat → Prop
  | 0 => True
  | n + 1 =>
    (∀ j < n, answer? seq (early j ++ late j) = none) ∧ answer? seq (early n) = none

/-- A command is transmitted until the first attempt during which a response with its number arrives,
and the first such response is the result.  If there is none, the command is transmitted once more
than the retries, and the error says so.  The number is free again in either case. -/
structure Completes (session : Session) (command : Command) (early late : Nat → List Bytes) : Prop where
  answered : ∀ k response, k ≤ session.config.retries.toNat →
    (∀ j < k, answer? session.tracker.next.1 (early j ++ late j) = none) →
    answer? session.tracker.next.1 (early k ++ late k) = some response →
    (session.send command (arrivals early) (arrivals late)).requests =
        List.replicate (k + 1) (command.request session.tracker.next.1).encode ∧
      (session.send command (arrivals early) (arrivals late)).result = .ok response
  unanswered : (∀ k ≤ session.config.retries.toNat,
      answer? session.tracker.next.1 (early k ++ late k) = none) →
    (session.send command (arrivals early) (arrivals late)).requests =
        List.replicate (session.config.retries.toNat + 1)
          (command.request session.tracker.next.1).encode ∧
      (session.send command (arrivals early) (arrivals late)).result =
        .error (.error
          (.noResponse command.name command.target (session.config.retries.toNat + 1)))
  free : (session.send command (arrivals early) (arrivals late)).session.tracker.isPending
    session.tracker.next.1 = false

theorem stopped_send_iff (isOpen : session.closed = false)
    (bounded : session.config.retries.toNat + 1 < UInt32.size) (command : Command)
    (early late : Nat → List Bytes) :
    (session.send command (arrivals early) (arrivals late)).Stopped ↔
      ∃ n ≤ session.config.retries.toNat,
        Reached session.tracker.next.1 early late n ∧ ¬ session.Dated n := by
  by_cases dated : session.Dated 0
  · have course := course_send isOpen bounded dated command early late
    constructor
    · intro stopped
      obtain ⟨n, more, before, silent, undated⟩ := course.exists_of_stopped stopped
      simp only [Nat.zero_add] at before silent
      exact ⟨n + 1, more, ⟨before, silent⟩, undated⟩
    · rintro ⟨_ | n, more, reached, undated⟩
      · exact absurd dated undated
      · refine (course.of_undated more ?_ ?_ undated).1
        · simpa only [Nat.zero_add] using reached.1
        · simpa only [Nat.zero_add] using reached.2
  · have stopped : (session.send command (arrivals early) (arrivals late)).Stopped :=
      congrArg Exchange.result (send_of_undated isOpen bounded dated command _ _)
    exact iff_of_true stopped ⟨0, Nat.zero_le _, trivial, dated⟩

theorem completes_of_not_stopped (isOpen : session.closed = false)
    (bounded : session.config.retries.toNat + 1 < UInt32.size)
    (lasts : ¬ (session.send command (arrivals early) (arrivals late)).Stopped) :
    session.Completes command early late := by
  have dated : session.Dated 0 := Decidable.byContradiction fun undated => lasts <|
    congrArg Exchange.result (send_of_undated isOpen bounded undated command _ _)
  have course := course_send isOpen bounded dated command early late
  refine ⟨fun k response enough before found => ?_, fun silent => ?_, course.free lasts⟩
  · refine course.of_answer lasts enough ?_ ?_
    · simpa only [Nat.zero_add] using before
    · simpa only [Nat.zero_add] using found
  · have outcome := course.of_silence lasts (by simpa only [Nat.zero_add] using silent)
    rw [Nat.zero_add] at outcome
    exact outcome

end Session

end LightingControl
