import LightingControl.Proofs.Session.Arrivals
/-!
# The attempts of a command

`Course` says what the transmissions of a command can lead to.  `course_attempt` shows that the
attempts of a registered command take such a course, and the facts about a whole exchange follow by
induction on it.
-/

set_option autoImplicit false

namespace LightingControl

/-- The happenings of a script in which only datagrams arrive. -/
def arrivals (script : Nat → List Bytes) (i : Nat) : List Happening :=
  (script i).map .arrival

/-- The datagrams that arrive during an attempt: the late ones do so only if its wait is in vain. -/
def heard (seq : UInt8) (early late : List Bytes) : List Bytes :=
  if (answer? seq early).isSome then early else early ++ late

namespace Session

variable {session : Session} {ticket : Ticket}

theorem happenAll_arrivals (session : Session) (script : Nat → List Bytes) (i : Nat) :
    session.happenAll (arrivals script i) = session.arrive (script i) := rfl

/-! ## Deadlines -/

/-- The deadline of attempt `i`, counted from 0 and after waits in vain only, has a representation. -/
def Dated (session : Session) (i : Nat) : Prop :=
  session.clock + (i + 1) * session.config.timeout.nanoseconds < Moment.limit

instance (session : Session) (i : Nat) : Decidable (session.Dated i) :=
  inferInstanceAs (Decidable (_ < _))

theorem dated_zero_iff : session.Dated 0 ↔ session.deadline < Moment.limit := by
  rw [Dated, Nat.zero_add, Nat.one_mul, deadline]

theorem deadline?_of_dated (dated : session.Dated 0) :
    session.deadline? = some session.deadline :=
  if_pos (dated_zero_iff.1 dated)

theorem deadline?_of_undated (undated : ¬ session.Dated 0) : session.deadline? = none :=
  if_neg fun told => undated (dated_zero_iff.2 told)

theorem eq_deadline_of_some {moment : Moment} (found : session.deadline? = some moment) :
    moment = session.deadline :=
  (Moment.after?_eq_some_iff.1 found).2

theorem dated_after_wait {later : Session} (clock : later.clock = session.deadline)
    (config : later.config = session.config) (i : Nat) : later.Dated i ↔ session.Dated (i + 1) := by
  rw [Dated, Dated, clock, config, deadline, Nat.add_assoc, Nat.succ_mul (i + 1),
    Nat.add_comm ((i + 1) * _)]

theorem Dated.of_le {i j : Nat} (dated : session.Dated j) (le : i ≤ j) : session.Dated i := by
  refine Nat.lt_of_le_of_lt (Nat.add_le_add_left ?_ _) dated
  exact Nat.mul_le_mul_right _ (Nat.succ_le_succ le)

theorem await_of_holding {response : Response}
    (holding : session.tracker.mailbox? ticket = some (.holding response)) :
    session.await ticket =
      (.response response, { session with tracker := session.tracker.withdraw ticket }) := by
  simp only [await, Tracker.wait, holding]

theorem await_of_waiting (waiting : session.tracker.mailbox? ticket = some .waiting) :
    session.await ticket = (.timeout, session.elapse) := by
  simp only [await, Tracker.wait, waiting]

theorem conclude_of_holding {response : Response}
    (holding : session.tracker.mailbox? ticket = some (.holding response)) (wire : Bytes)
    (forwarded : List Bytes) (error : SessionError) :
    session.conclude ticket wire forwarded error =
      ⟨{ session with tracker := session.tracker.withdraw ticket }, [wire], forwarded,
        .ok response⟩ := by
  simp only [conclude, Tracker.take, holding]

theorem conclude_of_closed (closed : session.tracker.mailbox? ticket = some .closed) (wire : Bytes)
    (forwarded : List Bytes) (error : SessionError) :
    session.conclude ticket wire forwarded error =
      ⟨session, [wire], forwarded, .error (.error error)⟩ := by
  simp only [conclude, Tracker.take, closed]

theorem retry_of_free {seq : UInt8} (dated : session.Dated 0)
    (free : session.tracker.isPending seq = false) : session.retry seq = (.ok false, session) := by
  simp only [retry, deadline?_of_dated dated, Tracker.retry_of_free free]

theorem retry_of_undated (undated : ¬ session.Dated 0) (seq : UInt8) :
    session.retry seq = (.error .deadlineOverflow, session) := by
  simp only [retry, deadline?_of_undated undated]

theorem kept_elapse (session : Session) : Kept session session.elapse :=
  ⟨rfl, rfl, rfl, rfl, fun _ free => free⟩

theorem kept_withdraw (session : Session) (ticket : Ticket) :
    Kept session { session with tracker := session.tracker.withdraw ticket } := by
  refine ⟨rfl, rfl, rfl, rfl, ?_⟩
  intro seq free
  rw [Tracker.isPending_withdraw, free]

theorem kept_expire (session : Session) : Kept session session.expire :=
  ⟨rfl, rfl, rfl, Tracker.expire_rotation _ _, fun _ free =>
    Tracker.isPending_expire_of_free free _⟩

/-- The session after a wait in vain and the arrival of what is too late for it. -/
def overdue (session : Session) (early late : List Bytes) : Session :=
  ((session.arrive early).1.elapse.arrive late).1

def overdueForwarded (session : Session) (early late : List Bytes) : List Bytes :=
  (session.arrive early).2 ++ ((session.arrive early).1.elapse.arrive late).2

theorem kept_elapsed (isOpen : session.closed = false) (early : List Bytes) :
    Kept session (session.arrive early).1.elapse :=
  (kept_arrive isOpen early).trans (kept_elapse _)

theorem kept_overdue (isOpen : session.closed = false) (early late : List Bytes) :
    Kept session (session.overdue early late) := by
  have elapsed := kept_elapsed isOpen early
  exact elapsed.trans (kept_arrive (elapsed.closed.trans isOpen) late)

theorem overdue_clock (isOpen : session.closed = false) (early late : List Bytes) :
    (session.overdue early late).clock = session.deadline := by
  have waited := kept_arrive isOpen early
  have elapsed := kept_elapsed isOpen early
  rw [overdue, arrive_clock (elapsed.closed.trans isOpen), elapse, deadline, arrive_clock isOpen,
    waited.config, deadline]

theorem dated_overdue (isOpen : session.closed = false) (early late : List Bytes) (i : Nat) :
    (session.overdue early late).Dated i ↔ session.Dated (i + 1) :=
  dated_after_wait (overdue_clock isOpen early late) (kept_overdue isOpen early late).config i

theorem slot_overdue (isOpen : session.closed = false) (early late : List Bytes) (seq : UInt8) :
    (session.overdue early late).tracker.slot seq =
      (session.tracker.slot seq).hear (answer? seq (early ++ late)) := by
  have elapsed := kept_elapsed isOpen early
  rw [overdue, slot_arrive (elapsed.closed.trans isOpen), answer?_append, ← Slot.hear_hear,
    ← slot_arrive isOpen]
  rfl

theorem passed_overdue (isOpen : session.closed = false) (early late : List Bytes) :
    Passed session (early ++ late) (session.overdueForwarded early late) := by
  have elapsed := kept_elapsed isOpen early
  have missed := passed_arrive (elapsed.closed.trans isOpen) late
  exact (passed_arrive isOpen early).append elapsed missed

/-! ## One attempt -/

/-- The session awaits the response of the newest registration of a number, which has been sent again
so many times, and waiting for the timeout reaches its deadline. -/
structure Awaiting (session : Session) (ticket : Ticket) (made : Nat) : Prop where
  isOpen : session.closed = false
  newest : ticket.turn = (session.tracker.slot ticket.seq).settled.length
  pending : ∃ request, (session.tracker.slot ticket.seq).pending = some request ∧
    request.deadline ≤ session.deadline ∧ request.retries = made

variable {made : Nat}

theorem mailbox?_arrive (awaiting : Awaiting session ticket made) (datagrams : List Bytes) :
    (session.arrive datagrams).1.tracker.mailbox? ticket =
      some ((answer? ticket.seq datagrams).elim .waiting .holding) := by
  obtain ⟨request, pending, -, -⟩ := awaiting.pending
  rw [Tracker.mailbox?, slot_arrive awaiting.isOpen, awaiting.newest, Slot.mailbox?_hear pending]

theorem mailbox?_overdue (awaiting : Awaiting session ticket made) (early late : List Bytes) :
    (session.overdue early late).tracker.mailbox? ticket =
      some ((answer? ticket.seq (early ++ late)).elim .waiting .holding) := by
  obtain ⟨request, pending, -⟩ := awaiting.pending
  rw [Tracker.mailbox?, slot_overdue awaiting.isOpen, awaiting.newest, Slot.mailbox?_hear pending]

theorem free_overdue (isOpen : session.closed = false) {early late : List Bytes} {seq : UInt8}
    {response : Response} (found : answer? seq (early ++ late) = some response) :
    (session.overdue early late).tracker.isPending seq = false := by
  rw [Tracker.isPending, slot_overdue isOpen, found, Slot.hear, Slot.settle_pending]
  rfl

/-- Without an answer the request is still pending when its wait is over, and it is due. -/
theorem awaiting_overdue (awaiting : Awaiting session ticket made) {early late : List Bytes}
    (silent : answer? ticket.seq (early ++ late) = none) :
    Awaiting (session.overdue early late) ticket made ∧
      ∃ request, ((session.overdue early late).tracker.slot ticket.seq).pending = some request ∧
        request.deadline ≤ (session.overdue early late).clock := by
  obtain ⟨request, pending, due, count⟩ := awaiting.pending
  have kept := kept_overdue awaiting.isOpen early late
  have same := slot_overdue awaiting.isOpen early late ticket.seq
  rw [silent] at same
  change _ = session.tracker.slot ticket.seq at same
  -- The slot is as it was, and the clock has reached what was the deadline.
  have due' : request.deadline ≤ (session.overdue early late).clock := by
    rw [overdue_clock awaiting.isOpen]
    exact due
  have pending' := same ▸ pending
  refine ⟨⟨kept.closed.trans awaiting.isOpen, ?_, request, pending', ?_, count⟩, request, pending',
    due'⟩
  · rw [same, awaiting.newest]
  · exact Nat.le_trans due' (Nat.le_add_right _ _)

theorem retry_of_awaiting (awaiting : Awaiting session ticket made) (room : made + 1 < UInt32.size)
    (dated : session.Dated 0) :
    ∃ after, session.retry ticket.seq = (.ok true, after) ∧ Awaiting after ticket (made + 1) ∧
      Kept session after ∧ after.clock = session.clock := by
  obtain ⟨request, pending, -, rfl⟩ := awaiting.pending
  have counted := PendingRequest.again?_of_lt room session.deadline
  obtain ⟨-, count⟩ := PendingRequest.again?_eq_some counted
  refine ⟨{ session with tracker := session.tracker.update ticket.seq _ },
    by simp only [retry, deadline?_of_dated dated, Tracker.retry_of_again pending counted]; rfl,
    ?_, ?_, rfl⟩
  · refine ⟨awaiting.isOpen, ?_, ⟨session.deadline, request.count + 1⟩, ?_, Nat.le_refl _, count⟩
    · rw [Tracker.slot_update_self]
      exact awaiting.newest
    · rw [Tracker.slot_update_self]
  · refine ⟨rfl, rfl, rfl, rfl, ?_⟩
    intro seq free
    -- Only a pending number is written to.
    have other : ticket.seq ≠ seq := by
      rintro rfl
      rw [Tracker.isPending, pending] at free
      cases free
    rw [Tracker.isPending, Tracker.slot_update_of_ne _ _ other]
    exact free

variable {command : Command} {wire : Bytes} {early late : Nat → List Bytes} {retries : Nat}

theorem attempt_of_early (awaiting : Awaiting session ticket made) {response : Response}
    (found : answer? ticket.seq (early made) = some response) :
    attempt command wire ticket (arrivals early) (arrivals late) retries made session =
      let (after, forwarded) := session.arrive (early made)
      ⟨{ after with tracker := after.tracker.withdraw ticket }, [wire], forwarded, .ok response⟩ := by
  have holding := mailbox?_arrive awaiting (early made)
  rw [found] at holding
  unfold attempt
  simp only [happenAll_arrivals, await_of_holding holding]

theorem attempt_zero_of_silence (awaiting : Awaiting session ticket made)
    (silent : answer? ticket.seq (early made) = none) :
    attempt command wire ticket (arrivals early) (arrivals late) 0 made session =
      (session.overdue (early made) (late made)).expire.conclude ticket wire
        (session.overdueForwarded (early made) (late made))
        (.noResponse command.name command.target (made + 1)) := by
  have waiting := mailbox?_arrive awaiting (early made)
  rw [silent] at waiting
  unfold attempt
  simp only [happenAll_arrivals, await_of_waiting waiting]
  rfl

theorem attempt_succ_of_silence (awaiting : Awaiting session ticket made)
    (silent : answer? ticket.seq (early made) = none) :
    attempt command wire ticket (arrivals early) (arrivals late) (retries + 1) made session =
      let forwarded := session.overdueForwarded (early made) (late made)
      match (session.overdue (early made) (late made)).retry ticket.seq with
      | (.error abort, after) => ⟨after, [wire], forwarded, .error (.abort abort)⟩
      | (.ok false, after) => after.conclude ticket wire forwarded .closed
      | (.ok true, after) =>
        let later :=
          attempt command wire ticket (arrivals early) (arrivals late) retries (made + 1) after
        { later with
          requests := wire :: later.requests
          forwarded := forwarded ++ later.forwarded } := by
  have waiting := mailbox?_arrive awaiting (early made)
  rw [silent] at waiting
  conv => lhs; unfold attempt
  simp only [happenAll_arrivals, await_of_waiting waiting]
  rfl

/-! ## A course of attempts -/

/-- What the attempts of a command can lead to from a session that awaits the response to `seq`. -/
inductive Course (command : Command) (wire : Bytes) (seq : UInt8) (early late : Nat → List Bytes) :
    (retries made : Nat) → Session → Exchange Response → Prop where
  | answered {retries made : Nat} {session after : Session} {forwarded : List Bytes}
      {response : Response} (answer : answer? seq (early made ++ late made) = some response)
      (dated : answer? seq (early made) = none → retries ≠ 0 → session.Dated 1)
      (kept : Kept session after) (free : after.tracker.isPending seq = false)
      (passed : Passed session (heard seq (early made) (late made)) forwarded) :
      Course command wire seq early late retries made session
        ⟨after, [wire], forwarded, .ok response⟩
  | exhausted {made : Nat} {session after : Session} {forwarded : List Bytes}
      (silent : answer? seq (early made ++ late made) = none)
      (kept : Kept session after) (free : after.tracker.isPending seq = false)
      (passed : Passed session (heard seq (early made) (late made)) forwarded) :
      Course command wire seq early late 0 made session
        ⟨after, [wire], forwarded,
          .error (.error (.noResponse command.name command.target (made + 1)))⟩
  | stopped {retries made : Nat} {session after : Session} {forwarded : List Bytes}
      (silent : answer? seq (early made) = none) (undated : ¬ session.Dated 1)
      (kept : Kept session after)
      (pending : answer? seq (early made ++ late made) = none → after.tracker.isPending seq = true)
      (passed : Passed session (heard seq (early made) (late made)) forwarded) :
      Course command wire seq early late (retries + 1) made session
        ⟨after, [wire], forwarded, .error (.abort .deadlineOverflow)⟩
  | again {retries made : Nat} {session between : Session} {forwarded : List Bytes}
      {later : Exchange Response} (silent : answer? seq (early made ++ late made) = none)
      (dated : session.Dated 1) (kept : Kept session between)
      (clock : between.clock = session.deadline)
      (passed : Passed session (heard seq (early made) (late made)) forwarded)
      (rest : Course command wire seq early late retries (made + 1) between later) :
      Course command wire seq early late (retries + 1) made session
        ⟨later.session, wire :: later.requests, forwarded ++ later.forwarded, later.result⟩

theorem heard_of_early {seq : UInt8} {early late : List Bytes} {response : Response}
    (found : answer? seq early = some response) : heard seq early late = early := by
  rw [heard, found]
  rfl

theorem heard_of_silence {seq : UInt8} {early late : List Bytes}
    (silent : answer? seq early = none) : heard seq early late = early ++ late := by
  rw [heard, silent]
  rfl

theorem passed_of_silence (isOpen : session.closed = false) {seq : UInt8} {early : List Bytes}
    (silent : answer? seq early = none) (late : List Bytes) :
    Passed session (heard seq early late) (session.overdueForwarded early late) := by
  rw [heard_of_silence silent]
  exact passed_overdue isOpen early late

theorem silent_of_append {seq : UInt8} {early late : List Bytes}
    (silent : answer? seq (early ++ late) = none) : answer? seq early = none := by
  rw [answer?_append, Option.or_eq_none_iff] at silent
  exact silent.1

theorem course_of_early (awaiting : Awaiting session ticket made) {response : Response}
    (found : answer? ticket.seq (early made) = some response) :
    Course command wire ticket.seq early late retries made session
      (attempt command wire ticket (arrivals early) (arrivals late) retries made session) := by
  have isOpen := awaiting.isOpen
  have answer : answer? ticket.seq (early made ++ late made) = some response := by
    rw [answer?_append, found]
    rfl
  have kept := (kept_arrive isOpen (early made)).trans (kept_withdraw _ ticket)
  rw [attempt_of_early awaiting found]
  refine .answered answer (fun silent => by cases silent.symm.trans found) kept ?_ ?_
  · change ((session.arrive (early made)).1.tracker.withdraw ticket).isPending ticket.seq = false
    rw [Tracker.isPending_withdraw, Tracker.isPending, slot_arrive isOpen, found, Slot.hear,
      Slot.settle_pending]
    rfl
  · rw [heard_of_early found]
    exact passed_arrive isOpen _

theorem course_of_late (awaiting : Awaiting session ticket made) {response : Response}
    (silent : answer? ticket.seq (early made) = none)
    (answer : answer? ticket.seq (early made ++ late made) = some response)
    (dated : retries ≠ 0 → session.Dated 1) :
    Course command wire ticket.seq early late retries made session
      (attempt command wire ticket (arrivals early) (arrivals late) retries made session) := by
  have isOpen := awaiting.isOpen
  have kept := kept_overdue isOpen (early made) (late made)
  have passed := passed_of_silence isOpen silent (late made)
  have free := free_overdue isOpen answer
  have mailbox := mailbox?_overdue awaiting (early made) (late made)
  rw [answer] at mailbox
  cases retries with
  | zero =>
    have holding : (session.overdue (early made) (late made)).expire.tracker.mailbox? ticket =
        some (.holding response) := (Tracker.mailbox?_expire_of_free free _).trans mailbox
    rw [attempt_zero_of_silence awaiting silent, conclude_of_holding holding]
    have expired := kept.trans (kept_expire _)
    refine .answered answer (fun _ => dated) (expired.trans (kept_withdraw _ _)) ?_ passed
    exact (Tracker.isPending_withdraw _ _ _).trans (Tracker.isPending_expire_of_free free _)
  | succ retries =>
    have overdue := (dated_overdue isOpen (early made) (late made) 0).2 (dated (Nat.succ_ne_zero _))
    rw [attempt_succ_of_silence awaiting silent, retry_of_free overdue free]
    dsimp only
    rw [conclude_of_holding mailbox]
    refine .answered answer (fun _ => dated) (kept.trans (kept_withdraw _ _)) ?_ passed
    exact (Tracker.isPending_withdraw _ _ _).trans free

theorem course_of_undated (awaiting : Awaiting session ticket made)
    (silent : answer? ticket.seq (early made) = none) (undated : ¬ session.Dated 1) :
    Course command wire ticket.seq early late (retries + 1) made session
      (attempt command wire ticket (arrivals early) (arrivals late) (retries + 1) made session) := by
  have isOpen := awaiting.isOpen
  have overdue := mt (dated_overdue isOpen (early made) (late made) 0).1 undated
  rw [attempt_succ_of_silence awaiting silent, retry_of_undated overdue]
  refine .stopped silent undated (kept_overdue isOpen _ _) ?_ (passed_of_silence isOpen silent _)
  intro none
  obtain ⟨-, request, pending, -⟩ := awaiting_overdue awaiting none
  rw [Tracker.isPending, pending]
  rfl

theorem course_of_exhausted (awaiting : Awaiting session ticket made)
    (silent : answer? ticket.seq (early made ++ late made) = none) :
    Course command wire ticket.seq early late 0 made session
      (attempt command wire ticket (arrivals early) (arrivals late) 0 made session) := by
  have isOpen := awaiting.isOpen
  have silentEarly := silent_of_append silent
  have kept := (kept_overdue isOpen (early made) (late made)).trans (kept_expire _)
  obtain ⟨overdue, request, pending, due⟩ := awaiting_overdue awaiting silent
  have closed : (session.overdue (early made) (late made)).expire.tracker.mailbox? ticket =
      some .closed := Tracker.mailbox?_expire_of_due overdue.newest pending due
  rw [attempt_zero_of_silence awaiting silentEarly, conclude_of_closed closed]
  refine .exhausted silent kept ?_ (passed_of_silence isOpen silentEarly _)
  exact Tracker.isPending_expire_of_due pending due

theorem course_attempt (awaiting : Awaiting session ticket made)
    (room : made + retries < UInt32.size) :
    Course command wire ticket.seq early late retries made session
      (attempt command wire ticket (arrivals early) (arrivals late) retries made session) := by
  -- Each transmission changes the session and the count, so both are general.  `Awaiting` is all that
  -- the next attempt needs to know of the session.
  induction retries generalizing made session with
  | zero =>
    cases first : answer? ticket.seq (early made) with
    | some response => exact course_of_early awaiting first
    | none =>
      cases answer : answer? ticket.seq (early made ++ late made) with
      | some response => exact course_of_late awaiting first answer fun more => absurd rfl more
      | none => exact course_of_exhausted awaiting answer
  | succ retries ih =>
    cases first : answer? ticket.seq (early made) with
    | some response => exact course_of_early awaiting first
    | none =>
      by_cases dated : session.Dated 1
      · cases answer : answer? ticket.seq (early made ++ late made) with
        | some response => exact course_of_late awaiting first answer fun _ => dated
        | none =>
          have kept := kept_overdue awaiting.isOpen (early made) (late made)
          have overdue := (awaiting_overdue awaiting answer).1
          obtain ⟨after, retried, again, keptRetry, clock⟩ :=
            retry_of_awaiting overdue (by omega) ((dated_overdue awaiting.isOpen _ _ 0).2 dated)
          have passed := passed_of_silence awaiting.isOpen first (late made)
          rw [attempt_succ_of_silence awaiting first, retried]
          exact .again answer dated (kept.trans keptRetry)
            (clock.trans (overdue_clock awaiting.isOpen _ _)) passed (ih again (by omega))
      · exact course_of_undated awaiting first dated

end Session

end LightingControl
