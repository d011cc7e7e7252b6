import LightingControl.Proofs.Session.Send
/-!
# How long a command takes

Only a wait in vain takes time, and it takes exactly the timeout.  A command waits for each of its
attempts, and at most the last wait is not in vain.
-/

set_option autoImplicit false

namespace LightingControl

namespace Session

structure SameTime (before after : Session) : Prop where
  clock : after.clock = before.clock
  config : after.config = before.config

theorem SameTime.trans {first second third : Session} (h : SameTime first second)
    (h' : SameTime second third) : SameTime first third :=
  ⟨h'.clock.trans h.clock, h'.config.trans h.config⟩

theorem SameTime.deadline {before after : Session} (same : SameTime before after) :
    after.deadline = before.deadline := by
  rw [Session.deadline, same.clock, same.config, Session.deadline]

theorem SameTime.deadline? {before after : Session} (same : SameTime before after) :
    after.deadline? = before.deadline? := by
  rw [Session.deadline?, same.clock, same.config, Session.deadline?]

theorem sameTime_happen (session : Session) (happening : Happening) :
    SameTime session (session.happen happening).1 := by
  cases happening with
  | arrival datagram =>
    have same := (session.reception_accept datagram).session_eq
    rw [happen, receive_eq]
    split
    · exact ⟨rfl, rfl⟩
    · exact ⟨by rw [same], by rw [same]⟩
  | closing =>
    rw [happen, close]
    split <;> exact ⟨rfl, rfl⟩

theorem sameTime_happenAll (session : Session) (happenings : List Happening) :
    SameTime session (session.happenAll happenings).1 := by
  induction happenings generalizing session with
  | nil => exact ⟨rfl, rfl⟩
  | cons first rest ih => exact (sameTime_happen session first).trans (ih _)

theorem sameTime_conclude (session : Session) (ticket : Ticket) (wire : Bytes)
    (forwarded : List Bytes) (error : SessionError) :
    SameTime session (session.conclude ticket wire forwarded error).session ∧
      (session.conclude ticket wire forwarded error).requests = [wire] := by
  unfold conclude
  split <;> exact ⟨⟨rfl, rfl⟩, rfl⟩

/-! ## One attempt, by the end of its wait -/

variable {session overdue after : Session} {missed : List Bytes} {command : Command} {wire : Bytes}
  {ticket : Ticket} {during late : Nat → List Happening} {retries made : Nat} {tracker : Tracker}

/-- The session after a wait in vain that left the tracker as given, and after what was late for it. -/
def inVain (session : Session) (tracker : Tracker) (happenings : List Happening) :
    Session × List Bytes :=
  (elapse { session with tracker }).happenAll happenings

theorem attempt_of_response {response : Response}
    (waited : (session.happenAll (during made)).1.tracker.wait ticket =
      (.response response, tracker)) :
    session.attempt command wire ticket during late retries made =
      ⟨{ (session.happenAll (during made)).1 with tracker }, [wire],
        (session.happenAll (during made)).2, .ok response⟩ := by
  unfold attempt
  simp only [await, waited]

theorem attempt_of_dropped
    (waited : (session.happenAll (during made)).1.tracker.wait ticket = (.dropped, tracker)) :
    session.attempt command wire ticket during late retries made =
      conclude { (session.happenAll (during made)).1 with tracker } ticket wire
        (session.happenAll (during made)).2 .closed := by
  unfold attempt
  simp only [await, waited]

theorem attempt_zero_of_timeout
    (waited : (session.happenAll (during made)).1.tracker.wait ticket = (.timeout, tracker))
    (vain : (session.happenAll (during made)).1.inVain tracker (late made) = (overdue, missed)) :
    session.attempt command wire ticket during late 0 made =
      overdue.expire.conclude ticket wire ((session.happenAll (during made)).2 ++ missed)
        (.noResponse command.name command.target (made + 1)) := by
  rw [inVain] at vain
  unfold attempt
  simp only [await, waited, vain]

theorem attempt_succ_of_abort {abort : Abort}
    (waited : (session.happenAll (during made)).1.tracker.wait ticket = (.timeout, tracker))
    (vain : (session.happenAll (during made)).1.inVain tracker (late made) = (overdue, missed))
    (retried : overdue.retry ticket.seq = (.error abort, after)) :
    session.attempt command wire ticket during late (retries + 1) made =
      ⟨after, [wire], (session.happenAll (during made)).2 ++ missed, .error (.abort abort)⟩ := by
  rw [inVain] at vain
  rw [attempt]
  simp only [await, waited, vain, retried]

theorem attempt_succ_of_free
    (waited : (session.happenAll (during made)).1.tracker.wait ticket = (.timeout, tracker))
    (vain : (session.happenAll (during made)).1.inVain tracker (late made) = (overdue, missed))
    (retried : overdue.retry ticket.seq = (.ok false, after)) :
    session.attempt command wire ticket during late (retries + 1) made =
      after.conclude ticket wire ((session.happenAll (during made)).2 ++ missed) .closed := by
  rw [inVain] at vain
  rw [attempt]
  simp only [await, waited, vain, retried]

theorem attempt_succ_of_pending
    (waited : (session.happenAll (during made)).1.tracker.wait ticket = (.timeout, tracker))
    (vain : (session.happenAll (during made)).1.inVain tracker (late made) = (overdue, missed))
    (retried : overdue.retry ticket.seq = (.ok true, after)) :
    session.attempt command wire ticket during late (retries + 1) made =
      let later := after.attempt command wire ticket during late retries (made + 1)
      { later with
        requests := wire :: later.requests
        forwarded := (session.happenAll (during made)).2 ++ missed ++ later.forwarded } := by
  rw [inVain] at vain
  rw [attempt]
  simp only [await, waited, vain, retried]

/-! ## All attempts -/

def Unanswered (result : Except Failure Response) : Prop :=
  ∃ name target attempts, result = .error (.error (.noResponse name target attempts))

/-- An exchange has waited in vain so many times: once for each transmission, or for all but the last
one. -/
structure Waits (session : Session) (waits : Nat) (exchange : Exchange Response) : Prop where
  clock : exchange.session.clock = session.clock + waits * session.config.timeout.nanoseconds
  requests : exchange.requests.length = waits ∨ exchange.requests.length = waits + 1
  unanswered : Unanswered exchange.result → exchange.requests.length = waits

theorem sameTime_retry {seq : UInt8} {outcome : Except Abort Bool}
    (retried : session.retry seq = (outcome, after)) : SameTime session after := by
  have same : SameTime session (session.retry seq).2 := by
    unfold retry
    split
    · exact ⟨rfl, rfl⟩
    · split <;> exact ⟨rfl, rfl⟩
  rw [retried] at same
  exact same

theorem clock_of_vain {early late : List Happening}
    (vain : (session.happenAll early).1.inVain tracker late = (overdue, missed)) :
    overdue.clock = session.clock + session.config.timeout.nanoseconds ∧
      overdue.config = session.config := by
  have waited := sameTime_happenAll session early
  have overdue := sameTime_happenAll (elapse { (session.happenAll early).1 with tracker }) late
  rw [inVain] at vain
  rw [vain] at overdue
  exact ⟨overdue.clock.trans waited.deadline, overdue.config.trans waited.config⟩

theorem waits_conclude
    (clock : after.clock = session.clock + session.config.timeout.nanoseconds)
    (forwarded : List Bytes) (error : SessionError) :
    Waits session 1 (after.conclude ticket wire forwarded error) := by
  obtain ⟨same, requests⟩ := after.sameTime_conclude ticket wire forwarded error
  refine ⟨?_, .inl ?_, fun _ => ?_⟩
  · rw [same.clock, clock, Nat.one_mul]
  · rw [requests, List.length_singleton]
  · rw [requests, List.length_singleton]

theorem not_unanswered_conclude (session : Session) (forwarded : List Bytes) :
    ¬ Unanswered (session.conclude ticket wire forwarded .closed).result := by
  rintro ⟨name, target, attempts, unanswered⟩
  unfold conclude at unanswered
  split at unanswered <;> cases unanswered

theorem waits_of_ended {outcome : Waited}
    (waited : (session.happenAll (during made)).1.tracker.wait ticket = (outcome, tracker))
    (ended : outcome ≠ .timeout) :
    Waits session 0 (session.attempt command wire ticket during late retries made) := by
  have same := sameTime_happenAll session (during made)
  have now : (session.happenAll (during made)).1.clock =
      session.clock + 0 * session.config.timeout.nanoseconds := by
    rw [same.clock, Nat.zero_mul, Nat.add_zero]
  cases outcome with
  | timeout => exact absurd rfl ended
  | response response =>
    rw [attempt_of_response waited]
    refine ⟨now, .inr rfl, ?_⟩
    rintro ⟨name, target, attempts, unanswered⟩
    cases unanswered
  | dropped =>
    rw [attempt_of_dropped waited]
    let still := { (session.happenAll (during made)).1 with tracker }
    obtain ⟨concluded, requests⟩ :=
      still.sameTime_conclude ticket wire (session.happenAll (during made)).2 .closed
    refine ⟨concluded.clock.trans now, .inr ?_, ?_⟩
    · rw [requests, List.length_singleton]
    · exact fun unanswered => absurd unanswered (not_unanswered_conclude still _)

theorem waits_attempt (session : Session) (command : Command) (wire : Bytes) (ticket : Ticket)
    (during late : Nat → List Happening) (retries made : Nat) :
    ∃ waits ≤ retries + 1,
      Waits session waits (session.attempt command wire ticket during late retries made) := by
  induction retries generalizing session made with
  | zero =>
    cases waited : (session.happenAll (during made)).1.tracker.wait ticket with
    | mk outcome tracker =>
    by_cases ended : outcome = .timeout
    · subst ended
      cases vain : (session.happenAll (during made)).1.inVain tracker (late made) with
      | mk overdue missed =>
      rw [attempt_zero_of_timeout waited vain]
      refine ⟨1, Nat.le_refl 1, waits_conclude ?_ _ _⟩
      exact (clock_of_vain vain).1
    · exact ⟨0, Nat.zero_le _, waits_of_ended waited ended⟩
  | succ retries ih =>
    cases waited : (session.happenAll (during made)).1.tracker.wait ticket with
    | mk outcome tracker =>
    by_cases ended : outcome = .timeout
    · subst ended
      cases vain : (session.happenAll (during made)).1.inVain tracker (late made) with
      | mk overdue missed =>
      obtain ⟨clock, config⟩ := clock_of_vain vain
      cases retried : overdue.retry ticket.seq with
      | mk outcome after =>
      have same := sameTime_retry retried
      cases outcome with
      | error abort =>
        rw [attempt_succ_of_abort waited vain retried]
        refine ⟨1, by omega, ?_, .inl rfl, ?_⟩
        · rw [Nat.one_mul]
          exact same.clock.trans clock
        · rintro ⟨name, target, attempts, unanswered⟩
          cases unanswered
      | ok pending =>
      cases pending with
      | false =>
        rw [attempt_succ_of_free waited vain retried]
        exact ⟨1, by omega, waits_conclude (same.clock.trans clock) _ _⟩
      | true =>
        -- The rest starts a timeout later and under the same settings.
        obtain ⟨waits, few, rest⟩ := ih after (made + 1)
        rw [attempt_succ_of_pending waited vain retried]
        refine ⟨waits + 1, Nat.succ_le_succ few, ?_, ?_, fun unanswered => ?_⟩
        · dsimp only
          rw [rest.clock, same.clock, same.config, clock, config, Nat.add_assoc, Nat.succ_mul,
            Nat.add_comm (waits * _)]
        · dsimp only
          rw [List.length_cons]
          have requests := rest.requests
          omega
        · dsimp only
          rw [List.length_cons, rest.unanswered unanswered]
    · exact ⟨0, Nat.zero_le _, waits_of_ended waited ended⟩

/-- Sending a command takes the timeout for each wait in vain, and there are at most as many of these as
attempts. -/
theorem waits_send (session : Session) (command : Command) (during late : Nat → List Happening) :
    ∃ waits ≤ session.config.retries.toNat + 1,
      Waits session waits (session.send command during late) := by
  have nothing {exchange : Exchange Response} (clock : exchange.session.clock = session.clock)
      (requests : exchange.requests = []) : Waits session 0 exchange :=
    ⟨by rw [clock, Nat.zero_mul, Nat.add_zero], .inl (by rw [requests]; rfl),
      fun _ => by rw [requests]; rfl⟩
  cases isOpen : session.closed with
  | true =>
    rw [send_of_closed isOpen]
    exact ⟨0, Nat.zero_le _, nothing rfl rfl⟩
  | false =>
    by_cases bounded : session.config.retries.toNat + 1 < UInt32.size
    · by_cases dated : session.Dated 0
      · rw [send_of_dated isOpen bounded dated]
        obtain ⟨waits, few, spent⟩ := waits_attempt session.registered.2 command
          (command.request session.tracker.next.1).encode session.registered.1 during late
          session.config.retries.toNat 0
        exact ⟨waits, few, spent.clock, spent.requests, spent.unanswered⟩
      · rw [send_of_undated isOpen bounded dated]
        exact ⟨0, Nat.zero_le _, nothing rfl rfl⟩
    · rw [send_of_overflow isOpen bounded]
      exact ⟨0, Nat.zero_le _, nothing rfl rfl⟩

end Session

end LightingControl
