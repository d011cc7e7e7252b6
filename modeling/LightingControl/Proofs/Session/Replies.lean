import LightingControl.Proofs.Command.Settings
import LightingControl.Proofs.Session.Send
import LightingControl.Session.Result
/-!
# What a reply gives the caller

The reply to a command comes back to the caller unaltered, whatever its kind and its data are.  What
the caller makes of it depends on the kind, and each of the four kinds gives one sort of result.
-/

set_option autoImplicit false

namespace LightingControl

namespace Response

def complaint (response : Response) : ErrorCode :=
  match response.data with
  | [] => .unknown 0
  | code :: _ => .ofByte code

theorem rejection_eq {response : Response} (kind : response.kind = .error) (command : Command) :
    response.rejection command = .rejected command.name response.complaint := by
  unfold rejection errorCode? complaint
  cases response.data <;> simp [kind, ErrorCode.ofByte]

/-- A rejection is what an error gives, with the name of the command and the code in the data. -/
def Rejected {α : Type} (response : Response) (command : Command) (result : Except Failure α) :
    Prop :=
  ∀ name code, result = .error (.error (.rejected name code)) ↔
    response.kind = .error ∧ name = command.name ∧ code = response.complaint

/-- What a query for an answer of some type gives for the response. -/
structure QueryResult (α : Type) [Answer α] (response : Response) (command : Command)
    (result : Except Failure (Option α)) : Prop where
  value_iff : ∀ value, result = .ok (some value) ↔
    response.kind = .answer ∧ Answer.decode response.data = .ok value
  wire_iff : ∀ error, result = .error (.error (.wire error)) ↔
    response.kind = .answer ∧ (Answer.decode response.data : Except WireError α) = .error error
  none_iff : result = .ok none ↔ response.kind = .noAnswer
  rejected_iff : response.Rejected command result
  unexpected_iff : ∀ name kind, result = .error (.error (.unexpectedResponse name kind)) ↔
    response.kind = .ok ∧ name = command.name ∧ kind = .ok

structure ExecutionResult (response : Response) (command : Command) (result : Except Failure Bool) :
    Prop where
  true_iff : result = .ok true ↔ response.kind = .ok ∨ response.kind = .answer
  false_iff : result = .ok false ↔ response.kind = .noAnswer
  rejected_iff : response.Rejected command result

structure ApplicationResult (response : Response) (command : Command) (mode : EventMode)
    (result : Except Failure Bool) : Prop where
  true_iff : result = .ok true ↔
    response.kind = .answer ∧ response.data.head? = some mode.byte
  reported : result = .ok true → Answer.decode response.data = .ok mode
  rejected_iff : response.Rejected command result
  false_iff : result = .ok false ↔
    ¬ (response.kind = .answer ∧ response.data.head? = some mode.byte) ∧ response.kind ≠ .error

variable (response : Response) (command : Command)

theorem queryResult_answered (α : Type) [Answer α] :
    response.QueryResult α command ((response.answered α command).mapError .error) := by
  cases kind : response.kind with
  | answer =>
    cases decoded : (Answer.decode response.data : Except WireError α) with
    | ok value =>
      simp only [answered, kind, decoded]
      change response.QueryResult α command (.ok (some value))
      constructor <;> simp [Rejected, kind, decoded]
    | error error =>
      simp only [answered, kind, decoded]
      change response.QueryResult α command (.error (.error (.wire error)))
      constructor <;> simp [Rejected, kind, decoded]
  | noAnswer =>
    simp only [answered, kind]
    change response.QueryResult α command (.ok none)
    constructor <;> simp [Rejected, kind]
  | error =>
    simp only [answered, kind, rejection_eq kind]
    change response.QueryResult α command
      (.error (.error (.rejected command.name response.complaint)))
    constructor <;> simp [Rejected, kind, eq_comm]
  | ok =>
    simp only [answered, kind]
    change response.QueryResult α command (.error (.error (.unexpectedResponse command.name .ok)))
    constructor <;> simp [Rejected, kind, eq_comm]

theorem executionResult_executed :
    response.ExecutionResult command ((response.executed command).mapError .error) := by
  cases kind : response.kind with
  | ok | answer =>
    simp only [executed, kind]
    change response.ExecutionResult command (.ok true)
    constructor <;> simp [Rejected, kind]
  | noAnswer =>
    simp only [executed, kind]
    change response.ExecutionResult command (.ok false)
    constructor <;> simp [Rejected, kind]
  | error =>
    simp only [executed, kind, rejection_eq kind]
    change response.ExecutionResult command
      (.error (.error (.rejected command.name response.complaint)))
    constructor <;> simp [Rejected, kind, eq_comm]

theorem applicationResult_applied (mode : EventMode) :
    response.ApplicationResult command mode ((response.applied command mode).mapError .error) := by
  cases kind : response.kind with
  | answer =>
    simp only [applied, kind]
    change response.ApplicationResult command mode (.ok (response.data.head? == some mode.byte))
    constructor
    · simp [kind]
    · simpa using EventMode.decode_of_head?
    · simp [Rejected, kind]
    · simp [kind]
  | ok | noAnswer =>
    simp only [applied, kind]
    change response.ApplicationResult command mode (.ok false)
    constructor <;> simp [Rejected, kind]
  | error =>
    simp only [applied, kind, rejection_eq kind]
    change response.ApplicationResult command mode
      (.error (.error (.rejected command.name response.complaint)))
    constructor <;> simp [Rejected, kind, eq_comm]

end Response

theorem Exchange.result_interpret {α : Type} {exchange : Exchange Response} {response : Response}
    (ok : exchange.result = .ok response) (f : Response → Except SessionError α) :
    (exchange.interpret f).result = (f response).mapError .error := by
  simp only [interpret, ok]
  cases f response <;> rfl

namespace Session

variable {session : Session} {command : Command} {early late : Nat → List Bytes} {reply : Response}
  {attempt : Nat}

/-- The controller sends the reply, under the number of the command and with data that its length byte
can count, during an attempt that is made, and no response with that number comes before it.  If the
reply is late for its attempt and the command may be sent again, there is a deadline for that. -/
structure Replies (session : Session) (command : Command) (early late : Nat → List Bytes)
    (reply : Response) (attempt : Nat) : Prop where
  made : attempt < (session.send command (arrivals early) (arrivals late)).requests.length
  number : reply.seq = session.tracker.next.1
  short : reply.data.length ≤ maxDataLength
  silent : ∀ i < attempt, answer? reply.seq (early i ++ late i) = none
  arrived : ∃ before behind,
    early attempt ++ late attempt = before ++ withChecksum reply.content :: behind ∧
      answer? reply.seq before = none
  dated : answer? reply.seq (early attempt) = none → attempt < session.config.retries.toNat →
    session.Dated (attempt + 1)

theorem Replies.first_answer (replied : Replies session command early late reply attempt) :
    answer? reply.seq (early attempt ++ late attempt) = some reply := by
  obtain ⟨before, behind, arrived, quiet⟩ := replied.arrived
  have parsed : Frame.parse (withChecksum reply.content) = .ok (.response reply) :=
    (Frame.parse_eq_ok_iff _ _).2 ((Frame.encode_eq_ok_iff _ _).2 ⟨replied.short, rfl⟩)
  have answer : answerIn? reply.seq (withChecksum reply.content) = some reply :=
    (answerIn?_eq_some_iff _ _ _).2 ⟨parsed, rfl⟩
  rw [arrived, answer?_append, quiet, Option.none_or, answer?, List.findSome?_cons, answer]

theorem Replies.sendable (replied : Replies session command early late reply attempt) :
    session.closed = false ∧ session.config.retries.toNat + 1 < UInt32.size ∧ session.Dated 0 :=
  open_of_sent (List.ne_nil_of_length_pos (Nat.zero_lt_of_lt replied.made))

theorem Replies.lasts (replied : Replies session command early late reply attempt) :
    ¬ (session.send command (arrivals early) (arrivals late)).Stopped := by
  obtain ⟨isOpen, bounded, dated⟩ := replied.sendable
  have course := course_send isOpen bounded dated command early late
  rw [stopped_send_iff isOpen bounded, ← replied.number]
  rintro ⟨_ | n, more, reached, undated⟩
  · exact undated dated
  -- The deadlines up to the attempt with the reply have been worked out, and one more at most.
  obtain before | rfl | after := Nat.lt_trichotomy n attempt
  · exact undated (course.dated_of_sent dated (Nat.lt_of_le_of_lt before replied.made))
  · exact undated (replied.dated reached.2 more)
  · cases (reached.1 attempt after).symm.trans replied.first_answer

theorem Replies.result_send (replied : Replies session command early late reply attempt) :
    (session.send command (arrivals early) (arrivals late)).result = .ok reply := by
  obtain ⟨isOpen, bounded, dated⟩ := replied.sendable
  have course := course_send isOpen bounded dated command early late
  -- No more attempts are made than the retries allow, and this one is made.
  have enough : attempt ≤ session.config.retries.toNat :=
    Nat.le_of_lt_succ (Nat.lt_of_lt_of_le replied.made course.length_requests_le)
  have completes := completes_of_not_stopped isOpen bounded replied.lasts
  have answered := completes.answered attempt reply enough
  rw [← replied.number] at answered
  exact (answered replied.silent replied.first_answer).2

/-- A reply gives a query of any type, an execution and the setting of the event mode exactly the
result that belongs to its kind and its data, at whichever attempt it comes. -/
theorem result_of_reply (replied : Replies session command early late reply attempt) :
    (∀ (α : Type) [Answer α], reply.QueryResult α command
      (session.queryWith (arrivals early) (arrivals late) α command).result) ∧
    reply.ExecutionResult command
      (session.executeWith (arrivals early) (arrivals late) command).result ∧
    ∀ mode, command = Operation.eventEmission mode → reply.ApplicationResult command mode
      (session.enableEventEmitWith (arrivals early) (arrivals late) mode).result := by
  have ok := replied.result_send
  refine ⟨fun α _ => ?_, ?_, ?_⟩
  · rw [queryWith, Exchange.result_interpret ok]
    exact reply.queryResult_answered command α
  · rw [executeWith, Exchange.result_interpret ok]
    exact reply.executionResult_executed command
  · rintro mode rfl
    rw [enableEventEmitWith, Exchange.result_interpret ok]
    exact reply.applicationResult_applied _ mode

/-- The controller reports the mode as applied, but only when it is asked for the second time. -/
theorem result_of_reply_second_attempt :
    let session : Session :=
      ⟨⟨anyEndpoint, none⟩, .default, .startingAt 7, false, true, 0⟩
    let mode := EventMode.default
    let command := Operation.eventEmission mode
    let reply : Response := ⟨.answer, 7, [0x01]⟩
    let early := fun i =>
      if i = 1 then [[0xA0, 9, 0, 0xA9], withChecksum reply.content] else [[0x00]]
    Replies session command early (fun _ => []) reply 1 ∧
      (session.query EventMode command (arrivals early)).result = .ok (some mode) ∧
      (session.execute command (arrivals early)).result = .ok true ∧
      (session.enableEventEmit mode (arrivals early)).result = .ok true := by
  intro session mode command reply early
  have replied : Replies session command early (fun _ => []) reply 1 :=
    ⟨by decide, rfl, by decide, by decide, ⟨[[0xA0, 9, 0, 0xA9]], [], rfl, rfl⟩,
      fun _ _ => by decide⟩
  obtain ⟨queried, executed, applied⟩ := result_of_reply replied
  have confirmed := (applied mode rfl).true_iff.2 ⟨rfl, by decide⟩
  have read := (applied mode rfl).reported confirmed
  refine ⟨replied, ?_, executed.true_iff.2 (.inr rfl), confirmed⟩
  exact ((queried EventMode).value_iff mode).2 ⟨rfl, read⟩

end Session

end LightingControl
