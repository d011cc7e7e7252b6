import LightingControl.Proofs.Session.Attempts
import LightingControl.Proofs.Session.Steps
/-!
# Responses that are overtaken

The receiver takes a request out of the tracker first, and puts the response into its mailbox after
that.  A wait that ends in between finds neither, so the command ends without the response although the
session is open.
-/

set_option autoImplicit false

namespace LightingControl

namespace LiveSession

/-- The thread inside the lock waits for its response, and the receiver for a datagram. -/
structure Awaits (live : LiveSession) (dispatch : Dispatch) : Prop where
  inside : live.inside = some (.waiting dispatch)
  listening : live.receiver = .listening
  pending : live.session.tracker.isPending dispatch.ticket.seq = true
  newest : dispatch.ticket.turn =
    (live.session.tracker.slot dispatch.ticket.seq).settled.length

structure Answers (dispatch : Dispatch) (datagram : Bytes) (response : Response) : Prop where
  parsed : Frame.parse datagram = .ok (.response response)
  number : response.seq = dispatch.ticket.seq

variable {live : LiveSession} {dispatch : Dispatch} {datagram : Bytes} {response : Response}

theorem Awaits.receiverAfter_eq (awaits : live.Awaits dispatch)
    (answers : Answers dispatch datagram response) :
    live.receiverAfter datagram = .delivering dispatch.ticket := by
  have pending := awaits.pending
  rw [← answers.number] at pending
  have ticket : (⟨response.seq, (live.session.tracker.slot response.seq).settled.length⟩ : Ticket) =
      dispatch.ticket := by
    rw [answers.number, ← awaits.newest]
  simp only [receiverAfter, Session.fate_eq, answers.parsed, pending, if_true]
  rw [ticket]

theorem Awaits.receive_eq (awaits : live.Awaits dispatch)
    (answers : Answers dispatch datagram response) :
    live.receive (some datagram) =
      { live with
        receiver := .delivering dispatch.ticket
        session.tracker := live.session.tracker.remove dispatch.ticket.seq (some response) } := by
  have pending := awaits.pending
  rw [← answers.number] at pending
  rw [receive_of_listening awaits.listening, awaits.receiverAfter_eq answers,
    Session.accept_of_pending answers.parsed pending, answers.number, List.append_nil]

theorem Awaits.holding (awaits : live.Awaits dispatch) (response : Response) :
    (live.session.tracker.remove dispatch.ticket.seq (some response)).mailbox? dispatch.ticket =
      some (.holding response) := by
  obtain ⟨request, pending⟩ := Option.isSome_iff_exists.1 awaits.pending
  rw [Tracker.mailbox?, Tracker.slot_remove, if_pos rfl, awaits.newest]
  exact Slot.mailbox?_settle pending (some response)

theorem wait_of_delivering {ticket : Ticket} (delivering : live.receiver = .delivering ticket) :
    live.wait ticket = (.timeout, live.session.tracker) :=
  if_pos delivering

theorem take_of_delivering {ticket : Ticket} (delivering : live.receiver = .delivering ticket) :
    live.take ticket = (none, live.session.tracker) :=
  if_pos delivering

/-- What a command ends with that finds neither its request nor its response. -/
def lost (dispatch : Dispatch) : SessionError :=
  if dispatch.bound ≤ dispatch.made then
    .noResponse dispatch.command.name dispatch.command.target dispatch.made
  else .closed

/-- A command has ended, with nothing transmitted or handed to the sink, its number free, and the session
closed only if it was so before. -/
structure Ended (live : LiveSession) (dispatch : Dispatch) (result : Except Failure Response)
    (later : LiveSession) : Prop where
  inside : later.inside = none
  results : later.results = live.results ++ [result]
  transmitted : later.transmitted = live.transmitted
  forwarded : later.forwarded = live.forwarded
  closed : later.session.closed = live.session.closed
  free : later.session.tracker.isPending dispatch.ticket.seq = false

theorem after_advance {stage : Stage} (inside : live.inside = some stage) (rest : List Move) :
    live.after (.advance :: rest) = (live.step stage).after rest := by
  rw [after_cons, move, advance_of_inside inside]

theorem ended_leaving (live : LiveSession) (delivering : live.receiver = .delivering dispatch.ticket)
    (free : live.session.tracker.isPending dispatch.ticket.seq = false) (error : SessionError) :
    Ended live dispatch (.error (.error error)) (live.step (.leaving dispatch.ticket error)) := by
  rw [step, take_of_delivering delivering]
  exact ⟨rfl, rfl, rfl, rfl, rfl, free⟩

theorem step_retrying_of_free (free : live.session.tracker.isPending dispatch.ticket.seq = false) :
    live.step (.retrying dispatch) = live.stand (.leaving dispatch.ticket .closed) := by
  rw [step, Tracker.retry_of_free free]
  rfl

theorem Ended.of_same {between later : LiveSession} {result : Except Failure Response}
    (ended : Ended between dispatch result later) (results : between.results = live.results)
    (transmitted : between.transmitted = live.transmitted)
    (forwarded : between.forwarded = live.forwarded)
    (closed : between.session.closed = live.session.closed) : Ended live dispatch result later :=
  ⟨ended.inside, results ▸ ended.results, ended.transmitted.trans transmitted,
    ended.forwarded.trans forwarded, ended.closed.trans closed, ended.free⟩

theorem ended_of_delivering (inside : live.inside = some (.waiting dispatch))
    (delivering : live.receiver = .delivering dispatch.ticket)
    (free : live.session.tracker.isPending dispatch.ticket.seq = false)
    (overdue : dispatch.deadline ≤ live.session.clock)
    (dated : dispatch.made < dispatch.bound → live.session.Dated 0) :
    Ended live dispatch (.error (.error (lost dispatch)))
      (live.after [.advance, .advance, .advance]) := by
  rw [after_advance inside, step, wait_of_delivering delivering]
  dsimp only
  rw [if_neg (Nat.not_lt.2 overdue), lost]
  by_cases last : dispatch.bound ≤ dispatch.made
  · rw [if_pos last, if_pos last, after_advance rfl, after_advance rfl, after_nil]
    have gone := Tracker.isPending_expire_of_free free live.session.clock
    have ended := ended_leaving (live.step (.expiring dispatch)) delivering gone
      (.noResponse dispatch.command.name dispatch.command.target dispatch.made)
    exact ended.of_same rfl rfl rfl rfl
  · let again := { dispatch with deadline := live.session.deadline }
    have retried : (live.stand (.retrying again)).step (.retrying again) =
        live.stand (.leaving dispatch.ticket .closed) := step_retrying_of_free free
    have ended := ended_leaving (live.stand (.leaving dispatch.ticket .closed)) delivering free .closed
    have found := Session.deadline?_of_dated (dated (Nat.lt_of_not_le last))
    rw [if_neg last, if_neg last, found]
    change Ended live dispatch _ ((live.stand (.retrying again)).after [.advance, .advance])
    rw [after_advance rfl, retried, after_advance rfl, after_nil]
    exact ended.of_same rfl rfl rfl rfl

/-- Whether a command gets the response to it depends on when the receiver, which has read it, puts it
into the mailbox.  If it does so before the wait is over, the response is the result at any later time.
If the wait ends first, the command ends with an error although the session is open. -/
theorem delivery_decides (awaits : live.Awaits dispatch) (answers : Answers dispatch datagram response)
    (time : Nat) (overdue : dispatch.deadline ≤ live.session.clock + time)
    (dated : dispatch.made < dispatch.bound →
      live.session.clock + time + live.session.config.timeout.nanoseconds < Moment.limit) :
    Ended live dispatch (.ok response)
        (live.after [.receive (some datagram), .receive none, .tick time, .advance]) ∧
      Ended live dispatch (.error (.error (lost dispatch)))
        (live.after [.receive (some datagram), .tick time, .advance, .advance, .advance]) := by
  let read : LiveSession :=
    { live with
      receiver := .delivering dispatch.ticket
      session.tracker := live.session.tracker.remove dispatch.ticket.seq (some response) }
  have reads : live.move (.receive (some datagram)) = read := awaits.receive_eq answers
  have free : read.session.tracker.isPending dispatch.ticket.seq = false := by
    rw [Tracker.isPending, Tracker.slot_remove, if_pos rfl, Slot.settle_pending]
    rfl
  constructor <;> rw [after_cons, reads]
  · let delivered := (read.move (.receive none)).move (.tick time)
    have still : delivered.receiver ≠ .delivering dispatch.ticket := by
      change Receiver.checking ≠ _
      intro same
      cases same
    have arrived : delivered.session.tracker.mailbox? dispatch.ticket = some (.holding response) :=
      awaits.holding response
    have waited : delivered.wait dispatch.ticket =
        (.response response, delivered.session.tracker.withdraw dispatch.ticket) := by
      rw [wait_of_still still, Tracker.wait, arrived]
    have gone : (delivered.session.tracker.withdraw dispatch.ticket).isPending dispatch.ticket.seq =
        false := (Tracker.isPending_withdraw _ _ _).trans free
    have inside : delivered.inside = some (.waiting dispatch) := awaits.inside
    change Ended live dispatch _ (delivered.after _)
    rw [after_advance inside, step, waited]
    exact ⟨rfl, rfl, rfl, rfl, rfl, gone⟩
  · -- The receiver still holds the response, and the request has gone from the tracker.
    let late := read.move (.tick time)
    have inside : late.inside = some (.waiting dispatch) := awaits.inside
    have next (more : dispatch.made < dispatch.bound) : late.session.Dated 0 :=
      Session.dated_zero_iff.2 (dated more)
    have ended : Ended late dispatch _ _ := ended_of_delivering inside rfl free overdue next
    change Ended live dispatch _ (late.after _)
    exact ended.of_same rfl rfl rfl rfl

-- The response has been read in time, and the command could be sent twice more.
example :
    let start : Session := ⟨⟨anyEndpoint, none⟩, .default, .startingAt 7, false, true, 0⟩
    let command : Command := ⟨"enable event emit", 0x08, .controller, .basic 1 0 0 0⟩
    let waiting := (ofSession start).after
      [.call command, .enter 0, .advance, .advance, .advance, .advance, .advance]
    let later := waiting.after [.receive (some (withChecksum (Response.content ⟨.ok, 7, []⟩))),
      .tick start.config.timeout.nanoseconds, .advance, .advance, .advance]
    later.results = [.error (.error .closed)] ∧ later.session.closed = false ∧
      later.closing = .idle := by
  decide +kernel

end LiveSession

end LightingControl
