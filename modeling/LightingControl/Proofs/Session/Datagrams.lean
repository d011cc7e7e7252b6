import LightingControl.Proofs.Session.Arrivals
import LightingControl.Proofs.Tracker.Calls
/-!
# What becomes of the datagrams at a session

A datagram completes the one request that waits for it, or it is a stray and goes to the sink, or
nothing is done with it.  Over a stream the sink gets the strays in the order of their arrival, whatever
the senders ask of the tracker in between.
-/

set_option autoImplicit false

namespace LightingControl

theorem Slot.mailbox?_settle_of_ne {slot : Slot} {turn : Nat}
    (other : turn ≠ slot.settled.length) (left : Option Response) :
    (slot.settle left).mailbox? turn = slot.mailbox? turn := by
  cases pending : slot.pending with
  | none => rw [settle_of_free pending]
  | some request =>
    rw [settle_of_pending pending]
    obtain inside | beyond : turn < slot.settled.length ∨ slot.settled.length < turn := by omega
    · obtain ⟨found, inside⟩ : ∃ found, slot.settled[turn]? = some found :=
        ⟨_, List.getElem?_eq_getElem inside⟩
      have kept : (slot.settled ++ [left])[turn]? = some found :=
        (List.getElem?_append_left (List.getElem?_eq_some_iff.1 inside).1).trans inside
      cases found <;> simp only [mailbox?, kept, inside]
    · have short : (slot.settled ++ [left]).length ≤ turn := by
        rw [List.length_append, List.length_singleton]
        omega
      simp [mailbox?, List.getElem?_eq_none short, List.getElem?_eq_none (Nat.le_of_lt beyond), other]

theorem Tracker.mailbox?_of_slot_eq {tracker later : Tracker} {ticket : Ticket}
    (same : later.slot ticket.seq = tracker.slot ticket.seq) :
    later.mailbox? ticket = tracker.mailbox? ticket := by
  rw [mailbox?, same, mailbox?]

namespace Session

/-- The datagram is a response for a pending request.  That request is completed with it, nothing else
changes, and the sink gets nothing. -/
structure Completed (session : Session) (datagram : Bytes) (response : Response) (ticket : Ticket)
    (outcome : Session × List Bytes) : Prop where
  parsed : Frame.parse datagram = .ok (.response response)
  pending : session.tracker.isPending response.seq = true
  number : ticket.seq = response.seq
  waiting : session.tracker.mailbox? ticket = some .waiting
  holding : outcome.1.tracker.mailbox? ticket = some (.holding response)
  others : ∀ other, other ≠ ticket →
    outcome.1.tracker.mailbox? other = session.tracker.mailbox? other
  free : outcome.1.tracker.isPending response.seq = false
  slots : ∀ seq, seq ≠ response.seq → outcome.1.tracker.slot seq = session.tracker.slot seq
  rotation : outcome.1.tracker.rotation = session.tracker.rotation
  rest : outcome.1 = { session with tracker := outcome.1.tracker }
  silent : outcome.2 = []

/-- The datagram is an event, or a response whose number is not pending.  The session stays as it is, and
the sink, if there is one, gets the datagram. -/
structure PassedOn (session : Session) (datagram : Bytes) (outcome : Session × List Bytes) : Prop where
  kind : (∃ response, Frame.parse datagram = .ok (.response response) ∧
      session.tracker.isPending response.seq = false) ∨
    ∃ notification, Frame.parse datagram = .ok (.notification notification)
  same : outcome.1 = session
  sink : outcome.2 = if session.hasSink then [datagram] else []

/-- The datagram is a request or no frame at all, and nothing is done with it. -/
structure Ignored (session : Session) (datagram : Bytes) (outcome : Session × List Bytes) : Prop where
  kind : (∃ request, Frame.parse datagram = .ok (.request request)) ∨
    ∃ error, Frame.parse datagram = .error error
  same : outcome.1 = session
  silent : outcome.2 = []

theorem accept_of_pending {session : Session} {datagram : Bytes} {response : Response}
    (parsed : Frame.parse datagram = .ok (.response response))
    (pending : session.tracker.isPending response.seq = true) :
    session.accept datagram =
      ({ session with tracker := session.tracker.remove response.seq (some response) }, []) := by
  unfold accept
  simp only [fate_eq, parsed, pending, if_true]

theorem accept_of_free {session : Session} {datagram : Bytes} {response : Response}
    (parsed : Frame.parse datagram = .ok (.response response))
    (free : session.tracker.isPending response.seq = false) :
    session.accept datagram = (session, session.sinkOf datagram) := by
  unfold accept
  simp only [fate_eq, parsed, free, Bool.false_eq_true, if_false]

theorem accept_of_notification {session : Session} {datagram : Bytes} {notification : Notification}
    (parsed : Frame.parse datagram = .ok (.notification notification)) :
    session.accept datagram = (session, session.sinkOf datagram) := by
  unfold accept
  simp only [fate_eq, parsed]

theorem accept_of_request {session : Session} {datagram : Bytes} {request : Request}
    (parsed : Frame.parse datagram = .ok (.request request)) :
    session.accept datagram = (session, []) := by
  unfold accept
  simp only [fate_eq, parsed]

theorem accept_of_error {session : Session} {datagram : Bytes} {error : WireError}
    (parsed : Frame.parse datagram = .error error) : session.accept datagram = (session, []) := by
  unfold accept
  simp only [fate_eq, parsed]

theorem completed {session : Session} {datagram : Bytes} {response : Response}
    (parsed : Frame.parse datagram = .ok (.response response))
    (pending : session.tracker.isPending response.seq = true) :
    Completed session datagram response
      ⟨response.seq, (session.tracker.slot response.seq).settled.length⟩
      (session.accept datagram) := by
  obtain ⟨request, registered⟩ := Option.isSome_iff_exists.1 pending
  have slot (seq : UInt8) := session.tracker.slot_remove response.seq seq (some response)
  rw [accept_of_pending parsed pending]
  refine ⟨parsed, pending, rfl, Slot.mailbox?_of_pending registered, ?_, ?_, ?_, ?_, rfl, rfl, rfl⟩
  · rw [Tracker.mailbox?, slot, if_pos rfl]
    exact Slot.mailbox?_settle registered (some response)
  · rintro ⟨seq, turn⟩ other
    by_cases same : response.seq = seq
    · subst same
      have turns : turn ≠ (session.tracker.slot response.seq).settled.length := by
        rintro rfl
        exact other rfl
      rw [Tracker.mailbox?, slot, if_pos rfl]
      exact Slot.mailbox?_settle_of_ne turns (some response)
    · exact Tracker.mailbox?_of_slot_eq ((slot seq).trans (if_neg same))
  · rw [Tracker.isPending, slot, if_pos rfl, Slot.settle_pending]
    rfl
  · intro seq other
    exact (slot seq).trans (if_neg (Ne.symm other))

theorem Completed.not_passedOn {session : Session} {datagram : Bytes} {response : Response}
    {ticket : Ticket} {outcome : Session × List Bytes}
    (fate : Completed session datagram response ticket outcome) :
    ¬ PassedOn session datagram outcome := by
  rintro ⟨⟨other, parsed, free⟩ | ⟨notification, parsed⟩, -, -⟩
  · rw [fate.parsed] at parsed
    cases parsed
    exact absurd fate.pending (by simp [free])
  · rw [fate.parsed] at parsed
    cases parsed

theorem Completed.not_ignored {session : Session} {datagram : Bytes} {response : Response}
    {ticket : Ticket} {outcome : Session × List Bytes}
    (fate : Completed session datagram response ticket outcome) :
    ¬ Ignored session datagram outcome := by
  rintro ⟨⟨request, parsed⟩ | ⟨error, parsed⟩, -, -⟩ <;>
  · rw [fate.parsed] at parsed
    cases parsed

theorem PassedOn.not_ignored {session : Session} {datagram : Bytes}
    {outcome : Session × List Bytes} (fate : PassedOn session datagram outcome) :
    ¬ Ignored session datagram outcome := by
  rintro ⟨⟨request, parsed⟩ | ⟨error, parsed⟩, -, -⟩ <;>
  obtain ⟨response, other, -⟩ | ⟨notification, other⟩ := fate.kind <;>
  · rw [parsed] at other
    cases other

theorem accept_cases (session : Session) (datagram : Bytes) :
    (∃ response ticket, Completed session datagram response ticket (session.accept datagram)) ∨
      PassedOn session datagram (session.accept datagram) ∨
      Ignored session datagram (session.accept datagram) := by
  cases parsed : Frame.parse datagram with
  | error error =>
    rw [accept_of_error parsed]
    exact .inr (.inr ⟨.inr ⟨error, parsed⟩, rfl, rfl⟩)
  | ok frame =>
    cases frame with
    | request request =>
      rw [accept_of_request parsed]
      exact .inr (.inr ⟨.inl ⟨request, parsed⟩, rfl, rfl⟩)
    | notification notification =>
      rw [accept_of_notification parsed]
      exact .inr (.inl ⟨.inr ⟨notification, parsed⟩, rfl, rfl⟩)
    | response response =>
      cases pending : session.tracker.isPending response.seq with
      | true => exact .inl ⟨response, _, completed parsed pending⟩
      | false =>
        rw [accept_of_free parsed pending]
        exact .inr (.inl ⟨.inl ⟨response, parsed, pending⟩, rfl, rfl⟩)

/-! ## Streams -/

/-- The datagram is an event, or a response whose number is not pending. -/
def isStray (session : Session) (datagram : Bytes) : Bool :=
  match Frame.parse datagram with
  | .ok (.response response) => !session.tracker.isPending response.seq
  | .ok (.notification _) => true
  | .ok (.request _) => false
  | .error _ => false

theorem forwarded_accept (session : Session) (datagram : Bytes) :
    (session.accept datagram).2 = session.sinkAll (if session.isStray datagram then [datagram] else []) := by
  unfold isStray sinkAll
  cases parsed : Frame.parse datagram with
  | error error => simp [accept_of_error parsed]
  | ok frame =>
    cases frame with
    | request request => simp [accept_of_request parsed]
    | notification notification => simp [accept_of_notification parsed, sinkOf]
    | response response =>
      cases pending : session.tracker.isPending response.seq with
      | true => simp [accept_of_pending parsed pending, pending]
      | false => simp [accept_of_free parsed pending, pending, sinkOf]

theorem hasSink_accept (session : Session) (datagram : Bytes) :
    (session.accept datagram).1.hasSink = session.hasSink := by
  rw [(session.reception_accept datagram).session_eq]

theorem closed_accept (session : Session) (datagram : Bytes) :
    (session.accept datagram).1.closed = session.closed := by
  rw [(session.reception_accept datagram).session_eq]

theorem isPending_accept (session : Session) (datagram : Bytes) (seq : UInt8) :
    (session.accept datagram).1.tracker.isPending seq =
      (session.tracker.isPending seq && !carries seq datagram) := by
  rw [Tracker.isPending, (session.reception_accept datagram).slot, carries, Tracker.isPending]
  cases answerIn? seq datagram with
  | none => simp [Slot.hear]
  | some response => simp [Slot.hear]

inductive Occurrence where
  | datagram (datagram : Bytes)
  | call (call : Tracker.Call)

def undergo (session : Session) : Occurrence → Session
  | .datagram datagram => (session.accept datagram).1
  | .call call => { session with tracker := session.tracker.call call }

def forwarding (session : Session) : Occurrence → List Bytes
  | .datagram datagram => (session.accept datagram).2
  | .call _ => []

def straying (session : Session) : Occurrence → List Bytes
  | .datagram datagram => if session.isStray datagram then [datagram] else []
  | .call _ => []

theorem hasSink_undergo (session : Session) (occurrence : Occurrence) :
    (session.undergo occurrence).hasSink = session.hasSink := by
  cases occurrence with
  | datagram datagram => exact hasSink_accept session datagram
  | call call => rfl

theorem forwarding_eq (session : Session) (occurrence : Occurrence) :
    session.forwarding occurrence = session.sinkAll (session.straying occurrence) := by
  cases occurrence with
  | datagram datagram => exact forwarded_accept session datagram
  | call call =>
    unfold sinkAll
    split <;> rfl

theorem sinkAll_append (session : Session) (early late : List Bytes) :
    session.sinkAll (early ++ late) = session.sinkAll early ++ session.sinkAll late := by
  unfold sinkAll
  split <;> rfl

theorem observations_forwarding (session : Session) (occurrences : List Occurrence) :
    observations undergo forwarding session occurrences =
      session.sinkAll (observations undergo straying session occurrences) := by
  induction occurrences generalizing session with
  | nil =>
    unfold sinkAll
    split <;> rfl
  | cons first rest ih =>
    have sameSink (datagrams : List Bytes) :
        (session.undergo first).sinkAll datagrams = session.sinkAll datagrams := by
      rw [sinkAll, hasSink_undergo, sinkAll]
    rw [observations, observations, ih, forwarding_eq, sinkAll_append, sameSink]

def acceptAll (session : Session) (datagrams : List Bytes) : Session :=
  (datagrams.map Occurrence.datagram).foldl undergo session

theorem isPending_acceptAll (session : Session) (datagrams : List Bytes) (seq : UInt8) :
    (session.acceptAll datagrams).tracker.isPending seq =
      (session.tracker.isPending seq && !datagrams.any (carries seq)) := by
  induction datagrams generalizing session with
  | nil => simp [acceptAll]
  | cons first rest ih =>
    change ((session.accept first).1.acceptAll rest).tracker.isPending seq = _
    rw [ih, isPending_accept, List.any_cons, Bool.not_or, Bool.and_assoc]

theorem arrive_eq {session : Session} (isOpen : session.closed = false) (datagrams : List Bytes) :
    session.arrive datagrams =
      (session.acceptAll datagrams,
        observations undergo forwarding session (datagrams.map .datagram)) := by
  induction datagrams generalizing session with
  | nil => rfl
  | cons first rest ih =>
    have received : session.receive first = session.accept first := receive_of_open isOpen first
    have stillOpen := (closed_accept session first).trans isOpen
    rw [arrive_cons, received, ih stillOpen]
    rfl

/-- Every datagram meets exactly one of the three fates, and the sink gets the strays in the order of
their arrival.  After other datagrams, a response is a stray as soon as its number was not pending before
them or one of them carried it. -/
theorem datagram_fates (session : Session) :
    (∀ datagram,
      let outcome := session.accept datagram
      let completes := ∃ response ticket, Completed session datagram response ticket outcome
      session.receive datagram = (if session.closed then (session, []) else outcome) ∧
      (completes ∧ ¬ PassedOn session datagram outcome ∧ ¬ Ignored session datagram outcome ∨
        ¬ completes ∧ PassedOn session datagram outcome ∧ ¬ Ignored session datagram outcome ∨
        ¬ completes ∧ ¬ PassedOn session datagram outcome ∧ Ignored session datagram outcome)) ∧
    (∀ occurrences,
      observations undergo forwarding session occurrences =
        if session.hasSink then observations undergo straying session occurrences else []) ∧
    (session.closed = false → ∀ datagrams,
      session.arrive datagrams = (session.acceptAll datagrams,
        if session.hasSink then observations undergo straying session (datagrams.map .datagram)
        else [])) ∧
    ∀ early datagram,
      (session.acceptAll early).isStray datagram =
        match Frame.parse datagram with
        | .ok (.response response) =>
          !session.tracker.isPending response.seq || early.any (carries response.seq)
        | .ok (.notification _) => true
        | .ok (.request _) => false
        | .error _ => false := by
  refine ⟨?_, observations_forwarding session, ?_, ?_⟩
  · intro datagram outcome completes
    refine ⟨receive_eq session datagram, ?_⟩
    obtain ⟨response, ticket, fate⟩ | fate | fate := accept_cases session datagram
    · exact .inl ⟨⟨response, ticket, fate⟩, fate.not_passedOn, fate.not_ignored⟩
    · refine .inr (.inl ⟨?_, fate, fate.not_ignored⟩)
      rintro ⟨response, ticket, other⟩
      exact other.not_passedOn fate
    · refine .inr (.inr ⟨?_, fun other => other.not_ignored fate, fate⟩)
      rintro ⟨response, ticket, other⟩
      exact other.not_ignored fate
  · intro isOpen datagrams
    rw [arrive_eq isOpen, observations_forwarding]
    rfl
  · intro early datagram
    unfold isStray
    split
    · rw [isPending_acceptAll, Bool.not_and, Bool.not_not]
    all_goals rfl

end Session

end LightingControl
