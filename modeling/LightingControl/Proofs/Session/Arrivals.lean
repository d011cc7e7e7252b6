import LightingControl.Proofs.Frame.Codec
import LightingControl.Proofs.Tracker.Slots
import LightingControl.Session.Basic
/-!
# Datagrams that arrive at a session

What a stream of datagrams does to the registrations of one number depends on the first response in
it that carries the number: it settles the pending request, and all else leaves the number alone.  The
sink gets every response whose number is not pending.
-/

set_option autoImplicit false

namespace LightingControl

/-- The response in a datagram, if it carries the number. -/
def answerIn? (seq : UInt8) (datagram : Bytes) : Option Response :=
  match Frame.parse datagram with
  | .ok (.response response) => if response.seq = seq then some response else none
  | _ => none

def carries (seq : UInt8) (datagram : Bytes) : Bool :=
  (answerIn? seq datagram).isSome

/-- The first response with the number, in the order of arrival. -/
def answer? (seq : UInt8) (datagrams : List Bytes) : Option Response :=
  datagrams.findSome? (answerIn? seq)

theorem answerIn?_eq_some_iff (seq : UInt8) (datagram : Bytes) (response : Response) :
    answerIn? seq datagram = some response ↔
      Frame.parse datagram = .ok (.response response) ∧ response.seq = seq := by
  unfold answerIn?
  split
  · rename_i other parsed
    rw [parsed]
    by_cases same : other.seq = seq
    · simp only [same, if_true, Option.some.injEq, Except.ok.injEq, Frame.response.injEq]
      refine ⟨fun equal => ⟨equal, equal ▸ same⟩, And.left⟩
    · simp only [same, if_false, Except.ok.injEq, Frame.response.injEq, reduceCtorEq, false_iff]
      rintro ⟨rfl, equal⟩
      exact same equal
  · rename_i noResponse
    simp only [reduceCtorEq, false_iff]
    rintro ⟨parsed, -⟩
    exact noResponse response parsed

theorem answerIn?_of_parse {seq : UInt8} {datagram : Bytes} {response : Response}
    (parsed : Frame.parse datagram = .ok (.response response)) :
    answerIn? seq datagram = if response.seq = seq then some response else none := by
  rw [answerIn?, parsed]

theorem answerIn?_of_no_response {seq : UInt8} {datagram : Bytes}
    (other : ∀ response, Frame.parse datagram ≠ .ok (.response response)) :
    answerIn? seq datagram = none := by
  cases found : answerIn? seq datagram with
  | none => rfl
  | some response => exact absurd ((answerIn?_eq_some_iff _ _ _).1 found).1 (other response)

theorem seq_of_answer? {seq : UInt8} {datagrams : List Bytes} {response : Response}
    (found : answer? seq datagrams = some response) : response.seq = seq := by
  obtain ⟨datagram, _, answer⟩ := List.exists_of_findSome?_eq_some found
  exact ((answerIn?_eq_some_iff _ _ _).1 answer).2

theorem answer?_append (seq : UInt8) (early late : List Bytes) :
    answer? seq (early ++ late) = (answer? seq early).or (answer? seq late) :=
  List.findSome?_append

/-- The slot after a stream in which the first response with its number is the given one. -/
def Slot.hear (slot : Slot) (answer : Option Response) : Slot :=
  match answer with
  | none => slot
  | some response => slot.settle (some response)

theorem Slot.hear_hear (slot : Slot) (first second : Option Response) :
    (slot.hear first).hear second = slot.hear (first.or second) := by
  cases first with
  | none => rfl
  | some response =>
    cases second with
    | none => rfl
    | some later => exact settle_settle _ _ _

theorem Slot.hear_of_free {slot : Slot} (free : slot.pending = none) (answer : Option Response) :
    slot.hear answer = slot := by
  cases answer with
  | none => rfl
  | some response => exact settle_of_free free _

theorem Slot.mailbox?_hear {slot : Slot} {request : PendingRequest}
    (pending : slot.pending = some request) (answer : Option Response) :
    (slot.hear answer).mailbox? slot.settled.length = some (answer.elim .waiting .holding) := by
  cases answer with
  | none => exact mailbox?_of_pending pending
  | some response => exact mailbox?_settle pending _

namespace Session

def sinkAll (session : Session) (datagrams : List Bytes) : List Bytes :=
  if session.hasSink then datagrams else []

def arrive (session : Session) (datagrams : List Bytes) : Session × List Bytes :=
  session.happenAll (datagrams.map .arrival)

theorem arrive_cons (session : Session) (datagram : Bytes) (rest : List Bytes) :
    session.arrive (datagram :: rest) =
      (((session.receive datagram).1.arrive rest).1,
        (session.receive datagram).2 ++ ((session.receive datagram).1.arrive rest).2) := rfl

theorem parse_of_full {wire : Bytes} (full : receiveBuffer ≤ wire.length) :
    (∃ request, Frame.parse wire = .ok (.request request)) ∨
      ∃ error, Frame.parse wire = .error error := by
  cases parsed : Frame.parse wire with
  | error error => exact .inr ⟨error, rfl⟩
  | ok frame =>
    obtain ⟨request, rfl⟩ | short := Frame.length_le_of_parse_ok parsed
    · exact .inl ⟨request, rfl⟩
    · unfold receiveBuffer at full
      omega

/-- Cutting a datagram to the buffer changes the fate of none. -/
theorem fate_eq (session : Session) (datagram : Bytes) :
    session.fate datagram =
      match Frame.parse datagram with
      | .ok (.response response) =>
        if session.tracker.isPending response.seq then .completes response else .forwarded datagram
      | .ok (.notification _) => .forwarded datagram
      | .ok (.request _) => .ignored
      | .error _ => .ignored := by
  by_cases fits : datagram.length ≤ receiveBuffer
  · cases parsed : Frame.parse datagram with
    | error error => simp only [fate, List.take_of_length_le fits, parsed]
    | ok frame => cases frame <;> simp only [fate, List.take_of_length_le fits, parsed]
  · -- Neither the datagram nor what is left of it is a response or an event.
    have whole : receiveBuffer ≤ datagram.length := by omega
    have cut : receiveBuffer ≤ (datagram.take receiveBuffer).length := by
      rw [List.length_take]
      omega
    unfold fate
    obtain ⟨_, parsedCut⟩ | ⟨_, parsedCut⟩ := parse_of_full cut <;>
      obtain ⟨_, parsed⟩ | ⟨_, parsed⟩ := parse_of_full whole <;>
      simp only [parsedCut, parsed]

/-- What the receiver of a session makes of a datagram. -/
def accept (session : Session) (datagram : Bytes) : Session × List Bytes :=
  match session.fate datagram with
  | .completes response =>
    ({ session with tracker := session.tracker.remove response.seq (some response) }, [])
  | .forwarded cut => (session, session.sinkOf cut)
  | .ignored => (session, [])

theorem receive_eq (session : Session) (datagram : Bytes) :
    session.receive datagram = if session.closed then (session, []) else session.accept datagram :=
  rfl

theorem receive_of_open {session : Session} (isOpen : session.closed = false) (datagram : Bytes) :
    session.receive datagram =
      match session.fate datagram with
      | .completes response =>
        ({ session with tracker := session.tracker.remove response.seq (some response) }, [])
      | .forwarded cut => (session, session.sinkOf cut)
      | .ignored => (session, []) := by
  unfold receive
  rw [isOpen]
  rfl

inductive Reception (session : Session) (datagram : Bytes) : Session × List Bytes → Prop where
  | completes (response : Response) (parsed : Frame.parse datagram = .ok (.response response))
      (pending : session.tracker.isPending response.seq = true) :
      Reception session datagram
        ({ session with tracker := session.tracker.remove response.seq (some response) }, [])
  | unmatched (response : Response) (parsed : Frame.parse datagram = .ok (.response response))
      (free : session.tracker.isPending response.seq = false) :
      Reception session datagram (session, session.sinkOf datagram)
  | event (noResponse : ∀ response, Frame.parse datagram ≠ .ok (.response response)) :
      Reception session datagram (session, session.sinkOf datagram)
  | ignored (noResponse : ∀ response, Frame.parse datagram ≠ .ok (.response response)) :
      Reception session datagram (session, [])

theorem reception_accept (session : Session) (datagram : Bytes) :
    session.Reception datagram (session.accept datagram) := by
  unfold accept
  rw [fate_eq]
  cases parsed : Frame.parse datagram with
  | error error => exact .ignored (by simp [parsed])
  | ok frame =>
    cases frame with
    | request request => exact .ignored (by simp [parsed])
    | notification notification => exact .event (by simp [parsed])
    | response response =>
      cases pending : session.tracker.isPending response.seq with
      | true =>
        simp only [pending, if_true]
        exact .completes response parsed pending
      | false =>
        simp only [pending, Bool.false_eq_true, if_false]
        exact .unmatched response parsed pending

theorem reception {session : Session} (isOpen : session.closed = false) (datagram : Bytes) :
    session.Reception datagram (session.receive datagram) := by
  rw [receive_of_open isOpen]
  exact reception_accept session datagram

variable {session : Session} {datagram : Bytes} {outcome : Session × List Bytes}

theorem Reception.slot (received : Reception session datagram outcome) (seq : UInt8) :
    outcome.1.tracker.slot seq = (session.tracker.slot seq).hear (answerIn? seq datagram) := by
  cases received with
  | completes response parsed pending =>
    rw [Tracker.slot_remove, answerIn?_of_parse parsed]
    by_cases same : response.seq = seq
    · rw [if_pos same, if_pos same]
      rfl
    · rw [if_neg same, if_neg same]
      rfl
  | unmatched response parsed free =>
    rw [answerIn?_of_parse parsed]
    by_cases same : response.seq = seq
    · -- The number is free, so its slot hears nothing.
      subst same
      exact (Slot.hear_of_free (Tracker.pending_of_free free) _).symm
    · rw [if_neg same]
      rfl
  | event noResponse =>
    rw [answerIn?_of_no_response noResponse]
    rfl
  | ignored noResponse =>
    rw [answerIn?_of_no_response noResponse]
    rfl

/-- Of what has arrived, the sink got every response whose number was not pending. -/
def Passed (session : Session) (datagrams forwarded : List Bytes) : Prop :=
  ∀ seq, session.tracker.isPending seq = false →
    forwarded.filter (carries seq) = session.sinkAll (datagrams.filter (carries seq))

theorem Reception.passed (received : Reception session datagram outcome) :
    Passed session [datagram] outcome.2 := by
  intro seq free
  cases received with
  | completes response parsed pending =>
    have other : response.seq ≠ seq := by
      rintro rfl
      exact absurd pending (by simp [free])
    have missing : carries seq datagram = false := by
      rw [carries, answerIn?_of_parse parsed, if_neg other]
      rfl
    simp [missing, sinkAll]
  | unmatched response parsed _ =>
    unfold sinkOf sinkAll
    split <;> rfl
  | event noResponse =>
    unfold sinkOf sinkAll
    split <;> rfl
  | ignored noResponse =>
    have missing : carries seq datagram = false := by
      rw [carries, answerIn?_of_no_response noResponse]
      rfl
    simp [missing, sinkAll]

theorem Reception.session_eq (received : Reception session datagram outcome) :
    outcome.1 = { session with tracker := outcome.1.tracker } := by
  cases received <;> rfl

theorem Reception.rotation (received : Reception session datagram outcome) :
    outcome.1.tracker.rotation = session.tracker.rotation := by
  cases received <;> rfl

/-! ## A stream of datagrams -/

/-- What lies between two states of a session unless a command starts or the session closes. -/
structure Kept (before after : Session) : Prop where
  config : after.config = before.config
  closed : after.closed = before.closed
  hasSink : after.hasSink = before.hasSink
  rotation : after.tracker.rotation = before.tracker.rotation
  free : ∀ seq, before.tracker.isPending seq = false → after.tracker.isPending seq = false

theorem Kept.refl (session : Session) : Kept session session :=
  ⟨rfl, rfl, rfl, rfl, fun _ free => free⟩

theorem Kept.trans {first second third : Session} (h : Kept first second) (h' : Kept second third) :
    Kept first third where
  config := h'.config.trans h.config
  closed := h'.closed.trans h.closed
  hasSink := h'.hasSink.trans h.hasSink
  rotation := h'.rotation.trans h.rotation
  free := fun seq free => h'.free seq (h.free seq free)

theorem Reception.kept (received : Reception session datagram outcome) : Kept session outcome.1 := by
  have same := received.session_eq
  refine ⟨by rw [same], by rw [same], by rw [same], received.rotation, ?_⟩
  intro seq free
  rw [Tracker.isPending, received.slot, Slot.hear_of_free (Tracker.pending_of_free free)]
  exact free

theorem Passed.append {between : Session} {first second forwarded later : List Bytes}
    (h : Passed session first forwarded) (kept : Kept session between)
    (h' : Passed between second later) : Passed session (first ++ second) (forwarded ++ later) := by
  intro seq free
  rw [List.filter_append, List.filter_append, h seq free, h' seq (kept.free seq free)]
  unfold sinkAll
  rw [kept.hasSink]
  split <;> rfl

theorem arrive_session_eq (isOpen : session.closed = false) (datagrams : List Bytes) :
    (session.arrive datagrams).1 =
      { session with tracker := (session.arrive datagrams).1.tracker } := by
  induction datagrams generalizing session with
  | nil => rfl
  | cons first rest ih =>
    have received := session.reception isOpen first
    rw [arrive_cons, ih (received.kept.closed.trans isOpen), received.session_eq]

theorem arrive_clock (isOpen : session.closed = false) (datagrams : List Bytes) :
    (session.arrive datagrams).1.clock = session.clock := by
  rw [arrive_session_eq isOpen]

theorem kept_arrive (isOpen : session.closed = false) (datagrams : List Bytes) :
    Kept session (session.arrive datagrams).1 := by
  induction datagrams generalizing session with
  | nil => exact .refl session
  | cons first rest ih =>
    have received := session.reception isOpen first
    exact received.kept.trans (ih (received.kept.closed.trans isOpen))

/-- The first response of a stream that carries a number decides what becomes of the number. -/
theorem slot_arrive (isOpen : session.closed = false) (datagrams : List Bytes) (seq : UInt8) :
    (session.arrive datagrams).1.tracker.slot seq =
      (session.tracker.slot seq).hear (answer? seq datagrams) := by
  induction datagrams generalizing session with
  | nil => rfl
  | cons first rest ih =>
    have received := session.reception isOpen first
    -- Once settled, a slot is deaf to all later answers.
    rw [arrive_cons, ih (received.kept.closed.trans isOpen), received.slot, Slot.hear_hear]
    congr 1
    rw [answer?, answer?, List.findSome?_cons]
    cases answerIn? seq first <;> rfl

theorem passed_arrive (isOpen : session.closed = false) (datagrams : List Bytes) :
    Passed session datagrams (session.arrive datagrams).2 := by
  induction datagrams generalizing session with
  | nil =>
    intro seq _
    simp [arrive, happenAll, sinkAll]
  | cons first rest ih =>
    have received := session.reception isOpen first
    exact received.passed.append received.kept (ih (received.kept.closed.trans isOpen))

end Session

end LightingControl
