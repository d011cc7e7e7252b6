import LightingControl.Proofs.Listener.Events
import LightingControl.Proofs.Session.Arrivals
/-!
# Datagrams that are cut off

The first bytes of a response and of an event tell how long the whole datagram is, so of all datagrams
that begin alike at most one is read as such.  A datagram that is too long for the receive buffer is
neither before it is cut nor after.
-/

set_option autoImplicit false

namespace LightingControl

namespace Frame

/-- Where the frames with a header have their length byte, and how many bytes it does not count. -/
def lengthField? (header : UInt8) : Option (Nat × Nat) :=
  if (ResponseKind.ofByte? header).isSome then some (2, shortFrameMinimum)
  else if header = notificationHeader then some (11, notificationMinimum)
  else none

/-- The length of the whole datagram, as the first bytes of a response or an event tell it. -/
def announcedLength? (wire : Bytes) : Option Nat :=
  wire[0]?.bind fun header =>
    (lengthField? header).bind fun field =>
      wire[field.1]?.map fun declared => declared.toNat + field.2

theorem announcedLength?_append {front : Bytes} {length : Nat}
    (announced : announcedLength? front = some length) (more : Bytes) :
    announcedLength? (front ++ more) = some length := by
  have kept {position : Nat} {byte : UInt8} (here : front[position]? = some byte) :
      (front ++ more)[position]? = some byte := by
    rw [List.getElem?_append_left (List.getElem?_eq_some_iff.1 here).1, here]
  obtain ⟨header, first, announced⟩ := Option.bind_eq_some_iff.1 announced
  obtain ⟨field, known, announced⟩ := Option.bind_eq_some_iff.1 announced
  obtain ⟨declared, there, total⟩ := Option.map_eq_some_iff.1 announced
  simp only [announcedLength?, kept first, kept there, known, Option.bind_some, Option.map_some, total]

theorem first_eq_requestHeader_iff {wire : Bytes} {frame : Frame} (parsed : parse wire = .ok frame) :
    wire[0]? = some requestHeader ↔ ∃ request, frame = .request request := by
  obtain ⟨-, rfl⟩ := (encode_eq_ok_iff _ _).1 ((parse_eq_ok_iff _ _).1 parsed)
  cases frame with
  | request request => exact ⟨fun _ => ⟨request, rfl⟩, fun _ => rfl⟩
  | response response =>
    have other : response.kind.byte ≠ requestHeader := by cases response.kind <;> decide
    simp [withChecksum, content, Response.content, other]
  | notification notification =>
    have other : notificationHeader ≠ requestHeader := by decide
    simp [withChecksum, content, Notification.content, other]

theorem announcedLength?_of_parse_ok {wire : Bytes} {frame : Frame}
    (parsed : parse wire = .ok frame) (noRequest : wire[0]? ≠ some requestHeader) :
    announcedLength? wire = some wire.length := by
  obtain ⟨countable, rfl⟩ := (encode_eq_ok_iff _ _).1 ((parse_eq_ok_iff _ _).1 parsed)
  cases frame with
  | request request => exact absurd rfl noRequest
  | response response =>
    have counted := (ofNat_length_eq_iff _ response.data).1 ⟨countable, rfl⟩
    have known : lengthField? response.kind.byte = some (2, 4) := by cases response.kind <;> rfl
    simp [withChecksum, content, Response.content, announcedLength?, known, counted]
  | notification notification =>
    have counted := (ofNat_length_eq_iff _ notification.payload).1 ⟨countable, rfl⟩
    have known : lengthField? notificationHeader = some (11, 13) := rfl
    simp [withChecksum, content, Notification.content, MacAddress.bytes, wordBytes,
      announcedLength?, known, counted]

section
variable {wire other : Bytes} {frame otherFrame : Frame} (parsed : parse wire = .ok frame)
include parsed

theorem first_of_isPrefix (start : wire <+: other) : other[0]? = wire[0]? := by
  obtain ⟨more, rfl⟩ := start
  apply List.getElem?_append_left
  rw [List.length_pos_iff]
  rintro rfl
  cases parsed

/-- Of two datagrams that are read as frames neither is the beginning of the other, unless they are
requests. -/
theorem eq_of_isPrefix (otherParsed : parse other = .ok otherFrame) (start : wire <+: other)
    (noRequest : wire[0]? ≠ some requestHeader) : wire = other := by
  have otherFirst : other[0]? ≠ some requestHeader := first_of_isPrefix parsed start ▸ noRequest
  have announced := announcedLength?_of_parse_ok parsed noRequest
  have otherAnnounced := announcedLength?_of_parse_ok otherParsed otherFirst
  obtain ⟨more, rfl⟩ := start
  rw [announcedLength?_append announced more, Option.some.injEq] at otherAnnounced
  exact (List.prefix_append wire more).eq_of_length otherAnnounced

end

end Frame

/-! ## The receive buffer -/

theorem Session.receive_of_full {wire : Bytes} (full : receiveBuffer ≤ wire.length)
    (session : Session) : session.receive wire = (session, []) := by
  have ignored : session.fate wire = .ignored := by
    rw [fate_eq]
    obtain ⟨_, parsed⟩ | ⟨_, parsed⟩ := parse_of_full full <;> rw [parsed]
  unfold receive
  rw [ignored, ite_self]

theorem Listener.ingest_of_full {wire : Bytes} (full : receiveBuffer ≤ wire.length)
    (listener : Listener) (now : Moment) (source : Endpoint) :
    ∃ outcome, (outcome = .dropped ∨ outcome = .ignored) ∧
      listener.ingest now wire source =
        (outcome, { listener with stats := listener.stats.count outcome }) := by
  obtain ⟨_, parsed⟩ | ⟨_, parsed⟩ := Session.parse_of_full full
  · exact ⟨.ignored, .inr rfl, by simp only [ingest, consider, parsed]⟩
  · exact ⟨.dropped, .inl rfl, by simp only [ingest, consider, parsed]⟩

namespace Frame

/-- No beginning and no continuation of a response or an event is a frame of any kind.  A datagram that
is longer than the receive buffer is neither a response nor an event, whole or cut: a session does
nothing with it, and a listener counts it and does nothing else. -/
theorem truncation_detected (wire : Bytes) :
    (∀ frame, parse wire = .ok frame → (∀ request, frame ≠ .request request) →
      ∀ other, other <+: wire ∨ wire <+: other → other ≠ wire →
        ∃ error, parse other = .error error) ∧
    (receiveBuffer < wire.length →
      (∀ datagram ∈ [wire, wire.take receiveBuffer],
        (∀ response, parse datagram ≠ .ok (.response response)) ∧
        ∀ notification, parse datagram ≠ .ok (.notification notification)) ∧
      (∀ session : Session, session.receive wire = (session, [])) ∧
      ∀ (listener : Listener) (now : Moment) (source : Endpoint), ∃ outcome,
        (outcome = .dropped ∨ outcome = .ignored) ∧
        listener.receive now wire source =
          (outcome, { listener with stats := listener.stats.count outcome })) := by
  constructor
  · intro frame parsed kind other side different
    have noRequest : wire[0]? ≠ some requestHeader := by
      intro first
      obtain ⟨asked, same⟩ := (first_eq_requestHeader_iff parsed).1 first
      exact kind asked same
    cases otherParsed : parse other with
    | error error => exact ⟨error, rfl⟩
    | ok otherFrame =>
      obtain beginning | continuation := side
      · have otherFirst := first_of_isPrefix otherParsed beginning ▸ noRequest
        exact absurd (eq_of_isPrefix otherParsed parsed beginning otherFirst) different
      · exact absurd (eq_of_isPrefix parsed otherParsed continuation noRequest).symm different
  · intro long
    have whole : receiveBuffer ≤ wire.length := Nat.le_of_lt long
    have cut : receiveBuffer ≤ (wire.take receiveBuffer).length := by
      rw [List.length_take]
      omega
    have neither {datagram : Bytes} (full : receiveBuffer ≤ datagram.length) :
        (∀ response, parse datagram ≠ .ok (.response response)) ∧
          ∀ notification, parse datagram ≠ .ok (.notification notification) := by
      obtain ⟨_, parsed⟩ | ⟨_, parsed⟩ := Session.parse_of_full full <;> simp [parsed]
    refine ⟨?_, Session.receive_of_full whole, Listener.ingest_of_full cut⟩
    intro datagram among
    simp only [List.mem_cons, List.not_mem_nil, or_false] at among
    obtain rfl | rfl := among
    · exact neither whole
    · exact neither cut

/-- The beginning of an answer whose checksum is right by chance is refused for its length, and the
answer with more bytes after it than the receive buffer holds reaches neither a session nor a listener. -/
theorem truncation_detected_sound_checksum :
    let wire : Bytes := [0xA0, 7, 3, 0xA4, 0, 0, 0]
    let front : Bytes := [0xA0, 7, 3, 0xA4]
    let padded : Bytes := wire ++ List.replicate 506 0
    parse wire = .ok (.response ⟨.ok, 7, [0xA4, 0, 0]⟩) ∧ front.checksum = 0 ∧
      (∃ error, parse front = .error error) ∧
      padded.length = 513 ∧ padded.take 7 = wire ∧
      (∀ response, parse (padded.take receiveBuffer) ≠ .ok (.response response)) ∧
      (∀ session : Session, session.receive padded = (session, [])) ∧
      ∃ outcome, (outcome = .dropped ∨ outcome = .ignored) ∧
        ((Listener.ofConfig .default).receive 0 padded (.v4 ⟨10, 0, 0, 9⟩ 50000)).1 = outcome := by
  intro wire front padded
  have parsed : parse wire = .ok (.response ⟨.ok, 7, [0xA4, 0, 0]⟩) := rfl
  have size : padded.length = 513 := by
    rw [List.length_append, List.length_replicate]
    rfl
  have long : receiveBuffer < padded.length := by
    rw [size]
    decide
  obtain ⟨refused, -⟩ := truncation_detected wire
  obtain ⟨-, tooLong⟩ := truncation_detected padded
  obtain ⟨unread, unheard, heard⟩ := tooLong long
  obtain ⟨outcome, kind, received⟩ := heard (.ofConfig .default) 0 (.v4 ⟨10, 0, 0, 9⟩ 50000)
  have cut : padded.take receiveBuffer ∈ [padded, padded.take receiveBuffer] :=
    List.mem_cons_of_mem _ (List.mem_singleton.2 rfl)
  refine ⟨parsed, rfl, refused _ parsed nofun front (.inl ?_) (by decide), size, rfl,
    (unread _ cut).1, unheard, outcome, kind, ?_⟩
  · exact List.prefix_append front [0, 0, 0]
  · rw [received]

end Frame

end LightingControl
