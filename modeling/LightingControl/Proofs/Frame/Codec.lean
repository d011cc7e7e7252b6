import LightingControl.Frame
/-!
# Frames and datagrams correspond

`parse_eq_ok_iff` says that a datagram is read as a frame exactly if the frame is written as that
datagram.  Each frame that can be written has one datagram, and each datagram that can be read has one
frame.
-/

set_option autoImplicit false

namespace LightingControl.Frame

def content : Frame → Bytes
  | .request r => r.content
  | .response r => r.content
  | .notification n => n.content

/-- The length byte of the frame can count its data; a request has none. -/
def Countable : Frame → Prop
  | .request _ => True
  | .response r => r.data.length ≤ maxDataLength
  | .notification n => n.payload.length ≤ maxDataLength

theorem encode_eq_ok_iff (frame : Frame) (wire : Bytes) :
    frame.encode = .ok wire ↔ frame.Countable ∧ withChecksum frame.content = wire := by
  cases frame with
  | request r => simp [encode, Request.encode, content, Countable]
  | response r =>
    simp only [encode, Response.encode, content, Countable]
    split <;> simp [*]
  | notification n =>
    simp only [encode, Notification.encode, content, Countable]
    split <;> simp [*]

theorem parse_withChecksum (content : Bytes) (long : 3 ≤ content.length) :
    parse (withChecksum content) = parseContent content := by
  have enough : ¬ content.length + 1 < 4 := by omega
  simp [parse, withChecksum, shortFrameMinimum, enough]

theorem withChecksum_of_parse_ok {wire : Bytes} {frame : Frame} (parsed : parse wire = .ok frame) :
    wire = withChecksum wire.dropLast ∧ parseContent wire.dropLast = .ok frame := by
  unfold parse at parsed
  split at parsed
  · cases parsed
  · rename_i enough
    dsimp only at parsed
    split at parsed
    · rename_i sound
      have nonempty : wire ≠ [] := by
        rintro rfl
        exact enough (by decide)
      refine ⟨?_, parsed⟩
      rw [withChecksum, sound, List.getLastD_eq_getLast?, List.getLast?_eq_some_getLast nonempty,
        Option.getD_some, List.dropLast_concat_getLast nonempty]
    · cases parsed

theorem parseContent_request (seq command : UInt8) (body : Bytes) :
    parseContent (requestHeader :: seq :: command :: body) = .ok (.request ⟨seq, command, body⟩) :=
  rfl

theorem parseContent_response (kind : ResponseKind) (seq declared : UInt8) (data : Bytes) :
    parseContent (kind.byte :: seq :: declared :: data) =
      (parseResponse kind seq declared data).map .response := by
  cases kind <;> rfl

theorem parseContent_notification (second third : UInt8) (rest : Bytes) :
    parseContent (notificationHeader :: second :: third :: rest) =
      (parseNotification (notificationHeader :: second :: third :: rest)).map .notification :=
  rfl

theorem parseContent_other (header second third : UInt8) (rest : Bytes)
    (noRequest : header ≠ requestHeader) (noResponse : ∀ kind : ResponseKind, header ≠ kind.byte)
    (noNotification : header ≠ notificationHeader) :
    parseContent (header :: second :: third :: rest) = .error (.unknownHeader header) := by
  have unknown : ResponseKind.ofByte? header = none := by
    cases found : ResponseKind.ofByte? header with
    | none => rfl
    | some kind => exact absurd ((ResponseKind.ofByte?_eq_some_iff _ _).1 found) (noResponse kind)
  simp only [parseContent, if_neg noRequest, unknown, if_neg noNotification]

theorem ofNat_length_eq_iff (declared : UInt8) (data : Bytes) :
    data.length ≤ maxDataLength ∧ UInt8.ofNat data.length = declared ↔
      declared.toNat = data.length := by
  constructor
  · rintro ⟨short, rfl⟩
    have small : data.length < 256 := Nat.lt_succ_of_le short
    simpa using small
  · intro counted
    have bound := declared.toNat_lt
    refine ⟨?_, ?_⟩
    · unfold maxDataLength
      omega
    · rw [← counted, UInt8.ofNat_toNat]

theorem parseNotification_eq_ok_iff (content : Bytes) (notification : Notification) :
    parseNotification content = .ok notification ↔
      notification.payload.length ≤ maxDataLength ∧ notification.content = content := by
  constructor
  · intro parsed
    unfold parseNotification at parsed
    split at parsed
    · split at parsed
      · cases parsed
      · rename_i magic
        simp only [ne_eq, not_or, Decidable.not_not] at magic
        obtain ⟨rfl, rfl⟩ := magic
        split at parsed
        · rename_i counted
          cases parsed
          obtain ⟨short, length⟩ := (ofNat_length_eq_iff _ _).2 counted
          refine ⟨short, ?_⟩
          simp [Notification.content, MacAddress.bytes, wordBytes, length]
        · cases parsed
    · cases parsed
  · rintro ⟨short, rfl⟩
    have counted := (ofNat_length_eq_iff _ _).1 ⟨short, rfl⟩
    simp [Notification.content, MacAddress.bytes, wordBytes, parseNotification, counted]

theorem parseResponse_eq_ok_iff (kind : ResponseKind) (seq declared : UInt8) (data : Bytes)
    (response : Response) :
    parseResponse kind seq declared data = .ok response ↔
      declared.toNat = data.length ∧ ⟨kind, seq, data⟩ = response := by
  unfold parseResponse
  split <;> simp [*]

/-- What a header leads to is a frame that starts with it. -/
theorem content_of_parseContent_ok {content : Bytes} {frame : Frame}
    (parsed : parseContent content = .ok frame) : frame.Countable ∧ frame.content = content := by
  match content with
  | [] | [_] | [_, _] => cases parsed
  | header :: second :: third :: rest =>
    by_cases isRequest : header = requestHeader
    · subst isRequest
      cases parsed
      exact ⟨trivial, rfl⟩
    by_cases isResponse : ∃ kind : ResponseKind, header = kind.byte
    · obtain ⟨kind, rfl⟩ := isResponse
      rw [parseContent_response] at parsed
      obtain ⟨response, read, rfl⟩ := (map_eq_ok_iff _ _ _).1 parsed
      obtain ⟨counted, rfl⟩ := (parseResponse_eq_ok_iff _ _ _ _ _).1 read
      obtain ⟨short, length⟩ := (ofNat_length_eq_iff _ _).2 counted
      exact ⟨short, by rw [Frame.content, Response.content, length]⟩
    by_cases isNotification : header = notificationHeader
    · subst isNotification
      rw [parseContent_notification] at parsed
      obtain ⟨notification, read, rfl⟩ := (map_eq_ok_iff _ _ _).1 parsed
      exact (parseNotification_eq_ok_iff _ _).1 read
    · rw [parseContent_other header second third rest isRequest (not_exists.1 isResponse)
        isNotification] at parsed
      cases parsed

theorem parseContent_content {frame : Frame} (countable : frame.Countable) :
    parseContent frame.content = .ok frame := by
  cases frame with
  | request request => rfl
  | response response =>
    have counted := (ofNat_length_eq_iff _ response.data).1 ⟨countable, rfl⟩
    rw [content, Response.content, parseContent_response, parseResponse, if_pos counted]
    rfl
  | notification notification =>
    have read := (parseNotification_eq_ok_iff _ notification).2 ⟨countable, rfl⟩
    change (parseNotification notification.content).map _ = _
    rw [read]
    rfl

theorem three_le_length_content (frame : Frame) : 3 ≤ frame.content.length := by
  cases frame <;> simp [content, Request.content, Response.content, Notification.content, wordBytes]
  omega

theorem parse_eq_ok_iff (wire : Bytes) (frame : Frame) :
    parse wire = .ok frame ↔ frame.encode = .ok wire := by
  rw [encode_eq_ok_iff]
  constructor
  · intro parsed
    obtain ⟨sound, read⟩ := withChecksum_of_parse_ok parsed
    obtain ⟨countable, same⟩ := content_of_parseContent_ok read
    exact ⟨countable, by rw [same, ← sound]⟩
  · rintro ⟨countable, rfl⟩
    rw [parse_withChecksum _ (three_le_length_content frame), parseContent_content countable]

theorem length_le_of_parse_ok {wire : Bytes} {frame : Frame} (parsed : parse wire = .ok frame) :
    (∃ request, frame = .request request) ∨ wire.length ≤ 268 := by
  obtain ⟨countable, rfl⟩ := (encode_eq_ok_iff _ _).1 ((parse_eq_ok_iff _ _).1 parsed)
  cases frame with
  | request request => exact .inl ⟨request, rfl⟩
  | response response =>
    have short : response.data.length ≤ 255 := countable
    right
    simp only [withChecksum, content, Response.content, List.length_append, List.length_cons,
      List.length_nil]
    omega
  | notification notification =>
    have short : notification.payload.length ≤ 255 := countable
    right
    simp only [withChecksum, content, Notification.content, MacAddress.bytes, wordBytes,
      List.length_append, List.length_cons, List.length_nil]
    omega

/-- Frames within the bound of their length byte survive the wire unchanged, and a datagram that is
read as a frame is the one datagram of that frame. -/
theorem codec_bijection :
    (∀ request : Request, parse request.encode = .ok (.request request)) ∧
    (∀ response : Response, response.data.length ≤ maxDataLength →
      ∃ wire, response.encode = .ok wire ∧ parse wire = .ok (.response response)) ∧
    (∀ notification : Notification, notification.payload.length ≤ maxDataLength →
      ∃ wire, notification.encode = .ok wire ∧ parse wire = .ok (.notification notification)) ∧
    (∀ (wire : Bytes) (frame : Frame), parse wire = .ok frame → frame.encode = .ok wire) := by
  refine ⟨?_, ?_, ?_, ?_⟩
  · intro request
    exact (parse_eq_ok_iff _ (.request request)).2 rfl
  · intro response short
    have written := (encode_eq_ok_iff (.response response) _).2 ⟨short, rfl⟩
    exact ⟨_, written, (parse_eq_ok_iff _ _).2 written⟩
  · intro notification short
    have written := (encode_eq_ok_iff (.notification notification) _).2 ⟨short, rfl⟩
    exact ⟨_, written, (parse_eq_ok_iff _ _).2 written⟩
  · intro wire frame parsed
    exact (parse_eq_ok_iff wire frame).1 parsed

/-- The longest data that a length byte can count. -/
theorem codec_bijection_longest :
    let response : Response := ⟨.answer, 1, List.replicate 255 0x41⟩
    response.data.length ≤ maxDataLength ∧
      ∃ wire, response.encode = .ok wire ∧ parse wire = .ok (.response response) ∧
        (Frame.response response).encode = .ok wire := by
  intro response
  have short : response.data.length ≤ maxDataLength := by
    rw [List.length_replicate]
    decide
  obtain ⟨-, responses, -, back⟩ := codec_bijection
  obtain ⟨wire, written, read⟩ := responses response short
  exact ⟨short, wire, written, read, back wire (.response response) read⟩

end LightingControl.Frame
