import LightingControl.Field
import LightingControl.Proofs.Frame.Codec
/-!
# Which datagrams are frames

`parseByPosition` reads a datagram through the positions of its bytes, where a position outside the
datagram has no byte.  It agrees with `parse`, so every position lies inside.  `parse_grammar` says for
each datagram what `parse` makes of it, and in which order its checks count.
-/

set_option autoImplicit false

namespace LightingControl.Frame

/-! ## Reading by position -/

/-- A step that reads by position: nothing at all if a position lies outside the datagram, or else a
value or a refusal. -/
abbrev Positional := ExceptT WireError Option

def byteAt (wire : Bytes) (position : Nat) : Positional UInt8 :=
  ExceptT.lift wire[position]?

def bytesAt (wire : Bytes) (start stop : Nat) : Positional Bytes :=
  ExceptT.lift (if start ≤ stop ∧ stop ≤ wire.length then some ((wire.take stop).drop start) else none)

def less (length count : Nat) : Positional Nat :=
  ExceptT.lift (if count ≤ length then some (length - count) else none)

def checked {α : Type} (result : Except WireError α) : Positional α :=
  ExceptT.mk (some result)

def responseByPosition (wire : Bytes) : Positional Response := do
  let kind ← checked (ResponseKind.ofByte (← byteAt wire 0))
  let declared ← byteAt wire 2
  let actual ← less wire.length shortFrameMinimum
  if declared.toNat ≠ actual then throw (.lengthMismatch declared.toNat actual)
  return ⟨kind, ← byteAt wire 1, ← bytesAt wire 3 (← less wire.length 1)⟩

def macByPosition (wire : Bytes) (start : Nat) : Positional MacAddress := do
  return ⟨← byteAt wire start, ← byteAt wire (start + 1), ← byteAt wire (start + 2),
    ← byteAt wire (start + 3), ← byteAt wire (start + 4), ← byteAt wire (start + 5)⟩

def notificationByPosition (wire : Bytes) : Positional Notification := do
  if wire.length < notificationMinimum then
    throw (.frameTooShort wire.length notificationMinimum)
  let start ← bytesAt wire 0 2
  if start ≠ [notificationHeader, notificationMagic] then
    throw (.missingMagic (← byteAt wire 0) (← byteAt wire 1))
  let mac ← macByPosition wire 2
  let target ← checked (Field.uint16 wire 8)
  let code ← byteAt wire 10
  let declared ← byteAt wire 11
  let actual ← less wire.length notificationMinimum
  if declared.toNat ≠ actual then throw (.lengthMismatch declared.toNat actual)
  return ⟨mac, target, code, ← bytesAt wire 12 (← less wire.length 1)⟩

/-- Reads a datagram by position, with each check in the place where it is made. -/
def parseByPosition (wire : Bytes) : Positional Frame := do
  if wire.length < shortFrameMinimum then
    throw (.frameTooShort wire.length shortFrameMinimum)
  let last ← less wire.length 1
  let computed := (← bytesAt wire 0 last).checksum
  let carried ← byteAt wire last
  if computed ≠ carried then throw (.checksumMismatch carried computed)
  let header ← byteAt wire 0
  if header = requestHeader then
    return .request ⟨← byteAt wire 1, ← byteAt wire 2, ← bytesAt wire 3 last⟩
  else if 0xA0 ≤ header ∧ header ≤ 0xA3 then return .response (← responseByPosition wire)
  else if header = notificationHeader then
    return .notification (← notificationByPosition wire)
  else throw (.unknownHeader header)

theorem parse_of_short (wire : Bytes) (short : wire.length < 4) :
    parse wire = .error (.frameTooShort wire.length 4) :=
  if_pos short

theorem checksum_eq (wire : Bytes) (long : 4 ≤ wire.length) :
    wire.checksum = Bytes.checksum wire.dropLast ^^^ wire[wire.length - 1] := by
  have nonempty : wire ≠ [] := by
    rintro rfl
    simp at long
  have split := Bytes.checksum_append wire.dropLast [wire.getLast nonempty]
  rwa [List.dropLast_concat_getLast, Bytes.checksum_singleton, List.getLast_eq_getElem] at split

theorem checksum_eq_zero_iff (wire : Bytes) (long : 4 ≤ wire.length) :
    wire.checksum = 0 ↔ Bytes.checksum wire.dropLast = wire[wire.length - 1] := by
  rw [checksum_eq wire long, UInt8.xor_eq_zero_iff]

theorem parse_of_long (wire : Bytes) (long : 4 ≤ wire.length) :
    parse wire =
      if wire.checksum = 0 then parseContent wire.dropLast
      else .error (.checksumMismatch wire[wire.length - 1] (Bytes.checksum wire.dropLast)) := by
  have enough : ¬ wire.length < shortFrameMinimum := Nat.not_lt.2 long
  have last : wire.getLastD 0 = wire[wire.length - 1] := by
    rw [List.getLastD_eq_getLast?, List.getLast?_eq_getElem?, List.getElem?_eq_getElem (by omega),
      Option.getD_some]
  simp only [parse, if_neg enough, last, checksum_eq_zero_iff wire long]

theorem content_eq_three (content : Bytes) (long : 3 ≤ content.length) :
    content = content[0] :: content[1] :: content[2] :: content.drop 3 := by
  iterate 3 rw [← List.drop_eq_getElem_cons]
  rfl

theorem content_eq_twelve (content : Bytes) (long : 12 ≤ content.length) :
    content = content[0] :: content[1] :: content[2] :: content[3] :: content[4] :: content[5] ::
      content[6] :: content[7] :: content[8] :: content[9] :: content[10] :: content[11] ::
      content.drop 12 := by
  iterate 12 rw [← List.drop_eq_getElem_cons]
  rfl

theorem dropLast_eq_three (wire : Bytes) (long : 4 ≤ wire.length) :
    wire.dropLast = wire[0] :: wire[1] :: wire[2] :: wire.dropLast.drop 3 := by
  have inner : 3 ≤ wire.dropLast.length := by
    rw [List.length_dropLast]
    omega
  simpa only [List.getElem_dropLast] using content_eq_three wire.dropLast inner

theorem dropLast_eq_twelve (wire : Bytes) (long : 13 ≤ wire.length) :
    wire.dropLast = wire[0] :: wire[1] :: wire[2] :: wire[3] :: wire[4] :: wire[5] :: wire[6] ::
      wire[7] :: wire[8] :: wire[9] :: wire[10] :: wire[11] :: wire.dropLast.drop 12 := by
  have inner : 12 ≤ wire.dropLast.length := by
    rw [List.length_dropLast]
    omega
  simpa only [List.getElem_dropLast] using content_eq_twelve wire.dropLast inner

theorem exists_kind_iff (byte : UInt8) :
    (∃ kind : ResponseKind, byte = kind.byte) ↔ 0xA0 ≤ byte ∧ byte ≤ 0xA3 := by
  constructor
  · rintro ⟨kind, rfl⟩
    cases kind <;> decide
  · rintro ⟨low, high⟩
    have listed : byte = 0xA0 ∨ byte = 0xA1 ∨ byte = 0xA2 ∨ byte = 0xA3 := by
      simp only [UInt8.le_iff_toNat_le, ← UInt8.toNat_inj] at low high ⊢
      simp at low high ⊢
      omega
    rcases listed with rfl | rfl | rfl | rfl
    · exact ⟨.ok, rfl⟩
    · exact ⟨.answer, rfl⟩
    · exact ⟨.noAnswer, rfl⟩
    · exact ⟨.error, rfl⟩

theorem parseNotification_of_short (content : Bytes) (short : content.length < 12) :
    parseNotification content = .error (.frameTooShort (content.length + 1) 13) := by
  unfold parseNotification
  split
  · simp only [List.length_cons] at short
    omega
  · rfl

theorem parseNotification_dropLast (wire : Bytes) (enough : 13 ≤ wire.length) :
    parseNotification wire.dropLast =
      if wire[0] ≠ notificationHeader ∨ wire[1] ≠ notificationMagic then
        .error (.missingMagic wire[0] wire[1])
      else if wire[11].toNat = wire.length - 13 then
        .ok ⟨⟨wire[2], wire[3], wire[4], wire[5], wire[6], wire[7]⟩, wordOf wire[8] wire[9],
          wire[10], wire.dropLast.drop 12⟩
      else .error (.lengthMismatch wire[11].toNat (wire.length - 13)) := by
  have length : (wire.dropLast.drop 12).length = wire.length - 13 := by
    rw [List.length_drop, List.length_dropLast]
    omega
  rw [dropLast_eq_twelve wire enough, parseNotification, length]
  rfl

section
variable (wire : Bytes) (long : 4 ≤ wire.length) (sound : wire.checksum = 0)
include long sound

theorem parse_of_sound : parse wire = parseContent wire.dropLast := by
  rw [parse_of_long wire long, if_pos sound]

theorem parse_request (header : wire[0] = requestHeader) :
    parse wire = .ok (.request ⟨wire[1], wire[2], wire.dropLast.drop 3⟩) := by
  rw [parse_of_sound wire long sound, dropLast_eq_three wire long, header, parseContent_request]
  rfl

theorem parse_response (kind : ResponseKind) (header : wire[0] = kind.byte) :
    parse wire =
      if wire[2].toNat = wire.length - 4 then
        .ok (.response ⟨kind, wire[1], wire.dropLast.drop 3⟩)
      else .error (.lengthMismatch wire[2].toNat (wire.length - 4)) := by
  have length : (wire.dropLast.drop 3).length = wire.length - 4 := by
    rw [List.length_drop, List.length_dropLast]
    omega
  rw [parse_of_sound wire long sound, dropLast_eq_three wire long, header, parseContent_response,
    parseResponse]
  change (if _ = (wire.dropLast.drop 3).length then _ else _ : Except WireError Response).map _ = _
  rw [length]
  split <;> rfl

theorem parse_other (noRequest : wire[0] ≠ requestHeader)
    (noResponse : ¬ ((0xA0 : UInt8) ≤ wire[0] ∧ wire[0] ≤ 0xA3))
    (noNotification : wire[0] ≠ notificationHeader) :
    parse wire = .error (.unknownHeader wire[0]) := by
  rw [← exists_kind_iff, not_exists] at noResponse
  rw [parse_of_sound wire long sound, dropLast_eq_three wire long,
    parseContent_other _ _ _ _ noRequest noResponse noNotification]

theorem parse_notification_of_short (header : wire[0] = notificationHeader)
    (short : wire.length < 13) : parse wire = .error (.frameTooShort wire.length 13) := by
  have inner : wire.dropLast.length < 12 := by
    rw [List.length_dropLast]
    omega
  have few := parseNotification_of_short wire.dropLast inner
  rw [List.length_dropLast, Nat.sub_add_cancel (by omega), dropLast_eq_three wire long, header]
    at few
  rw [parse_of_sound wire long sound, dropLast_eq_three wire long, header,
    parseContent_notification, few]
  rfl

theorem parse_notification (header : wire[0] = notificationHeader) (enough : 13 ≤ wire.length) :
    parse wire =
      if wire[1] ≠ notificationMagic then .error (.missingMagic wire[0] wire[1])
      else if wire[11].toNat = wire.length - 13 then
        .ok (.notification ⟨⟨wire[2], wire[3], wire[4], wire[5], wire[6], wire[7]⟩,
          wordOf wire[8] wire[9], wire[10], wire.dropLast.drop 12⟩)
      else .error (.lengthMismatch wire[11].toNat (wire.length - 13)) := by
  have read := parseNotification_dropLast wire enough
  rw [dropLast_eq_three wire long, header] at read
  rw [parse_of_sound wire long sound, dropLast_eq_three wire long, header, parseContent_notification,
    read]
  by_cases magic : wire[1] = notificationMagic
  · simp only [magic, ne_eq, not_true_eq_false, or_self, if_false]
    split <;> rfl
  · simp only [magic, ne_eq, not_true_eq_false, not_false_eq_true, or_true, if_true]
    rfl

end

/-- The cases in which `parse` decides on a datagram, in the order of its checks. -/
inductive Shape (wire : Bytes) : Prop where
  | short (short : wire.length < 4)
  | damaged (long : 4 ≤ wire.length) (damage : wire.checksum ≠ 0)
  | request (long : 4 ≤ wire.length) (sound : wire.checksum = 0) (header : wire[0] = requestHeader)
  | response (long : 4 ≤ wire.length) (sound : wire.checksum = 0) (kind : ResponseKind)
      (header : wire[0] = kind.byte)
  | notification (long : 4 ≤ wire.length) (sound : wire.checksum = 0)
      (header : wire[0] = notificationHeader)
  | other (long : 4 ≤ wire.length) (sound : wire.checksum = 0) (noRequest : wire[0] ≠ requestHeader)
      (noResponse : ¬ ((0xA0 : UInt8) ≤ wire[0] ∧ wire[0] ≤ 0xA3))
      (noNotification : wire[0] ≠ notificationHeader)

theorem shape (wire : Bytes) : Shape wire := by
  by_cases long : 4 ≤ wire.length
  · by_cases sound : wire.checksum = 0
    · by_cases isRequest : wire[0] = requestHeader
      · exact .request long sound isRequest
      by_cases isResponse : (0xA0 : UInt8) ≤ wire[0] ∧ wire[0] ≤ 0xA3
      · obtain ⟨kind, header⟩ := (exists_kind_iff _).2 isResponse
        exact .response long sound kind header
      by_cases isNotification : wire[0] = notificationHeader
      · exact .notification long sound isNotification
      · exact .other long sound isRequest isResponse isNotification
    · exact .damaged long sound
  · exact .short (by omega)

theorem error_of_parse {wire : Bytes} {error : WireError} (refused : parse wire = .error error) :
    (∃ length minimum, error = .frameTooShort length minimum) ∨
    (∃ carried computed, error = .checksumMismatch carried computed) ∨
    (∃ declared actual, error = .lengthMismatch declared actual) ∨
    (∃ first second, error = .missingMagic first second) ∨
    (∃ found, error = .unknownHeader found) := by
  cases shape wire with
  | short short =>
    rw [parse_of_short wire short] at refused
    cases refused
    exact .inl ⟨_, _, rfl⟩
  | damaged long damage =>
    rw [parse_of_long wire long, if_neg damage] at refused
    cases refused
    exact .inr (.inl ⟨_, _, rfl⟩)
  | request long sound header =>
    rw [parse_request wire long sound header] at refused
    cases refused
  | response long sound kind header =>
    rw [parse_response wire long sound kind header] at refused
    split at refused
    · cases refused
    · cases refused
      exact .inr (.inr (.inl ⟨_, _, rfl⟩))
  | notification long sound header =>
    by_cases enough : 13 ≤ wire.length
    · rw [parse_notification wire long sound header enough] at refused
      split at refused
      · cases refused
        exact .inr (.inr (.inr (.inl ⟨_, _, rfl⟩)))
      · split at refused
        · cases refused
        · cases refused
          exact .inr (.inr (.inl ⟨_, _, rfl⟩))
    · rw [parse_notification_of_short wire long sound header (by omega)] at refused
      cases refused
      exact .inl ⟨_, _, rfl⟩
  | other long sound noRequest noResponse noNotification =>
    rw [parse_other wire long sound noRequest noResponse noNotification] at refused
    cases refused
    exact .inr (.inr (.inr (.inr ⟨_, rfl⟩)))

theorem byteAt_eq (wire : Bytes) (position : Nat) (inside : position < wire.length) :
    byteAt wire position = pure wire[position] := by
  rw [byteAt, List.getElem?_eq_getElem inside]
  rfl

theorem bytesAt_eq (wire : Bytes) (start stop : Nat) (order : start ≤ stop)
    (inside : stop ≤ wire.length) : bytesAt wire start stop = pure ((wire.take stop).drop start) := by
  rw [bytesAt, if_pos ⟨order, inside⟩]
  rfl

theorem less_eq (length count : Nat) (order : count ≤ length) :
    less length count = pure (length - count) := by
  rw [less, if_pos order]
  rfl

theorem checked_bind_pure {α β : Type} (result : Except WireError α) (f : α → β) :
    (do return f (← checked result)) = checked (result.map f) := by
  cases result <;> rfl

theorem checked_ok {α : Type} (value : α) : checked (.ok value) = pure value := rfl

theorem responseByPosition_eq (wire : Bytes) (long : 4 ≤ wire.length) (kind : ResponseKind)
    (header : wire[0] = kind.byte) :
    responseByPosition wire =
      checked (parseResponse kind wire[1] wire[2] (wire.dropLast.drop 3)) := by
  have known : ResponseKind.ofByte wire[0] = .ok kind := by
    rw [ResponseKind.ofByte, (ResponseKind.ofByte?_eq_some_iff _ _).2 header]
  have length : (wire.dropLast.drop 3).length = wire.length - 4 := by
    rw [List.length_drop, List.length_dropLast]
    omega
  simp (disch := omega) only [responseByPosition, shortFrameMinimum, byteAt_eq, bytesAt_eq, less_eq,
    known, checked_ok, pure_bind, ← List.dropLast_eq_take]
  rw [parseResponse, length]
  split <;> simp_all <;> rfl

theorem macByPosition_eq (wire : Bytes) (start : Nat) (inside : start + 6 ≤ wire.length) :
    macByPosition wire start = pure ⟨wire[start], wire[start + 1], wire[start + 2],
      wire[start + 3], wire[start + 4], wire[start + 5]⟩ := by
  simp (disch := omega) only [macByPosition, byteAt_eq, pure_bind]

theorem take_two_eq (wire : Bytes) (long : 2 ≤ wire.length) :
    (wire.take 2).drop 0 = [wire[0], wire[1]] := by
  have whole : wire = wire[0] :: wire[1] :: wire.drop 2 := by
    iterate 2 rw [← List.drop_eq_getElem_cons]
    rfl
  exact congrArg (fun bytes => (bytes.take 2).drop 0) whole

theorem notificationByPosition_eq (wire : Bytes) (long : 4 ≤ wire.length) :
    notificationByPosition wire = checked (parseNotification wire.dropLast) := by
  by_cases enough : 13 ≤ wire.length
  · have few : ¬ wire.length < 13 := by omega
    have target := Field.uint16_eq_ok wire 8 (by omega)
    simp (disch := omega) only [notificationByPosition, notificationMinimum, if_neg few, bytesAt_eq,
      byteAt_eq, macByPosition_eq, less_eq, target, checked_ok, pure_bind, take_two_eq,
      ← List.dropLast_eq_take]
    rw [parseNotification_dropLast wire enough]
    by_cases magic : wire[0] = notificationHeader ∧ wire[1] = notificationMagic
    · simp only [magic, ne_eq, not_true_eq_false, or_self, if_false]
      by_cases counted : wire[11].toNat = wire.length - 13
      · simp only [counted, not_true_eq_false, if_true, if_false]
        rfl
      · simp only [counted, not_false_eq_true, if_true, if_false]
        rfl
    · have broken : wire[0] ≠ notificationHeader ∨ wire[1] ≠ notificationMagic :=
        Decidable.not_and_iff_not_or_not.1 magic
      rw [if_pos (by simpa using magic), if_pos broken]
      rfl
  · have inner : wire.dropLast.length < 12 := by
      rw [List.length_dropLast]
      omega
    have few : wire.length < 13 := by omega
    rw [parseNotification_of_short _ inner, List.length_dropLast, Nat.sub_add_cancel (by omega),
      notificationByPosition, notificationMinimum, if_pos few]
    rfl

theorem parseByPosition_eq (wire : Bytes) : parseByPosition wire = checked (parse wire) := by
  by_cases short : wire.length < 4
  · rw [parse_of_short wire short, parseByPosition, shortFrameMinimum, if_pos short]
    rfl
  have long : 4 ≤ wire.length := by omega
  simp (disch := omega) only [parseByPosition, shortFrameMinimum, if_neg short, byteAt_eq, bytesAt_eq,
    less_eq, pure_bind, List.drop_zero, ← List.dropLast_eq_take, ne_eq, ← checksum_eq_zero_iff]
  cases shape wire with
  | short short => omega
  | damaged long damage =>
    rw [parse_of_long wire long, if_pos damage, if_neg damage]
    rfl
  | request long sound header =>
    rw [parse_request wire long sound header, if_neg (not_not_intro sound), if_pos header]
    rfl
  | response long sound kind header =>
    have noRequest : wire[0] ≠ requestHeader := by
      rw [header]
      cases kind <;> decide
    rw [if_neg (not_not_intro sound), if_neg noRequest, if_pos ((exists_kind_iff _).1 ⟨kind, header⟩),
      responseByPosition_eq wire long kind header, checked_bind_pure, ← parseContent_response,
      ← header, ← dropLast_eq_three wire long, parse_of_sound wire long sound]
  | notification long sound header =>
    have noRequest : wire[0] ≠ requestHeader := by
      rw [header]
      decide
    have noResponse : ¬ ((0xA0 : UInt8) ≤ wire[0] ∧ wire[0] ≤ 0xA3) := by
      rw [header]
      decide
    rw [if_neg (not_not_intro sound), if_neg noRequest, if_neg noResponse, if_pos header,
      notificationByPosition_eq wire long, checked_bind_pure, parse_of_sound wire long sound,
      dropLast_eq_three wire long, header, parseContent_notification]
  | other long sound noRequest noResponse noNotification =>
    rw [parse_other wire long sound noRequest noResponse noNotification,
      if_neg (not_not_intro sound), if_neg noRequest, if_neg noResponse, if_neg noNotification]
    rfl

/-! ## The grammar -/

/-- Every datagram falls under exactly one of these cases.  No position read on the way lies outside it,
and each refusal is either a damaged or a malformed frame. -/
theorem parse_grammar (wire : Bytes) :
    (parseByPosition wire).run = some (parse wire) ∧
    (wire.length < 4 → parse wire = .error (.frameTooShort wire.length 4)) ∧
    (∀ long : 4 ≤ wire.length,
      (wire.checksum ≠ 0 → parse wire =
        .error (.checksumMismatch wire[wire.length - 1] (Bytes.checksum wire.dropLast))) ∧
      (wire.checksum = 0 →
        (wire[0] = 0x04 →
          parse wire = .ok (.request ⟨wire[1], wire[2], wire.dropLast.drop 3⟩)) ∧
        ((0xA0 : UInt8) ≤ wire[0] ∧ wire[0] ≤ 0xA3 →
          ∃ kind : ResponseKind, wire[0] = kind.byte ∧ parse wire =
            if wire[2].toNat = wire.length - 4 then
              .ok (.response ⟨kind, wire[1], wire.dropLast.drop 3⟩)
            else .error (.lengthMismatch wire[2].toNat (wire.length - 4))) ∧
        (wire[0] = 0x5A → wire.length < 13 →
          parse wire = .error (.frameTooShort wire.length 13)) ∧
        (wire[0] = 0x5A → ∀ enough : 13 ≤ wire.length, parse wire =
          if wire[1] ≠ 0x43 then .error (.missingMagic wire[0] wire[1])
          else if wire[11].toNat = wire.length - 13 then
            .ok (.notification ⟨⟨wire[2], wire[3], wire[4], wire[5], wire[6], wire[7]⟩,
              wordOf wire[8] wire[9], wire[10], wire.dropLast.drop 12⟩)
          else .error (.lengthMismatch wire[11].toNat (wire.length - 13))) ∧
        (wire[0] ≠ 0x04 → ¬ ((0xA0 : UInt8) ≤ wire[0] ∧ wire[0] ≤ 0xA3) → wire[0] ≠ 0x5A →
          parse wire = .error (.unknownHeader wire[0])))) ∧
    (∀ error, parse wire = .error error →
      ((∃ length minimum, error = .frameTooShort length minimum) ∨
        (∃ carried computed, error = .checksumMismatch carried computed) ∨
        (∃ declared actual, error = .lengthMismatch declared actual) ∨
        (∃ first second, error = .missingMagic first second) ∨
        (∃ found, error = .unknownHeader found)) ∧
      error.isChecksum ≠ error.isMalformed) := by
  refine ⟨parseByPosition_eq wire, parse_of_short wire, ?_, ?_⟩
  · intro long
    refine ⟨fun damage => by rw [parse_of_long wire long, if_neg damage], fun sound => ?_⟩
    refine ⟨parse_request wire long sound, ?_, parse_notification_of_short wire long sound,
      parse_notification wire long sound, parse_other wire long sound⟩
    intro inRange
    obtain ⟨kind, header⟩ := (exists_kind_iff _).2 inRange
    exact ⟨kind, header, parse_response wire long sound kind header⟩
  · intro error refused
    have cause := error_of_parse refused
    refine ⟨cause, ?_⟩
    rcases cause with ⟨_, _, rfl⟩ | ⟨_, _, rfl⟩ | ⟨_, _, rfl⟩ | ⟨_, _, rfl⟩ | ⟨_, rfl⟩ <;>
      simp [WireError.isChecksum, WireError.isMalformed]

end LightingControl.Frame
