import LightingControl.Proofs.Frame.Grammar
import LightingControl.Proofs.Listener.Events
/-!
# Damaged datagrams

The bytes of a frame and its checksum cancel, so a datagram that takes the place of a frame passes the
checksum exactly if the changed bits cancel.  A single changed byte never does, wherever it is, and a
listener drops what does not pass before it looks at any field.
-/

set_option autoImplicit false

namespace LightingControl

namespace Bytes

/-- The bits that have changed, byte by byte. -/
def damage (sent received : Bytes) : Bytes :=
  List.zipWith (fun byte other => byte ^^^ other) sent received

theorem checksum_cons (byte : UInt8) (rest : Bytes) :
    checksum (byte :: rest) = byte ^^^ rest.checksum := by
  simpa using checksum_append [byte] rest

theorem checksum_damage {sent received : Bytes} (sameLength : received.length = sent.length) :
    (damage sent received).checksum = sent.checksum ^^^ received.checksum := by
  induction sent generalizing received with
  | nil =>
    obtain rfl := List.eq_nil_of_length_eq_zero sameLength
    rfl
  | cons byte rest ih =>
    cases received with
    | nil => cases sameLength
    | cons other others =>
      calc (damage (byte :: rest) (other :: others)).checksum
        _ = (byte ^^^ other) ^^^ (damage rest others).checksum := checksum_cons _ _
        _ = (byte ^^^ other) ^^^ (checksum rest ^^^ checksum others) := by
          rw [ih (Nat.succ.inj sameLength)]
        _ = (byte ^^^ checksum rest) ^^^ (other ^^^ checksum others) := by ac_rfl
        _ = checksum (byte :: rest) ^^^ checksum (other :: others) := by
          rw [checksum_cons, checksum_cons]

/-- What surrounds a changed byte cancels. -/
theorem checksum_change (front : Bytes) (byte other : UInt8) (back : Bytes) :
    checksum (front ++ byte :: back) ^^^ checksum (front ++ other :: back) = byte ^^^ other := by
  rw [checksum_append, checksum_append, checksum_cons, checksum_cons]
  calc front.checksum ^^^ (byte ^^^ back.checksum) ^^^ (front.checksum ^^^ (other ^^^ back.checksum))
    _ = (front.checksum ^^^ front.checksum) ^^^ (back.checksum ^^^ back.checksum) ^^^
        (byte ^^^ other) := by ac_rfl
    _ = byte ^^^ other := by simp

end Bytes

namespace Frame

theorem sound_of_parse_ok {wire : Bytes} {frame : Frame} (parsed : parse wire = .ok frame) :
    4 ≤ wire.length ∧ wire.checksum = 0 := by
  cases shape wire with
  | short short =>
    rw [parse_of_short wire short] at parsed
    cases parsed
  | damaged long damage =>
    rw [parse_of_long wire long, if_neg damage] at parsed
    cases parsed
  | request long sound _ | response long sound _ _ | notification long sound _
  | other long sound _ _ _ => exact ⟨long, sound⟩

theorem damaged_of_mismatch {wire : Bytes} {carried computed : UInt8}
    (refused : parse wire = .error (.checksumMismatch carried computed)) : wire.checksum ≠ 0 := by
  cases shape wire with
  | short short =>
    rw [parse_of_short wire short] at refused
    cases refused
  | damaged _ damage => exact damage
  | request long sound header =>
    rw [parse_request wire long sound header] at refused
    cases refused
  | response long sound kind header =>
    rw [parse_response wire long sound kind header] at refused
    split at refused <;> cases refused
  | notification long sound header =>
    by_cases enough : 13 ≤ wire.length
    · rw [parse_notification wire long sound header enough] at refused
      split at refused
      · cases refused
      · split at refused <;> cases refused
    · rw [parse_notification_of_short wire long sound header (by omega)] at refused
      cases refused
  | other long sound noRequest noResponse noNotification =>
    rw [parse_other wire long sound noRequest noResponse noNotification] at refused
    cases refused

/-- A datagram that takes the place of a frame, with as many bytes, is refused for its checksum if the
changed bits do not cancel, and the two checksums told then differ in just these bits.  A listener drops
it and changes nothing but its counts.  If the bits do cancel, the checksum is never the reason for a
refusal; they do not if a single byte has changed. -/
theorem damage_detected {wire received : Bytes} {frame : Frame} (parsed : parse wire = .ok frame)
    (sameLength : received.length = wire.length) :
    let damage := (Bytes.damage wire received).checksum
    (damage ≠ 0 →
      (∃ carried computed, parse received = .error (.checksumMismatch carried computed) ∧
        carried ^^^ computed = damage) ∧
      ∀ (listener : Listener) (now : Moment) (source : Endpoint),
        listener.ingest now received source =
          (.dropped, { listener with stats := listener.stats.count .dropped })) ∧
    (damage = 0 → ∀ carried computed,
      parse received ≠ .error (.checksumMismatch carried computed)) ∧
    ∀ front byte other back, wire = front ++ byte :: back → received = front ++ other :: back →
      byte ≠ other → damage ≠ 0 := by
  intro damage
  obtain ⟨long, sound⟩ := sound_of_parse_ok parsed
  have changed : damage = wire.checksum ^^^ received.checksum := Bytes.checksum_damage sameLength
  have shown : damage = received.checksum := by rw [changed, sound, UInt8.zero_xor]
  have longToo : 4 ≤ received.length := sameLength ▸ long
  refine ⟨fun harm => ?_, fun none carried computed refused => ?_, ?_⟩
  · rw [shown] at harm
    have refused := parse_of_long received longToo
    rw [if_neg harm] at refused
    refine ⟨⟨_, _, refused, ?_⟩, fun listener now source => ?_⟩
    · rw [shown, checksum_eq received longToo, UInt8.xor_comm]
    · simp [Listener.ingest, Listener.consider, refused]
  · exact damaged_of_mismatch refused (shown ▸ none)
  · rintro front byte other back rfl rfl differ
    rw [changed, Bytes.checksum_change, ne_eq, UInt8.xor_eq_zero_iff]
    exact differ

/-- In an answer of one byte the length is damaged: the checksum is wrong before the length is looked
at.  If the answer is damaged in the same bits, the checksum is right and the length is wrong. -/
theorem damage_detected_length_byte :
    let wire : Bytes := [0xA1, 7, 1, 0x42, 0xE5]
    let once : Bytes := [0xA1, 7, 2, 0x42, 0xE5]
    let twice : Bytes := [0xA1, 7, 2, 0x41, 0xE5]
    parse wire = .ok (.response ⟨.answer, 7, [0x42]⟩) ∧
      (∃ carried computed, parse once = .error (.checksumMismatch carried computed) ∧
        carried ^^^ computed = 3) ∧
      (∀ (listener : Listener) (now : Moment) (source : Endpoint),
        listener.ingest now once source =
          (.dropped, { listener with stats := listener.stats.count .dropped })) ∧
      parse twice = .error (.lengthMismatch 2 1) ∧
      ∀ carried computed, parse twice ≠ .error (.checksumMismatch carried computed) := by
  intro wire once twice
  have parsed : parse wire = .ok (.response ⟨.answer, 7, [0x42]⟩) := rfl
  obtain ⟨detected, -, single⟩ := @damage_detected wire once _ parsed rfl
  obtain ⟨-, cancelled, -⟩ := @damage_detected wire twice _ parsed rfl
  have harm := single [0xA1, 7] 1 2 [0x42, 0xE5] rfl rfl (by decide)
  exact ⟨parsed, (detected harm).1, (detected harm).2, rfl, cancelled rfl⟩

end Frame

end LightingControl
