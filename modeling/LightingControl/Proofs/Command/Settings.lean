import LightingControl.Answer.Basic
import LightingControl.Proofs.Colours
import LightingControl.Proofs.Command.Acceptance
import LightingControl.Proofs.Command.Wire
/-!
# Settings are sent in the layout in which they are answered

The value that an operation sets is in the body of its request, in the layout that the answer to the
corresponding query has.
-/

set_option autoImplicit false

namespace LightingControl

theorem Bytes.value_wordBytes (word : UInt16) : (wordBytes word).value = word.toNat := by
  have bound := word.toNat_lt
  simp [Bytes.value, wordBytes, upperByte, lowerByte]
  omega

theorem Answer.decode_wordBytes (word : UInt16) : Answer.decode (wordBytes word) = .ok word := by
  change Except.ok (UInt16.ofNat (wordBytes word).value) = _
  rw [Bytes.value_wordBytes, UInt16.ofNat_toNat]

theorem Answer.decode_wordBytes_signed (value : Int16) :
    Answer.decode (wordBytes value.toUInt16) = .ok value := by
  change Except.ok (UInt16.ofNat (wordBytes value.toUInt16).value).toInt16 = _
  rw [Bytes.value_wordBytes, UInt16.ofNat_toNat]
  rfl

theorem EventMode.decode_of_head? {data : Bytes} {mode : EventMode}
    (head : data.head? = some mode.byte) : Answer.decode data = .ok mode := by
  obtain ⟨more, rfl⟩ := List.head?_eq_some_iff.1 head
  simp only [Answer.decode, Field.uint8_cons, Except.map, ofByte_byte]

theorem UnicastTarget.decode_cons (mode : UInt8) (endpoint : Ipv4Endpoint) (more : Bytes) :
    decode (mode :: (endpoint.bytes ++ more)) = .ok ⟨.ofByte mode, endpoint⟩ := by
  change Except.ok (UnicastTarget.mk (.ofByte mode)
    ⟨endpoint.ip, wordOf (upperByte endpoint.port) (lowerByte endpoint.port)⟩) = _
  rw [wordOf_upperByte_lowerByte]

namespace Operation

/-- The value that the operation sets or names can be read from the body of its request as if it were
the answer to a query. -/
def ReadBack : Operation → (body : Bytes) → Prop
  | .setSystemVariable _ value, body => Answer.decode ((body.drop 2).take 2) = .ok value
  | .changeProfile profile, body => Answer.decode ((body.drop 2).take 2) = .ok profile
  | .queryProfileLabel profile, body => Answer.decode ((body.drop 2).take 2) = .ok profile
  | .setUnicastTarget (some endpoint), body => ∀ mode more,
    Answer.decode (mode :: (body.drop 1 ++ more)) = .ok (⟨.ofByte mode, endpoint⟩ : UnicastTarget)
  | .enableEventEmit mode, body => Answer.decode (body.take 1) = .ok mode
  | .setColour _ colour _, body => ∃ encoded zeros,
    body.drop 2 = encoded ++ List.replicate zeros 0 ∧ Colour.decode encoded = .ok colour
  | _, _ => True

/-- Whatever is set is read back from the request by the decoder of the answers. -/
theorem settings_read_back {operation : Operation} {command : Command}
    (accepted : operation.command = .ok command) : operation.ReadBack command.body := by
  cases operation with
  | setSystemVariable index value =>
    obtain rfl := accepted_variable accepted
    exact Answer.decode_wordBytes_signed value
  | changeProfile profile | queryProfileLabel profile =>
    cases accepted
    exact Answer.decode_wordBytes profile
  | setUnicastTarget endpoint =>
    cases endpoint with
    | none => trivial
    | some endpoint =>
      cases accepted
      intro mode more
      exact UnicastTarget.decode_cons mode endpoint more
  | enableEventEmit mode =>
    cases accepted
    exact EventMode.decode_of_head? rfl
  | setColour target colour level =>
    obtain ⟨checked, -, rest⟩ := accepted_of_bind accepted
    obtain ⟨_, -, rest⟩ := accepted_of_bind rest
    obtain ⟨byte, -, same⟩ := accepted_of_bind rest
    cases same
    obtain ⟨zeros, body, -⟩ := shapes_colour checked.wireByte byte colour
    refine ⟨colour.encode, zeros, ?_, Colour.decode_encode colour⟩
    exact congrArg (List.drop 2) body
  | _ => trivial

/-- A negative value, and a colour of which the padded body is not a colour by itself. -/
theorem settings_read_back_padded :
    let written : Command := ⟨"set system variable", 0x36, .systemVariable 3, .basic 3 0 0xFF 0xFE⟩
    let colour : Command := ⟨"set colour", 0x0E, .gear 5, .colour 5 0xFF (.xy 0x1234 0xFFFF)⟩
    ((setSystemVariable 3 (-2)).command = .ok written ∧
        (setSystemVariable 3 (-2)).ReadBack written.body) ∧
      (setColour (.gear 5) (.xy 0x1234 0xFFFF) none).command = .ok colour ∧
      (setColour (.gear 5) (.xy 0x1234 0xFFFF) none).ReadBack colour.body := by
  intro written colour
  have set : (setSystemVariable 3 (-2)).command = .ok written := by rfl
  have painted : (setColour (.gear 5) (.xy 0x1234 0xFFFF) none).command = .ok colour := by rfl
  exact ⟨⟨set, settings_read_back set⟩, painted, settings_read_back painted⟩

end Operation

end LightingControl
