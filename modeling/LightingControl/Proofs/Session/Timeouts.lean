import LightingControl.Proofs.Session.Waits
import LightingControl.Proofs.Settings
/-!
# Timeouts within bounds

The timeout of a session is allowed unless a document asks for another one and no setter comes after it,
and it is exactly what each wait in vain takes.
-/

set_option autoImplicit false

namespace LightingControl

namespace SessionConfig

/-- Setters alone keep the timeout within its bounds.  From an accepted document any duration can be
read, and the timeout is allowed if a setter for it comes after the document, or if the document does
not ask for one that is not allowed, and else it is not.  Whatever the timeout is, sending a command takes
that time for each wait in vain, and nothing else takes time. -/
theorem timeout_allowed_iff (settings : List Setting) :
    (SessionConfig.default.setAll settings).timeout.Allowed ∧
    (∀ duration : Duration, duration.seconds < UInt64.size →
      ofDocument? (.record [("timeout", duration.document)]) =
        some { SessionConfig.default with timeout := duration }) ∧
    (∀ document config, ofDocument? document = some config →
      ((config.setAll settings).timeout.Allowed ↔
        (∃ duration, .timeout duration ∈ settings) ∨
          ∀ value duration, document.setting? "timeout" 1 = some value →
            Duration.ofDocument? value = some duration → duration.Allowed)) ∧
    ∀ (session : Session) (command : Command) (during late : Nat → List Happening),
      ∃ waits ≤ session.config.retries.toNat + 1,
        Session.Waits session waits (session.send command during late) := by
  refine ⟨?_, fun duration => ofDocument?_timeout, ?_, Session.waits_send⟩
  · exact (allowed_setAll_iff _ settings).2 (.inr Duration.allowed_default)
  · intro document config accepted
    rw [allowed_setAll_iff, allowed_of_document_iff accepted]

/-- A timeout of zero is read from a document, and stands until a setter for the timeout is called. -/
theorem timeout_allowed_iff_zero :
    let document : Document := .record [("timeout", Duration.zero.document)]
    let config := { SessionConfig.default with timeout := .zero }
    let settings : List Setting := [.retries 5, .timeout .zero, .initialSeq 9]
    let others : List Setting := [.retries 5, .initialSeq 9]
    (Duration.zero.seconds < UInt64.size ∧ ofDocument? document = some config) ∧
      (config.setAll settings).timeout.Allowed ∧ ¬ (config.setAll others).timeout.Allowed ∧
      (SessionConfig.default.setAll settings).timeout.Allowed := by
  intro document config settings others
  obtain ⟨bySetters, asked, byDocument, -⟩ := timeout_allowed_iff settings
  obtain ⟨-, -, byOthers, -⟩ := timeout_allowed_iff others
  have fits : Duration.zero.seconds < UInt64.size := by decide
  have accepted := asked .zero fits
  refine ⟨⟨fits, accepted⟩, ?_, ?_, bySetters⟩
  · exact (byDocument document config accepted).2 (.inl ⟨.zero, by simp [settings]⟩)
  · intro allowed
    obtain ⟨duration, mem⟩ | within := (byOthers document config accepted).1 allowed
    · simp [others] at mem
    · exact absurd (within _ .zero rfl (Duration.ofDocument?_document fits)) (by decide)

/-- A document that asks for a timeout of zero is accepted, and so is one that asks for a day.  A session
opened with the first makes all its attempts at once, if nothing is heard. -/
theorem unclamped_timeouts :
    let config := { SessionConfig.default with timeout := .zero }
    let long := { SessionConfig.default with timeout := .ofSeconds 86400 }
    let start : Session := ⟨⟨anyEndpoint, none⟩, config, .startingAt 0, false, true, 0⟩
    let command : Command := ⟨"query level", 0xAA, .gear 3, .basic 3 0 0 0⟩
    let exchange := start.send command (arrivals fun _ => []) (arrivals fun _ => [])
    ofDocument? (.record [("timeout", .record [("secs", .number 0), ("nanos", .number 0)])]) =
        some config ∧
      config.timeout.nanoseconds < minTimeout.nanoseconds ∧
      ofDocument? (.record [("timeout", .record [("secs", .number 86400), ("nanos", .number 0)])]) =
        some long ∧
      maxTimeout.nanoseconds < long.timeout.nanoseconds ∧
      Session.opened .networked ⟨anyEndpoint, none⟩ config true = .ok start ∧
      exchange.requests = List.replicate 3 (command.request 0).encode ∧
      exchange.session.clock = start.clock := by
  intro config long start command exchange
  have accepted (duration : Duration) (fits : duration.seconds < UInt64.size) :=
    ofDocument?_timeout fits
  have bounded : start.config.retries.toNat + 1 < UInt32.size := by decide
  have lasts : ¬ exchange.Stopped := by
    rw [Session.stopped_send_iff rfl bounded]
    rintro ⟨n, -, -, undated⟩
    refine undated ?_
    rw [Session.Dated, show start.config.timeout.nanoseconds = 0 from rfl, Nat.mul_zero]
    decide
  have completes := Session.completes_of_not_stopped rfl bounded lasts
  obtain ⟨requests, -⟩ := completes.unanswered fun _ _ => rfl
  obtain ⟨waits, -, spent⟩ :=
    start.waits_send command (arrivals fun _ => []) (arrivals fun _ => [])
  have clock : exchange.session.clock = start.clock := by
    rw [spent.clock]
    exact Nat.mul_zero waits
  exact ⟨accepted .zero (by decide), by decide, accepted (.ofSeconds 86400) (by decide), by decide,
    rfl, requests, clock⟩

end SessionConfig

end LightingControl
