import Mathlib.Data.List.Induction
import LightingControl.Document.Settings
/-!
# Settings from documents and by setters

A document can ask for any number of retries and any timeout, and a setting that it leaves out has its
default.  The setter of the timeout keeps it between the least and the greatest one allowed; of several
setters the last one counts.
-/

set_option autoImplicit false

namespace LightingControl

theorem Document.natural?_ofNat {bound value : Nat} (less : value < bound) :
    (Document.ofNat value).natural? bound = some value := by
  rw [natural?, ofNat, integer?, if_pos ⟨Int.natCast_nonneg _, Int.ofNat_lt.2 less⟩]
  rfl

namespace Duration

theorem ofDocument?_record (seconds nanoseconds : Document) :
    ofDocument? (.record [("secs", seconds), ("nanos", nanoseconds)]) =
      ofParts? seconds nanoseconds := by
  simp [ofDocument?, List.lookup_cons]

theorem ofParts?_ofNat {seconds nanoseconds : Nat} (fits : seconds < UInt64.size)
    (below : nanoseconds < perSecond) :
    ofParts? (.ofNat seconds) (.ofNat nanoseconds) =
      some ⟨seconds * perSecond + nanoseconds⟩ := by
  have small : nanoseconds < UInt32.size := Nat.lt_trans below (by decide)
  have total : seconds + nanoseconds / perSecond < UInt64.size := by
    rw [Nat.div_eq_of_lt below]
    exact fits
  simp only [ofParts?, Document.natural?_ofNat fits, Document.natural?_ofNat small,
    Option.bind_eq_bind, Option.bind_some]
  rw [if_pos total]

theorem ofDocument?_document {duration : Duration} (fits : duration.seconds < UInt64.size) :
    ofDocument? duration.document = some duration := by
  have below : duration.subsecond < perSecond := Nat.mod_lt _ (by decide)
  rw [document, ofDocument?_record, ofParts?_ofNat fits below, seconds, subsecond,
    Nat.div_add_mod']

def Allowed (duration : Duration) : Prop :=
  minTimeout.nanoseconds ≤ duration.nanoseconds ∧
    duration.nanoseconds ≤ maxTimeout.nanoseconds

instance (duration : Duration) : Decidable duration.Allowed :=
  inferInstanceAs (Decidable (_ ∧ _))

theorem clamp_within {least greatest : Duration}
    (ordered : least.nanoseconds ≤ greatest.nanoseconds) (duration : Duration) :
    least.nanoseconds ≤ (duration.clamp least greatest).nanoseconds ∧
      (duration.clamp least greatest).nanoseconds ≤ greatest.nanoseconds := by
  unfold clamp
  split
  · exact ⟨Nat.le_refl _, ordered⟩
  · split
    · exact ⟨ordered, Nat.le_refl _⟩
    · exact ⟨by omega, by omega⟩

theorem allowed_clamp (duration : Duration) : (duration.clamp minTimeout maxTimeout).Allowed :=
  clamp_within (by decide) duration

theorem allowed_default : defaultTimeout.Allowed := by decide

end Duration

namespace SessionConfig

inductive Setting where
  | bind (endpoint : Endpoint)
  | timeout (duration : Duration)
  | retries (count : UInt32)
  | pollInterval (interval : Duration)
  | initialSeq (seq : UInt8)

def Setting.timeout? : Setting → Option Duration
  | .timeout duration => some duration
  | .bind _ | .retries _ | .pollInterval _ | .initialSeq _ => none

def set (config : SessionConfig) : Setting → SessionConfig
  | .bind endpoint => config.withBind endpoint
  | .timeout duration => config.withTimeout duration
  | .retries count => config.withRetries count
  | .pollInterval interval => config.withPollInterval interval
  | .initialSeq seq => config.withInitialSeq seq

def setAll (config : SessionConfig) (settings : List Setting) : SessionConfig :=
  settings.foldl set config

theorem timeout_set (config : SessionConfig) (setting : Setting) :
    (config.set setting).timeout =
      setting.timeout?.elim config.timeout (·.clamp minTimeout maxTimeout) := by
  cases setting <;> rfl

/-- Of several setters the last one for the timeout decides. -/
theorem timeout_setAll (config : SessionConfig) (settings : List Setting) :
    (config.setAll settings).timeout =
      (settings.filterMap Setting.timeout?).getLast?.elim config.timeout
        (·.clamp minTimeout maxTimeout) := by
  induction settings using List.reverseRecOn with
  | nil => rfl
  | append_singleton early last ih =>
    have step : config.setAll (early ++ [last]) = (config.setAll early).set last :=
      List.foldl_append
    rw [step, timeout_set, List.filterMap_append]
    cases isTimeout : last.timeout? with
    | none =>
      rw [List.filterMap_cons_none isTimeout, List.filterMap_nil, List.append_nil, ← ih]
      rfl
    | some duration =>
      rw [List.filterMap_cons_some isTimeout, List.filterMap_nil, List.getLast?_concat]
      rfl

theorem allowed_setAll_iff (config : SessionConfig) (settings : List Setting) :
    (config.setAll settings).timeout.Allowed ↔
      (∃ duration, .timeout duration ∈ settings) ∨ config.timeout.Allowed := by
  have mem_iff (duration : Duration) :
      duration ∈ settings.filterMap Setting.timeout? ↔ .timeout duration ∈ settings := by
    rw [List.mem_filterMap]
    constructor
    · rintro ⟨setting, mem, isTimeout⟩
      cases setting <;> cases isTimeout
      exact mem
    · exact fun mem => ⟨_, mem, rfl⟩
  simp only [timeout_setAll, ← mem_iff]
  cases last : (settings.filterMap Setting.timeout?).getLast? with
  | none =>
    rw [List.getLast?_eq_none_iff.1 last]
    simp
  | some duration =>
    have mem := List.mem_of_getLast? last
    exact ⟨fun _ => .inl ⟨duration, mem⟩, fun _ => duration.allowed_clamp⟩

theorem ofDocument?_retries (retries : UInt32) :
    ofDocument? (.record [("retries", .ofNat retries.toNat)]) =
      some (SessionConfig.default.withRetries retries) := by
  have read : (Document.ofNat retries.toNat).doubleWord? = some retries := by
    rw [Document.doubleWord?, Document.natural?_ofNat retries.toNat_lt]
    exact congrArg some UInt32.ofNat_toNat
  simp [ofDocument?, Document.holdsSettings, Document.read, Document.setting?, List.lookup_cons,
    read]
  rfl

theorem ofDocument?_timeout {duration : Duration} (fits : duration.seconds < UInt64.size) :
    ofDocument? (.record [("timeout", duration.document)]) =
      some { SessionConfig.default with timeout := duration } := by
  have read := Duration.ofDocument?_document fits
  simp [ofDocument?, Document.holdsSettings, Document.read, Document.setting?, List.lookup_cons,
    read]

variable {document : Document} {config : SessionConfig}

theorem read_timeout (accepted : ofDocument? document = some config) :
    document.read "timeout" 1 defaultTimeout Duration.ofDocument? = some config.timeout := by
  simp only [ofDocument?, Bool.not_eq_eq_eq_not, Bool.not_true, Option.pure_def,
    Option.bind_eq_bind, Option.bind_none, Option.ite_none_left_eq_some, Bool.not_eq_false,
    Option.bind_eq_some_iff, Option.some.injEq] at accepted
  obtain ⟨-, bind, -, timeout, asked, retries, -, interval, -, seq, -, rfl⟩ := accepted
  exact asked

theorem allowed_of_document_iff (accepted : ofDocument? document = some config) :
    config.timeout.Allowed ↔
      ∀ value duration, document.setting? "timeout" 1 = some value →
        Duration.ofDocument? value = some duration → duration.Allowed := by
  have read := read_timeout accepted
  unfold Document.read at read
  cases asked : document.setting? "timeout" 1 with
  | none =>
    rw [asked] at read
    have default : defaultTimeout = config.timeout := Option.some.inj read
    rw [← default]
    exact ⟨fun _ => nofun, fun _ => Duration.allowed_default⟩
  | some value =>
    rw [asked] at read
    constructor
    · rintro allowed _ duration ⟨⟩ given
      cases read.symm.trans given
      exact allowed
    · exact fun allowed => allowed value config.timeout rfl read

end SessionConfig

end LightingControl
