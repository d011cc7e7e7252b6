import LightingControl.Proofs.Listener.Duplicates
/-!
# Datagrams whose event cannot be read

A listener remembers an event datagram before it reads the event, and with every event datagram it
forgets what is too old.  A run with datagrams whose event cannot be read therefore leaves other memories
than the run without them.  The two runs are told apart by no datagram whose event can be read.
-/

set_option autoImplicit false

namespace LightingControl.Listener

variable {listener : Listener} {now : Moment} {datagram : Bytes} {source : Endpoint}

theorem notification_of_decoded {event : Event} (decoded : decoded? datagram source = some event) :
    ∃ notification, Frame.parse datagram = .ok (.notification notification) := by
  unfold decoded? at decoded
  split at decoded
  · rename_i notification parsed
    exact ⟨notification, parsed⟩
  · cases decoded

theorem isSome_decoded? (datagram : Bytes) (source other : Endpoint) :
    (decoded? datagram source).isSome = (decoded? datagram other).isSome := by
  unfold decoded?
  split
  · rename_i notification _
    unfold Event.decode Event.read
    cases EventType.ofCode? notification.code with
    | none => rfl
    | some type =>
      dsimp only
      cases EventKind.read type notification.target notification.payload <;> rfl
  · rfl

theorem answer_of_decoded {event : Event} {notification : Notification}
    (parsed : Frame.parse datagram = .ok (.notification notification))
    (decoded : decoded? datagram source = some event) :
    (listener.ingest now datagram source).1 =
      if (listener.recognise now notification.mac datagram).1 then .duplicate
      else .dispatched (listener.subscriptions.countP fun subscription =>
        subscription.wants event.type) := by
  cases listener.ingestion now datagram source with
  | noEvent other => exact absurd parsed (other notification)
  | repeated _ found known answer =>
    rw [notification_unique found parsed] at known
    rw [answer, if_pos known]
  | unreadable _ _ _ refused =>
    rw [refused] at decoded
    cases decoded
  | dispatched _ found new other otherDecoded answer =>
    rw [notification_unique found parsed] at new
    rw [otherDecoded] at decoded
    cases decoded
    rw [answer, new]
    rfl

theorem subscriptions_of_unreadable (refused : decoded? datagram source = none) :
    (listener.ingest now datagram source).2.subscriptions = listener.subscriptions := by
  cases listener.ingestion now datagram source with
  | noEvent _ _ _ same | repeated _ _ _ _ _ same | unreadable _ _ _ _ _ _ same => exact same
  | dispatched _ _ _ event decoded =>
    rw [refused] at decoded
    cases decoded

/-- From a time on, two listeners are told apart by no datagram whose event can be read. -/
structure Alike (clock : Moment) (cleared whole : Listener) : Prop where
  config : cleared.config = whole.config
  nextId : cleared.nextId = whole.nextId
  subscriptions : cleared.subscriptions = whole.subscriptions
  knows : ∀ now, clock ≤ now → ∀ datagram source notification,
    Frame.parse datagram = .ok (.notification notification) →
    (decoded? datagram source).isSome →
    (cleared.Knows now notification.mac datagram ↔ whole.Knows now notification.mac datagram)

variable {clock : Moment} {cleared whole : Listener}

theorem Alike.refl (clock : Moment) (listener : Listener) : Alike clock listener listener :=
  ⟨rfl, rfl, rfl, fun _ _ _ _ _ _ _ => Iff.rfl⟩

theorem Alike.mono (alike : Alike clock cleared whole) (later : clock ≤ now) :
    Alike now cleared whole :=
  ⟨alike.config, alike.nextId, alike.subscriptions,
    fun time reached => alike.knows time (Nat.le_trans later reached)⟩

/-- A datagram whose event cannot be read is remembered as itself only. -/
theorem Alike.unreadable (alike : Alike clock cleared whole) (reached : clock ≤ now)
    (refused : decoded? datagram source = none) :
    Alike now cleared (whole.ingest now datagram source).2 := by
  obtain ⟨config, nextId⟩ := whole.ingest_eq now datagram source
  refine ⟨alike.config.trans config.symm, alike.nextId.trans nextId.symm, ?_, ?_⟩
  · rw [subscriptions_of_unreadable refused]
    exact alike.subscriptions
  · intro later ordered other otherSource notification parsed readable
    rw [knows_ingest ordered parsed,
      alike.knows later (Nat.le_trans reached ordered) other otherSource notification parsed readable]
    refine (or_iff_left ?_).symm
    rintro ⟨rfl, -⟩
    rw [isSome_decoded? datagram otherSource source, refused] at readable
    cases readable

theorem Alike.answer (alike : Alike clock cleared whole) (reached : clock ≤ now)
    (readable : (decoded? datagram source).isSome) :
    (cleared.ingest now datagram source).1 = (whole.ingest now datagram source).1 := by
  obtain ⟨event, decoded⟩ := Option.isSome_iff_exists.1 readable
  obtain ⟨notification, parsed⟩ := notification_of_decoded decoded
  have known : (cleared.recognise now notification.mac datagram).1 =
      (whole.recognise now notification.mac datagram).1 := by
    rw [Bool.eq_iff_iff, recognise_iff, recognise_iff]
    exact alike.knows now reached datagram source notification parsed readable
  rw [answer_of_decoded parsed decoded, answer_of_decoded parsed decoded, known, alike.subscriptions]

theorem Alike.ingest (alike : Alike clock cleared whole) (reached : clock ≤ now)
    (readable : (decoded? datagram source).isSome) :
    Alike now (cleared.ingest now datagram source).2 (whole.ingest now datagram source).2 := by
  obtain ⟨clearedConfig, clearedId⟩ := cleared.ingest_eq now datagram source
  obtain ⟨wholeConfig, wholeId⟩ := whole.ingest_eq now datagram source
  refine ⟨clearedConfig.trans (alike.config.trans wholeConfig.symm),
    clearedId.trans (alike.nextId.trans wholeId.symm), ?_, ?_⟩
  · have sameEvents : cleared.dispatched (.ingest now datagram source) =
        whole.dispatched (.ingest now datagram source) := by
      simp only [dispatched, alike.answer reached readable]
    rw [subscriptions_ingest, subscriptions_ingest, sameEvents, alike.subscriptions]
  · intro later ordered other otherSource notification parsed otherReadable
    have knows (time : Moment) (reached : clock ≤ time) :=
      alike.knows time reached other otherSource notification parsed otherReadable
    rw [knows_ingest ordered parsed, knows_ingest ordered parsed, knows now reached,
      knows later (Nat.le_trans reached ordered), alike.config]

/-! ## Runs -/

def Call.isReadable : Call → Bool
  | .ingest _ datagram source => (decoded? datagram source).isSome
  | .subscribe _ _ | .unsubscribe _ | .stop | .work _ => true

def readable (calls : List Call) : List Call :=
  calls.filter Call.isReadable

def answers (listener : Listener) : Call → List Ingest
  | .ingest now datagram source =>
    if (decoded? datagram source).isSome then [(listener.ingest now datagram source).1] else []
  | .subscribe _ _ | .unsubscribe _ | .stop | .work _ => []

theorem Alike.call (alike : Alike clock cleared whole) (call : Call) (noArrival : call.arrivals = []) :
    Alike clock (cleared.call call) (whole.call call) := by
  have seen (listener : Listener) : (listener.call call).seen = listener.seen := by
    cases call with
    | ingest _ _ _ => cases noArrival
    | _ => rfl
  have noEvents (listener : Listener) : listener.dispatched call = [] := by
    cases call with
    | ingest _ _ _ => cases noArrival
    | _ => rfl
  have sameAdded : cleared.added call = whole.added call := by
    cases call with
    | subscribe filter handler => rw [added, alike.nextId, added]
    | _ => rfl
  refine ⟨?_, ?_, ?_, ?_⟩
  · rw [config_call, config_call, alike.config]
  · rw [nextId_call, nextId_call, sameAdded, alike.nextId]
  · rw [subscriptions_call, subscriptions_call, noEvents, noEvents, sameAdded, alike.subscriptions]
  · intro now reached datagram source notification parsed readable
    rw [knows_congr (seen cleared) (config_call cleared call),
      knows_congr (seen whole) (config_call whole call)]
    exact alike.knows now reached datagram source notification parsed readable

theorem Alike.after (alike : Alike clock cleared whole) {calls : List Call}
    (ordered : (clock :: arrivalTimes calls ++ [now]).Pairwise (· ≤ ·)) :
    Alike now (cleared.after (readable calls)) (whole.after calls) ∧
      cleared.along answers (readable calls) = whole.along answers calls := by
  -- An arrival moves the clock.  One that cannot be read is a call of the whole run only.
  induction calls generalizing cleared whole clock with
  | nil => exact ⟨alike.mono (by simpa [arrivalTimes] using ordered), rfl⟩
  | cons first rest ih =>
    cases first with
    | ingest time datagram source =>
      obtain ⟨early, ordered⟩ := List.pairwise_cons.1 ordered
      have reached : clock ≤ time := early time (List.mem_cons_self ..)
      cases reads : (decoded? datagram source).isSome with
      | true =>
        have kept : readable (.ingest time datagram source :: rest) =
            .ingest time datagram source :: readable rest :=
          List.filter_cons_of_pos reads
        obtain ⟨later, sameAnswers⟩ := ih (alike.ingest reached reads) ordered
        refine ⟨kept ▸ later, ?_⟩
        rw [kept, along_cons, along_cons, Listener.call, Listener.call, sameAnswers, answers, answers,
          alike.answer reached reads]
      | false =>
        have dropped : readable (.ingest time datagram source :: rest) = readable rest :=
          List.filter_cons_of_neg (by simp [Call.isReadable, reads])
        have refused : decoded? datagram source = none := by simpa using reads
        obtain ⟨later, sameAnswers⟩ := ih (alike.unreadable reached refused) ordered
        refine ⟨dropped ▸ later, ?_⟩
        have silent : answers whole (.ingest time datagram source) = [] := by simp [answers, reads]
        rw [dropped, along_cons, Listener.call, silent, List.nil_append, sameAnswers]
    | subscribe filter handler => exact ih (alike.call (.subscribe filter handler) rfl) ordered
    | unsubscribe id => exact ih (alike.call (.unsubscribe id) rfl) ordered
    | stop => exact ih (alike.call .stop rfl) ordered
    | work id => exact ih (alike.call (.work id) rfl) ordered

theorem dispatched_of_passed {calls : List Call} {time : Moment}
    (readable : (decoded? datagram source).isSome)
    (mem : time ∈ listener.along (passed datagram) calls) :
    ∃ early origin late count, calls = early ++ .ingest time datagram origin :: late ∧
      ((listener.after early).ingest time datagram origin).1 = .dispatched count := by
  obtain ⟨early, step, late, rfl, here⟩ := mem_observations_iff.1 mem
  change time ∈ passed datagram (listener.after early) step at here
  cases step with
  | ingest now bytes origin =>
    rw [passed] at here
    split at here
    · rename_i new
      obtain ⟨rfl, new⟩ := new
      obtain rfl := List.mem_singleton.1 here
      rw [isSome_decoded? bytes source origin] at readable
      obtain ⟨event, decoded⟩ := Option.isSome_iff_exists.1 readable
      obtain ⟨notification, parsed⟩ := notification_of_decoded decoded
      have answer : ((listener.after early).ingest time bytes origin).1 = _ :=
        answer_of_decoded parsed decoded
      rw [answer] at new
      exact ⟨early, origin, late, _, rfl, answer.trans (if_neg fun known => new (if_pos known))⟩
    · cases here
  | _ => cases here

/-- The datagrams whose event cannot be read change neither the answers to the others nor what any
handler is called on.  A datagram whose event can be read is answered to be a repeat only if the same
bytes were dispatched less than the window ago. -/
theorem unreadable_without_effect (config : ListenerConfig) (calls : List Call) (now : Moment)
    (ordered : (arrivalTimes calls ++ [now]).Pairwise (· ≤ ·)) :
    let start := ofConfig config
    let whole := start.after calls
    let cleared := start.after (readable calls)
    start.along answers (readable calls) = start.along answers calls ∧
      cleared.subscriptions = whole.subscriptions ∧
      ∀ datagram source, (decoded? datagram source).isSome →
        (cleared.ingest now datagram source).1 = (whole.ingest now datagram source).1 ∧
        ((whole.ingest now datagram source).1 = .duplicate →
          ∃ early time origin late count, calls = early ++ .ingest time datagram origin :: late ∧
            ((start.after early).ingest time datagram origin).1 = .dispatched count ∧
            now - time < config.dedupWindow.nanoseconds) := by
  intro start whole cleared
  have started : (0 :: arrivalTimes calls ++ [now]).Pairwise (· ≤ ·) :=
    List.pairwise_cons.2 ⟨fun _ _ => Nat.zero_le _, ordered⟩
  obtain ⟨alike, sameAnswers⟩ := (Alike.refl 0 start).after started
  refine ⟨sameAnswers, alike.subscriptions, fun datagram source reads => ?_⟩
  refine ⟨alike.answer (Nat.le_refl now) reads, fun duplicate => ?_⟩
  obtain ⟨notification, parsed⟩ := notification_of_duplicate duplicate
  have recalls := recalls_after config parsed ordered
  obtain ⟨time, through, young⟩ :=
    (recalls.knows now (Nat.le_refl now)).1 ((ingest_duplicate_iff parsed).1 duplicate)
  rw [config_after] at young
  obtain ⟨early, origin, late, count, split, answer⟩ := dispatched_of_passed reads through
  exact ⟨early, time, origin, late, count, split, answer, young⟩

/-- An event of an unknown type is remembered and a corrupted copy of a scene change is dropped; the
intact scene change is dispatched all the same, and only then a repeat. -/
theorem unreadable_without_effect_corrupted :
    let source : Endpoint := .v4 ⟨10, 0, 0, 5⟩ 6969
    let mac : MacAddress := ⟨0x00, 0x1A, 0x2B, 0x3C, 0x4D, 0x5E⟩
    let unknown := withChecksum (Notification.content ⟨mac, 1, 0x03, [0]⟩)
    let scene := withChecksum (Notification.content ⟨mac, 68, 0x05, [4]⟩)
    let corrupted := Notification.content ⟨mac, 68, 0x05, [4]⟩ ++ [0]
    let calls : List Call :=
      [.subscribe .all fun _ => .completed, .ingest 0 unknown source, .ingest 5 corrupted source,
        .ingest 6 scene source, .ingest 7 unknown source]
    let start := ofConfig .default
    (arrivalTimes calls ++ [8]).Pairwise (· ≤ ·) ∧
      start.along answers calls = [.dispatched 1] ∧
      (start.after (readable calls)).subscriptions = (start.after calls).subscriptions ∧
      ((start.after (readable calls)).ingest 8 scene source).1 = .duplicate ∧
      ∃ early time origin late count, calls = early ++ .ingest time scene origin :: late ∧
        ((start.after early).ingest time scene origin).1 = .dispatched count ∧
        8 - time < ListenerConfig.default.dedupWindow.nanoseconds := by
  intro source mac unknown scene corrupted calls start
  have ordered : (arrivalTimes calls ++ [8]).Pairwise (· ≤ ·) := by decide
  obtain ⟨sameAnswers, subscriptions, later⟩ := unreadable_without_effect .default calls 8 ordered
  obtain ⟨sameAnswer, dispatched⟩ := later scene source (by decide +kernel)
  have duplicate : ((start.after calls).ingest 8 scene source).1 = .duplicate := by decide +kernel
  refine ⟨ordered, ?_, subscriptions, sameAnswer.trans duplicate, dispatched duplicate⟩
  rw [← sameAnswers]
  decide +kernel

end LightingControl.Listener
