import LightingControl.Proofs.Listener.Calls
/-!
# Which datagrams are repeats

For each event datagram a listener remembers as much as it takes to tell how long ago the same bytes
were last let through.  The verdicts on a datagram therefore depend on the times at which its bytes
arrive and on nothing else.
-/

set_option autoImplicit false

namespace LightingControl.Listener

variable {listener : Listener} {now : Moment} {mac : MacAddress} {datagram : Bytes}
  {source : Endpoint}

/-- The listener remembers that a datagram was let through less than the window ago. -/
def Knows (listener : Listener) (now : Moment) (mac : MacAddress) (datagram : Bytes) : Prop :=
  ∃ sighting ∈ listener.seen, sighting.mac = mac ∧ sighting.datagram = datagram ∧
    now - sighting.time < listener.config.dedupWindow.nanoseconds

theorem knows_congr {other : Listener} (seen : other.seen = listener.seen)
    (config : other.config = listener.config) :
    other.Knows now mac datagram ↔ listener.Knows now mac datagram := by
  rw [Knows, Knows, seen, config]

theorem knows_recent (listener : Listener) (now : Moment) (mac : MacAddress) (datagram : Bytes) :
    listener.Knows now mac datagram ↔
      ∃ sighting ∈ listener.recent now, sighting.mac = mac ∧ sighting.datagram = datagram := by
  refine exists_congr fun sighting => ?_
  simp only [recent, List.mem_filter, decide_eq_true_eq]
  exact ⟨fun ⟨mem, mac, datagram, young⟩ => ⟨⟨mem, young⟩, mac, datagram⟩,
    fun ⟨⟨mem, young⟩, mac, datagram⟩ => ⟨mem, mac, datagram, young⟩⟩

theorem recognise_iff :
    (listener.recognise now mac datagram).1 = true ↔ listener.Knows now mac datagram := by
  unfold recognise
  by_cases zero : listener.config.dedupWindow = .zero
  · simp [Knows, zero, Duration.zero]
  · rw [if_neg zero, knows_recent]
    dsimp only
    split <;> simp_all

theorem mem_seen_recognise {sighting : Sighting} (window : 0 < listener.config.dedupWindow.nanoseconds) :
    sighting ∈ (listener.recognise now mac datagram).2.seen ↔
      sighting ∈ listener.recent now ∨
        (¬listener.Knows now mac datagram ∧ sighting = ⟨mac, datagram, now⟩) := by
  have nonzero : listener.config.dedupWindow ≠ .zero := by
    intro zero
    rw [zero] at window
    exact absurd window (Nat.lt_irrefl 0)
  rw [← recognise_iff]
  unfold recognise
  rw [if_neg nonzero]
  dsimp only
  split <;> simp

theorem knows_recognise {later : Moment} (ordered : now ≤ later) {other : MacAddress}
    {bytes : Bytes} :
    (listener.recognise now other bytes).2.Knows later mac datagram ↔
      listener.Knows later mac datagram ∨
        (other = mac ∧ bytes = datagram ∧ ¬listener.Knows now other bytes ∧
          later - now < listener.config.dedupWindow.nanoseconds) := by
  have config : (listener.recognise now other bytes).2.config = listener.config := by
    rw [recognise_eq]
  rw [Knows, config]
  by_cases window : 0 < listener.config.dedupWindow.nanoseconds
  · simp only [mem_seen_recognise window, recent, List.mem_filter, decide_eq_true_eq]
    constructor
    · rintro ⟨sighting, old | ⟨new, rfl⟩, same_mac, same_bytes, young⟩
      · exact .inl ⟨sighting, old.1, same_mac, same_bytes, young⟩
      · exact .inr ⟨same_mac, same_bytes, new, young⟩
    · rintro (⟨sighting, mem, same_mac, same_bytes, young⟩ | ⟨same_mac, same_bytes, new, young⟩)
      · exact ⟨sighting, .inl ⟨mem, Nat.lt_of_le_of_lt (Nat.sub_le_sub_right ordered _) young⟩, same_mac,
          same_bytes, young⟩
      · exact ⟨_, .inr ⟨new, rfl⟩, same_mac, same_bytes, young⟩
  · have never (age : Nat) : ¬age < listener.config.dedupWindow.nanoseconds := by omega
    simp [Knows, never]

theorem notification_unique {first second : Notification}
    (one : Frame.parse datagram = .ok (.notification first))
    (other : Frame.parse datagram = .ok (.notification second)) : first = second := by
  rw [one] at other
  cases other
  rfl

theorem ingest_duplicate_iff {notification : Notification}
    (parsed : Frame.parse datagram = .ok (.notification notification)) :
    (listener.ingest now datagram source).1 = .duplicate ↔
      listener.Knows now notification.mac datagram := by
  rw [← recognise_iff]
  cases listener.ingestion now datagram source with
  | noEvent other => exact absurd parsed (other notification)
  | repeated _ found known answer =>
    rw [notification_unique found parsed] at known
    simp [answer, known]
  | unreadable _ found new _ answer =>
    rw [notification_unique found parsed] at new
    simp [answer, new]
  | dispatched _ found new _ _ answer =>
    rw [notification_unique found parsed] at new
    simp [answer, new]

theorem notification_of_duplicate (duplicate : (listener.ingest now datagram source).1 = .duplicate) :
    ∃ notification, Frame.parse datagram = .ok (.notification notification) := by
  cases listener.ingestion now datagram source with
  | noEvent _ answer => simp [duplicate] at answer
  | repeated notification parsed => exact ⟨notification, parsed⟩
  | unreadable notification parsed | dispatched notification parsed => exact ⟨notification, parsed⟩

theorem knows_ingest {later : Moment} (ordered : now ≤ later) {notification : Notification}
    {bytes : Bytes}
    (parsed : Frame.parse datagram = .ok (.notification notification)) :
    (listener.ingest now bytes source).2.Knows later notification.mac datagram ↔
      listener.Knows later notification.mac datagram ∨
        (bytes = datagram ∧ ¬listener.Knows now notification.mac datagram ∧
          later - now < listener.config.dedupWindow.nanoseconds) := by
  have config := (listener.ingest_eq now bytes source).1
  have remembered {other : Notification} (found : Frame.parse bytes = .ok (.notification other))
      (seen : (listener.ingest now bytes source).2.seen =
        (listener.recognise now other.mac bytes).2.seen) :
      (listener.ingest now bytes source).2.Knows later notification.mac datagram ↔
        listener.Knows later notification.mac datagram ∨
          (bytes = datagram ∧ ¬listener.Knows now notification.mac datagram ∧
            later - now < listener.config.dedupWindow.nanoseconds) := by
    have kept : (listener.recognise now other.mac bytes).2.config = listener.config := by
      rw [recognise_eq]
    rw [knows_congr seen (config.trans kept.symm), knows_recognise ordered]
    refine or_congr_right ⟨?_, ?_⟩
    · rintro ⟨same_mac, rfl, new, young⟩
      exact ⟨rfl, same_mac ▸ new, young⟩
    · rintro ⟨rfl, new, young⟩
      obtain rfl := notification_unique found parsed
      exact ⟨rfl, rfl, new, young⟩
  cases listener.ingestion now bytes source with
  | noEvent other _ seen =>
    rw [knows_congr seen config]
    refine (or_iff_left ?_).symm
    rintro ⟨rfl, -⟩
    exact other notification parsed
  | repeated _ found _ _ seen | unreadable _ found _ _ _ seen | dispatched _ found _ _ _ _ seen =>
    exact remembered found seen

/-! ## Runs -/

def Call.arrivals : Call → List (Moment × Bytes)
  | .ingest now datagram _ => [(now, datagram)]
  | .subscribe _ _ | .unsubscribe _ | .stop | .work _ => []

def arrivalTimes (calls : List Call) : List Moment :=
  (calls.flatMap Call.arrivals).map Prod.fst

def arrivalsOf (datagram : Bytes) (calls : List Call) : List Moment :=
  ((calls.flatMap Call.arrivals).filter fun arrival => arrival.2 = datagram).map Prod.fst

/-- When a datagram arrives with a call and is not answered to be a repeat. -/
def passed (datagram : Bytes) (listener : Listener) : Call → List Moment
  | .ingest now bytes source =>
    if bytes = datagram ∧ (listener.ingest now bytes source).1 ≠ .duplicate then [now] else []
  | .subscribe _ _ | .unsubscribe _ | .stop | .work _ => []

/-- The times that are let through if less than a window after the last one none is. -/
def spaced (window : Nat) (last : Option Moment) : List Moment → List Moment
  | [] => []
  | now :: rest =>
    if last.any fun last => now < last + window then spaced window last rest
    else now :: spaced window (some now) rest

/-- A listener whose clock has reached a time has let a datagram through at the times `through`. -/
structure Recalls (listener : Listener) (mac : MacAddress) (datagram : Bytes) (clock : Moment)
    (through : List Moment) : Prop where
  knows : ∀ now, clock ≤ now → (listener.Knows now mac datagram ↔
    ∃ time ∈ through, now - time < listener.config.dedupWindow.nanoseconds)
  bound : ∀ time ∈ through, time ≤ clock
  spaced : through.Pairwise fun early late =>
    early + listener.config.dedupWindow.nanoseconds ≤ late

variable {clock : Moment} {through : List Moment} {notification : Notification}

theorem Recalls.mono (recalls : listener.Recalls mac datagram clock through)
    (later : clock ≤ now) : listener.Recalls mac datagram now through :=
  ⟨fun time reached => recalls.knows time (Nat.le_trans later reached),
    fun time mem => Nat.le_trans (recalls.bound time mem) later, recalls.spaced⟩

theorem recalls_ofConfig (config : ListenerConfig) (mac : MacAddress) (datagram : Bytes) :
    (ofConfig config).Recalls mac datagram 0 [] := by
  refine ⟨fun now _ => ?_, fun _ mem => absurd mem List.not_mem_nil, .nil⟩
  simp [Knows, ofConfig]

theorem Recalls.congr (recalls : listener.Recalls mac datagram clock through) {other : Listener}
    (seen : other.seen = listener.seen) (config : other.config = listener.config) :
    other.Recalls mac datagram clock through := by
  refine ⟨fun now reached => ?_, recalls.bound, ?_⟩
  · rw [knows_congr seen config, config]
    exact recalls.knows now reached
  · rw [config]
    exact recalls.spaced

theorem Recalls.knows_iff_last (recalls : listener.Recalls mac datagram clock through)
    (reached : clock ≤ now) :
    listener.Knows now mac datagram ↔
      ∃ last ∈ through.getLast?, now < last + listener.config.dedupWindow.nanoseconds := by
  rw [recalls.knows now reached]
  obtain ⟨-, bound, spaced⟩ := recalls
  obtain rfl | ⟨early, last, rfl⟩ := List.eq_nil_or_concat through
  · simp
  · rw [List.concat_eq_append] at bound spaced ⊢
    have reached : last ≤ now :=
      Nat.le_trans (bound last (List.mem_append_right _ (List.mem_singleton.2 rfl))) reached
    obtain ⟨-, -, older⟩ := List.pairwise_append.1 spaced
    rw [List.getLast?_concat]
    constructor
    · rintro ⟨time, mem, young⟩
      obtain before | same := List.mem_append.1 mem
      · have apart := older time before last (List.mem_singleton.2 rfl)
        exact absurd young (Nat.not_lt.2 (Nat.le_sub_of_add_le' (Nat.le_trans apart reached)))
      · obtain rfl := List.mem_singleton.1 same
        exact ⟨time, rfl, (Nat.sub_lt_iff_lt_add' reached).1 young⟩
    · rintro ⟨_, ⟨⟩, young⟩
      exact ⟨last, List.mem_append_right _ (List.mem_singleton.2 rfl),
        (Nat.sub_lt_iff_lt_add' reached).2 young⟩

theorem Recalls.ingest (recalls : listener.Recalls notification.mac datagram clock through)
    (parsed : Frame.parse datagram = .ok (.notification notification)) (reached : clock ≤ now)
    (bytes : Bytes) (source : Endpoint) :
    (listener.ingest now bytes source).2.Recalls notification.mac datagram now
      (through ++ passed datagram listener (.ingest now bytes source)) := by
  have config := (listener.ingest_eq now bytes source).1
  obtain ⟨knows, bound, apart⟩ := recalls.mono reached
  have known := knows now (Nat.le_refl now)
  rw [passed]
  by_cases answer : bytes = datagram ∧ (listener.ingest now bytes source).1 ≠ .duplicate
  · rw [if_pos answer]
    obtain ⟨rfl, new⟩ := answer
    rw [ne_eq, ingest_duplicate_iff parsed] at new
    refine ⟨fun later ordered => ?_, ?_, ?_⟩
    · rw [knows_ingest ordered parsed, knows later ordered, config]
      simp [new, or_and_right, exists_or]
    · intro time mem
      obtain old | same := List.mem_append.1 mem
      · exact bound time old
      · exact Nat.le_of_eq (List.mem_singleton.1 same)
    · rw [config]
      refine List.pairwise_append.2 ⟨apart, List.pairwise_singleton _ _, fun time mem late same => ?_⟩
      obtain rfl := List.mem_singleton.1 same
      have old : ¬late - time < listener.config.dedupWindow.nanoseconds :=
        fun young => new (known.2 ⟨time, mem, young⟩)
      exact Nat.add_le_of_le_sub' (bound time mem) (Nat.not_lt.1 old)
  · rw [if_neg answer, List.append_nil]
    refine ⟨fun later ordered => ?_, bound, config.symm ▸ apart⟩
    rw [knows_ingest ordered parsed, config, ← knows later ordered]
    refine or_iff_left ?_
    rintro ⟨rfl, new, -⟩
    exact answer ⟨rfl, fun duplicate => new ((ingest_duplicate_iff parsed).1 duplicate)⟩

theorem Recalls.passed_ingest (recalls : listener.Recalls notification.mac datagram clock through)
    (parsed : Frame.parse datagram = .ok (.notification notification)) (reached : clock ≤ now)
    (source : Endpoint) :
    passed datagram listener (.ingest now datagram source) =
      if through.getLast?.any fun last => now < last + listener.config.dedupWindow.nanoseconds then []
      else [now] := by
  have verdict : (listener.ingest now datagram source).1 = .duplicate ↔
      (through.getLast?.any fun last => now < last + listener.config.dedupWindow.nanoseconds) =
        true := by
    rw [ingest_duplicate_iff parsed, recalls.knows_iff_last reached]
    cases through.getLast? <;> simp
  rw [passed]
  by_cases duplicate : (listener.ingest now datagram source).1 = .duplicate
  · rw [if_neg (fun new => new.2 duplicate), if_pos (verdict.1 duplicate)]
  · rw [if_pos ⟨rfl, duplicate⟩, if_neg (fun recent => duplicate (verdict.2 recent))]

/-- What is let through, from the times of arrival alone. -/
theorem Recalls.after (recalls : listener.Recalls notification.mac datagram clock through)
    (parsed : Frame.parse datagram = .ok (.notification notification)) {calls : List Call}
    (ordered : (clock :: arrivalTimes calls ++ [now]).Pairwise (· ≤ ·)) :
    (listener.after calls).Recalls notification.mac datagram now
        (through ++ listener.along (passed datagram) calls) ∧
      listener.along (passed datagram) calls =
        Listener.spaced listener.config.dedupWindow.nanoseconds through.getLast?
          (arrivalsOf datagram calls) := by
  -- An arrival moves the clock, and what was let through grows by what it adds.
  induction calls generalizing listener clock through with
  | nil =>
    rw [along_nil, List.append_nil]
    exact ⟨recalls.mono (by simpa [arrivalTimes] using ordered), rfl⟩
  | cons first rest ih =>
    cases first with
    | ingest time bytes source =>
      obtain ⟨first, ordered⟩ := List.pairwise_cons.1 ordered
      have reached : clock ≤ time := first time (List.mem_cons_self ..)
      obtain ⟨later, times⟩ := ih (recalls.ingest parsed reached bytes source) ordered
      rw [List.append_assoc] at later
      refine ⟨later, ?_⟩
      rw [(listener.ingest_eq time bytes source).1] at times
      rw [along_cons, call, times]
      by_cases same : bytes = datagram
      · subst same
        have arrivals : arrivalsOf bytes (.ingest time bytes source :: rest) =
            time :: arrivalsOf bytes rest := by
          simp [arrivalsOf, Call.arrivals]
        rw [recalls.passed_ingest parsed reached, arrivals, Listener.spaced]
        split
        · rw [List.append_nil, List.nil_append]
        · rw [List.getLast?_concat, List.singleton_append]
      · have arrivals : arrivalsOf datagram (.ingest time bytes source :: rest) =
            arrivalsOf datagram rest := by
          simp [arrivalsOf, Call.arrivals, same]
        have nothing : passed datagram listener (.ingest time bytes source) = [] := by
          simp [passed, same]
        rw [nothing, arrivals, List.append_nil, List.nil_append]
    | _ => exact ih (recalls.congr rfl rfl) ordered

theorem recalls_after (config : ListenerConfig) {calls : List Call}
    (parsed : Frame.parse datagram = .ok (.notification notification))
    (ordered : (arrivalTimes calls ++ [now]).Pairwise (· ≤ ·)) :
    ((ofConfig config).after calls).Recalls notification.mac datagram now
      ((ofConfig config).along (passed datagram) calls) := by
  have started : (0 :: arrivalTimes calls ++ [now]).Pairwise (· ≤ ·) :=
    List.pairwise_cons.2 ⟨fun _ _ => Nat.zero_le _, ordered⟩
  exact ((recalls_ofConfig config notification.mac datagram).after parsed started).1

/-- An event datagram is answered to be a repeat exactly if the same bytes were let through less than the
window ago.  What is let through is at least a window apart, the last time decides, and only the times
at which the same bytes arrived matter. -/
theorem repeats (config : ListenerConfig) (calls : List Call) (now : Moment)
    (ordered : (arrivalTimes calls ++ [now]).Pairwise (· ≤ ·)) :
    let window := config.dedupWindow.nanoseconds
    let answer (datagram : Bytes) (source : Endpoint) :=
      (((ofConfig config).after calls).ingest now datagram source).1
    (∀ datagram notification source, Frame.parse datagram = .ok (.notification notification) →
      let through := (ofConfig config).along (passed datagram) calls
      (answer datagram source = .duplicate ↔ 0 < window ∧ ∃ time ∈ through, now - time < window) ∧
      (answer datagram source = .duplicate ↔ ∃ last ∈ through.getLast?, now < last + window) ∧
      through.Pairwise (fun early late => early + window ≤ late) ∧
      through = spaced window none (arrivalsOf datagram calls)) ∧
    (window = 0 → ∀ datagram source, answer datagram source ≠ .duplicate) := by
  intro window answer
  have unchanged : ((ofConfig config).after calls).config = config := config_after _ calls
  refine ⟨?_, ?_⟩
  · intro datagram notification source parsed through
    have started : (0 :: arrivalTimes calls ++ [now]).Pairwise (· ≤ ·) :=
      List.pairwise_cons.2 ⟨fun _ _ => Nat.zero_le _, ordered⟩
    obtain ⟨recalls, times⟩ :=
      (recalls_ofConfig config notification.mac datagram).after parsed started
    have knows := recalls.knows now (Nat.le_refl now)
    have last := recalls.knows_iff_last (Nat.le_refl now)
    have apart := recalls.spaced
    rw [unchanged, List.nil_append] at knows last apart
    have verdict : answer datagram source = .duplicate ↔
        ((ofConfig config).after calls).Knows now notification.mac datagram :=
      ingest_duplicate_iff parsed
    refine ⟨verdict.trans (knows.trans ?_), verdict.trans last, apart, times⟩
    exact ⟨fun ⟨time, mem, young⟩ => ⟨Nat.zero_lt_of_lt young, time, mem, young⟩, fun recent => recent.2⟩
  · intro zero datagram source same
    obtain ⟨notification, parsed⟩ := notification_of_duplicate same
    obtain ⟨sighting, -, -, -, young⟩ := (ingest_duplicate_iff parsed).1 same
    rw [unchanged] at young
    exact Nat.not_lt_zero _ (Nat.lt_of_lt_of_eq young zero)

/-- A repeat within the window does not lengthen it, wherever it comes from. -/
theorem repeats_after_window :
    let event := withChecksum (Notification.content
      ⟨⟨0x00, 0x1A, 0x2B, 0x3C, 0x4D, 0x5E⟩, 68, 0x05, [4]⟩)
    let calls : List Call :=
      [.subscribe .all fun _ => .completed, .ingest 7 event (.v4 ⟨10, 0, 0, 5⟩ 6969),
        .ingest 250000006 event (.v4 ⟨10, 0, 0, 6⟩ 40000)]
    let listener := (ofConfig .default).after calls
    (ofConfig .default).along (passed event) calls = [7] ∧
      ∀ source, (listener.ingest 250000007 event source).1 ≠ .duplicate := by
  intro event calls listener
  obtain ⟨law, -⟩ := repeats .default calls 250000007 (by decide)
  have parsed : Frame.parse event = .ok (.notification
      ⟨⟨0x00, 0x1A, 0x2B, 0x3C, 0x4D, 0x5E⟩, 68, 0x05, [4]⟩) :=
    rfl
  have through : (ofConfig .default).along (passed event) calls = [7] := by decide +kernel
  refine ⟨through, fun source duplicate => ?_⟩
  obtain ⟨-, decided, -, -⟩ := law event _ source parsed
  obtain ⟨last, mem, young⟩ := decided.1 duplicate
  rw [through] at mem
  obtain rfl := Option.some.inj mem
  exact absurd young (by decide)

end LightingControl.Listener
