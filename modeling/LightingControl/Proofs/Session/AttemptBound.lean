import LightingControl.Proofs.Session.Schedule
import LightingControl.Proofs.Settings
/-!
# How often a command is transmitted

A command may be transmitted once more than the retries say.  32 bits hold that number unless the
retries are the greatest number themselves.  Where it fits, a command that ends for want of a response
has been transmitted exactly so often, however the threads of the session are interleaved, and only a
deadline without representation stops the program.  Where it does not fit, nothing is ever transmitted,
and each command that an open session takes up stops the program.
-/

set_option autoImplicit false

namespace LightingControl

namespace SessionConfig

def attempts (config : SessionConfig) : Nat :=
  config.retries.toNat + 1

theorem attempts_lt_iff (config : SessionConfig) :
    config.attempts < UInt32.size ↔ config.retries ≠ 0xFFFFFFFF := by
  have bound := config.retries.toNat_lt
  have greatest : (0xFFFFFFFF : UInt32).toNat + 1 = UInt32.size := rfl
  rw [ne_eq, ← UInt32.toNat_inj, attempts]
  change config.retries.toNat < UInt32.size at bound
  omega

end SessionConfig

namespace Tracker

/-- What is pending later was pending before, and has not been sent again in between. -/
def Dwindles (tracker later : Tracker) : Prop :=
  ∀ seq request, (later.slot seq).pending = some request → (tracker.slot seq).pending = some request

theorem dwindles_of_eq {tracker later : Tracker}
    (same : ∀ seq, (later.slot seq).pending = (tracker.slot seq).pending) : tracker.Dwindles later := by
  intro seq request pending
  rwa [same] at pending

theorem dwindles_failAll (tracker : Tracker) : tracker.Dwindles tracker.failAll.2 := by
  intro seq request pending
  rw [slot_failAll, Slot.settle_pending] at pending
  cases pending

theorem dwindles_wait (tracker : Tracker) (ticket : Ticket) :
    tracker.Dwindles (tracker.wait ticket).2 := by
  refine dwindles_of_eq fun seq => ?_
  rw [wait_eq, slot_withdraw]
  split <;> rfl

end Tracker

theorem Session.dwindles_accept (session : Session) (datagram : Bytes) :
    session.tracker.Dwindles (session.accept datagram).1.tracker := by
  intro seq request pending
  rw [(session.reception_accept datagram).slot] at pending
  cases answer : answerIn? seq datagram with
  | none => rwa [answer] at pending
  | some response =>
    rw [answer, Slot.hear, Slot.settle_pending] at pending
    cases pending

/-! ## Along a run -/

namespace LiveSession

variable {start : Session} {live : LiveSession}

/-- What a command ends with, given the time and all that has been transmitted on the session. -/
inductive Ends (config : SessionConfig) (clock : Moment) (transmitted : List Bytes) :
    Except Failure Response → Prop
  | closed : Ends config clock transmitted (.error (.error .closed))
  | answered (fits : config.attempts < UInt32.size) (response : Response) :
    Ends config clock transmitted (.ok response)
  | exhausted (fits : config.attempts < UInt32.size) (command : Command) (seq : UInt8)
      (sent : List.replicate config.attempts (command.request seq).encode <:+: transmitted) :
    Ends config clock transmitted
      (.error (.error (.noResponse command.name command.target config.attempts)))
  | uncounted (overflow : ¬ config.attempts < UInt32.size) :
    Ends config clock transmitted (.error (.abort .attemptBoundOverflow))
  | undated (fits : config.attempts < UInt32.size)
      (late : Moment.limit ≤ clock + config.timeout.nanoseconds) :
    Ends config clock transmitted (.error (.abort .deadlineOverflow))

theorem Ends.later {config : SessionConfig} {clock now : Moment} {transmitted : List Bytes}
    {result : Except Failure Response} (ends : Ends config clock transmitted result)
    (passed : clock ≤ now) (more : List Bytes) : Ends config now (transmitted ++ more) result := by
  cases ends with
  | closed => exact .closed
  | answered fits response => exact .answered fits response
  | exhausted fits command seq sent =>
    exact .exhausted fits command seq (sent.trans (List.prefix_append _ _).isInfix)
  | uncounted overflow => exact .uncounted overflow
  | undated fits late => exact .undated fits (Nat.le_trans late (Nat.add_le_add_right passed _))

/-- The last `count` transmissions are those of a request, which may be transmitted as often as the
settings say.  While it is pending it has been counted less often than it has been made. -/
structure Repeats (start : Session) (tracker : Tracker) (transmitted : List Bytes)
    (dispatch : Dispatch) (count : Nat) : Prop where
  fits : start.config.attempts < UInt32.size
  dated : start.Dated 0
  bound : dispatch.bound = start.config.attempts
  wire : ∃ seq, dispatch.wire = (dispatch.command.request seq).encode
  last : List.replicate count dispatch.wire <:+ transmitted
  few : ∀ request, (tracker.slot dispatch.ticket.seq).pending = some request →
    request.retries < dispatch.made

def Counting (start : Session) (live : LiveSession) : Stage → Prop
  | .checking _ | .connecting _ | .numbering _ => True
  | .registering _ _ bound =>
    start.config.attempts < UInt32.size ∧ bound = start.config.attempts
  | .transmitting dispatch =>
    ∃ count < start.config.attempts, dispatch.made = count + 1 ∧
      Repeats start live.session.tracker live.transmitted dispatch count
  | .waiting dispatch =>
    dispatch.made ≤ start.config.attempts ∧
      Repeats start live.session.tracker live.transmitted dispatch dispatch.made
  | .retrying dispatch =>
    dispatch.made < start.config.attempts ∧
      Repeats start live.session.tracker live.transmitted dispatch dispatch.made
  | .expiring dispatch =>
    dispatch.made = start.config.attempts ∧
      Repeats start live.session.tracker live.transmitted dispatch dispatch.made
  | .leaving _ error =>
    start.config.attempts < UInt32.size ∧
      Ends start.config live.session.clock live.transmitted (.error (.error error))

/-- The commands of a session that has been in use since `start` are transmitted no more and no less
often than they should be. -/
structure Counted (start : Session) (live : LiveSession) : Prop where
  settings : live.session.config = start.config
  since : start.clock ≤ live.session.clock
  able : live.transmitted ≠ [] → start.config.attempts < UInt32.size ∧ start.Dated 0
  inside : ∀ stage, live.inside = some stage → Counting start live stage
  results : ∀ result ∈ live.results,
    Ends start.config live.session.clock live.transmitted result

theorem Repeats.dwindle {tracker later : Tracker} {transmitted : List Bytes} {dispatch : Dispatch}
    {count : Nat} (repeats : Repeats start tracker transmitted dispatch count)
    (dwindles : tracker.Dwindles later) : Repeats start later transmitted dispatch count :=
  { repeats with few := fun request pending => repeats.few request (dwindles _ _ pending) }

/-- What the other threads do changes none of it. -/
theorem Counted.beside {later : LiveSession} (counted : Counted start live)
    (settings : later.session.config = live.session.config)
    (passed : live.session.clock ≤ later.session.clock)
    (dwindles : live.session.tracker.Dwindles later.session.tracker)
    (transmitted : later.transmitted = live.transmitted) (inside : later.inside = live.inside)
    (results : later.results = live.results) : Counted start later where
  settings := settings.trans counted.settings
  since := Nat.le_trans counted.since passed
  able := by rw [transmitted]; exact counted.able
  inside := by
    intro stage here
    have counting := counted.inside stage (inside ▸ here)
    cases stage with
    | checking | connecting | numbering => trivial
    | registering => exact counting
    | transmitting dispatch =>
      obtain ⟨count, more, made, repeats⟩ := counting
      exact ⟨count, more, made, transmitted ▸ repeats.dwindle dwindles⟩
    | waiting dispatch | retrying dispatch | expiring dispatch =>
      exact ⟨counting.1, transmitted ▸ counting.2.dwindle dwindles⟩
    | leaving ticket error =>
      have ends := counting.2.later passed []
      rw [List.append_nil, ← transmitted] at ends
      exact ⟨counting.1, ends⟩
  results := by
    intro result mem
    have ends := (counted.results result (results ▸ mem)).later passed []
    rwa [List.append_nil, ← transmitted] at ends

theorem Counted.finish (counted : Counted start live) (tracker : Tracker)
    {result : Except Failure Response}
    (ends : Ends start.config live.session.clock live.transmitted result) :
    Counted start ((live.track tracker).finish result) where
  settings := counted.settings
  since := counted.since
  able := counted.able
  inside := by rintro _ ⟨⟩
  results := by
    intro earlier mem
    obtain mem | mem := List.mem_append.1 mem
    · exact counted.results earlier mem
    · rw [List.mem_singleton.1 mem]
      exact ends

theorem Counted.stand (counted : Counted start live) (tracker : Tracker) {stage : Stage}
    (counting : Counting start (live.track tracker) stage) :
    Counted start ((live.track tracker).stand stage) where
  settings := counted.settings
  since := counted.since
  able := counted.able
  inside := by
    rintro _ ⟨⟩
    exact counting
  results := counted.results

theorem Repeats.again {tracker : Tracker} {transmitted : List Bytes} {dispatch : Dispatch}
    {count : Nat} (repeats : Repeats start tracker transmitted dispatch count) :
    Repeats start tracker (transmitted ++ [dispatch.wire]) dispatch (count + 1) := by
  refine { repeats with last := ?_ }
  obtain ⟨before, rfl⟩ := repeats.last
  exact ⟨before, by rw [List.replicate_succ', List.append_assoc]⟩

theorem Counted.transmit (counted : Counted start live) {dispatch : Dispatch} {count : Nat}
    (more : dispatch.made ≤ start.config.attempts) (made : dispatch.made = count + 1)
    (repeats : Repeats start live.session.tracker live.transmitted dispatch count) :
    Counted start ((live.transmit dispatch.wire).stand (.waiting dispatch)) where
  settings := counted.settings
  since := counted.since
  able := fun _ => ⟨repeats.fits, repeats.dated⟩
  inside := by
    rintro _ ⟨⟩
    refine ⟨more, ?_⟩
    rw [made]
    exact repeats.again
  results := fun result mem => (counted.results result mem).later (Nat.le_refl _) _

theorem Repeats.ends {tracker : Tracker} {clock : Moment} {transmitted : List Bytes}
    {dispatch : Dispatch}
    (repeats : Repeats start tracker transmitted dispatch start.config.attempts) :
    Ends start.config clock transmitted
      (.error (.error
        (.noResponse dispatch.command.name dispatch.command.target start.config.attempts))) := by
  obtain ⟨seq, wire⟩ := repeats.wire
  exact .exhausted repeats.fits dispatch.command seq (wire ▸ repeats.last.isInfix)

theorem Repeats.again_few {tracker : Tracker} {transmitted : List Bytes} {dispatch : Dispatch}
    {count : Nat} (repeats : Repeats start tracker transmitted dispatch count)
    (more : dispatch.made < start.config.attempts) {retried : Retried} {after : Tracker}
    (counted : tracker.retry dispatch.ticket.seq dispatch.deadline = (retried, after)) :
    retried ≠ .overflow ∧
      ∀ request, (after.slot dispatch.ticket.seq).pending = some request →
        request.retries < dispatch.made + 1 := by
  cases pending : (tracker.slot dispatch.ticket.seq).pending with
  | none =>
    have free : tracker.isPending dispatch.ticket.seq = false := by
      rw [Tracker.isPending, pending]
      rfl
    rw [Tracker.retry_of_free free] at counted
    cases counted
    refine ⟨by decide, fun request found => ?_⟩
    cases pending.symm.trans found
  | some request =>
    have few := repeats.few request pending
    have room : request.retries + 1 < UInt32.size :=
      Nat.lt_of_le_of_lt (Nat.le_trans few (Nat.le_of_lt more)) repeats.fits
    have again := PendingRequest.again?_of_lt room dispatch.deadline
    rw [Tracker.retry_of_again pending again] at counted
    cases counted
    refine ⟨Retried.noConfusion, fun request found => ?_⟩
    rw [Tracker.slot_update_self] at found
    cases found
    rw [(PendingRequest.again?_eq_some again).2]
    exact Nat.succ_lt_succ few

theorem undated_of_none (counted : Counted start live) (none : live.session.deadline? = none) :
    Moment.limit ≤ live.session.clock + start.config.timeout.nanoseconds := by
  rw [← counted.settings]
  exact Moment.after?_eq_none_iff.1 none

theorem dated_of_some (counted : Counted start live) {deadline : Moment}
    (found : live.session.deadline? = some deadline) : start.Dated 0 := by
  have told := (Moment.after?_eq_some_iff.1 found).1
  rw [counted.settings] at told
  rw [Session.dated_zero_iff, Session.deadline]
  exact Nat.lt_of_le_of_lt (Nat.add_le_add_right counted.since _) told

theorem dwindles_wait (live : LiveSession) (ticket : Ticket) :
    live.session.tracker.Dwindles (live.wait ticket).2 := by
  unfold wait
  split
  · exact fun _ _ => id
  · exact live.session.tracker.dwindles_wait ticket

theorem Counted.step (counted : Counted start live) {stage : Stage}
    (inside : live.inside = some stage) : Counted start (live.step stage) := by
  have counting := counted.inside stage inside
  -- `Repeats` goes from stage to stage as long as the request may be transmitted again.
  cases stage with
  | checking command =>
    rw [LiveSession.step]
    split
    · exact counted.finish live.session.tracker .closed
    · exact counted.stand live.session.tracker trivial
  | connecting command =>
    rw [LiveSession.step]
    split
    · exact counted.stand live.session.tracker trivial
    · exact counted.finish live.session.tracker .closed
  | numbering command =>
    simp only [LiveSession.step, counted.settings]
    split
    · rename_i none
      refine counted.finish _ (.uncounted fun fits => ?_)
      cases none.symm.trans (Session.attemptBound?_of_bounded fits)
    · rename_i bound found
      exact counted.stand _ (Session.toNat_attemptBound? found)
  | registering command seq bound =>
    obtain ⟨fits, rfl⟩ := counting
    simp only [LiveSession.step]
    split
    · rename_i none
      exact counted.finish live.session.tracker (.undated fits (undated_of_none counted none))
    · rename_i deadline found
      refine counted.stand _ ⟨0, Nat.succ_pos _, rfl, fits, dated_of_some counted found, rfl,
        ⟨seq, rfl⟩, List.nil_suffix, ?_⟩
      intro request pending
      simp only [Tracker.register, track, Tracker.slot_update_self, Slot.register] at pending
      cases pending
      exact Nat.one_pos
  | transmitting dispatch =>
    obtain ⟨count, more, made, repeats⟩ := counting
    exact counted.transmit (made ▸ more) made repeats
  | waiting dispatch =>
    obtain ⟨most, repeats⟩ := counting
    have repeats := repeats.dwindle (dwindles_wait live dispatch.ticket)
    rw [LiveSession.step]
    split
    · exact counted.finish _ (.answered repeats.fits _)
    · exact counted.stand _ ⟨repeats.fits, .closed⟩
    · rename_i tracker waited
      rw [waited] at repeats
      split
      · exact counted
      · split
        · rename_i last
          rw [repeats.bound] at last
          exact counted.stand _ ⟨Nat.le_antisymm most last, repeats⟩
        · rename_i more
          rw [repeats.bound] at more
          split
          · rename_i none
            exact counted.finish _ (.undated repeats.fits (undated_of_none counted none))
          · refine counted.stand _ ⟨Nat.lt_of_not_le more, ?_⟩
            exact { repeats with }
  | retrying dispatch =>
    obtain ⟨more, repeats⟩ := counting
    rw [LiveSession.step]
    split <;> rename_i tracker retried
    · exact absurd rfl (repeats.again_few more retried).1
    · exact counted.stand _ ⟨repeats.fits, .closed⟩
    · refine counted.stand _ ⟨dispatch.made, more, rfl, ?_⟩
      exact { repeats with few := (repeats.again_few more retried).2 }
  | expiring dispatch =>
    obtain ⟨all, repeats⟩ := counting
    refine counted.stand _ ⟨repeats.fits, ?_⟩
    rw [all] at repeats ⊢
    exact repeats.ends
  | leaving ticket error =>
    obtain ⟨fits, ends⟩ := counting
    rw [LiveSession.step]
    split
    · exact counted.finish _ (.answered fits _)
    · exact counted.finish _ ends

theorem Counted.move (counted : Counted start live) (move : Move) :
    Counted start (live.move move) := by
  have still : live.session.tracker.Dwindles live.session.tracker := fun _ _ => id
  cases move with
  | call command => exact counted.beside rfl (Nat.le_refl _) still rfl rfl rfl
  | enter i =>
    rw [LiveSession.move]
    split
    · refine ⟨counted.settings, counted.since, counted.able, ?_, counted.results⟩
      rintro _ ⟨⟩
      trivial
    · exact counted
  | advance =>
    rw [LiveSession.move]
    cases inside : live.inside with
    | none =>
      rw [advance_of_free inside]
      exact counted
    | some stage =>
      rw [advance_of_inside inside]
      exact counted.step inside
  | receive datagram =>
    rw [LiveSession.move]
    unfold receive
    split
    · exact counted.beside rfl (Nat.le_refl _) still rfl rfl rfl
    · exact counted.beside rfl (Nat.le_refl _) still rfl rfl rfl
    · rename_i datagram _
      have same := (live.session.reception_accept datagram).session_eq
      have config := congrArg Session.config same
      have clock := congrArg Session.clock same
      exact counted.beside config (Nat.le_of_eq clock.symm) (live.session.dwindles_accept datagram)
        rfl rfl rfl
    · exact counted.beside rfl (Nat.le_refl _) still rfl rfl rfl
    · exact counted
  | close =>
    rw [LiveSession.move]
    unfold LiveSession.close
    split
    · exact counted.beside rfl (Nat.le_refl _) still rfl rfl rfl
    · exact counted.beside rfl (Nat.le_refl _) still rfl rfl rfl
    · split
      · exact counted.beside rfl (Nat.le_refl _) still rfl rfl rfl
      · exact counted
    · exact counted.beside rfl (Nat.le_refl _) still rfl rfl rfl
    · refine counted.beside rfl (Nat.le_refl _) ?_ rfl rfl rfl
      dsimp only
      exact live.session.tracker.dwindles_failAll
    · exact counted
  | tick time => exact counted.beside rfl (Nat.le_add_right _ _) still rfl rfl rfl

theorem Counted.after (counted : Counted start live) (moves : List Move) :
    Counted start (live.after moves) := by
  induction moves generalizing live with
  | nil => exact counted
  | cons first rest ih => exact ih (counted.move first)

theorem counted_of_unused (same : live.session = start) (nothing : live.inside = none)
    (results : live.results = []) (transmitted : live.transmitted = []) : Counted start live := by
  refine ⟨congrArg Session.config same, Nat.le_of_eq (congrArg Session.clock same.symm),
    fun more => absurd transmitted more, ?_, ?_⟩
  · rw [nothing]
    rintro _ ⟨⟩
  · rw [results]
    rintro _ ⟨⟩

end LiveSession

/-! ## A whole command -/

namespace Session

open LiveSession (Ends Counted)

theorem ends_send (session : Session) (command : Command) (during late : Nat → List Happening) :
    Ends session.config (session.send command during late).session.clock
      (session.send command during late).requests (session.send command during late).result := by
  obtain ⟨moves, sent⟩ := send_leads session command during late ⟨[], [], []⟩
  have unused : Counted session (session.live none ⟨[], [], []⟩) :=
    LiveSession.counted_of_unused rfl rfl rfl rfl
  have counted := unused.after moves
  rw [sent] at counted
  exact counted.results _ (List.mem_singleton.2 rfl)

variable {session : Session} {command : Command} {during late : Nat → List Happening}

theorem ne_deadlineOverflow_of_dated {seq : UInt8} {abort : Abort} {after : Session}
    (dated : session.Dated 0) (retried : session.retry seq = (.error abort, after)) :
    abort ≠ .deadlineOverflow := by
  rw [retry, deadline?_of_dated dated] at retried
  dsimp only at retried
  split at retried <;> cases retried
  decide

theorem not_stopped_conclude (session : Session) (ticket : Ticket) (wire : Bytes)
    (forwarded : List Bytes) (error : SessionError) :
    ¬ (session.conclude ticket wire forwarded error).Stopped := by
  unfold conclude
  split <;> nofun

theorem attempt_lasts {wire : Bytes} {ticket : Ticket} {retries : Nat} (dated : session.Dated retries)
    (made : Nat) : ¬ (session.attempt command wire ticket during late retries made).Stopped := by
  -- On the retries that are left: a wait in vain brings the last deadline one attempt closer.
  induction retries generalizing session made with
  | zero =>
    cases waited : (session.happenAll (during made)).1.tracker.wait ticket with
    | mk outcome tracker =>
    cases outcome with
    | response response => exact attempt_of_response waited ▸ nofun
    | dropped => exact attempt_of_dropped waited ▸ not_stopped_conclude _ _ _ _ _
    | timeout => exact attempt_zero_of_timeout waited rfl ▸ not_stopped_conclude _ _ _ _ _
  | succ retries ih =>
    cases waited : (session.happenAll (during made)).1.tracker.wait ticket with
    | mk outcome tracker =>
    cases outcome with
    | response response => exact attempt_of_response waited ▸ nofun
    | dropped => exact attempt_of_dropped waited ▸ not_stopped_conclude _ _ _ _ _
    | timeout =>
      cases vain : (session.happenAll (during made)).1.inVain tracker (late made) with
      | mk overdue missed =>
      obtain ⟨clock, config⟩ := clock_of_vain vain
      have later : overdue.Dated retries := (dated_after_wait clock config retries).2 dated
      cases retried : overdue.retry ticket.seq with
      | mk outcome after =>
      cases outcome with
      | error abort =>
        rw [attempt_succ_of_abort waited vain retried]
        intro stopped
        refine ne_deadlineOverflow_of_dated (later.of_le (Nat.zero_le _)) retried ?_
        cases stopped
        rfl
      | ok pending =>
      cases pending with
      | false => exact attempt_succ_of_free waited vain retried ▸ not_stopped_conclude _ _ _ _ _
      | true =>
        have same := sameTime_retry retried
        have dated : after.Dated retries := by
          rwa [Dated, same.clock, same.config]
        rw [attempt_succ_of_pending waited vain retried]
        exact ih dated (made + 1)

theorem send_lasts (dated : session.Dated session.config.retries.toNat) :
    ¬ (session.send command during late).Stopped := by
  cases isClosed : session.closed with
  | true => exact send_of_closed isClosed command during late ▸ nofun
  | false =>
    by_cases bounded : session.config.retries.toNat + 1 < UInt32.size
    · rw [send_of_dated isClosed bounded (dated.of_le (Nat.zero_le _))]
      have dated : session.registered.2.Dated session.config.retries.toNat := dated
      exact attempt_lasts dated 0
    · exact send_of_overflow isClosed bounded command during late ▸ nofun

theorem uncounted_send_iff :
    (session.send command during late).result = .error (.abort .attemptBoundOverflow) ↔
      session.closed = false ∧ ¬ session.config.attempts < UInt32.size := by
  constructor
  · intro aborted
    have ends := ends_send session command during late
    rw [aborted] at ends
    cases ends with
    | uncounted overflow =>
      refine ⟨?_, overflow⟩
      cases isClosed : session.closed with
      | false => rfl
      | true =>
        rw [send_of_closed isClosed] at aborted
        cases aborted
  · rintro ⟨isOpen, overflow⟩
    exact congrArg Exchange.result (send_of_overflow isOpen overflow command during late)

theorem aborted_cases {abort : Abort}
    (aborted : (session.send command during late).result = .error (.abort abort)) :
    abort = .attemptBoundOverflow ∨ abort = .deadlineOverflow := by
  have ends := ends_send session command during late
  rw [aborted] at ends
  cases ends with
  | uncounted => exact .inl rfl
  | undated => exact .inr rfl

theorem aborted_arrivals_iff (isOpen : session.closed = false) (command : Command)
    (early late : Nat → List Bytes) :
    (∃ abort, (session.send command (arrivals early) (arrivals late)).result =
        .error (.abort abort)) ↔
      ¬ session.config.attempts < UInt32.size ∨
        ∃ n ≤ session.config.retries.toNat,
          Reached session.tracker.next.1 early late n ∧ ¬ session.Dated n := by
  by_cases fits : session.config.attempts < UInt32.size
  · rw [or_iff_right (not_not_intro fits), ← stopped_send_iff isOpen fits command]
    constructor
    · rintro ⟨abort, aborted⟩
      obtain rfl | rfl := aborted_cases aborted
      · exact absurd fits (uncounted_send_iff.1 aborted).2
      · exact aborted
    · exact fun stopped => ⟨_, stopped⟩
  · exact iff_of_true ⟨_, uncounted_send_iff.2 ⟨isOpen, fits⟩⟩ (.inl fits)

theorem reached_of_silent {seq : UInt8} {early late : Nat → List Bytes} {last : Nat}
    (silent : ∀ k ≤ last, answer? seq (early k ++ late k) = none) : Reached seq early late last := by
  cases last with
  | zero => trivial
  | succ n =>
    exact ⟨fun j less => silent j (Nat.le_succ_of_le (Nat.le_of_lt less)),
      silent_of_append (silent n (Nat.le_succ n))⟩

theorem able_of_silent (isOpen : session.closed = false) (command : Command)
    {early late : Nat → List Bytes}
    (silent : ∀ k ≤ session.config.retries.toNat,
      answer? session.tracker.next.1 (early k ++ late k) = none)
    (lasts : ∀ abort, (session.send command (arrivals early) (arrivals late)).result ≠
      .error (.abort abort)) :
    session.config.attempts < UInt32.size ∧ session.Dated session.config.retries.toNat := by
  have never := mt (aborted_arrivals_iff isOpen command early late).2 fun ⟨abort, aborted⟩ =>
    lasts abort aborted
  rw [not_or, Decidable.not_not] at never
  obtain ⟨fits, dated⟩ := never
  refine ⟨fits, Decidable.byContradiction fun undated => dated ⟨_, Nat.le_refl _, ?_, undated⟩⟩
  exact reached_of_silent silent

theorem never_aborted_iff (session : Session) (command : Command) :
    (∀ during late abort, (session.send command during late).result ≠ .error (.abort abort)) ↔
      session.closed = true ∨ session.config.attempts < UInt32.size ∧
        session.Dated session.config.retries.toNat := by
  constructor
  · intro never
    cases isClosed : session.closed with
    | true => exact .inl rfl
    | false =>
      have silent : ∀ k ≤ session.config.retries.toNat,
          answer? session.tracker.next.1 ([] ++ []) = none := fun _ _ => rfl
      have lasts := never (arrivals fun _ => []) (arrivals fun _ => [])
      exact .inr (able_of_silent isClosed command silent lasts)
  · rintro may during late abort aborted
    obtain rfl | rfl := aborted_cases aborted
    · obtain ⟨isOpen, overflow⟩ := uncounted_send_iff.1 aborted
      obtain isClosed | ⟨fits, -⟩ := may
      · cases isOpen.symm.trans isClosed
      · exact overflow fits
    · obtain isClosed | ⟨-, dated⟩ := may
      · rw [send_of_closed isClosed] at aborted
        cases aborted
      · exact send_lasts dated aborted

theorem unanswered_iff (isOpen : session.closed = false) {early late : Nat → List Bytes}
    (silent : ∀ k ≤ session.config.retries.toNat,
      answer? session.tracker.next.1 (early k ++ late k) = none) :
    let exchange := session.send command (arrivals early) (arrivals late)
    exchange.requests = List.replicate session.config.attempts
          (command.request session.tracker.next.1).encode ∧
        exchange.result =
          .error (.error (.noResponse command.name command.target session.config.attempts)) ↔
      session.config.attempts < UInt32.size ∧ session.Dated session.config.retries.toNat := by
  intro exchange
  constructor
  · rintro ⟨-, result⟩
    refine able_of_silent isOpen command silent fun abort aborted => ?_
    cases result.symm.trans aborted
  · rintro ⟨fits, dated⟩
    exact (completes_of_not_stopped isOpen fits (send_lasts dated)).unanswered silent

/-- Every number of retries can be set, and read from a document.  Along every run of the threads the
commands end as `Ends` says, and nothing is transmitted if the retries are the greatest number or the
first deadline has no representation.  For the greatest number the count of attempts does not fit into 32
bits: every command that an open session is given stops the program with a sequence number used up,
whatever happens.  Otherwise a command of an open session that is not answered is transmitted once more
than the retries, unless one of its deadlines has no representation, and that is all that can stop the
program. -/
theorem attempts_made_iff (session : Session) (command : Command) :
    let config := session.config
    let seq := session.tracker.next.1
    (∀ retries : UInt32,
      SessionConfig.ofDocument? (.record [("retries", .ofNat retries.toNat)]) =
        some (SessionConfig.default.withRetries retries)) ∧
    (∀ moves, let live := (LiveSession.ofSession session).after moves
      (∀ result ∈ live.results, Ends config live.session.clock live.transmitted result) ∧
        (config.retries = 0xFFFFFFFF ∨ ¬ session.Dated 0 → live.transmitted = [])) ∧
    (∀ during late,
      (session.send command during late).result = .error (.abort .attemptBoundOverflow) ↔
        session.closed = false ∧ config.retries = 0xFFFFFFFF) ∧
    ((∀ during late abort, (session.send command during late).result ≠ .error (.abort abort)) ↔
      session.closed = true ∨
        config.retries ≠ 0xFFFFFFFF ∧ session.Dated config.retries.toNat) ∧
    (session.closed = false →
      (∀ early late,
        (∃ abort, (session.send command (arrivals early) (arrivals late)).result =
            .error (.abort abort)) ↔
          config.retries = 0xFFFFFFFF ∨
            ∃ n ≤ config.retries.toNat, Reached seq early late n ∧ ¬ session.Dated n) ∧
      (∀ early late, (∀ k ≤ config.retries.toNat, answer? seq (early k ++ late k) = none) →
        let exchange := session.send command (arrivals early) (arrivals late)
        (exchange.requests = List.replicate config.attempts (command.request seq).encode ∧
            exchange.result =
              .error (.error (.noResponse command.name command.target config.attempts)) ↔
          config.retries ≠ 0xFFFFFFFF ∧ session.Dated config.retries.toNat)) ∧
      (config.retries = 0xFFFFFFFF → ∀ during late,
        session.send command during late =
          ⟨{ session with tracker := session.tracker.next.2 }, [], [],
            .error (.abort .attemptBoundOverflow)⟩) ∧
      (config.retries ≠ 0xFFFFFFFF → ¬ session.Dated 0 → ∀ during late,
        session.send command during late =
          ⟨{ session with tracker := session.tracker.next.2 }, [], [],
            .error (.abort .deadlineOverflow)⟩)) := by
  intro config seq
  have fits := config.attempts_lt_iff
  have overflows : ¬ config.attempts < UInt32.size ↔ config.retries = 0xFFFFFFFF := by
    rw [fits, ne_eq, Decidable.not_not]
  refine ⟨SessionConfig.ofDocument?_retries, ?_, ?_, ?_, fun isOpen => ⟨?_, ?_, ?_, ?_⟩⟩
  · intro moves live
    have unused : Counted session (LiveSession.ofSession session) :=
      LiveSession.counted_of_unused rfl rfl rfl rfl
    have counted := unused.after moves
    refine ⟨counted.results, fun unable => Decidable.byContradiction fun more => ?_⟩
    obtain ⟨able, dated⟩ := counted.able more
    exact unable.elim (fun greatest => overflows.2 greatest able) fun undated => undated dated
  · intro during late
    rw [uncounted_send_iff, overflows]
  · rw [never_aborted_iff, fits]
  · intro early late
    rw [aborted_arrivals_iff isOpen, overflows]
  · intro early late silent exchange
    rw [← fits]
    exact unanswered_iff isOpen silent
  · intro greatest during late
    exact send_of_overflow isOpen (overflows.2 greatest) command during late
  · intro notGreatest undated during late
    exact send_of_undated isOpen (fits.2 notGreatest) undated command during late

/-- The most retries for which there is room, and nothing is heard; and one retry more. -/
theorem attempts_made_iff_most :
    let config := SessionConfig.default.withRetries 0xFFFFFFFE
    let session : Session := ⟨⟨anyEndpoint, none⟩, config, .startingAt 7, false, true, 0⟩
    let stuck := { session with config := SessionConfig.default.withRetries 0xFFFFFFFF }
    let command : Command := ⟨"query level", 0xAA, .gear 3, .basic 3 0 0 0⟩
    let exchange := session.send command (arrivals fun _ => []) (arrivals fun _ => [])
    (session.closed = false ∧ config.retries ≠ 0xFFFFFFFF ∧
        session.Dated config.retries.toNat ∧
        ∀ k ≤ config.retries.toNat, answer? 7 ([] ++ []) = none) ∧
      exchange.requests = List.replicate 4294967295 (command.request 7).encode ∧
      exchange.result =
        .error (.error (.noResponse command.name command.target 4294967295)) ∧
      (stuck.closed = false ∧ stuck.config.retries = 0xFFFFFFFF) ∧
      (stuck.send command fun _ => [.closing]).result = .error (.abort .attemptBoundOverflow) := by
  intro config session stuck command exchange
  have silent : ∀ k ≤ config.retries.toNat, answer? 7 ([] ++ []) = none := fun _ _ => rfl
  have notGreatest : config.retries ≠ 0xFFFFFFFF := by decide
  have dated : session.Dated config.retries.toNat := by decide
  obtain ⟨-, -, -, -, opened⟩ := attempts_made_iff session command
  obtain ⟨-, exact, -⟩ := opened rfl
  obtain ⟨requests, result⟩ := (exact (fun _ => []) (fun _ => []) silent).2 ⟨notGreatest, dated⟩
  obtain ⟨-, -, -, -, openedStuck⟩ := attempts_made_iff stuck command
  have refused := (openedStuck rfl).2.2.1 rfl (fun _ => [.closing]) fun _ => []
  exact ⟨⟨rfl, notGreatest, dated, silent⟩, requests, result, ⟨rfl, rfl⟩,
    congrArg Exchange.result refused⟩

/-- A document that asks for the greatest number of retries is accepted.  The session opened with it
transmits nothing, although the first attempt would be answered, and stops the program. -/
theorem greatest_retries_abort :
    let config := SessionConfig.default.withRetries 0xFFFFFFFF
    let start : Session := ⟨⟨anyEndpoint, none⟩, config, .startingAt 0, false, true, 0⟩
    let command : Command := ⟨"query level", 0xAA, .gear 3, .basic 3 0 0 0⟩
    let answered := fun i => if i = 0 then [[0xA0, 0, 0, 0xA0]] else []
    let exchange := start.send command (arrivals answered)
    let unanswered := start.send command (arrivals fun _ => [])
    SessionConfig.ofDocument? (.record [("retries", .number 4294967295)]) = some config ∧
      Session.opened .networked ⟨anyEndpoint, none⟩ config true = .ok start ∧
      answer? start.tracker.next.1 (answered 0) = some ⟨.ok, 0, []⟩ ∧
      exchange.requests = [] ∧ exchange.result = .error (.abort .attemptBoundOverflow) ∧
      unanswered.requests.length ≠ config.attempts ∧
      unanswered.result = .error (.abort .attemptBoundOverflow) := by
  intro config start command answered exchange unanswered
  have overflow : ¬ start.config.retries.toNat + 1 < UInt32.size := by decide
  have refused (during : Nat → List Happening) :=
    send_of_overflow rfl overflow command during fun _ => []
  have read : SessionConfig.ofDocument? (.record [("retries", .number 4294967295)]) = some config :=
    SessionConfig.ofDocument?_retries 0xFFFFFFFF
  have nothing : unanswered.requests = [] := congrArg Exchange.requests (refused _)
  refine ⟨read, rfl, by decide, congrArg Exchange.requests (refused _),
    congrArg Exchange.result (refused _), ?_, congrArg Exchange.result (refused _)⟩
  rw [nothing]
  exact (Nat.succ_ne_zero _).symm

end Session

end LightingControl
