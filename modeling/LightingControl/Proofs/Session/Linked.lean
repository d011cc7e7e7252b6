import LightingControl.Proofs.Listener.Events
import LightingControl.Proofs.Session.Steps
/-!
# A session whose sink is a listener

A listener gets the strays of a session, and besides them the datagrams of its own sockets and of other
sessions.  A move is a step of one of the session's threads, together with what it hands over, or a call
to the listener.  What a session hands over leaves it unchanged, so nothing is lost by taking the two as
one move.
-/

set_option autoImplicit false

namespace LightingControl

namespace LiveSession

def logging (live : LiveSession) (forwarded : List Bytes) : LiveSession :=
  { live with forwarded }

@[simp] theorem session_logging (live : LiveSession) (log : List Bytes) :
    (live.logging log).session = live.session := rfl

@[simp] theorem wait_logging (live : LiveSession) (log : List Bytes) (ticket : Ticket) :
    (live.logging log).wait ticket = live.wait ticket := rfl

@[simp] theorem take_logging (live : LiveSession) (log : List Bytes) (ticket : Ticket) :
    (live.logging log).take ticket = live.take ticket := rfl

theorem results_of_logging {live other : LiveSession} {log : List Bytes}
    (same : live = other.logging log) : live.results = other.results := by
  rw [same]
  rfl

theorem step_logging (live : LiveSession) (log : List Bytes) (stage : Stage) :
    (live.logging log).step stage = (live.step stage).logging log := by
  cases stage with
  | checking command | connecting command =>
    rw [step, step, apply_ite (logging · log)]
    rfl
  | numbering command =>
    simp only [step, session_logging]
    cases Session.attemptBound? live.session.config.retries <;> rfl
  | registering command seq bound =>
    simp only [step, session_logging]
    cases live.session.deadline? <;> rfl
  | transmitting dispatch => rfl
  | waiting dispatch =>
    simp only [step, session_logging, wait_logging]
    cases live.wait dispatch.ticket with
    | mk waited tracker =>
      cases waited with
      | response response => rfl
      | dropped => rfl
      | timeout =>
        simp only [apply_ite (logging · log)]
        cases live.session.deadline? <;> rfl
  | retrying dispatch =>
    simp only [step, session_logging]
    cases live.session.tracker.retry dispatch.ticket.seq dispatch.deadline with
    | mk retried tracker => cases retried <;> rfl
  | expiring dispatch => rfl
  | leaving ticket error =>
    simp only [step, take_logging]
    cases live.take ticket with
    | mk response tracker => cases response <;> rfl

def reads (live : LiveSession) : Move → List Bytes
  | .receive (some datagram) => if live.receiver = .listening then [datagram] else []
  | .receive none | .call _ | .enter _ | .advance | .close | .tick _ => []

def handsOver (live : LiveSession) (move : Move) : List Bytes :=
  (live.reads move).flatMap fun datagram => (live.session.accept datagram).2

theorem advance_logging (live : LiveSession) (log : List Bytes) :
    (live.logging log).advance = live.advance.logging log := by
  cases inside : live.inside with
  | none =>
    have sameInside : (live.logging log).inside = none := inside
    rw [advance_of_free inside, advance_of_free sameInside]
  | some stage =>
    have sameInside : (live.logging log).inside = some stage := inside
    rw [advance_of_inside inside, advance_of_inside sameInside, step_logging]

theorem close_logging (live : LiveSession) (log : List Bytes) :
    (live.logging log).close = live.close.logging log := by
  cases closing : live.closing with
  | signalled =>
    rw [close, close, closing, show (live.logging log).closing = .signalled from closing]
    dsimp only
    rw [apply_ite (logging · log)]
    rfl
  | _ => simp only [close, logging, closing]

theorem receive_logging (live : LiveSession) (log : List Bytes) (datagram : Option Bytes) :
    (live.logging log).receive datagram =
      (live.receive datagram).logging (log ++ live.handsOver (.receive datagram)) := by
  cases datagram <;> cases receiver : live.receiver <;>
    simp [receive, logging, receiver, handsOver, reads]
  rfl

/-- A move adds to the record what it hands over, and does not look at it. -/
theorem move_logging (live : LiveSession) (log : List Bytes) (move : Move) :
    (live.logging log).move move = (live.move move).logging (log ++ live.handsOver move) := by
  have idle (nothing : live.reads move = [])
      (same : (live.logging log).move move = (live.move move).logging log) :
      (live.logging log).move move = (live.move move).logging (log ++ live.handsOver move) := by
    rw [handsOver, nothing, List.flatMap_nil, List.append_nil]
    exact same
  cases move with
  | receive datagram => exact receive_logging live log datagram
  | call command => exact idle rfl rfl
  | enter i =>
    refine idle rfl ?_
    cases inside : live.inside <;> cases queued : live.queue[i]? <;>
      simp only [LiveSession.move, logging, inside, queued]
  | advance => exact idle rfl (advance_logging live log)
  | close => exact idle rfl (close_logging live log)
  | tick time => exact idle rfl rfl

theorem handsOver_eq {live : LiveSession} (sink : live.session.hasSink = true) (move : Move) :
    live.handsOver move = (live.reads move).filter live.session.isStray := by
  rw [handsOver]
  generalize live.reads move = datagrams
  induction datagrams with
  | nil => rfl
  | cons first rest ih =>
    rw [List.flatMap_cons, ih, Session.forwarded_accept, Session.sinkAll, if_pos sink, List.filter_cons]
    split <;> rfl

theorem isStray_of_isEvent (session : Session) {datagram : Bytes} (event : isEvent datagram = true) :
    session.isStray datagram = true := by
  obtain ⟨notification, parsed⟩ := notification_of_isEvent event
  rw [Session.isStray, parsed]

theorem filter_handsOver {live : LiveSession} (sink : live.session.hasSink = true) (move : Move) :
    (live.handsOver move).filter isEvent = (live.reads move).filter isEvent := by
  rw [handsOver_eq sink, List.filter_filter]
  refine List.filter_congr fun datagram _ => ?_
  cases event : isEvent datagram with
  | true => rw [isStray_of_isEvent _ event]; rfl
  | false => rfl

theorem receive_of_isEvent (live : LiveSession) {datagram : Bytes} (event : isEvent datagram = true) :
    ∃ log, live.receive (some datagram) = (live.receive none).logging log := by
  obtain ⟨notification, parsed⟩ := notification_of_isEvent event
  cases receiver : live.receiver with
  | checking => exact ⟨live.forwarded, by simp [receive, receiver, logging]⟩
  | listening =>
    refine ⟨live.forwarded ++ live.session.sinkOf datagram, ?_⟩
    have goesOn : live.receiverAfter datagram = .checking := by
      simp only [receiverAfter, Session.fate_eq, parsed]
    simp [receive, receiver, logging, Session.accept_of_notification parsed, goesOn]
  | delivering ticket => exact ⟨live.forwarded, by simp [receive, receiver, logging]⟩
  | stopped =>
    refine ⟨live.forwarded, ?_⟩
    simp only [receive, receiver]
    rfl

end LiveSession

/-- A session and the listener that is its sink. -/
structure LinkedSession where
  live : LiveSession
  listener : Listener

namespace LinkedSession

inductive Move where
  | session (now : Moment) (source : Endpoint) (move : LiveSession.Move)
  | listener (call : Listener.Call)

def asks (linked : LinkedSession) : Move → List Listener.Call
  | .session now source move =>
    (linked.live.handsOver move).map fun datagram => .ingest now datagram source
  | .listener call => [call]

def move (linked : LinkedSession) : Move → LinkedSession
  | .session now source move =>
    ⟨linked.live.move move, linked.listener.after (linked.asks (.session now source move))⟩
  | .listener call => ⟨linked.live, linked.listener.call call⟩

def after (linked : LinkedSession) (moves : List Move) : LinkedSession :=
  moves.foldl move linked

def dispatches (linked : LinkedSession) (move : Move) : List Event :=
  linked.listener.along Listener.dispatched (linked.asks move)

/-- The arrival of event datagrams, read by the session or passed to the listener, and all else that is
asked of the listener. -/
def brings (linked : LinkedSession) : Move → List Listener.Call
  | .session now source move =>
    ((linked.live.reads move).filter isEvent).map fun datagram => .ingest now datagram source
  | .listener call => Listener.ofEvents [call]

theorem listener_move (linked : LinkedSession) (move : Move) :
    (linked.move move).listener = linked.listener.after (linked.asks move) := by
  cases move <;> rfl

theorem ofEvents_asks {linked : LinkedSession} (sink : linked.live.session.hasSink = true)
    (move : Move) : Listener.ofEvents (linked.asks move) = linked.brings move := by
  cases move with
  | session now source move =>
    rw [asks, brings, ← LiveSession.filter_handsOver sink, Listener.ofEvents, List.filter_map]
    rfl
  | listener call => rfl

theorem hasSink_move (linked : LinkedSession) (move : Move) :
    (linked.move move).live.session.hasSink = linked.live.session.hasSink := by
  cases move with
  | session now source move => exact linked.live.hasSink_move move
  | listener call => rfl

theorem hasSink_after (linked : LinkedSession) (moves : List Move) :
    (linked.after moves).live.session.hasSink = linked.live.session.hasSink := by
  induction moves generalizing linked with
  | nil => rfl
  | cons first rest ih => exact (ih (linked.move first)).trans (hasSink_move linked first)

/-- What the threads of the session do if the listener is left out and nothing arrives where an event
would. -/
def withoutEvents (moves : List Move) : List LiveSession.Move :=
  moves.filterMap fun
    | .session _ _ (.receive (some datagram)) =>
      some (.receive (if isEvent datagram then none else some datagram))
    | .session _ _ move => some move
    | .listener _ => none

theorem live_after (linked : LinkedSession) {other : LiveSession}
    (same : ∃ log, linked.live = other.logging log) (moves : List Move) :
    ∃ log, (linked.after moves).live = (other.after (withoutEvents moves)).logging log := by
  -- Along the moves the two sessions differ in what their sinks got, and in nothing else.
  induction moves generalizing linked other with
  | nil => exact same
  | cons first rest ih =>
    obtain ⟨log, same⟩ := same
    cases first with
    | listener call => exact ih _ ⟨log, same⟩
    | session now source move =>
      have moved : (linked.move (.session now source move)).live =
          (other.move move).logging (log ++ other.handsOver move) := by
        rw [← LiveSession.move_logging, ← same]
        rfl
      cases move with
      | receive datagram =>
        cases datagram with
        | none => exact ih _ ⟨_, moved⟩
        | some datagram =>
          have left : withoutEvents (.session now source (.receive (some datagram)) :: rest) =
              .receive (if isEvent datagram then none else some datagram) :: withoutEvents rest :=
            rfl
          rw [left, LiveSession.after_cons]
          cases event : isEvent datagram with
          | true =>
            obtain ⟨_, quiet⟩ := other.receive_of_isEvent event
            rw [show other.move (.receive (some datagram)) = _ from quiet] at moved
            exact ih _ ⟨_, moved⟩
          | false => exact ih _ ⟨_, moved⟩
      | call _ | enter _ | advance | close | tick _ => exact ih _ ⟨_, moved⟩

theorem listener_after {linked : LinkedSession} (sink : linked.live.session.hasSink = true)
    {other : Listener} {stats : ListenerStats} (same : linked.listener = other.counting stats)
    (moves : List Move) :
    (∃ later, (linked.after moves).listener =
        (other.after (observations move brings linked moves)).counting later) ∧
      observations move dispatches linked moves =
        other.along Listener.dispatched (observations move brings linked moves) := by
  -- The listeners differ in their counts only, and these decide about nothing.
  induction moves generalizing linked other stats with
  | nil => exact ⟨⟨stats, same⟩, rfl⟩
  | cons first rest ih =>
    obtain ⟨⟨later, now⟩, events⟩ :=
      Listener.after_ofEvents other stats (linked.asks first)
    rw [← same, ofEvents_asks sink] at now events
    obtain ⟨rest, later⟩ := ih ((hasSink_move linked first).trans sink)
      ((listener_move linked first).trans now)
    rw [observations, observations, Listener.after_append, Listener.along_append, ← later]
    exact ⟨rest, congrArg (· ++ _) events⟩

theorem listener_move_response (linked : LinkedSession)
    (sink : linked.live.session.hasSink = true) {datagram : Bytes} {response : Response}
    (parsed : Frame.parse datagram = .ok (.response response)) (now : Moment) (source : Endpoint) :
    (linked.move (.listener (.ingest now datagram source))).listener =
        linked.listener.counting (linked.listener.stats.count .ignored) ∧
      (linked.move (.session now source (.receive (some datagram)))).listener =
        if linked.live.receiver = .listening ∧
            linked.live.session.tracker.isPending response.seq = false then
          linked.listener.counting (linked.listener.stats.count .ignored)
        else linked.listener := by
  have ignored : (linked.listener.ingest now datagram source).2 =
      linked.listener.counting (linked.listener.stats.count .ignored) := by
    simp only [Listener.ingest, Listener.consider, parsed]
    rfl
  refine ⟨ignored, ?_⟩
  rw [listener_move, asks, LiveSession.handsOver_eq sink, LiveSession.reads]
  by_cases listening : linked.live.receiver = .listening
  · rw [if_pos listening]
    cases pending : linked.live.session.tracker.isPending response.seq with
    | true => simp [Session.isStray, parsed, pending]
    | false => simpa [Session.isStray, parsed, pending, listening, Listener.call] using ignored
  · simp [listening]

/-- An event that arrives on either path is dispatched unless the same bytes were let through, on either
path, less than the window ago. -/
theorem dispatches_event {linked : LinkedSession} (sink : linked.live.session.hasSink = true)
    {direct : Listener} {stats : ListenerStats} (same : linked.listener = direct.counting stats)
    {notification : Notification} {now : Moment} {datagram : Bytes} {source : Endpoint}
    {through : List Moment} (recalls : direct.Recalls notification.mac datagram now through)
    (parsed : Frame.parse datagram = .ok (.notification notification)) {move : Move}
    (brought : linked.brings move = [.ingest now datagram source]) :
    linked.dispatches move =
      if through.any fun time => now - time < direct.config.dedupWindow.nanoseconds then []
      else (Listener.decoded? datagram source).toList := by
  have duplicate : (direct.ingest now datagram source).1 = .duplicate ↔ _ :=
    (Listener.ingest_duplicate_iff parsed).trans (recalls.knows now (Nat.le_refl now))
  obtain ⟨-, events⟩ := Listener.after_ofEvents direct stats (linked.asks move)
  rw [dispatches, same, events, ofEvents_asks sink, brought, Listener.along_cons, Listener.along_nil,
    List.append_nil, Listener.dispatched_of_event _ _ _ (isEvent_of_parse parsed)]
  simp only [duplicate, List.any_eq_true, decide_eq_true_eq]

/-- The events leave everything about the session but the record of what its sink got as it would be
without them.  The responses leave everything about the listener but its counts as it is, and one for a
pending request does not get there.  Apart from its counts the listener is as if all events that arrive
on either path had been passed to it directly, and so are the events that it dispatches. -/
theorem flows_apart (live : LiveSession) (sink : live.session.hasSink = true)
    (config : ListenerConfig) (moves : List Move) :
    let start : LinkedSession := ⟨live, .ofConfig config⟩
    let linked := start.after moves
    let events := observations move brings start moves
    linked.live = (live.after (withoutEvents moves)).logging linked.live.forwarded ∧
      (∀ datagram response now source, Frame.parse datagram = .ok (.response response) →
        (linked.move (.listener (.ingest now datagram source))).listener =
            linked.listener.counting (linked.listener.stats.count .ignored) ∧
          (linked.move (.session now source (.receive (some datagram)))).listener =
            if linked.live.receiver = .listening ∧
                linked.live.session.tracker.isPending response.seq = false then
              linked.listener.counting (linked.listener.stats.count .ignored)
            else linked.listener) ∧
      (∀ sighting ∈ linked.listener.seen, isEvent sighting.datagram) ∧
      linked.listener =
        ((Listener.ofConfig config).after events).counting linked.listener.stats ∧
      observations move dispatches start moves =
        (Listener.ofConfig config).along Listener.dispatched events ∧
      ∀ now datagram source, isEvent datagram →
        (Listener.arrivalTimes events ++ [now]).Pairwise (· ≤ ·) →
        let window := config.dedupWindow.nanoseconds
        let through := (Listener.ofConfig config).along (Listener.passed datagram) events
        through.Pairwise (fun early late => early + window ≤ late) ∧
          ∀ move, linked.brings move = [.ingest now datagram source] →
            linked.dispatches move =
              if through.any fun time => now - time < window then []
              else (Listener.decoded? datagram source).toList := by
  intro start linked events
  have stillSink : linked.live.session.hasSink = true := (hasSink_after start moves).trans sink
  have fresh : start.listener = (Listener.ofConfig config).counting {} := rfl
  obtain ⟨⟨stats, same⟩, dispatched⟩ := listener_after sink fresh moves
  have counts : linked.listener.stats = stats := congrArg Listener.stats same
  refine ⟨?_, ?_, ?_, counts.symm ▸ same, dispatched, ?_⟩
  · obtain ⟨log, same⟩ := live_after start ⟨live.forwarded, rfl⟩ moves
    have logged : linked.live.forwarded = log := congrArg (fun live => live.forwarded) same
    exact logged.symm ▸ same
  · intro datagram response now source parsed
    exact listener_move_response linked stillSink parsed now source
  · intro sighting mem
    have mem : sighting ∈ ((Listener.ofConfig config).after events).seen :=
      (congrArg Listener.seen same) ▸ mem
    obtain old | event := Listener.mem_seen_of_after _ mem
    · exact absurd old List.not_mem_nil
    · exact event
  · intro now datagram source event ordered window through
    obtain ⟨notification, parsed⟩ := notification_of_isEvent event
    have recalls := Listener.recalls_after config parsed ordered
    have unchanged : ((Listener.ofConfig config).after events).config = config :=
      Listener.config_after _ events
    have apart := recalls.spaced
    rw [unchanged] at apart
    refine ⟨apart, fun move brought => ?_⟩
    have dispatches := dispatches_event stillSink same recalls parsed brought
    rwa [unchanged] at dispatches

/-- While a command waits, an event comes to the session and its copy to the listener, and then the
response. -/
theorem flows_apart_both_paths :
    let source : Endpoint := .v4 ⟨10, 0, 0, 5⟩ 6969
    let event := withChecksum (Notification.content
      ⟨⟨0x00, 0x1A, 0x2B, 0x3C, 0x4D, 0x5E⟩, 68, 0x05, [4]⟩)
    let response : Response := ⟨.ok, 7, []⟩
    let live : LiveSession :=
      .ofSession ⟨⟨anyEndpoint, none⟩, .default, .startingAt 7, false, true, 0⟩
    let start : LinkedSession := ⟨live, .ofConfig .default⟩
    let moves : List Move :=
      .listener (.subscribe .all fun _ => .completed) ::
        [LiveSession.Move.call ⟨"enable event emit", 0x08, .controller, .basic 1 0 0 0⟩, .enter 0,
          .advance, .advance, .advance, .advance, .advance, .receive (some event)].map
            (.session 3 source) ++
        .listener (.ingest 4 event source) ::
        [LiveSession.Move.receive none, .receive (some (withChecksum response.content)), .receive none,
          .advance, .receive none].map (.session 5 source)
    let linked := start.after moves
    live.session.hasSink = true ∧
      linked.live.results = [.ok response] ∧
      (live.after (withoutEvents moves)).results = [.ok response] ∧
      (observations move dispatches start moves).length = 1 ∧
      linked.dispatches (.session 6 source (.receive (some event))) = [] ∧
      (∀ sighting ∈ linked.listener.seen, isEvent sighting.datagram) := by
  intro source event response live start moves linked
  have sink : live.session.hasSink = true := rfl
  obtain ⟨same, -, seen, -, dispatched, once⟩ := flows_apart live sink .default moves
  have results : linked.live.results = [.ok response] := by decide +kernel
  have arrives : linked.brings (.session 6 source (.receive (some event))) =
      [.ingest 6 event source] := by
    have listening : linked.live.receiver = .listening := by decide +kernel
    have kind : isEvent event = true := by decide +kernel
    simp [brings, LiveSession.reads, listening, kind]
  have ordered : (Listener.arrivalTimes (observations move brings start moves) ++ [6]).Pairwise
      (· ≤ ·) := by
    decide +kernel
  obtain ⟨-, copies⟩ := once 6 event source (by decide +kernel) ordered
  refine ⟨sink, results, ?_, ?_, ?_, seen⟩
  · rw [← LiveSession.results_of_logging same]
    decide +kernel
  · rw [dispatched]
    decide +kernel
  · exact (copies _ arrives).trans (if_pos (by decide +kernel))

end LinkedSession

end LightingControl
