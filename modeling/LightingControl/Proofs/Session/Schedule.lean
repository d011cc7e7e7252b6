import LightingControl.Proofs.Session.Steps
import LightingControl.Proofs.Session.Waits
/-!
# A command as a schedule of moves

`Session.send` is one of the ways in which the threads of a session can be interleaved: each attempt waits
for its timeout, and the receiver and a closing thread move where the script says so.  `send_leads` gives
the state that the moves end in.
-/

set_option autoImplicit false

namespace LightingControl

namespace LiveSession

def Leads (live later : LiveSession) : Prop :=
  ∃ moves, live.after moves = later

theorem Leads.refl (live : LiveSession) : live.Leads live := ⟨[], rfl⟩

theorem Leads.trans {live between later : LiveSession} (h : live.Leads between)
    (h' : between.Leads later) : live.Leads later := by
  obtain ⟨early, rfl⟩ := h
  obtain ⟨late, rfl⟩ := h'
  exact ⟨early ++ late, after_append live early late⟩

theorem leads_move (live : LiveSession) (move : Move) : live.Leads (live.move move) :=
  ⟨[move], rfl⟩

end LiveSession

structure Ledger where
  transmitted : List Bytes
  forwarded : List Bytes
  results : List (Except Failure Response)

def Ledger.add (ledger : Ledger) (transmitted forwarded : List Bytes)
    (results : List (Except Failure Response)) : Ledger :=
  ⟨ledger.transmitted ++ transmitted, ledger.forwarded ++ forwarded, ledger.results ++ results⟩

theorem Ledger.add_add (ledger : Ledger) (transmitted transmitted' forwarded forwarded' : List Bytes)
    (results results' : List (Except Failure Response)) :
    (ledger.add transmitted forwarded results).add transmitted' forwarded' results' =
      ledger.add (transmitted ++ transmitted') (forwarded ++ forwarded') (results ++ results') := by
  simp only [add, List.append_assoc]

theorem Ledger.add_nil (ledger : Ledger) : ledger.add [] [] [] = ledger := by
  simp only [add, List.append_nil]

namespace Session

open LiveSession (Leads leads_move)

/-- The session with a thread inside the lock or none, and no other thread on its way: the receiver
listens, or the session has been closed and all is done for that. -/
def live (session : Session) (inside : Option Stage) (ledger : Ledger) : LiveSession where
  session := session
  stop := session.closed
  hasSocket := !session.closed
  receiver := if session.closed then .stopped else .listening
  closing := if session.closed then .completed else .idle
  queue := []
  inside := inside
  transmitted := ledger.transmitted
  forwarded := ledger.forwarded
  results := ledger.results

/-! ## What happens meanwhile -/

variable {session after : Session}

theorem listening_live (isOpen : session.closed = false) (inside : Option Stage) (ledger : Ledger) :
    (session.live inside ledger).receiver = .listening := by
  simp [live, isOpen]

theorem receive_leads (session : Session) (inside : Option Stage) (ledger : Ledger)
    (datagram : Bytes) :
    (session.live inside ledger).Leads
      ((session.receive datagram).1.live inside (ledger.add [] (session.receive datagram).2 [])) := by
  cases isClosed : session.closed with
  | true =>
    rw [receive_eq, isClosed, if_pos rfl, Ledger.add_nil]
    exact .refl _
  | false =>
    have stillOpen := (closed_accept session datagram).trans isClosed
    have listening := listening_live isClosed inside ledger
    -- The receiver takes the datagram, delivers a response, and looks whether it is to stop.
    obtain goesOn | ⟨ticket, delivers⟩ := (session.live inside ledger).receiverAfter_cases datagram
    · refine ⟨[.receive (some datagram), .receive none], ?_⟩
      rw [LiveSession.after_cons, LiveSession.move, LiveSession.receive_of_listening listening, goesOn]
      simp [live, LiveSession.move, LiveSession.receive, receive_eq, isClosed, stillOpen, Ledger.add]
    · refine ⟨[.receive (some datagram), .receive none, .receive none], ?_⟩
      rw [LiveSession.after_cons, LiveSession.move, LiveSession.receive_of_listening listening,
        delivers]
      simp [live, LiveSession.move, LiveSession.receive, receive_eq, isClosed, stillOpen, Ledger.add]

theorem close_leads (session : Session) (inside : Option Stage) (ledger : Ledger) :
    (session.live inside ledger).Leads (session.close.live inside ledger) := by
  cases isClosed : session.closed with
  | true =>
    rw [close, isClosed, if_pos rfl]
    exact .refl _
  | false =>
    refine ⟨[.close, .close, .receive none, .receive none, .close, .close, .close], ?_⟩
    simp [live, LiveSession.move, LiveSession.receive, LiveSession.close, close, isClosed]

theorem happen_leads (session : Session) (inside : Option Stage) (ledger : Ledger)
    (happening : Happening) :
    (session.live inside ledger).Leads
      ((session.happen happening).1.live inside (ledger.add [] (session.happen happening).2 [])) := by
  cases happening with
  | arrival datagram => exact receive_leads session inside ledger datagram
  | closing =>
    rw [happen, Ledger.add_nil]
    exact close_leads session inside ledger

theorem happenAll_leads (session : Session) (inside : Option Stage) (ledger : Ledger)
    (happenings : List Happening) :
    (session.live inside ledger).Leads
      ((session.happenAll happenings).1.live inside
        (ledger.add [] (session.happenAll happenings).2 [])) := by
  induction happenings generalizing session ledger with
  | nil =>
    rw [happenAll, Ledger.add_nil]
    exact .refl _
  | cons first rest ih =>
    have here := happen_leads session inside ledger first
    have later := here.trans (ih (session.happen first).1 _)
    rw [Ledger.add_add] at later
    exact later

/-! ## The attempts -/

variable {dispatch : Dispatch} {tracker : Tracker}

theorem transmit_leads (session : Session) (dispatch : Dispatch) (ledger : Ledger) :
    (session.live (some (.transmitting dispatch)) ledger).Leads
      (session.live (some (.waiting dispatch)) (ledger.add [dispatch.wire] [] [])) := by
  refine ⟨[.advance], ?_⟩
  simp [live, LiveSession.move, LiveSession.advance, LiveSession.step, LiveSession.transmit,
    LiveSession.stand, Ledger.add]

theorem still_live (session : Session) (inside : Option Stage) (ledger : Ledger) (ticket : Ticket) :
    (session.live inside ledger).receiver ≠ .delivering ticket := by
  unfold live
  split <;> nofun

theorem wait_live (session : Session) (inside : Option Stage) (ledger : Ledger) (ticket : Ticket) :
    (session.live inside ledger).wait ticket = session.tracker.wait ticket :=
  LiveSession.wait_of_still (still_live session inside ledger ticket)

theorem take_live (session : Session) (inside : Option Stage) (ledger : Ledger) (ticket : Ticket) :
    (session.live inside ledger).take ticket = session.tracker.take ticket :=
  LiveSession.take_of_still (still_live session inside ledger ticket)

theorem live_finish (session : Session) (inside : Option Stage) (ledger : Ledger) (tracker : Tracker)
    (result : Except Failure Response) :
    ((session.live inside ledger).track tracker).finish result =
      live { session with tracker } none (ledger.add [] [] [result]) := by
  simp [live, LiveSession.track, LiveSession.finish, Ledger.add]

theorem step_leads (session : Session) (stage : Stage) (ledger : Ledger) :
    (session.live (some stage) ledger).Leads ((session.live (some stage) ledger).step stage) :=
  leads_move _ .advance

theorem response_leads {response : Response}
    (waited : session.tracker.wait dispatch.ticket = (.response response, tracker))
    (ledger : Ledger) :
    (session.live (some (.waiting dispatch)) ledger).Leads
      (live { session with tracker } none (ledger.add [] [] [.ok response])) := by
  have step := step_leads session (.waiting dispatch) ledger
  rw [LiveSession.step, wait_live, waited] at step
  exact live_finish _ _ _ _ _ ▸ step

theorem dropped_leads (waited : session.tracker.wait dispatch.ticket = (.dropped, tracker))
    (ledger : Ledger) :
    (session.live (some (.waiting dispatch)) ledger).Leads
      (live { session with tracker } (some (.leaving dispatch.ticket .closed)) ledger) := by
  have step := step_leads session (.waiting dispatch) ledger
  rw [LiveSession.step, wait_live, waited] at step
  exact step

/-- Where the thread inside goes after a wait in vain, and the result it leaves with if it has to. -/
def afterVain (session : Session) (dispatch : Dispatch) :
    Option Stage × List (Except Failure Response) :=
  if dispatch.bound ≤ dispatch.made then (some (.expiring dispatch), [])
  else
    match session.deadline? with
    | none => (none, [.error (.abort .deadlineOverflow)])
    | some deadline => (some (.retrying { dispatch with deadline }), [])

theorem afterVain_of_last (last : dispatch.bound ≤ dispatch.made) :
    session.afterVain dispatch = (some (.expiring dispatch), []) :=
  if_pos last

theorem afterVain_of_undated (more : ¬ dispatch.bound ≤ dispatch.made)
    (undated : session.deadline? = none) :
    session.afterVain dispatch = (none, [.error (.abort .deadlineOverflow)]) := by
  rw [afterVain, if_neg more, undated]

theorem afterVain_of_dated (more : ¬ dispatch.bound ≤ dispatch.made) {deadline : Moment}
    (dated : session.deadline? = some deadline) :
    session.afterVain dispatch = (some (.retrying { dispatch with deadline }), []) := by
  rw [afterVain, if_neg more, dated]

theorem SameTime.afterVain {later : Session} (same : SameTime session later) (dispatch : Dispatch) :
    later.afterVain dispatch = session.afterVain dispatch := by
  rw [Session.afterVain, same.deadline?, Session.afterVain]

theorem timeout_leads (waited : session.tracker.wait dispatch.ticket = (.timeout, tracker))
    (deadline : dispatch.deadline = session.deadline) (ledger : Ledger) :
    let overdue := elapse { session with tracker }
    (session.live (some (.waiting dispatch)) ledger).Leads
      (overdue.live (overdue.afterVain dispatch).1 (ledger.add [] [] (overdue.afterVain dispatch).2)) := by
  intro overdue
  have ticked : (session.live (some (.waiting dispatch)) ledger).Leads
      (session.elapse.live (some (.waiting dispatch)) ledger) :=
    leads_move _ (.tick session.config.timeout.nanoseconds)
  have step := step_leads session.elapse (.waiting dispatch) ledger
  have reached : ¬ (session.elapse.live (some (.waiting dispatch)) ledger).session.clock <
      dispatch.deadline := by
    rw [deadline]
    exact Nat.lt_irrefl _
  have still : session.elapse.tracker.wait dispatch.ticket = (.timeout, tracker) := waited
  have same : (session.elapse.live (some (.waiting dispatch)) ledger).session.deadline? =
      overdue.deadline? := rfl
  rw [LiveSession.step, wait_live, still] at step
  dsimp only at step
  rw [if_neg reached, same] at step
  refine ticked.trans ?_
  by_cases last : dispatch.bound ≤ dispatch.made
  · rw [if_pos last] at step
    rw [afterVain_of_last last, Ledger.add_nil]
    exact step
  rw [if_neg last] at step
  cases next : overdue.deadline? with
  | none =>
    rw [next] at step
    dsimp only at step
    rw [live_finish] at step
    rw [afterVain_of_undated last next]
    exact step
  | some deadline =>
    rw [next] at step
    rw [afterVain_of_dated last next, Ledger.add_nil]
    exact step

theorem expire_leads (session : Session) (dispatch : Dispatch) (ledger : Ledger) :
    (session.live (some (.expiring dispatch)) ledger).Leads
      (session.expire.live
        (some (.leaving dispatch.ticket
          (.noResponse dispatch.command.name dispatch.command.target dispatch.made))) ledger) :=
  leads_move _ .advance

def afterRetry (after : Session) (dispatch : Dispatch) (ledger : Ledger) :
    Except Abort Bool → LiveSession
  | .error abort => after.live none (ledger.add [] [] [.error (.abort abort)])
  | .ok false => after.live (some (.leaving dispatch.ticket .closed)) ledger
  | .ok true => after.live (some (.transmitting { dispatch with made := dispatch.made + 1 })) ledger

theorem retry_leads {outcome : Except Abort Bool}
    (dated : session.deadline? = some dispatch.deadline)
    (retried : session.retry dispatch.ticket.seq = (outcome, after)) (ledger : Ledger) :
    (session.live (some (.retrying dispatch)) ledger).Leads
      (after.afterRetry dispatch ledger outcome) := by
  have step := step_leads session (.retrying dispatch) ledger
  have same : (session.live (some (.retrying dispatch)) ledger).session = session := rfl
  rw [LiveSession.step, same] at step
  rw [Session.retry, dated] at retried
  dsimp only at retried
  cases counted : session.tracker.retry dispatch.ticket.seq dispatch.deadline with
  | mk found tracker =>
    rw [counted] at retried step
    cases found <;> cases retried
    · exact step
    · exact step
    · dsimp only at step
      rw [live_finish] at step
      exact step

/-- The session after an exchange, whose request has just left the thread inside the lock. -/
def settled (exchange : Exchange Response) (ledger : Ledger) : LiveSession :=
  exchange.session.live none
    (ledger.add exchange.requests exchange.forwarded [exchange.result])

theorem conclude_leads (session : Session) (ticket : Ticket) (wire : Bytes) (missed : List Bytes)
    (error : SessionError) (ledger : Ledger) :
    (session.live (some (.leaving ticket error)) (ledger.add [wire] missed [])).Leads
      (settled (session.conclude ticket wire missed error) ledger) := by
  have step := step_leads session (.leaving ticket error) (ledger.add [wire] missed [])
  rw [LiveSession.step, take_live] at step
  unfold settled conclude
  cases taken : session.tracker.take ticket with
  | mk found tracker =>
    rw [taken] at step
    cases found <;>
    · dsimp only at step ⊢
      rw [live_finish, Ledger.add_add] at step
      simpa using step

variable {during late : Nat → List Happening}

theorem meanwhile_leads (session : Session) (dispatch : Dispatch) (happenings : List Happening)
    (ledger : Ledger) :
    (session.live (some (.transmitting dispatch)) ledger).Leads
      ((session.happenAll happenings).1.live (some (.waiting dispatch))
        (ledger.add [dispatch.wire] (session.happenAll happenings).2 [])) := by
  have sent := (transmit_leads session dispatch ledger).trans
    (happenAll_leads session (some (.waiting dispatch)) _ happenings)
  rw [Ledger.add_add] at sent
  exact sent

theorem attempt_leads_of_ended (session : Session) (dispatch : Dispatch) (retries made : Nat)
    {outcome : Waited}
    (waited : (session.happenAll (during made)).1.tracker.wait dispatch.ticket = (outcome, tracker))
    (ended : outcome ≠ .timeout) (ledger : Ledger) :
    (session.live (some (.transmitting dispatch)) ledger).Leads
      (settled (session.attempt dispatch.command dispatch.wire dispatch.ticket during late retries
        made) ledger) := by
  have sent := meanwhile_leads session dispatch (during made) ledger
  cases outcome with
  | timeout => exact absurd rfl ended
  | response response =>
    have arrived := sent.trans (response_leads waited _)
    rw [Ledger.add_add, List.append_nil, List.append_nil, List.nil_append] at arrived
    rw [attempt_of_response waited]
    exact arrived
  | dropped =>
    rw [attempt_of_dropped waited]
    exact (sent.trans (dropped_leads waited _)).trans (conclude_leads _ _ _ _ _ ledger)

theorem overdue_leads (session : Session) (dispatch : Dispatch) (early missed : List Happening)
    (waited : (session.happenAll early).1.tracker.wait dispatch.ticket = (.timeout, tracker))
    (deadline : dispatch.deadline = session.deadline) {after : Session} {forwarded : List Bytes}
    (vain : (session.happenAll early).1.inVain tracker missed = (after, forwarded))
    (ledger : Ledger) :
    (session.live (some (.transmitting dispatch)) ledger).Leads
      (after.live (after.afterVain dispatch).1
        (ledger.add [dispatch.wire] ((session.happenAll early).2 ++ forwarded)
          (after.afterVain dispatch).2)) := by
  have sent := meanwhile_leads session dispatch early ledger
  have reached := deadline.trans (sameTime_happenAll session early).deadline.symm
  have vainly := (sent.trans (timeout_leads waited reached _)).trans (happenAll_leads _ _ _ missed)
  rw [← (sameTime_happenAll _ missed).afterVain, Ledger.add_add, Ledger.add_add] at vainly
  simp only [List.append_nil, List.nil_append] at vainly
  rw [inVain] at vain
  rwa [vain] at vainly

theorem attempt_leads (session : Session) (dispatch : Dispatch) (during late : Nat → List Happening)
    (retries made : Nat) (bound : dispatch.bound = retries + dispatch.made)
    (count : dispatch.made = made + 1) (deadline : dispatch.deadline = session.deadline)
    (ledger : Ledger) :
    (session.live (some (.transmitting dispatch)) ledger).Leads
      (settled (session.attempt dispatch.command dispatch.wire dispatch.ticket during late retries
        made) ledger) := by
  -- On the retries that are left, from the session as a wait in vain and the next count leave it.
  induction retries generalizing session dispatch made ledger with
  | zero =>
    cases waited : (session.happenAll (during made)).1.tracker.wait dispatch.ticket with
    | mk outcome tracker =>
    by_cases ended : outcome = .timeout
    · subst ended
      cases vain : (session.happenAll (during made)).1.inVain tracker (late made) with
      | mk overdue missed =>
      have vainly := overdue_leads session dispatch _ (late made) waited deadline vain ledger
      rw [afterVain_of_last (by omega)] at vainly
      rw [attempt_zero_of_timeout waited vain, ← count]
      exact (vainly.trans (expire_leads _ _ _)).trans (conclude_leads _ _ _ _ _ ledger)
    · exact attempt_leads_of_ended session dispatch 0 made waited ended ledger
  | succ retries ih =>
    cases waited : (session.happenAll (during made)).1.tracker.wait dispatch.ticket with
    | mk outcome tracker =>
    by_cases ended : outcome = .timeout
    · subst ended
      cases vain : (session.happenAll (during made)).1.inVain tracker (late made) with
      | mk overdue missed =>
      have vainly := overdue_leads session dispatch _ (late made) waited deadline vain ledger
      have more : ¬ dispatch.bound ≤ dispatch.made := by omega
      cases next : overdue.deadline? with
      | none =>
        have retried : overdue.retry dispatch.ticket.seq = (.error .deadlineOverflow, overdue) := by
          rw [retry, next]
        rw [afterVain_of_undated more next] at vainly
        rw [attempt_succ_of_abort waited vain retried]
        exact vainly
      | some reached =>
        rw [afterVain_of_dated more next] at vainly
        cases retried : overdue.retry dispatch.ticket.seq with
        | mk outcome after =>
        let again : Dispatch := { dispatch with deadline := reached }
        have dated : overdue.deadline? = some again.deadline := next
        have resumed := vainly.trans (retry_leads dated retried _)
        cases outcome with
        | error abort =>
          rw [afterRetry, Ledger.add_add, List.append_nil, List.append_nil, List.nil_append] at resumed
          rw [attempt_succ_of_abort waited vain retried]
          exact resumed
        | ok pending =>
        cases pending with
        | false =>
          rw [attempt_succ_of_free waited vain retried]
          exact resumed.trans (conclude_leads _ _ _ _ _ ledger)
        | true =>
          let repeated : Dispatch := { again with made := dispatch.made + 1 }
          have nextBound : repeated.bound = retries + repeated.made := by
            simp only [repeated, again]
            omega
          have nextCount : repeated.made = made + 1 + 1 := by
            simp only [repeated]
            omega
          have nextDeadline : repeated.deadline = after.deadline := by
            rw [(sameTime_retry retried).deadline]
            exact eq_deadline_of_some next
          have rest := ih after repeated (made + 1) nextBound nextCount nextDeadline
            (ledger.add [dispatch.wire] ((session.happenAll (during made)).2 ++ missed) [])
          have leads := resumed.trans rest
          rw [settled, Ledger.add_add] at leads
          rw [attempt_succ_of_pending waited vain retried]
          exact leads
    · exact attempt_leads_of_ended session dispatch (retries + 1) made waited ended ledger

/-- A command is sent by a schedule of moves, whatever happens meanwhile. -/
theorem send_leads (session : Session) (command : Command) (during late : Nat → List Happening)
    (ledger : Ledger) :
    (session.live none ledger).Leads (settled (session.send command during late) ledger) := by
  have entered : (session.live none ledger).Leads
      (session.live (some (.checking command)) ledger) :=
    ⟨[.call command, .enter 0], rfl⟩
  cases isClosed : session.closed with
  | true =>
    rw [send_of_closed isClosed]
    refine entered.trans ⟨[.advance], ?_⟩
    simp [settled, live, LiveSession.move, LiveSession.advance, LiveSession.step,
      LiveSession.finish, isClosed, Ledger.add]
  | false =>
    have numbering : (session.live none ledger).Leads
        (session.live (some (.numbering command)) ledger) := by
      refine entered.trans ⟨[.advance, .advance], ?_⟩
      simp [live, LiveSession.move, LiveSession.advance, LiveSession.step, LiveSession.stand, isClosed]
    by_cases bounded : session.config.retries.toNat + 1 < UInt32.size
    · have found := attemptBound?_of_bounded bounded
      let numbered : Session := { session with tracker := session.tracker.next.2 }
      have counted : (session.live none ledger).Leads
          (numbered.live (some (.registering command session.tracker.next.1
            (session.config.retries + 1).toNat)) ledger) := by
        have step := step_leads session (.numbering command) ledger
        have same : (session.live (some (.numbering command)) ledger).session = session := rfl
        simp only [LiveSession.step, same, found] at step
        exact numbering.trans step
      have step := step_leads numbered (.registering command session.tracker.next.1
        (session.config.retries + 1).toNat) ledger
      have same : (numbered.live (some (.registering command session.tracker.next.1
          (session.config.retries + 1).toNat)) ledger).session.deadline? = session.deadline? := rfl
      rw [LiveSession.step, same] at step
      by_cases dated : session.Dated 0
      · let dispatch : Dispatch :=
          ⟨command, (command.request session.tracker.next.1).encode, session.registered.1,
            (session.config.retries + 1).toNat, 1, session.deadline⟩
        have registered : (session.live none ledger).Leads
            (session.registered.2.live (some (.transmitting dispatch)) ledger) := by
          rw [deadline?_of_dated dated] at step
          exact counted.trans step
        have attempted := attempt_leads session.registered.2 dispatch during late
          session.config.retries.toNat 0 (toNat_attemptBound? found).2 rfl rfl ledger
        rw [send_of_dated isClosed bounded dated]
        exact registered.trans attempted
      · rw [deadline?_of_undated dated] at step
        rw [send_of_undated isClosed bounded dated]
        have stopped := counted.trans step
        simpa [settled, live, LiveSession.finish, Ledger.add] using stopped
    · have none : attemptBound? session.config.retries = none := if_neg bounded
      rw [send_of_overflow isClosed bounded]
      refine numbering.trans ⟨[.advance], ?_⟩
      simp [settled, live, LiveSession.move, LiveSession.advance, LiveSession.step,
        LiveSession.track, LiveSession.finish, none, Ledger.add]

theorem identity_send (session : Session) (command : Command) (during late : Nat → List Happening) :
    (session.send command during late).session.identity = session.identity := by
  obtain ⟨moves, sent⟩ := send_leads session command during late ⟨[], [], []⟩
  have kept := LiveSession.identity_after (session.live none ⟨[], [], []⟩) moves
  rw [sent] at kept
  exact kept

end Session

end LightingControl
