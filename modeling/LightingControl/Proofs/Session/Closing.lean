import LightingControl.Proofs.Session.Steps
/-!
# Closing a session while commands are under way

`sealed_iff` says when the closing of a session is final: whether requests can be pending, datagrams be
transmitted and commands end with another error afterwards depends only on where the thread inside the
lock stands at the end of the closing.  `close_overtaken` is a command that has passed the checks before
the session is closed, and is registered and transmitted after all is done.
-/

set_option autoImplicit false

namespace LightingControl

theorem Tracker.look_of_free {tracker : Tracker} {ticket : Ticket}
    (free : tracker.isPending ticket.seq = false) : tracker.look ticket ≠ .timeout := by
  have notWaiting : tracker.mailbox? ticket ≠ some .waiting := by
    rw [mailbox?, Slot.mailbox?, pending_of_free free]
    split <;> simp
  unfold look
  split
  · simp
  · rename_i waiting
    exact absurd waiting notWaiting
  · simp
  · simp

theorem Tracker.look_expire_of_free {tracker : Tracker} {ticket : Ticket}
    (free : tracker.isPending ticket.seq = false) (now : Moment) :
    (tracker.expire now).2.look ticket = tracker.look ticket := by
  rw [look, mailbox?_expire_of_free free, look]

theorem Tracker.isPending_failAll (tracker : Tracker) (seq : UInt8) :
    tracker.failAll.2.isPending seq = false := by
  rw [isPending, slot_failAll, Slot.settle_pending]
  rfl

/-- A thread that stands here is not held back by a closing that is complete: it goes on to register or
transmit its request, or it ends with an error of its own. -/
def Stage.Exposed (tracker : Tracker) : Stage → Prop
  | .numbering _ | .registering _ _ _ | .transmitting _ => True
  | .expiring dispatch => (tracker.look dispatch.ticket).response? = none
  | .leaving ticket error => error ≠ .closed ∧ (tracker.look ticket).response? = none
  | .checking _ | .connecting _ | .waiting _ | .retrying _ => False

namespace LiveSession

def Granted : Except Failure Response → Prop
  | .ok _ => True
  | .error failure => failure = .error .closed

def endedSince (live earlier : LiveSession) : List (Except Failure Response) :=
  live.results.drop earlier.results.length

/-- Nothing is pending, and the closing reaches the thread inside the lock. -/
structure Guarded (live : LiveSession) : Prop where
  free : ∀ seq, live.session.tracker.isPending seq = false
  covered : ∀ stage, live.inside = some stage → ¬ stage.Exposed live.session.tracker

/-- Nothing is pending, nothing has been transmitted since an earlier state, and the thread inside the
lock is about to leave it. -/
structure Sealed (earlier live : LiveSession) : Prop where
  free : ∀ seq, live.session.tracker.isPending seq = false
  silent : live.transmitted = earlier.transmitted
  ends : live.advance.advance.inside = none

variable {live later : LiveSession}

/-- Only the thread inside the lock has moved. -/
structure Beside (live later : LiveSession) : Prop where
  closed : later.session.closed = live.session.closed
  hasSocket : later.hasSocket = live.hasSocket
  receiver : later.receiver = live.receiver
  closing : later.closing = live.closing

theorem Stepped.beside (stepped : Stepped live later) : Beside live later := by
  cases stepped <;> exact ⟨rfl, rfl, rfl, rfl⟩

theorem closed_receive (live : LiveSession) (datagram : Option Bytes) :
    (live.receive datagram).session.closed = live.session.closed := by
  unfold receive
  split
  · rfl
  · rfl
  · exact Session.closed_accept _ _
  · rfl
  · rfl

/-! ## How far the closing has come -/

def Done (live : LiveSession) : Closing → Prop
  | .idle => True
  | .marked | .signalled => live.session.closed = true
  | .joined => live.session.closed = true ∧ live.receiver = .stopped
  | .released | .completed =>
    live.session.closed = true ∧ live.receiver = .stopped ∧ live.hasSocket = false

theorem Done.of_beside {closing : Closing} (done : live.Done closing) (beside : Beside live later) :
    later.Done closing := by
  cases closing <;> simp only [Done, beside.closed, beside.receiver, beside.hasSocket] <;> exact done

theorem receive_of_stopped (stopped : live.receiver = .stopped) (datagram : Option Bytes) :
    live.receive datagram = live := by
  unfold receive
  simp only [stopped]

theorem done_receive {closing : Closing} (done : live.Done closing) (datagram : Option Bytes) :
    (live.receive datagram).Done closing := by
  have closed := closed_receive live datagram
  cases closing with
  | idle => trivial
  | marked => exact closed.trans done
  | signalled => exact closed.trans done
  | joined => rwa [receive_of_stopped done.2]
  | released => rwa [receive_of_stopped done.2.1]
  | completed => rwa [receive_of_stopped done.2.1]

theorem done_close (done : live.Done live.closing) : live.close.Done live.close.closing := by
  unfold close
  cases stage : live.closing with
  | idle => rfl
  | marked =>
    rw [stage] at done
    exact done
  | signalled =>
    rw [stage] at done
    by_cases joins : live.receiver = .stopped
    · simp only [joins, if_true]
      exact ⟨done, rfl⟩
    · simp only [joins, if_false, stage]
      exact done
  | joined =>
    rw [stage] at done
    exact ⟨done.1, done.2, rfl⟩
  | released =>
    rw [stage] at done
    exact done
  | completed =>
    simp only [stage]
    rwa [stage] at done

theorem closing_receive (live : LiveSession) (datagram : Option Bytes) :
    (live.receive datagram).closing = live.closing := by
  unfold receive
  split <;> rfl

theorem done_move (done : live.Done live.closing) (move : Move) :
    (live.move move).Done (live.move move).closing := by
  cases move with
  | call command => exact done.of_beside ⟨rfl, rfl, rfl, rfl⟩
  | enter i =>
    rw [LiveSession.move]
    split
    · exact done.of_beside ⟨rfl, rfl, rfl, rfl⟩
    · exact done
  | advance =>
    have beside := (stepped_advance live).beside
    rw [LiveSession.move, beside.closing]
    exact done.of_beside beside
  | receive datagram =>
    rw [LiveSession.move, closing_receive]
    exact done_receive done datagram
  | close => exact done_close done
  | tick time => exact done.of_beside ⟨rfl, rfl, rfl, rfl⟩

theorem done_after (done : live.Done live.closing) (moves : List Move) :
    (live.after moves).Done (live.after moves).closing := by
  induction moves generalizing live with
  | nil => exact done
  | cons first rest ih => exact ih (done_move done first)

/-- Nothing has been transmitted, and the commands that have ended got a response or the news of the
closing. -/
structure Quiet (live later : LiveSession) : Prop where
  transmitted : later.transmitted = live.transmitted
  results : ∃ ended, later.results = live.results ++ ended ∧ ∀ result ∈ ended, Granted result

theorem Quiet.of_same (transmitted : later.transmitted = live.transmitted)
    (results : later.results = live.results) : Quiet live later := by
  refine ⟨transmitted, [], ?_, ?_⟩
  · rw [results, List.append_nil]
  · intro result mem
    cases mem

theorem Quiet.of_finish (tracker : Tracker) {result : Except Failure Response}
    (granted : Granted result) : Quiet live ((live.track tracker).finish result) := by
  refine ⟨rfl, [result], rfl, ?_⟩
  intro other mem
  rwa [List.mem_singleton.1 mem]

theorem Quiet.trans {between : LiveSession} (first : Quiet live between)
    (second : Quiet between later) : Quiet live later := by
  obtain ⟨early, isEarly, earlyGranted⟩ := first.results
  obtain ⟨late, isLate, lateGranted⟩ := second.results
  refine ⟨second.transmitted.trans first.transmitted, early ++ late, ?_, ?_⟩
  · rw [isLate, isEarly, List.append_assoc]
  · intro result mem
    rcases List.mem_append.1 mem with mem | mem
    · exact earlyGranted result mem
    · exact lateGranted result mem

theorem Stepped.results_grow (stepped : Stepped live later) :
    List.IsPrefix live.results later.results := by
  cases stepped with
  | finished tracker result => exact List.prefix_append _ _
  | moved tracker stage => exact List.prefix_rfl
  | transmitted wire stage => exact List.prefix_rfl
  | waited => exact List.prefix_rfl

theorem results_grow_move (live : LiveSession) (move : Move) :
    List.IsPrefix live.results (live.move move).results := by
  cases move with
  | call command => exact List.prefix_rfl
  | enter i =>
    rw [LiveSession.move]
    split <;> exact List.prefix_rfl
  | advance => exact (stepped_advance live).results_grow
  | receive datagram =>
    rw [LiveSession.move]
    unfold receive
    split <;> exact List.prefix_rfl
  | close =>
    rw [LiveSession.move, close]
    split <;> (try split) <;> exact List.prefix_rfl
  | tick time => exact List.prefix_rfl

theorem results_grow_after (live : LiveSession) (moves : List Move) :
    List.IsPrefix live.results (live.after moves).results := by
  induction moves generalizing live with
  | nil => exact List.prefix_rfl
  | cons first rest ih => exact (results_grow_move live first).trans (ih (live.move first))

/-! ## After the closing -/

structure Shut (live : LiveSession) : Prop extends Guarded live where
  completed : live.closing = .completed
  done : live.Done .completed

theorem Shut.stand (shut : Shut live) {tracker : Tracker} {stage : Stage}
    (free : ∀ seq, tracker.isPending seq = false) (covered : ¬ stage.Exposed tracker) :
    Shut ((live.track tracker).stand stage) := by
  refine ⟨⟨free, ?_⟩, shut.completed, shut.done⟩
  intro next here
  cases here
  exact covered

theorem Shut.finish (shut : Shut live) {tracker : Tracker} (result : Except Failure Response)
    (free : ∀ seq, tracker.isPending seq = false) : Shut ((live.track tracker).finish result) := by
  refine ⟨⟨free, ?_⟩, shut.completed, shut.done⟩
  intro next here
  cases here

theorem Quiet.of_stand (live : LiveSession) (tracker : Tracker) (stage : Stage) :
    Quiet live ((live.track tracker).stand stage) :=
  .of_same rfl rfl

theorem inside_leaving (live : LiveSession) (ticket : Ticket) (error : SessionError) :
    (live.step (.leaving ticket error)).inside = none := by
  rw [step]
  split <;> rfl

theorem inside_advance_stand (live : LiveSession) (ticket : Ticket) (error : SessionError) :
    (live.stand (.leaving ticket error)).advance.inside = none :=
  inside_leaving _ ticket error

theorem still_of_stopped (stopped : live.receiver = .stopped) (ticket : Ticket) :
    live.receiver ≠ .delivering ticket := by
  rw [stopped]
  nofun

theorem step_leaving_of_none {ticket : Ticket} (still : live.receiver ≠ .delivering ticket)
    (error : SessionError) (none : (live.session.tracker.look ticket).response? = none) :
    live.step (.leaving ticket error) =
      (live.track (live.session.tracker.withdraw ticket)).finish (.error (.error error)) := by
  rw [step, take_of_still still, Tracker.take_eq, none]

/-- A thread that is held back leaves the lock in two steps, with a response or the news of the
closing. -/
theorem Shut.step (shut : Shut live) {stage : Stage} (inside : live.inside = some stage) :
    Shut (live.step stage) ∧ Quiet live (live.step stage) ∧
      (live.step stage).advance.inside = none := by
  have covered := shut.covered stage inside
  obtain ⟨closed, stopped, noSocket⟩ := shut.done
  have still := still_of_stopped stopped
  have withdrawn (ticket : Ticket) (seq : UInt8) :
      (live.session.tracker.withdraw ticket).isPending seq = false := by
    rw [Tracker.isPending_withdraw, shut.free]
  cases stage with
  | checking command =>
    rw [LiveSession.step, if_pos closed]
    exact ⟨shut.finish _ shut.free, .of_finish live.session.tracker rfl, rfl⟩
  | connecting command =>
    rw [LiveSession.step, if_neg (by simp [noSocket])]
    exact ⟨shut.finish _ shut.free, .of_finish live.session.tracker rfl, rfl⟩
  | numbering command => exact absurd trivial covered
  | registering command seq bound => exact absurd trivial covered
  | transmitting dispatch => exact absurd trivial covered
  | waiting dispatch =>
    rw [LiveSession.step, wait_of_still (still dispatch.ticket), Tracker.wait_eq]
    cases looked : live.session.tracker.look dispatch.ticket with
    | response response =>
      exact ⟨shut.finish _ (withdrawn _), .of_finish _ trivial, rfl⟩
    | timeout => exact absurd looked (Tracker.look_of_free (shut.free _))
    | dropped =>
      refine ⟨shut.stand (withdrawn _) ?_, .of_stand _ _ _, inside_advance_stand _ _ _⟩
      exact fun exposed => exposed.1 rfl
  | retrying dispatch =>
    simp only [LiveSession.step, Tracker.retry_of_free (shut.free dispatch.ticket.seq)]
    refine ⟨shut.stand shut.free ?_, .of_stand _ _ _, inside_advance_stand _ _ _⟩
    exact fun exposed => exposed.1 rfl
  | expiring dispatch =>
    refine ⟨shut.stand (fun seq => Tracker.isPending_expire_of_free (shut.free seq) _) ?_,
      .of_stand _ _ _, inside_advance_stand _ _ _⟩
    -- The response that keeps the thread from being exposed is still there.
    rintro ⟨-, none⟩
    rw [Tracker.look_expire_of_free (shut.free _)] at none
    exact covered none
  | leaving ticket error =>
    cases found : (live.session.tracker.look ticket).response? with
    | some response =>
      rw [LiveSession.step, take_of_still (still ticket), Tracker.take_eq, found]
      exact ⟨shut.finish _ (withdrawn _), .of_finish _ trivial, rfl⟩
    | none =>
      rw [step_leaving_of_none (still ticket) error found]
      have closing : error = .closed := Decidable.byContradiction fun other => covered ⟨other, found⟩
      exact ⟨shut.finish _ (withdrawn _), .of_finish _ (congrArg Failure.error closing), rfl⟩

theorem Shut.move (shut : Shut live) (move : Move) :
    Shut (live.move move) ∧ Quiet live (live.move move) := by
  cases move with
  | call command =>
    exact ⟨⟨⟨shut.free, shut.covered⟩, shut.completed, shut.done⟩, .of_same rfl rfl⟩
  | enter i =>
    rw [LiveSession.move]
    split
    · refine ⟨⟨⟨shut.free, ?_⟩, shut.completed, shut.done⟩, .of_same rfl rfl⟩
      intro stage here
      cases here
      exact id
    · exact ⟨shut, .of_same rfl rfl⟩
  | advance =>
    rw [LiveSession.move]
    cases inside : live.inside with
    | none =>
      rw [advance_of_free inside]
      exact ⟨shut, .of_same rfl rfl⟩
    | some stage =>
      rw [advance_of_inside inside]
      exact ⟨(shut.step inside).1, (shut.step inside).2.1⟩
  | receive datagram =>
    rw [LiveSession.move, receive_of_stopped shut.done.2.1]
    exact ⟨shut, .of_same rfl rfl⟩
  | close =>
    have same : live.close = live := by
      unfold close
      simp only [shut.completed]
    rw [LiveSession.move, same]
    exact ⟨shut, .of_same rfl rfl⟩
  | tick time => exact ⟨⟨⟨shut.free, shut.covered⟩, shut.completed, shut.done⟩, .of_same rfl rfl⟩

theorem Shut.after (shut : Shut live) (moves : List Move) :
    Shut (live.after moves) ∧ Quiet live (live.after moves) := by
  induction moves generalizing live with
  | nil => exact ⟨shut, .of_same rfl rfl⟩
  | cons first rest ih =>
    obtain ⟨shutFirst, quietFirst⟩ := shut.move first
    obtain ⟨shutRest, quietRest⟩ := ih shutFirst
    exact ⟨shutRest, quietFirst.trans quietRest⟩

theorem Shut.ends (shut : Shut live) : live.advance.advance.inside = none := by
  cases inside : live.inside with
  | none => rw [advance_of_free inside, advance_of_free inside, inside]
  | some stage =>
    rw [advance_of_inside inside]
    exact (shut.step inside).2.2

/-! ## Threads that are not held back -/

inductive Breach (live later : LiveSession) : Prop
  | pending (seq : UInt8) (pending : later.session.tracker.isPending seq = true)
  | transmitted (more : later.transmitted ≠ live.transmitted)
  | failed (failure : Failure) (other : failure ≠ .error .closed)
    (results : later.results = live.results ++ [.error failure])

theorem Breach.of_same {between : LiveSession} (transmitted : between.transmitted = live.transmitted)
    (results : between.results = live.results) (breach : Breach between later) : Breach live later := by
  cases breach with
  | pending seq pending => exact .pending seq pending
  | transmitted more => exact .transmitted (transmitted ▸ more)
  | failed failure other failed => exact .failed failure other (results ▸ failed)

theorem breach_of_registering (live : LiveSession) (command : Command) (seq : UInt8) (bound : Nat) :
    Breach live (live.step (.registering command seq bound)) := by
  simp only [step]
  cases found : live.session.deadline? with
  | none => exact .failed (.abort .deadlineOverflow) (by simp) rfl
  | some deadline =>
    refine .pending seq ?_
    change ((live.session.tracker.register seq deadline).2).isPending seq = true
    simp [Tracker.register, Tracker.isPending, Slot.register]

theorem results_of_expiring {dispatch : Dispatch} (inside : live.inside = some (.expiring dispatch))
    (still : live.receiver ≠ .delivering dispatch.ticket)
    (none : ((live.session.tracker.expire live.session.clock).2.look dispatch.ticket).response? = none) :
    (live.after [.advance, .advance]).results =
      live.results ++ [.error (.error
        (.noResponse dispatch.command.name dispatch.command.target dispatch.made))] := by
  let leaving : Stage := .leaving dispatch.ticket
    (.noResponse dispatch.command.name dispatch.command.target dispatch.made)
  have expired : (live.step (.expiring dispatch)).inside = some leaving := rfl
  have still : (live.step (.expiring dispatch)).receiver ≠ .delivering dispatch.ticket := still
  have left := step_leaving_of_none still
    (.noResponse dispatch.command.name dispatch.command.target dispatch.made) none
  change live.advance.advance.results = _
  rw [advance_of_inside inside, advance_of_inside expired]
  exact congrArg (fun later : LiveSession => later.results) left

/-- A thread that is not held back goes on to what the closing is to prevent. -/
theorem breach_of_exposed {stage : Stage} (inside : live.inside = some stage)
    (stopped : live.receiver = .stopped)
    (free : ∀ seq, live.session.tracker.isPending seq = false)
    (exposed : stage.Exposed live.session.tracker) : ∃ moves, Breach live (live.after moves) := by
  have advanced : live.after [.advance] = live.step stage := advance_of_inside inside
  have again : live.after [.advance, .advance] = (live.step stage).advance := by
    rw [← advance_of_inside inside]
    rfl
  cases stage with
  | checking command => exact exposed.elim
  | connecting command => exact exposed.elim
  | numbering command =>
    cases found : Session.attemptBound? live.session.config.retries with
    | none =>
      refine ⟨[.advance], ?_⟩
      rw [advanced]
      simp only [LiveSession.step, found]
      exact .failed (.abort .attemptBoundOverflow) (by simp) rfl
    | some bound =>
      refine ⟨[.advance, .advance], ?_⟩
      rw [again]
      simp only [LiveSession.step, found]
      rw [advance_of_inside rfl]
      refine .of_same ?_ ?_ (breach_of_registering _ command _ bound.toNat) <;> rfl
  | registering command seq bound =>
    refine ⟨[.advance], ?_⟩
    rw [advanced]
    exact breach_of_registering live command seq bound
  | transmitting dispatch =>
    refine ⟨[.advance], .transmitted ?_⟩
    rw [advanced]
    change live.transmitted ++ [dispatch.wire] ≠ live.transmitted
    simp
  | waiting dispatch => exact exposed.elim
  | retrying dispatch => exact exposed.elim
  | expiring dispatch =>
    rw [Stage.Exposed, ← Tracker.look_expire_of_free (free _) live.session.clock] at exposed
    exact ⟨[.advance, .advance], .failed _ (by simp)
      (results_of_expiring inside (still_of_stopped stopped _) exposed)⟩
  | leaving ticket error =>
    refine ⟨[.advance], ?_⟩
    rw [advanced, step_leaving_of_none (still_of_stopped stopped _) error exposed.2]
    exact .failed (.error error) (by simp [exposed.1]) rfl

/-- The session is marked as closed, and the thread inside the lock, if any, has yet to notice. -/
structure Barred (live : LiveSession) : Prop where
  closed : live.session.closed = true
  outside : ∀ stage, live.inside = some stage → ∃ command, stage = .checking command
  free : live.closing = .completed → ∀ seq, live.session.tracker.isPending seq = false

theorem Barred.advance (barred : Barred live) :
    Barred live.advance ∧ Quiet live live.advance := by
  cases inside : live.inside with
  | none =>
    rw [advance_of_free inside]
    exact ⟨barred, .of_same rfl rfl⟩
  | some stage =>
    obtain ⟨command, rfl⟩ := barred.outside stage inside
    rw [advance_of_inside inside, step, if_pos barred.closed]
    refine ⟨⟨barred.closed, ?_, barred.free⟩, .of_finish live.session.tracker rfl⟩
    intro stage here
    cases here

theorem Barred.receive (barred : Barred live) (datagram : Option Bytes) :
    Barred (live.receive datagram) ∧ Quiet live (live.receive datagram) := by
  have closed := (closed_receive live datagram).trans barred.closed
  unfold LiveSession.receive at closed ⊢
  split at closed
  · exact ⟨⟨closed, barred.outside, barred.free⟩, .of_same rfl rfl⟩
  · exact ⟨⟨closed, barred.outside, barred.free⟩, .of_same rfl rfl⟩
  · refine ⟨⟨closed, barred.outside, fun completed seq => ?_⟩, .of_same rfl rfl⟩
    rw [Session.isPending_accept, barred.free completed, Bool.false_and]
  · exact ⟨⟨closed, barred.outside, barred.free⟩, .of_same rfl rfl⟩
  · exact ⟨barred, .of_same rfl rfl⟩

theorem free_close (released : live.closing = .released) (seq : UInt8) :
    live.close.session.tracker.isPending seq = false := by
  unfold LiveSession.close
  simp only [released]
  exact live.session.tracker.isPending_failAll seq

theorem guarded_close_of_waiting {dispatch : Dispatch} (released : live.closing = .released)
    (inside : live.inside = some (.waiting dispatch)) : Guarded (live.after [.close]) := by
  change Guarded live.close
  refine ⟨free_close released, ?_⟩
  intro stage here
  have same : live.close.inside = live.inside := by
    unfold LiveSession.close
    simp only [released]
  rw [same, inside] at here
  cases here
  exact id

theorem barred_close_of_idle (idle : live.closing = .idle)
    (outside : ∀ stage, live.inside = some stage → ∃ command, stage = .checking command) :
    Barred live.close ∧ Quiet live live.close := by
  unfold LiveSession.close
  simp only [idle]
  exact ⟨⟨rfl, outside, nofun⟩, .of_same rfl rfl⟩

theorem Barred.close (barred : Barred live) : Barred live.close ∧ Quiet live live.close := by
  by_cases idle : live.closing = .idle
  · exact barred_close_of_idle idle barred.outside
  unfold LiveSession.close
  cases stage : live.closing with
  | idle => exact absurd stage idle
  | marked => exact ⟨⟨barred.closed, barred.outside, nofun⟩, .of_same rfl rfl⟩
  | signalled =>
    by_cases joins : live.receiver = .stopped
    · simp only [joins, if_true]
      exact ⟨⟨barred.closed, barred.outside, nofun⟩, .of_same rfl rfl⟩
    · simp only [joins, if_false]
      exact ⟨barred, .of_same rfl rfl⟩
  | joined => exact ⟨⟨barred.closed, barred.outside, nofun⟩, .of_same rfl rfl⟩
  | released =>
    refine ⟨⟨barred.closed, barred.outside, fun _ seq => ?_⟩, .of_same rfl rfl⟩
    simp only [Tracker.isPending_failAll]
  | completed => exact ⟨barred, .of_same rfl rfl⟩

theorem Barred.move (barred : Barred live) (move : Move) :
    Barred (live.move move) ∧ Quiet live (live.move move) := by
  cases move with
  | call command => exact ⟨⟨barred.closed, barred.outside, barred.free⟩, .of_same rfl rfl⟩
  | enter i =>
    rw [LiveSession.move]
    split
    · refine ⟨⟨barred.closed, ?_, barred.free⟩, .of_same rfl rfl⟩
      intro stage here
      cases here
      exact ⟨_, rfl⟩
    · exact ⟨barred, .of_same rfl rfl⟩
  | advance => exact barred.advance
  | receive datagram => exact barred.receive datagram
  | close => exact barred.close
  | tick time => exact ⟨⟨barred.closed, barred.outside, barred.free⟩, .of_same rfl rfl⟩

theorem Barred.after (barred : Barred live) (moves : List Move) :
    Barred (live.after moves) ∧ Quiet live (live.after moves) := by
  induction moves generalizing live with
  | nil => exact ⟨barred, .of_same rfl rfl⟩
  | cons first rest ih =>
    obtain ⟨barredFirst, quietFirst⟩ := barred.move first
    obtain ⟨barredRest, quietRest⟩ := ih barredFirst
    exact ⟨barredRest, quietFirst.trans quietRest⟩

theorem Barred.guarded (barred : Barred live) (completed : live.closing = .completed) :
    Guarded live := by
  refine ⟨barred.free completed, ?_⟩
  intro stage inside
  obtain ⟨command, rfl⟩ := barred.outside stage inside
  exact id

/-! ## When a closing is final -/

theorem Quiet.granted (quiet : Quiet live later) :
    ∀ result ∈ later.endedSince live, Granted result := by
  obtain ⟨ended, isLater, granted⟩ := quiet.results
  rwa [endedSince, isLater, List.drop_left]

theorem endedSince_append {called closed : LiveSession}
    (earlier : List.IsPrefix called.results closed.results)
    {ended : List (Except Failure Response)} (results : later.results = closed.results ++ ended) :
    later.endedSince called = closed.endedSince called ++ ended := by
  rw [endedSince, results, List.drop_append_of_le_length earlier.length_le, endedSince]

/-- Once the closing of a session is complete, it is final if and only if nothing is pending then, the
thread inside the lock stands where the closing reaches it, and no command has ended since the call with
another error.  All of this holds if no thread has passed the checks of `send` when `close` is called. -/
theorem sealed_iff (start : Session) (early between : List Move)
    (idle : ((ofSession start).after early).closing = .idle)
    (completed : ((ofSession start).after (early ++ .close :: between)).closing = .completed) :
    let called := (ofSession start).after early
    let closed := called.after (.close :: between)
    ((∀ moves, Sealed closed (closed.after moves) ∧
          ∀ result ∈ (closed.after moves).endedSince called, Granted result) ↔
        Guarded closed ∧ ∀ result ∈ closed.endedSince called, Granted result) ∧
      ((∀ stage, called.inside = some stage → ∃ command, stage = .checking command) →
        Guarded closed ∧ closed.transmitted = called.transmitted ∧
          ∀ result ∈ closed.endedSince called, Granted result) := by
  intro called closed
  rw [after_append] at completed
  have begun : (ofSession start).Done (ofSession start).closing := trivial
  have done : closed.Done .completed := by
    rw [← completed]
    exact done_after (done_after begun early) (.close :: between)
  have earlier : List.IsPrefix called.results closed.results := results_grow_after called _
  refine ⟨⟨?_, ?_⟩, ?_⟩
  · intro final
    obtain ⟨now, granted⟩ := final []
    refine ⟨⟨now.free, fun stage inside exposed => ?_⟩, granted⟩
    obtain ⟨moves, breach⟩ := breach_of_exposed inside done.2.1 now.free exposed
    obtain ⟨later, laterGranted⟩ := final moves
    cases breach with
    | pending seq pending => simp [later.free seq] at pending
    | transmitted more => exact more later.silent
    | failed failure other results =>
      refine other (laterGranted (.error failure) ?_)
      rw [endedSince_append earlier results]
      exact List.mem_append_right _ (List.mem_singleton.2 rfl)
  · rintro ⟨guarded, granted⟩ moves
    obtain ⟨shut, quiet⟩ := Shut.after ⟨guarded, completed, done⟩ moves
    refine ⟨⟨shut.free, quiet.transmitted, shut.ends⟩, ?_⟩
    obtain ⟨ended, results, laterGranted⟩ := quiet.results
    intro result mem
    rw [endedSince_append earlier results] at mem
    rcases List.mem_append.1 mem with mem | mem
    · exact granted result mem
    · exact laterGranted result mem
  · intro outside
    obtain ⟨marked, first⟩ := barred_close_of_idle idle outside
    obtain ⟨barred, later⟩ := marked.after between
    have quiet : Quiet called closed := first.trans later
    exact ⟨barred.guarded completed, quiet.transmitted, quiet.granted⟩

/-- A command that awaits its response when the session is closed ends with the news of that. -/
theorem sealed_iff_awaiting :
    let start : Session := ⟨⟨anyEndpoint, none⟩, .default, .startingAt 7, false, true, 0⟩
    let command : Command := ⟨"enable event emit", 0x08, .controller, .basic 1 0 0 0⟩
    let early : List Move :=
      [.call command, .enter 0, .advance, .advance, .advance, .advance, .advance]
    let between : List Move := [.close, .receive none, .receive none, .close, .close, .close]
    let called := (ofSession start).after early
    let closed := called.after (.close :: between)
    (called.closing = .idle ∧ ((ofSession start).after (early ++ .close :: between)).closing = .completed) ∧
      called.session.tracker.isPending 7 = true ∧
      closed.transmitted = [(command.request 7).encode] ∧
      (∀ moves, Sealed closed (closed.after moves) ∧
        ∀ result ∈ (closed.after moves).endedSince called, Granted result) ∧
      (closed.after [.advance, .advance]).results = [.error (.error .closed)] := by
  intro start command early between called closed
  have idle : ((ofSession start).after early).closing = .idle := by decide +kernel
  have completed : ((ofSession start).after (early ++ .close :: between)).closing = .completed := by
    decide +kernel
  let released := called.after [.close, .close, .receive none, .receive none, .close, .close]
  have waits : released.inside =
      some (.waiting ⟨command, (command.request 7).encode, ⟨7, 0⟩, 3, 1, start.deadline⟩) := by
    decide +kernel
  have guarded : Guarded closed := by
    have last : closed = released.after [.close] :=
      after_append called [.close, .close, .receive none, .receive none, .close, .close] [.close]
    rw [last]
    exact guarded_close_of_waiting (by decide +kernel) waits
  have none : closed.endedSince called = [] := by decide +kernel
  have final := (sealed_iff start early between idle completed).1.2 ⟨guarded, by rw [none]; nofun⟩
  have ended : (closed.after [.advance, .advance]).results = [.error (.error .closed)] := by
    decide +kernel
  refine ⟨⟨?_, completed⟩, ?_, ?_, final, ended⟩ <;> decide +kernel

/-- A command that has passed the checks when the session is closed is registered and transmitted
after the closing.  A command whose time is over while the closing waits for the receiver ends without
a response. -/
theorem close_overtaken :
    let config := SessionConfig.default.withRetries 0
    let start : Session := ⟨⟨anyEndpoint, none⟩, config, .startingAt 0, false, true, 0⟩
    let command : Command := ⟨"enable event emit", 0x08, .controller, .basic 1 0 0 0⟩
    let checked := (ofSession start).after [.call command, .enter 0, .advance, .advance]
    let closed :=
      checked.after [.close, .close, .receive none, .receive none, .close, .close, .close]
    let registered := closed.after [.advance, .advance]
    let waiting := checked.after [.advance, .advance, .advance]
    let overdue := waiting.after [.close, .close, .tick config.timeout.nanoseconds, .advance]
    Session.opened .networked ⟨anyEndpoint, none⟩ config true = .ok start ∧
      (checked.closing = .idle ∧ closed.closing = .completed ∧ closed.transmitted = [] ∧
        registered.session.tracker.isPending 0 = true ∧
        (registered.after [.advance]).transmitted = [(command.request 0).encode]) ∧
      (waiting.closing = .idle ∧ overdue.closing = .signalled ∧ overdue.results = [] ∧
        (overdue.after [.advance, .advance]).results =
          [.error (.error (.noResponse command.name command.target 1))]) := by
  intro config start command checked closed registered waiting overdue
  have none : overdue.results = [] := by decide +kernel
  have inside : overdue.inside = some
      (.expiring ⟨command, (command.request 0).encode, ⟨0, 0⟩, 1, 1, start.deadline⟩) := by
    decide +kernel
  have pending : (overdue.session.tracker.slot (Ticket.mk 0 0).seq).pending =
      some ⟨start.deadline, 0⟩ := by
    decide +kernel
  have closes : (overdue.session.tracker.expire overdue.session.clock).2.mailbox? ⟨0, 0⟩ =
      some .closed :=
    Tracker.mailbox?_expire_of_due (by decide +kernel) pending (by decide +kernel)
  have unanswered := results_of_expiring inside (by decide +kernel)
    (by rw [Tracker.look, closes]; rfl)
  rw [none, List.nil_append] at unanswered
  refine ⟨rfl, ⟨?_, ?_, ?_, ?_, ?_⟩, ?_, ?_, none, unanswered⟩ <;> decide +kernel

end LiveSession

end LightingControl
