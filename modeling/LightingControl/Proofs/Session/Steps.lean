import LightingControl.Proofs.Session.Datagrams
/-!
# A session in use by several threads

Any number of threads send commands on a session, and the lock lets one of them at a time into `send`.
One thread receives, and any thread may close the session at any moment, with or without a command
under way.  `LiveSession.step` is one atomic step of the thread inside the lock: one access to the
closed flag, the socket, the tracker or a mailbox.  `LiveSession.move` is one step of any thread, so a
list of moves is one way in which the threads can be interleaved.  A move that is not possible, because
its thread is blocked or has no such step, changes nothing.

Time passes between moves.  Every access is taken as atomic and as seen by all threads at once.
-/

set_option autoImplicit false

namespace LightingControl

instance decidableEqExcept {ε α : Type} [DecidableEq ε] [DecidableEq α] : DecidableEq (Except ε α)
  | .ok a, .ok b => decidable_of_iff (a = b) ⟨congrArg _, Except.ok.inj⟩
  | .error a, .error b => decidable_of_iff (a = b) ⟨congrArg _, Except.error.inj⟩
  | .ok _, .error _ => isFalse nofun
  | .error _, .ok _ => isFalse nofun

/-- A request under way. -/
structure Dispatch where
  command : Command
  wire : Bytes
  ticket : Ticket
  bound : Nat
  /-- How often it has been transmitted, with the transmission that comes next if there is one. -/
  made : Nat
  deadline : Moment
  deriving DecidableEq

/-- Where the thread inside the lock stands, named for its next step. -/
inductive Stage where
  | checking (command : Command)
  | connecting (command : Command)
  /-- It takes a number and works out how many attempts to make. -/
  | numbering (command : Command)
  | registering (command : Command) (seq : UInt8) (bound : Nat)
  | transmitting (dispatch : Dispatch)
  | waiting (dispatch : Dispatch)
  /-- A wait was in vain, and it moves the deadline of the request for the next one. -/
  | retrying (dispatch : Dispatch)
  | expiring (dispatch : Dispatch)
  /-- It ends with the response that has arrived all the same, or else with the error. -/
  | leaving (ticket : Ticket) (error : SessionError)
  deriving DecidableEq

inductive Receiver where
  | checking
  | listening
  /-- It has removed the request of a ticket, and puts the response into the mailbox. -/
  | delivering (ticket : Ticket)
  | stopped
  deriving DecidableEq, Repr

/-- How far the closing of a session has come. -/
inductive Closing where
  | idle
  | marked
  | signalled
  | joined
  | released
  | completed
  deriving DecidableEq, Repr

/-- The threads that use a session, what they share besides it, and what has come of them. -/
structure Threads where
  stop : Bool
  hasSocket : Bool
  receiver : Receiver
  closing : Closing
  queue : List Command
  inside : Option Stage
  transmitted : List Bytes
  forwarded : List Bytes
  results : List (Except Failure Response)

def Threads.initial : Threads :=
  ⟨false, true, .listening, .idle, [], none, [], [], []⟩

structure LiveSession extends Threads where
  session : Session

namespace LiveSession

def ofSession (session : Session) : LiveSession :=
  ⟨.initial, session⟩

/-! ## The thread inside the lock -/

def track (live : LiveSession) (tracker : Tracker) : LiveSession :=
  { live with session.tracker := tracker }

def stand (live : LiveSession) (stage : Stage) : LiveSession :=
  { live with inside := some stage }

def finish (live : LiveSession) (result : Except Failure Response) : LiveSession :=
  { live with inside := none, results := live.results ++ [result] }

def transmit (live : LiveSession) (wire : Bytes) : LiveSession :=
  { live with transmitted := live.transmitted ++ [wire] }

/-- The mailbox of a ticket as the thread finds it: the response that is being delivered to it is not
there yet. -/
def wait (live : LiveSession) (ticket : Ticket) : Waited × Tracker :=
  if live.receiver = .delivering ticket then (.timeout, live.session.tracker)
  else live.session.tracker.wait ticket

def take (live : LiveSession) (ticket : Ticket) : Option Response × Tracker :=
  if live.receiver = .delivering ticket then (none, live.session.tracker)
  else live.session.tracker.take ticket

theorem wait_of_still {live : LiveSession} {ticket : Ticket}
    (still : live.receiver ≠ .delivering ticket) :
    live.wait ticket = live.session.tracker.wait ticket :=
  if_neg still

theorem take_of_still {live : LiveSession} {ticket : Ticket}
    (still : live.receiver ≠ .delivering ticket) :
    live.take ticket = live.session.tracker.take ticket :=
  if_neg still

def step (live : LiveSession) : Stage → LiveSession
  | .checking command =>
    if live.session.closed then live.finish (.error (.error .closed))
    else live.stand (.connecting command)
  | .connecting command =>
    if live.hasSocket then live.stand (.numbering command)
    else live.finish (.error (.error .closed))
  | .numbering command =>
    let (seq, tracker) := live.session.tracker.next
    match Session.attemptBound? live.session.config.retries with
    | none => (live.track tracker).finish (.error (.abort .attemptBoundOverflow))
    | some bound => (live.track tracker).stand (.registering command seq bound.toNat)
  | .registering command seq bound =>
    match live.session.deadline? with
    | none => live.finish (.error (.abort .deadlineOverflow))
    | some deadline =>
      let (ticket, tracker) := live.session.tracker.register seq deadline
      (live.track tracker).stand
        (.transmitting ⟨command, (command.request seq).encode, ticket, bound, 1, deadline⟩)
  | .transmitting dispatch => (live.transmit dispatch.wire).stand (.waiting dispatch)
  | .waiting dispatch =>
    match live.wait dispatch.ticket with
    | (.response response, tracker) => (live.track tracker).finish (.ok response)
    | (.dropped, tracker) => (live.track tracker).stand (.leaving dispatch.ticket .closed)
    | (.timeout, tracker) =>
      if live.session.clock < dispatch.deadline then live
      else if dispatch.bound ≤ dispatch.made then (live.track tracker).stand (.expiring dispatch)
      else
        match live.session.deadline? with
        | none => (live.track tracker).finish (.error (.abort .deadlineOverflow))
        | some deadline => (live.track tracker).stand (.retrying { dispatch with deadline })
  | .retrying dispatch =>
    match live.session.tracker.retry dispatch.ticket.seq dispatch.deadline with
    | (.overflow, tracker) => (live.track tracker).finish (.error (.abort .retryCountOverflow))
    | (.free, tracker) => (live.track tracker).stand (.leaving dispatch.ticket .closed)
    | (.counted _, tracker) =>
      (live.track tracker).stand (.transmitting { dispatch with made := dispatch.made + 1 })
  | .expiring dispatch =>
    (live.track (live.session.tracker.expire live.session.clock).2).stand
      (.leaving dispatch.ticket
        (.noResponse dispatch.command.name dispatch.command.target dispatch.made))
  | .leaving ticket error =>
    match live.take ticket with
    | (some response, tracker) => (live.track tracker).finish (.ok response)
    | (none, tracker) => (live.track tracker).finish (.error (.error error))

def advance (live : LiveSession) : LiveSession :=
  match live.inside with
  | none => live
  | some stage => live.step stage

/-! ## The other threads -/

def receiverAfter (live : LiveSession) (datagram : Bytes) : Receiver :=
  match live.session.fate datagram with
  | .completes response =>
    .delivering ⟨response.seq, (live.session.tracker.slot response.seq).settled.length⟩
  | .forwarded _ | .ignored => .checking

theorem receiverAfter_cases (live : LiveSession) (datagram : Bytes) :
    live.receiverAfter datagram = .checking ∨
      ∃ ticket, live.receiverAfter datagram = .delivering ticket := by
  unfold receiverAfter
  split
  · exact .inr ⟨_, rfl⟩
  · exact .inl rfl
  · exact .inl rfl

def receive (live : LiveSession) (datagram : Option Bytes) : LiveSession :=
  match live.receiver, datagram with
  | .checking, _ => { live with receiver := if live.stop then .stopped else .listening }
  | .listening, none => { live with receiver := .checking }
  | .listening, some datagram =>
    { live with
      receiver := live.receiverAfter datagram
      session := (live.session.accept datagram).1
      forwarded := live.forwarded ++ (live.session.accept datagram).2 }
  | .delivering _, _ => { live with receiver := .checking }
  | .stopped, _ => live

theorem receive_of_listening {live : LiveSession} (listening : live.receiver = .listening)
    (datagram : Bytes) :
    live.receive (some datagram) =
      { live with
        receiver := live.receiverAfter datagram
        session := (live.session.accept datagram).1
        forwarded := live.forwarded ++ (live.session.accept datagram).2 } := by
  unfold receive
  simp only [listening]

/-- The next step of the thread that closes the session.  It waits for the receiver to stop. -/
def close (live : LiveSession) : LiveSession :=
  match live.closing with
  | .idle => { live with session.closed := true, closing := .marked }
  | .marked => { live with stop := true, closing := .signalled }
  | .signalled => if live.receiver = .stopped then { live with closing := .joined } else live
  | .joined => { live with hasSocket := false, closing := .released }
  | .released =>
    { live with session.tracker := live.session.tracker.failAll.2, closing := .completed }
  | .completed => live

inductive Move where
  | call (command : Command)
  /-- One of the threads that wait for the lock gets it. -/
  | enter (i : Nat)
  | advance
  | receive (datagram : Option Bytes)
  | close
  | tick (time : Nat)

def move (live : LiveSession) : Move → LiveSession
  | .call command => { live with queue := live.queue ++ [command] }
  | .enter i =>
    match live.inside, live.queue[i]? with
    | none, some command =>
      { live with queue := live.queue.eraseIdx i, inside := some (.checking command) }
    | _, _ => live
  | .advance => live.advance
  | .receive datagram => live.receive datagram
  | .close => live.close
  | .tick time => { live with session.clock := live.session.clock + time }

def after (live : LiveSession) (moves : List Move) : LiveSession :=
  moves.foldl move live

@[simp] theorem after_nil (live : LiveSession) : live.after [] = live := rfl

@[simp] theorem after_cons (live : LiveSession) (first : Move) (rest : List Move) :
    live.after (first :: rest) = (live.move first).after rest := rfl

theorem after_append (live : LiveSession) (early late : List Move) :
    live.after (early ++ late) = (live.after early).after late :=
  List.foldl_append

/-- All that a step can do: the thread leaves with a result, or goes on to another stage, with or
without a transmission, or waits. -/
inductive Stepped (live : LiveSession) : LiveSession → Prop
  | finished (tracker : Tracker) (result : Except Failure Response) :
    Stepped live ((live.track tracker).finish result)
  | moved (tracker : Tracker) (stage : Stage) : Stepped live ((live.track tracker).stand stage)
  | transmitted (wire : Bytes) (stage : Stage) : Stepped live ((live.transmit wire).stand stage)
  | waited : Stepped live live

theorem stepped_step (live : LiveSession) (stage : Stage) : Stepped live (live.step stage) := by
  cases stage with
  | checking command =>
    rw [step]
    split
    · exact .finished live.session.tracker _
    · exact .moved live.session.tracker _
  | connecting command =>
    rw [step]
    split
    · exact .moved live.session.tracker _
    · exact .finished live.session.tracker _
  | numbering command =>
    simp only [step]
    split
    · exact .finished _ _
    · exact .moved _ _
  | registering command seq bound =>
    simp only [step]
    split
    · exact .finished live.session.tracker _
    · exact .moved _ _
  | transmitting dispatch => exact .transmitted _ _
  | waiting dispatch =>
    rw [step]
    split
    · exact .finished _ _
    · exact .moved _ _
    · split
      · exact .waited
      · split
        · exact .moved _ _
        · split
          · exact .finished _ _
          · exact .moved _ _
  | retrying dispatch =>
    rw [step]
    split
    · exact .finished _ _
    · exact .moved _ _
    · exact .moved _ _
  | expiring dispatch => exact .moved _ _
  | leaving ticket error =>
    rw [step]
    split <;> exact .finished _ _

theorem advance_of_inside {live : LiveSession} {stage : Stage} (inside : live.inside = some stage) :
    live.advance = live.step stage := by
  rw [advance, inside]

theorem advance_of_free {live : LiveSession} (free : live.inside = none) : live.advance = live := by
  rw [advance, free]

theorem stepped_advance (live : LiveSession) : Stepped live live.advance := by
  cases inside : live.inside with
  | none =>
    rw [advance_of_free inside]
    exact .waited
  | some stage =>
    rw [advance_of_inside inside]
    exact stepped_step live stage

theorem fixed_move (live : LiveSession) (move : Move) :
    (live.move move).session.identity = live.session.identity ∧
      (live.move move).session.config = live.session.config ∧
      (live.move move).session.hasSink = live.session.hasSink := by
  cases move with
  | call command => exact ⟨rfl, rfl, rfl⟩
  | enter i =>
    rw [LiveSession.move]
    split <;> exact ⟨rfl, rfl, rfl⟩
  | advance =>
    have stepped := stepped_advance live
    rw [LiveSession.move]
    generalize live.advance = later at stepped
    cases stepped <;> exact ⟨rfl, rfl, rfl⟩
  | receive datagram =>
    rw [LiveSession.move]
    unfold receive
    split
    · exact ⟨rfl, rfl, rfl⟩
    · exact ⟨rfl, rfl, rfl⟩
    · rename_i datagram _
      dsimp only
      rw [(live.session.reception_accept datagram).session_eq]
      exact ⟨rfl, rfl, rfl⟩
    · exact ⟨rfl, rfl, rfl⟩
    · exact ⟨rfl, rfl, rfl⟩
  | close =>
    rw [LiveSession.move]
    unfold close
    split <;> (try split) <;> exact ⟨rfl, rfl, rfl⟩
  | tick time => exact ⟨rfl, rfl, rfl⟩

theorem identity_move (live : LiveSession) (move : Move) :
    (live.move move).session.identity = live.session.identity :=
  (fixed_move live move).1

theorem hasSink_move (live : LiveSession) (move : Move) :
    (live.move move).session.hasSink = live.session.hasSink :=
  (fixed_move live move).2.2

theorem identity_after (live : LiveSession) (moves : List Move) :
    (live.after moves).session.identity = live.session.identity := by
  induction moves generalizing live with
  | nil => rfl
  | cons first rest ih => exact (ih (live.move first)).trans (identity_move live first)

end LiveSession

end LightingControl
