import LightingControl.Command.Basic
import LightingControl.Config.Basic
import LightingControl.Net.Host
import LightingControl.Session.Error
import LightingControl.Tracker.Basic
/-!
# Sessions

A session sends commands to one controller, one at a time, and matches the responses by sequence
number.  A command that is not answered within the timeout is sent again under the same number, as
often as the settings say.  Datagrams that belong to no pending request go to a sink, normally the
event listener.

What happens on the network while a command is under way is given as a script: for each attempt the
list of happenings between its transmission and the end of its wait, and the list of those that come
too late for a wait in vain but before it has been acted upon.  A session's clock advances only while it
waits in vain.
-/

set_option autoImplicit false

namespace LightingControl

/-- Datagrams are read into a buffer of this size; longer ones are cut. -/
def receiveBuffer : Nat := 512

structure Session where
  identity : ControllerIdentity
  config : SessionConfig
  tracker : Tracker
  closed : Bool
  /-- Whether there is a sink for unmatched datagrams. -/
  hasSink : Bool
  clock : Moment
  deriving DecidableEq

inductive Happening where
  | arrival (datagram : Bytes)
  | closing
  deriving DecidableEq, Repr

inductive Fate where
  | completes (response : Response)
  | forwarded (datagram : Bytes)
  | ignored
  deriving DecidableEq, Repr

structure Exchange (α : Type) where
  session : Session
  requests : List Bytes
  forwarded : List Bytes
  result : Except Failure α

namespace Session

/-- Opens a session.  A poll interval of zero is refused like a socket. -/
def opened (host : Host) (identity : ControllerIdentity) (config : SessionConfig)
    (hasSink : Bool) : Except SessionError Session :=
  if host.binds config.bind && host.connects config.bind identity.endpoint &&
      config.pollInterval != .zero then
    .ok ⟨identity, config, .startingAt config.initialSeq, false, hasSink, host.now⟩
  else
    .error .io

def fate (session : Session) (datagram : Bytes) : Fate :=
  let cut := datagram.take receiveBuffer
  match Frame.parse cut with
  | .ok (.response response) =>
    if session.tracker.isPending response.seq then .completes response else .forwarded cut
  | .ok (.notification _) => .forwarded cut
  | .ok (.request _) => .ignored
  | .error _ => .ignored

def sinkOf (session : Session) (datagram : Bytes) : List Bytes :=
  if session.hasSink then [datagram] else []

/-- The session after a datagram has arrived, and what the sink gets.  A closed session receives
nothing. -/
def receive (session : Session) (datagram : Bytes) : Session × List Bytes :=
  if session.closed then (session, [])
  else
    match session.fate datagram with
    | .completes response =>
      ({ session with tracker := (session.tracker.resolve response).2 }, [])
    | .forwarded cut => (session, session.sinkOf cut)
    | .ignored => (session, [])

def close (session : Session) : Session :=
  if session.closed then session
  else { session with closed := true, tracker := session.tracker.failAll.2 }

def happen (session : Session) : Happening → Session × List Bytes
  | .arrival datagram => session.receive datagram
  | .closing => (session.close, [])

def happenAll (session : Session) : List Happening → Session × List Bytes
  | [] => (session, [])
  | happening :: rest =>
    let (session, first) := session.happen happening
    let (session, later) := session.happenAll rest
    (session, first ++ later)

/-- One attempt more than the retries, if 32 bits can hold it. -/
def attemptBound? (retries : UInt32) : Option UInt32 :=
  if retries.toNat + 1 < UInt32.size then some (retries + 1) else none

/-- The end of a wait that begins now. -/
def deadline (session : Session) : Moment :=
  session.clock + session.config.timeout.nanoseconds

def deadline? (session : Session) : Option Moment :=
  session.clock.after? session.config.timeout

def elapse (session : Session) : Session :=
  { session with clock := session.deadline }

def await (session : Session) (ticket : Ticket) : Waited × Session :=
  match session.tracker.wait ticket with
  | (.response response, tracker) => (.response response, { session with tracker })
  | (.dropped, tracker) => (.dropped, { session with tracker })
  | (.timeout, tracker) => (.timeout, elapse { session with tracker })

/-- Counts another transmission under a number, with a deadline for it; false if the request has gone. -/
def retry (session : Session) (seq : UInt8) : Except Abort Bool × Session :=
  match session.deadline? with
  | none => (.error .deadlineOverflow, session)
  | some deadline =>
    match session.tracker.retry seq deadline with
    | (.overflow, tracker) => (.error .retryCountOverflow, { session with tracker })
    | (.free, tracker) => (.ok false, { session with tracker })
    | (.counted _, tracker) => (.ok true, { session with tracker })

def expire (session : Session) : Session :=
  { session with tracker := (session.tracker.expire session.clock).2 }

/-- Ends an exchange after one transmission: with the response that has arrived for the ticket all the
same, or else with an error. -/
def conclude (session : Session) (ticket : Ticket) (wire : Bytes) (forwarded : List Bytes)
    (error : SessionError) : Exchange Response :=
  match session.tracker.take ticket with
  | (some response, tracker) => ⟨{ session with tracker }, [wire], forwarded, .ok response⟩
  | (none, tracker) => ⟨{ session with tracker }, [wire], forwarded, .error (.error error)⟩

/-- Sends the request of a registered command for the `made`-th time, counted from 0, waits for its
response, and sends it again up to `retries` times. -/
def attempt (command : Command) (wire : Bytes) (ticket : Ticket)
    (during late : Nat → List Happening) : (retries made : Nat) → Session → Exchange Response
  | retries, made, session =>
    let (session, forwarded) := session.happenAll (during made)
    match session.await ticket with
    | (.response response, session) => ⟨session, [wire], forwarded, .ok response⟩
    | (.dropped, session) => session.conclude ticket wire forwarded .closed
    | (.timeout, session) =>
      let (session, missed) := session.happenAll (late made)
      let forwarded := forwarded ++ missed
      match retries with
      | 0 =>
        session.expire.conclude ticket wire forwarded
          (.noResponse command.name command.target (made + 1))
      | retries + 1 =>
        match session.retry ticket.seq with
        | (.error abort, session) => ⟨session, [wire], forwarded, .error (.abort abort)⟩
        | (.ok false, session) => session.conclude ticket wire forwarded .closed
        | (.ok true, session) =>
          let later := attempt command wire ticket during late retries (made + 1) session
          { later with
            requests := wire :: later.requests
            forwarded := forwarded ++ later.forwarded }

/-- Sends a command and waits for its response.  While attempt `i`, counted from 0, is under way,
`during i` happens; if it ends in vain, `late i` happens before the request is sent again or given
up. -/
def send (session : Session) (command : Command) (during : Nat → List Happening)
    (late : Nat → List Happening := fun _ => []) : Exchange Response :=
  if session.closed then ⟨session, [], [], .error (.error .closed)⟩
  else
    let (seq, tracker) := session.tracker.next
    let wire := (command.request seq).encode
    match attemptBound? session.config.retries with
    | none => ⟨{ session with tracker }, [], [], .error (.abort .attemptBoundOverflow)⟩
    | some bound =>
      match session.deadline? with
      | none => ⟨{ session with tracker }, [], [], .error (.abort .deadlineOverflow)⟩
      | some deadline =>
        let (ticket, tracker) := tracker.register seq deadline
        attempt command wire ticket during late (bound.toNat - 1) 0 { session with tracker }

end Session

end LightingControl
