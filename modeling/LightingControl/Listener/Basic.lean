import LightingControl.Config.Basic
import LightingControl.Event.Decode
import LightingControl.Net.Host
import LightingControl.Session.Basic
/-!
# Event listeners

A listener takes datagrams from its sockets and from sessions, leaves out repeats, and passes each
event on to the subscriptions that want it.  A subscription has a queue of its own, worked off one
event at a time, so that a handler that is slow or fails holds up nobody else; events that are
queued when a subscription ends are still handled.

A repeat is a datagram with the same bytes as one that was let through less than the deduplication
window ago.  Repeats do not lengthen the window.
-/

set_option autoImplicit false

namespace LightingControl

inductive EventFilter where
  | all
  | only (type : EventType)
  deriving DecidableEq, Repr

def EventFilter.matches : EventFilter → EventType → Bool
  | .all, _ => true
  | .only wanted, type => wanted == type

/-- The name of a subscription; subscriptions are numbered from 1 on. -/
structure SubscriptionId where
  number : Nat
  deriving DecidableEq, Repr

def SubscriptionId.debugText (id : SubscriptionId) : String :=
  let number := id.number
  s!"SubscriptionId({number})"

inductive Handling where
  | completed
  | failed
  deriving DecidableEq, Repr

structure Subscription where
  id : SubscriptionId
  filter : EventFilter
  handler : Event → Handling
  /-- Whether events are still queued for it. -/
  registered : Bool
  queue : List Event
  handled : List Event
  failures : Nat

namespace Subscription

def wants (subscription : Subscription) (type : EventType) : Bool :=
  subscription.registered && subscription.filter.matches type

def offer (event : Event) (subscription : Subscription) : Subscription :=
  if subscription.wants event.type then
    { subscription with queue := subscription.queue ++ [event] }
  else
    subscription

/-- Calls the handler with an event; a failure is counted and otherwise without effect. -/
def handle (subscription : Subscription) (event : Event) : Subscription :=
  let subscription := { subscription with handled := subscription.handled ++ [event] }
  match subscription.handler event with
  | .completed => subscription
  | .failed => { subscription with failures := subscription.failures + 1 }

def work (subscription : Subscription) : Subscription :=
  match subscription.queue with
  | [] => subscription
  | event :: rest => { subscription with queue := rest }.handle event

def drain (subscription : Subscription) : Subscription :=
  subscription.queue.foldl handle { subscription with queue := [] }

end Subscription

inductive Ingest where
  | dispatched (count : Nat)
  | duplicate
  /-- It is no frame, or its event cannot be read. -/
  | dropped
  | ignored
  deriving DecidableEq, Repr

structure ListenerStats where
  received : Nat := 0
  dispatched : Nat := 0
  duplicates : Nat := 0
  dropped : Nat := 0
  deriving DecidableEq, Repr

def ListenerStats.count (stats : ListenerStats) (outcome : Ingest) : ListenerStats :=
  let stats := { stats with received := stats.received + 1 }
  match outcome with
  | .dispatched _ => { stats with dispatched := stats.dispatched + 1 }
  | .duplicate => { stats with duplicates := stats.duplicates + 1 }
  | .dropped => { stats with dropped := stats.dropped + 1 }
  | .ignored => stats

/-- An event datagram that was let through, and when. -/
structure Sighting where
  mac : MacAddress
  datagram : Bytes
  time : Moment
  deriving DecidableEq, Repr

inductive SocketRole where
  | multicast
  | unicast
  deriving DecidableEq, Repr

structure Listener where
  config : ListenerConfig
  seen : List Sighting
  subscriptions : List Subscription
  nextId : Nat
  stats : ListenerStats
  sockets : List SocketRole

namespace Listener

def ofConfig (config : ListenerConfig) : Listener :=
  ⟨config, [], [], 1, {}, []⟩

/-- The sockets that the settings ask for, if the host lets all of them be opened.  A poll interval of
zero is refused for a unicast socket, whatever the host permits. -/
def openSockets (host : Host) (config : ListenerConfig) : Option (List SocketRole) := do
  let multicast ←
    if !config.multicast then some []
    else if host.binds (.v4 .unspecified config.multicastPort) &&
        host.joins config.multicastGroup config.interface &&
        host.polls config.pollInterval then some [.multicast]
    else none
  let unicast ←
    match config.unicastBind with
    | none => some []
    | some bind =>
      if host.binds bind && config.pollInterval != .zero then some [.unicast] else none
  return multicast ++ unicast

/-- Opens the sockets; false if the host refuses one, and then none is opened.  A listener with open
sockets is left as it is. -/
def start (listener : Listener) (host : Host) : Bool × Listener :=
  if listener.sockets.isEmpty then
    match openSockets host listener.config with
    | some sockets => (true, { listener with sockets })
    | none => (false, listener)
  else
    (true, listener)

def subscribe (listener : Listener) (filter : EventFilter) (handler : Event → Handling) :
    SubscriptionId × Listener :=
  let id : SubscriptionId := ⟨listener.nextId⟩
  (id,
    { listener with
      subscriptions := listener.subscriptions ++ [⟨id, filter, handler, true, [], [], 0⟩]
      nextId := listener.nextId + 1 })

def isRegistered (listener : Listener) (id : SubscriptionId) : Bool :=
  listener.subscriptions.any fun subscription =>
    subscription.registered && subscription.id == id

def unsubscribe (listener : Listener) (id : SubscriptionId) : Bool × Listener :=
  (listener.isRegistered id,
    { listener with
      subscriptions := listener.subscriptions.map fun subscription =>
        if subscription.id = id then { subscription with registered := false }
        else subscription })

def subscriberCount (listener : Listener) : Nat :=
  listener.subscriptions.countP Subscription.registered

def recent (listener : Listener) (now : Moment) : List Sighting :=
  listener.seen.filter fun sighting =>
    now - sighting.time < listener.config.dedupWindow.nanoseconds

/-- Whether an event datagram repeats one within the window; if not, it is remembered. -/
def recognise (listener : Listener) (now : Moment) (mac : MacAddress) (datagram : Bytes) :
    Bool × Listener :=
  if listener.config.dedupWindow = .zero then (false, listener)
  else
    let recent := listener.recent now
    if recent.any (fun sighting => sighting.mac == mac && sighting.datagram == datagram) then
      (true, { listener with seen := recent })
    else
      (false, { listener with seen := recent ++ [⟨mac, datagram, now⟩] })

def dispatch (listener : Listener) (event : Event) : Nat × Listener :=
  (listener.subscriptions.countP fun subscription => subscription.wants event.type,
    { listener with subscriptions := listener.subscriptions.map (Subscription.offer event) })

def consider (listener : Listener) (now : Moment) (datagram : Bytes) (source : Endpoint) :
    Ingest × Listener :=
  match Frame.parse datagram with
  | .error _ => (.dropped, listener)
  | .ok (.request _) => (.ignored, listener)
  | .ok (.response _) => (.ignored, listener)
  | .ok (.notification notification) =>
    match listener.recognise now notification.mac datagram with
    | (true, listener) => (.duplicate, listener)
    | (false, listener) =>
      match Event.decode notification source with
      | .error _ => (.dropped, listener)
      | .ok event =>
        let (count, listener) := listener.dispatch event
        (.dispatched count, listener)

def ingest (listener : Listener) (now : Moment) (datagram : Bytes) (source : Endpoint) :
    Ingest × Listener :=
  let (outcome, listener) := listener.consider now datagram source
  (outcome, { listener with stats := listener.stats.count outcome })

/-- Takes a datagram that arrives at a socket, cut to the size of the receive buffer. -/
def receive (listener : Listener) (now : Moment) (datagram : Bytes) (source : Endpoint) :
    Ingest × Listener :=
  listener.ingest now (datagram.take receiveBuffer) source

def work (listener : Listener) (id : SubscriptionId) : Listener :=
  { listener with
    subscriptions := listener.subscriptions.map fun subscription =>
      if subscription.id = id then subscription.work else subscription }

def settle (listener : Listener) : Listener :=
  { listener with subscriptions := listener.subscriptions.map Subscription.drain }

/-- Closes the sockets, ends every subscription and waits until its queue is worked off. -/
def stop (listener : Listener) : Listener :=
  { listener with
    sockets := []
    subscriptions := listener.subscriptions.map fun subscription =>
      if subscription.registered then { subscription.drain with registered := false }
      else subscription }

end Listener

end LightingControl
