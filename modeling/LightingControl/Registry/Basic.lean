import LightingControl.Event.Basic
import LightingControl.Session.Basic
/-!
# Sessions with many controllers

A registry opens a session for a controller when it is first asked for one, and hands out the same
session from then on until it is closed there.  Sessions that have been handed out stay usable by
their key; a session that is closed by its key stays registered.
-/

set_option autoImplicit false

namespace LightingControl

/-- The name of a session: the endpoint of its controller, and how many sessions were opened for that
endpoint before. -/
structure SessionKey where
  endpoint : Endpoint
  turn : Nat
  deriving DecidableEq, Repr

structure RegistryEntry where
  key : SessionKey
  session : Session
  /-- Whether the registry still hands it out. -/
  registered : Bool
  deriving DecidableEq

def RegistryEntry.retire (entry : RegistryEntry) : RegistryEntry :=
  { entry with session := entry.session.close, registered := false }

structure Registry where
  config : SessionConfig
  hasSink : Bool
  entries : List RegistryEntry
  deriving DecidableEq

namespace Registry

def ofConfig (config : SessionConfig) (hasSink : Bool) : Registry :=
  ⟨config, hasSink, []⟩

def registered (registry : Registry) : List RegistryEntry :=
  registry.entries.filter RegistryEntry.registered

def entry? (registry : Registry) (endpoint : Endpoint) : Option RegistryEntry :=
  registry.registered.find? fun entry => entry.key.endpoint == endpoint

def get? (registry : Registry) (endpoint : Endpoint) : Option SessionKey :=
  (registry.entry? endpoint).map RegistryEntry.key

def session? (registry : Registry) (key : SessionKey) : Option Session :=
  (registry.entries.find? fun entry => entry.key == key).map RegistryEntry.session

def update (registry : Registry) (key : SessionKey) (session : Session) : Registry :=
  { registry with
    entries := registry.entries.map fun entry =>
      if entry.key = key then { entry with session } else entry }

/-- The key of the session for a controller, which is opened if none is registered for its
endpoint.  If that fails, the registry stays as it is. -/
def forController (registry : Registry) (host : Host) (identity : ControllerIdentity) :
    Except SessionError SessionKey × Registry :=
  match registry.get? identity.endpoint with
  | some key => (.ok key, registry)
  | none =>
    match Session.opened host identity registry.config registry.hasSink with
    | .error error => (.error error, registry)
    | .ok session =>
      let turn := registry.entries.countP fun entry => entry.key.endpoint == identity.endpoint
      let key : SessionKey := ⟨identity.endpoint, turn⟩
      (.ok key, { registry with entries := registry.entries ++ [⟨key, session, true⟩] })

/-- Sends a command on the session with a key; an unknown key counts as a closed session. -/
def sendOn (registry : Registry) (key : SessionKey) (command : Command)
    (during : Nat → List Happening) :
    Except Failure Response × List Bytes × List Bytes × Registry :=
  match registry.session? key with
  | none => (.error (.error .closed), [], [], registry)
  | some session =>
    let exchange := session.send command during
    (exchange.result, exchange.requests, exchange.forwarded,
      registry.update key exchange.session)

/-- Sends a command to a controller, on a session opened if necessary.  Gives the result, the
datagrams sent and the datagrams handed to the sink. -/
def sendCommand (registry : Registry) (host : Host) (identity : ControllerIdentity)
    (command : Command) (during : Nat → List Happening) :
    Except Failure Response × List Bytes × List Bytes × Registry :=
  match registry.forController host identity with
  | (.error error, registry) => (.error (.error error), [], [], registry)
  | (.ok key, registry) => registry.sendOn key command during

def receive (registry : Registry) (key : SessionKey) (datagram : Bytes) :
    Registry × List Bytes :=
  match registry.session? key with
  | none => (registry, [])
  | some session =>
    let (session, forwarded) := session.receive datagram
    (registry.update key session, forwarded)

def identities (registry : Registry) : List ControllerIdentity :=
  registry.registered.map fun entry => entry.session.identity

def all (registry : Registry) : List SessionKey :=
  registry.registered.map RegistryEntry.key

def size (registry : Registry) : Nat :=
  registry.registered.length

def isEmpty (registry : Registry) : Bool :=
  registry.registered.isEmpty

/-- The registered controller that reported an event: one with the event's hardware address, or else
one with the address of the host that the event came from. -/
def identify (registry : Registry) (event : Event) : Option ControllerIdentity :=
  let byMac :=
    match event.controller.mac with
    | some mac => registry.identities.find? fun identity => identity.mac == some mac
    | none => none
  match byMac with
  | some identity => some identity
  | none =>
    registry.identities.find? fun identity =>
      identity.endpoint.ip == event.controller.endpoint.ip

def closeSession (registry : Registry) (key : SessionKey) : Registry :=
  { registry with
    entries := registry.entries.map fun entry =>
      if entry.key = key then { entry with session := entry.session.close } else entry }

def close (registry : Registry) (endpoint : Endpoint) : Bool × Registry :=
  ((registry.entry? endpoint).isSome,
    { registry with
      entries := registry.entries.map fun entry =>
        if entry.registered && entry.key.endpoint == endpoint then entry.retire
        else entry })

def closeAll (registry : Registry) : Registry :=
  { registry with
    entries := registry.entries.map fun entry =>
      if entry.registered then entry.retire else entry }

end Registry

end LightingControl
