import LightingControl.Config.Basic
import LightingControl.Document.Basic
/-!
# Settings as documents

A record gives settings by name, a list gives them by position; settings that are left out take their
defaults.  A duration needs both of its parts and has no others.

A timeout is taken as the document gives it, also outside the bounds that the setter keeps.
-/

set_option autoImplicit false

namespace LightingControl

/-- Seconds and nanoseconds; nanoseconds beyond a second count as seconds too, and the seconds must
fit into 64 bits. -/
def Duration.ofParts? (seconds nanoseconds : Document) : Option Duration := do
  let seconds ← seconds.natural? UInt64.size
  let nanoseconds ← nanoseconds.natural? UInt32.size
  if seconds + nanoseconds / Duration.perSecond < UInt64.size then
    some ⟨seconds * Duration.perSecond + nanoseconds⟩
  else
    none

/-- A duration as a record of exactly `secs` and `nanos`, or as a list of both. -/
def Duration.ofDocument? : Document → Option Duration
  | .record fields =>
    if fields.all (fun field => field.1 == "secs" || field.1 == "nanos") then do
      let seconds ← fields.lookup "secs"
      let nanoseconds ← fields.lookup "nanos"
      Duration.ofParts? seconds nanoseconds
    else
      none
  | .list [seconds, nanoseconds] => Duration.ofParts? seconds nanoseconds
  | _ => none

def Duration.document (duration : Duration) : Document :=
  .record [("secs", .ofNat duration.seconds), ("nanos", .ofNat duration.subsecond)]

def Endpoint.ofDocument? (document : Document) : Option Endpoint := do
  Endpoint.ofText? (← document.text?)

def Endpoint.document (endpoint : Endpoint) : Document :=
  .text endpoint.text

def Ipv4.ofDocument? (document : Document) : Option Ipv4 := do
  Ipv4.ofText? (← document.text?)

namespace Document

def holdsSettings (count : Nat) : Document → Bool
  | .record _ => true
  | .list items => items.length ≤ count
  | _ => false

def setting? (document : Document) (name : String) (position : Nat) : Option Document :=
  match document with
  | .record fields => fields.lookup name
  | .list items => items[position]?
  | _ => none

/-- A setting read from a document, or its default where the document leaves it out. -/
def read {α : Type} (document : Document) (name : String) (position : Nat) (default : α)
    (reader : Document → Option α) : Option α :=
  match document.setting? name position with
  | some value => reader value
  | none => some default

end Document

def SessionConfig.ofDocument? (document : Document) : Option SessionConfig := do
  if !document.holdsSettings 5 then none
  let fallback := SessionConfig.default
  let bind ← document.read "bind" 0 fallback.bind Endpoint.ofDocument?
  let timeout ← document.read "timeout" 1 fallback.timeout Duration.ofDocument?
  let retries ← document.read "retries" 2 fallback.retries Document.doubleWord?
  let pollInterval ← document.read "poll_interval" 3 fallback.pollInterval Duration.ofDocument?
  let initialSeq ← document.read "initial_seq" 4 fallback.initialSeq Document.byte?
  return { bind, timeout, retries, pollInterval, initialSeq }

def SessionConfig.document (config : SessionConfig) : Document :=
  .record [("bind", config.bind.document), ("timeout", config.timeout.document),
    ("retries", .ofNat config.retries.toNat), ("poll_interval", config.pollInterval.document),
    ("initial_seq", .ofByte config.initialSeq)]

def ListenerConfig.ofDocument? (document : Document) : Option ListenerConfig := do
  if !document.holdsSettings 7 then none
  let fallback := ListenerConfig.default
  let multicast ← document.read "multicast" 0 fallback.multicast Document.boolean?
  let multicastGroup ← document.read "multicast_group" 1 fallback.multicastGroup Ipv4.ofDocument?
  let multicastPort ← document.read "multicast_port" 2 fallback.multicastPort Document.word?
  let interface ← document.read "interface" 3 fallback.interface Ipv4.ofDocument?
  let unicastBind ← document.read "unicast_bind" 4 fallback.unicastBind
    (Document.optional? Endpoint.ofDocument?)
  let dedupWindow ← document.read "dedup_window" 5 fallback.dedupWindow Duration.ofDocument?
  let pollInterval ← document.read "poll_interval" 6 fallback.pollInterval Duration.ofDocument?
  return { multicast, multicastGroup, multicastPort, interface, unicastBind, dedupWindow,
           pollInterval }

def ListenerConfig.document (config : ListenerConfig) : Document :=
  .record [("multicast", .boolean config.multicast),
    ("multicast_group", .text config.multicastGroup.text),
    ("multicast_port", .ofWord config.multicastPort), ("interface", .text config.interface.text),
    ("unicast_bind", .ofOption Endpoint.document config.unicastBind),
    ("dedup_window", config.dedupWindow.document),
    ("poll_interval", config.pollInterval.document)]

end LightingControl
