import Mathlib.Data.List.Nodup
import LightingControl.Proofs.Registry.Entries
import LightingControl.Proofs.Session.Schedule
/-!
# Calls of a registry

A call opens a session, if one is asked for and none is registered, and then changes entries.  No change
gives an entry another key or another controller, registers it again, or touches a session that is
closed.  `Filed` is what all calls preserve.
-/

set_option autoImplicit false

namespace LightingControl

/-! ## Changes of an entry -/

structure RegistryEntry.Allowed (entry later : RegistryEntry) : Prop where
  key : later.key = entry.key
  identity : later.session.identity = entry.session.identity
  closed : entry.session.closed = true → later.session = entry.session
  registered : later.registered = true → entry.registered = true
  retired : later.registered = false → entry.registered = true → later.session.closed = true

namespace RegistryEntry

theorem Allowed.refl (entry : RegistryEntry) : entry.Allowed entry := by
  refine ⟨rfl, rfl, fun _ => rfl, id, fun unregistered registered => ?_⟩
  rw [registered] at unregistered
  cases unregistered

theorem Allowed.trans {entry between later : RegistryEntry} (first : entry.Allowed between)
    (second : between.Allowed later) : entry.Allowed later := by
  refine ⟨second.key.trans first.key, second.identity.trans first.identity, fun closed => ?_,
    fun registered => first.registered (second.registered registered),
    fun unregistered registered => ?_⟩
  · have same := first.closed closed
    have still : between.session.closed = true := by rwa [same]
    rw [second.closed still, same]
  · cases meanwhile : between.registered with
    | true => exact second.retired unregistered meanwhile
    | false =>
      have closed := first.retired meanwhile registered
      rwa [second.closed closed]

end RegistryEntry

theorem Session.closed_close (session : Session) : session.close.closed = true := by
  unfold close
  split
  · assumption
  · rfl

theorem Session.identity_close (session : Session) : session.close.identity = session.identity := by
  unfold close
  split <;> rfl

theorem Session.close_of_closed {session : Session} (closed : session.closed = true) :
    session.close = session := by
  rw [close, if_pos closed]

theorem Session.identity_receive (session : Session) (datagram : Bytes) :
    (session.receive datagram).1.identity = session.identity := by
  rw [receive_eq]
  split
  · rfl
  · rw [(session.reception_accept datagram).session_eq]

theorem Session.receive_of_closed {session : Session} (closed : session.closed = true)
    (datagram : Bytes) : session.receive datagram = (session, []) := by
  rw [receive_eq, if_pos closed]

namespace RegistryEntry

theorem allowed_changeAt (key : SessionKey) {change : Session → Session}
    (identity : ∀ session, (change session).identity = session.identity)
    (closed : ∀ session, session.closed = true → change session = session) (entry : RegistryEntry) :
    entry.Allowed (entry.changeAt key change) := by
  unfold changeAt
  split
  · refine ⟨rfl, identity entry.session, closed entry.session, id, fun unregistered registered => ?_⟩
    rw [registered] at unregistered
    cases unregistered
  · exact .refl entry

theorem allowed_retire (entry : RegistryEntry) : entry.Allowed entry.retire := by
  refine ⟨rfl, Session.identity_close _, Session.close_of_closed, nofun, fun _ _ => ?_⟩
  exact Session.closed_close _

theorem allowed_ifRegisteredAt (endpoint : Endpoint) (entry : RegistryEntry) :
    entry.Allowed (entry.ifRegisteredAt endpoint retire) := by
  unfold ifRegisteredAt
  split
  · exact allowed_retire entry
  · exact .refl entry

theorem allowed_ifRegistered (entry : RegistryEntry) :
    entry.Allowed (entry.ifRegistered retire) := by
  unfold ifRegistered
  split
  · exact allowed_retire entry
  · exact .refl entry

theorem registered_changeAt (key : SessionKey) (change : Session → Session) (entry : RegistryEntry) :
    (entry.changeAt key change).registered = entry.registered := by
  unfold changeAt
  split <;> rfl

end RegistryEntry

namespace Registry

open RegistryEntry (Allowed changeAt ifRegistered ifRegisteredAt retire)

/-! ## Calls -/

inductive Call where
  | forController (host : Host) (identity : ControllerIdentity)
  | sendCommand (host : Host) (identity : ControllerIdentity) (command : Command)
    (during : Nat → List Happening)
  | get (endpoint : Endpoint)
  | close (endpoint : Endpoint)
  | closeAll
  | sendOn (key : SessionKey) (command : Command) (during : Nat → List Happening)
  | receive (key : SessionKey) (datagram : Bytes)
  | closeSession (key : SessionKey)

def call (registry : Registry) : Call → Registry
  | .forController host identity => (registry.forController host identity).2
  | .sendCommand host identity command during =>
    (registry.sendCommand host identity command during).2.2.2
  | .get _ => registry
  | .close endpoint => (registry.close endpoint).2
  | .closeAll => registry.closeAll
  | .sendOn key command during => (registry.sendOn key command during).2.2.2
  | .receive key datagram => (registry.receive key datagram).1
  | .closeSession key => registry.closeSession key

def after (registry : Registry) (calls : List Call) : Registry :=
  calls.foldl call registry

def Call.closes (endpoint : Endpoint) : Call → Bool
  | .close other => other = endpoint
  | .closeAll => true
  | _ => false

def Call.asked? : Call → Option (Host × ControllerIdentity)
  | .forController host identity | .sendCommand host identity _ _ => some (host, identity)
  | _ => none

/-- The registry after the opening of a session, if the call leads to one. -/
def openedFor (registry : Registry) (call : Call) : Registry :=
  match call.asked? with
  | some (host, identity) => (registry.forController host identity).2
  | none => registry

def changeOf (registry : Registry) : Call → RegistryEntry → RegistryEntry
  | .forController _ _ | .get _ => id
  | .sendCommand host identity command during =>
    match (registry.forController host identity).1 with
    | .ok key => changeAt key fun session => (session.send command during).session
    | .error _ => id
  | .close endpoint => ifRegisteredAt endpoint retire
  | .closeAll => ifRegistered retire
  | .sendOn key command during => changeAt key fun session => (session.send command during).session
  | .receive key datagram => changeAt key fun session => (session.receive datagram).1
  | .closeSession key => changeAt key Session.close

theorem allowed_changeOf (registry : Registry) (call : Call) (entry : RegistryEntry) :
    entry.Allowed (registry.changeOf call entry) := by
  have sending (key : SessionKey) (command : Command) (during : Nat → List Happening) :
      entry.Allowed (entry.changeAt key fun session => (session.send command during).session) := by
    refine RegistryEntry.allowed_changeAt key
      (fun session => Session.identity_send session command during _) ?_ entry
    intro session closed
    rw [Session.send_of_closed closed]
  cases call with
  | forController host identity => exact .refl entry
  | sendCommand host identity command during =>
    rw [changeOf]
    cases (registry.forController host identity).1 with
    | ok key => exact sending key command during
    | error error => exact .refl entry
  | get endpoint => exact .refl entry
  | close endpoint => exact RegistryEntry.allowed_ifRegisteredAt endpoint entry
  | closeAll => exact RegistryEntry.allowed_ifRegistered entry
  | sendOn key command during => exact sending key command during
  | receive key datagram =>
    refine RegistryEntry.allowed_changeAt key
      (fun session => Session.identity_receive session datagram) ?_ entry
    intro session closed
    rw [Session.receive_of_closed closed]
  | closeSession key =>
    exact RegistryEntry.allowed_changeAt key Session.identity_close
      (fun session => Session.close_of_closed) entry

theorem registered_changeOf (registry : Registry) {endpoint : Endpoint} {call : Call}
    (keeps : call.closes endpoint = false) {entry : RegistryEntry}
    (own : entry.key.endpoint = endpoint) :
    (registry.changeOf call entry).registered = entry.registered := by
  cases call with
  | forController host identity => rfl
  | sendCommand host identity command during =>
    rw [changeOf]
    cases (registry.forController host identity).1 with
    | ok key => exact RegistryEntry.registered_changeAt _ _ entry
    | error error => rfl
  | get endpoint => rfl
  | close other =>
    have away : entry.key.endpoint ≠ other := by
      rintro rfl
      simp [Call.closes, own] at keeps
    rw [changeOf, RegistryEntry.ifRegisteredAt_of_ne away]
  | closeAll => cases keeps
  | sendOn key command during => exact RegistryEntry.registered_changeAt _ _ entry
  | receive key datagram => exact RegistryEntry.registered_changeAt _ _ entry
  | closeSession key => exact RegistryEntry.registered_changeAt _ _ entry

/-! ## Well-kept registries -/

variable {registry : Registry} {endpoint : Endpoint}

def Numbered (registry : Registry) : Prop :=
  ∀ entry ∈ registry.entries, entry.key.turn < (registry.entriesOf entry.key.endpoint).length

theorem Numbered.edit (numbered : registry.Numbered) {change : RegistryEntry → RegistryEntry}
    (sameKey : ∀ entry, (change entry).key = entry.key) : (registry.edit change).Numbered := by
  intro later mem
  obtain ⟨entry, was, rfl⟩ := List.mem_map.1 mem
  rw [entriesOf_edit sameKey, List.length_map, sameKey]
  exact numbered entry was

theorem Numbered.enter (numbered : registry.Numbered) (endpoint : Endpoint) (session : Session) :
    (registry.enter (registry.nextKey endpoint) session).Numbered := by
  intro entry mem
  rw [entriesOf_enter, List.length_append]
  rcases List.mem_append.1 mem with was | new
  · exact Nat.lt_of_lt_of_le (numbered entry was) (Nat.le_add_right _ _)
  · rw [List.mem_singleton.1 new, if_pos rfl]
    exact Nat.lt_succ_self _

theorem Numbered.distinct_enter (numbered : registry.Numbered)
    (distinct : (registry.entries.map RegistryEntry.key).Nodup) (endpoint : Endpoint)
    (session : Session) :
    ((registry.enter (registry.nextKey endpoint) session).entries.map RegistryEntry.key).Nodup := by
  rw [Registry.enter, List.map_append, List.nodup_append]
  refine ⟨distinct, by simp, ?_⟩
  intro key mem other new same
  obtain ⟨entry, was, rfl⟩ := List.mem_map.1 mem
  simp only [List.map_cons, List.map_nil, List.mem_singleton] at new
  subst new
  -- The turn of the new key is beyond all turns of its endpoint.
  have turn := numbered entry was
  rw [same] at turn
  exact Nat.lt_irrefl _ turn

theorem Numbered.session?_nextKey (numbered : registry.Numbered) (endpoint : Endpoint) :
    registry.session? (registry.nextKey endpoint) = none := by
  rw [session?, Option.map_eq_none_iff, List.find?_eq_none]
  intro entry mem same
  have turn := numbered entry mem
  rw [beq_iff_eq.1 same] at turn
  exact Nat.lt_irrefl _ turn

theorem session?_enter_of_fresh {key : SessionKey} (fresh : registry.session? key = none) (session : Session)
    (other : SessionKey) :
    (registry.enter key session).session? other =
      if other = key then some session else registry.session? other := by
  rw [session?, Option.map_eq_none_iff] at fresh
  rw [session?, enter, List.find?_append, session?]
  split
  · rename_i same
    rw [same, fresh]
    simp
  · rename_i different
    have away : (key == other) = false := beq_eq_false_iff_ne.2 (Ne.symm different)
    rw [List.find?_cons, away, List.find?_nil, Option.or_none]

theorem Numbered.session?_enter (numbered : registry.Numbered) (endpoint : Endpoint)
    (session : Session) :
    (registry.enter (registry.nextKey endpoint) session).session? (registry.nextKey endpoint) =
      some session := by
  rw [session?_enter_of_fresh (numbered.session?_nextKey endpoint), if_pos rfl]

/-- The entries of a registry have different keys, and for each endpoint at most one of them is
registered; an entry that is not is closed. -/
structure Filed (registry : Registry) : Prop where
  own : ∀ entry ∈ registry.entries, entry.session.identity.endpoint = entry.key.endpoint
  distinct : (registry.entries.map RegistryEntry.key).Nodup
  turns : ∀ entry ∈ registry.entries,
    entry.key.turn < (registry.entriesOf entry.key.endpoint).length
  single : (registry.registered.map fun entry => entry.key.endpoint).Nodup
  retired : ∀ entry ∈ registry.entries, entry.registered = false → entry.session.closed = true

theorem filed_ofConfig (config : SessionConfig) (hasSink : Bool) :
    (ofConfig config hasSink).Filed := by
  constructor <;> simp [ofConfig, registered]

theorem Filed.edit (filed : registry.Filed) {change : RegistryEntry → RegistryEntry}
    (allowed : ∀ entry, Allowed entry (change entry)) : (registry.edit change).Filed := by
  have sameKey (entry : RegistryEntry) : (change entry).key = entry.key := (allowed entry).key
  refine ⟨?_, ?_, ?_, ?_, ?_⟩
  · intro later mem
    obtain ⟨entry, was, rfl⟩ := List.mem_map.1 mem
    rw [(allowed entry).identity, sameKey]
    exact filed.own entry was
  · have keys : (registry.edit change).entries.map RegistryEntry.key =
        registry.entries.map RegistryEntry.key := by
      rw [Registry.edit, List.map_map]
      exact List.map_congr_left fun entry _ => sameKey entry
    rw [keys]
    exact filed.distinct
  · exact Numbered.edit filed.turns sameKey
  · have fewer : List.Sublist ((registry.edit change).registered.map fun entry => entry.key.endpoint)
        (registry.registered.map fun entry => entry.key.endpoint) := by
      rw [registered, Registry.edit, List.filter_map, List.map_map]
      have sameEndpoint : ((fun entry => entry.key.endpoint) ∘ change) =
          fun entry : RegistryEntry => entry.key.endpoint := by
        funext entry
        exact congrArg SessionKey.endpoint (sameKey entry)
      have narrower : registry.entries.filter (RegistryEntry.registered ∘ change) =
          registry.registered.filter (RegistryEntry.registered ∘ change) := by
        rw [registered, List.filter_filter]
        refine List.filter_congr fun entry _ => ?_
        cases later : (change entry).registered with
        | false => simp [later]
        | true => simp [later, (allowed entry).registered later]
      rw [sameEndpoint, narrower]
      exact List.filter_sublist.map _
    exact fewer.nodup filed.single
  · intro later mem unregistered
    obtain ⟨entry, was, rfl⟩ := List.mem_map.1 mem
    cases before : entry.registered with
    | true => exact (allowed entry).retired unregistered before
    | false =>
      have closed := filed.retired entry was before
      rw [(allowed entry).closed closed]
      exact closed

theorem registered_of_get? {key : SessionKey} (found : registry.get? endpoint = some key) :
    ∃ entry ∈ registry.registered, entry.key = key ∧ key.endpoint = endpoint := by
  rw [get?, Option.map_eq_some_iff] at found
  obtain ⟨entry, found, rfl⟩ := found
  unfold entry? at found
  have own := List.find?_some found
  exact ⟨entry, List.mem_of_find?_eq_some found, rfl, beq_iff_eq.1 own⟩

theorem get?_eq_none_iff :
    registry.get? endpoint = none ↔ ∀ entry ∈ registry.registered, entry.key.endpoint ≠ endpoint := by
  rw [get?, Option.map_eq_none_iff, entry?, List.find?_eq_none]
  simp only [beq_iff_eq, ne_eq]

theorem Filed.distinct_enter (filed : registry.Filed) (endpoint : Endpoint) (session : Session) :
    ((registry.enter (registry.nextKey endpoint) session).entries.map RegistryEntry.key).Nodup :=
  Numbered.distinct_enter filed.turns filed.distinct endpoint session

theorem Filed.enter (filed : registry.Filed) (absent : registry.get? endpoint = none)
    {session : Session} (own : session.identity.endpoint = endpoint) :
    (registry.enter (registry.nextKey endpoint) session).Filed := by
  refine ⟨?_, ?_, ?_, ?_, ?_⟩
  · intro entry mem
    rcases List.mem_append.1 mem with was | new
    · exact filed.own entry was
    · rw [List.mem_singleton.1 new]
      exact own
  · exact filed.distinct_enter endpoint session
  · exact Numbered.enter filed.turns endpoint session
  · rw [registered_enter, List.map_append, List.nodup_append]
    refine ⟨filed.single, by simp, ?_⟩
    intro other mem new isNew same
    obtain ⟨entry, was, rfl⟩ := List.mem_map.1 mem
    simp only [List.map_cons, List.map_nil, List.mem_singleton] at isNew
    exact get?_eq_none_iff.1 absent entry was (same.trans isNew)
  · intro entry mem unregistered
    rcases List.mem_append.1 mem with was | new
    · exact filed.retired entry was unregistered
    · rw [List.mem_singleton.1 new] at unregistered
      cases unregistered

theorem Filed.session?_nextKey (filed : registry.Filed) (endpoint : Endpoint) :
    registry.session? (registry.nextKey endpoint) = none :=
  Numbered.session?_nextKey filed.turns endpoint

def newSession (registry : Registry) (now : Moment) (identity : ControllerIdentity) : Session :=
  ⟨identity, registry.config, .startingAt registry.config.initialSeq, false, registry.hasSink, now⟩

def withNew (registry : Registry) (now : Moment) (identity : ControllerIdentity) : Registry :=
  registry.enter (registry.nextKey identity.endpoint) (registry.newSession now identity)

theorem entriesOf_withNew_of_ne {now : Moment} {identity : ControllerIdentity}
    (away : identity.endpoint ≠ endpoint) :
    (registry.withNew now identity).entriesOf endpoint = registry.entriesOf endpoint := by
  have other : (registry.nextKey identity.endpoint).endpoint ≠ endpoint := away
  rw [withNew, entriesOf_enter, if_neg other, List.append_nil]

theorem opened_eq {host : Host} {identity : ControllerIdentity} {session : Session}
    (opened : Session.opened host identity registry.config registry.hasSink = .ok session) :
    session = registry.newSession host.now identity := by
  unfold Session.opened at opened
  split at opened
  · exact (Except.ok.inj opened).symm
  · cases opened

inductive Asked (registry : Registry) (now : Moment) (identity : ControllerIdentity) :
    Except SessionError SessionKey × Registry → Prop
  | registered (key : SessionKey) (found : registry.get? identity.endpoint = some key) :
    Asked registry now identity (.ok key, registry)
  | refused (error : SessionError) (absent : registry.get? identity.endpoint = none) :
    Asked registry now identity (.error error, registry)
  | opened (absent : registry.get? identity.endpoint = none) :
    Asked registry now identity
      (.ok (registry.nextKey identity.endpoint), registry.withNew now identity)

theorem asked_forController (registry : Registry) (host : Host) (identity : ControllerIdentity) :
    Asked registry host.now identity (registry.forController host identity) := by
  cases found : registry.get? identity.endpoint with
  | some key =>
    rw [forController_of_registered found]
    exact .registered key found
  | none =>
    cases opened : Session.opened host identity registry.config registry.hasSink with
    | error error =>
      rw [forController_of_error found opened]
      exact .refused error found
    | ok session =>
      rw [forController_of_opened found opened, opened_eq opened]
      exact .opened found

/-- A call leaves the registry as it is, or first of all opens a session for an endpoint that has
none. -/
theorem openedFor_cases (registry : Registry) (call : Call) :
    registry.openedFor call = registry ∨
      ∃ host identity, call.asked? = some (host, identity) ∧
        registry.get? identity.endpoint = none ∧
        registry.forController host identity =
          (.ok (registry.nextKey identity.endpoint), registry.openedFor call) ∧
        registry.openedFor call = registry.withNew host.now identity := by
  unfold openedFor
  split
  · rename_i host identity isAsked
    have asked := asked_forController registry host identity
    generalize answered : registry.forController host identity = outcome at asked
    cases asked with
    | registered key found => exact .inl rfl
    | refused error absent => exact .inl rfl
    | opened absent => exact .inr ⟨host, identity, isAsked, absent, answered, rfl⟩
  · exact .inl rfl

theorem Filed.openedFor (filed : registry.Filed) (call : Call) : (registry.openedFor call).Filed := by
  obtain same | ⟨host, identity, -, absent, -, opened⟩ := openedFor_cases registry call
  · rwa [same]
  · rw [opened]
    exact filed.enter absent rfl

theorem Filed.forController (filed : registry.Filed) (host : Host) (identity : ControllerIdentity) :
    (registry.forController host identity).2.Filed :=
  filed.openedFor (.forController host identity)

/-! ## What a call does -/

theorem edit_id (registry : Registry) : registry.edit id = registry := by
  rw [edit, List.map_id]

theorem entry_of_session? {key : SessionKey} {session : Session}
    (found : registry.session? key = some session) :
    ∃ entry ∈ registry.entries, entry.key = key ∧ entry.session = session := by
  rw [session?, Option.map_eq_some_iff] at found
  obtain ⟨entry, found, rfl⟩ := found
  have own := List.find?_some found
  exact ⟨entry, List.mem_of_find?_eq_some found, beq_iff_eq.1 own, rfl⟩

theorem update_eq (distinct : (registry.entries.map RegistryEntry.key).Nodup) {key : SessionKey}
    {session : Session} (found : registry.session? key = some session) (change : Session → Session) :
    registry.update key (change session) = registry.edit (changeAt key change) := by
  obtain ⟨entry, mem, rfl, rfl⟩ := entry_of_session? found
  rw [update, Registry.edit]
  congr 1
  refine List.map_congr_left fun other otherMem => ?_
  unfold changeAt
  split
  · rename_i same
    rw [List.inj_on_of_nodup_map distinct otherMem mem same]
  · rfl

theorem update_self (distinct : (registry.entries.map RegistryEntry.key).Nodup) {key : SessionKey}
    {session : Session} (found : registry.session? key = some session) :
    registry.update key session = registry := by
  have fixed : changeAt key id = id := by
    funext entry
    rw [changeAt]
    split <;> rfl
  exact (update_eq distinct found id).trans (by rw [fixed, edit_id])

theorem sendOn_of_closed (distinct : (registry.entries.map RegistryEntry.key).Nodup) {key : SessionKey}
    {session : Session} (found : registry.session? key = some session)
    (closed : session.closed = true) (command : Command) (during : Nat → List Happening) :
    registry.sendOn key command during = (.error (.error .closed), [], [], registry) := by
  rw [sendOn, found]
  simp only [Session.send_of_closed closed, update_self distinct found]

theorem edit_changeAt_of_absent {key : SessionKey} (absent : registry.session? key = none)
    (change : Session → Session) : registry.edit (changeAt key change) = registry := by
  rw [session?, Option.map_eq_none_iff, List.find?_eq_none] at absent
  have fixed : ∀ entry ∈ registry.entries, entry.changeAt key change = entry := by
    intro entry mem
    exact RegistryEntry.changeAt_of_ne (fun same => absent entry mem (beq_iff_eq.2 same)) change
  rw [edit, List.map_congr_left fixed, List.map_id']

theorem Filed.sendOn_eq (filed : registry.Filed) (key : SessionKey) (command : Command)
    (during : Nat → List Happening) :
    (registry.sendOn key command during).2.2.2 =
      registry.edit (changeAt key fun session => (session.send command during).session) := by
  unfold sendOn
  cases found : registry.session? key with
  | none => exact (edit_changeAt_of_absent found _).symm
  | some session => exact update_eq filed.distinct found fun session => (session.send command during).session

/-- A call opens a session at most, and then changes entries. -/
theorem Filed.call_eq (filed : registry.Filed) (call : Call) :
    registry.call call = (registry.openedFor call).edit (registry.changeOf call) := by
  cases call with
  | forController host identity => exact (edit_id _).symm
  | sendCommand host identity command during =>
    have later := filed.forController host identity
    change (registry.sendCommand host identity command during).2.2.2 =
      (registry.forController host identity).2.edit (registry.changeOf _)
    rw [sendCommand, changeOf]
    generalize registry.forController host identity = outcome at later
    obtain ⟨result, opened⟩ := outcome
    cases result with
    | error error => exact (edit_id _).symm
    | ok key => exact later.sendOn_eq key command during
  | get endpoint => exact (edit_id _).symm
  | close endpoint => rfl
  | closeAll => rfl
  | sendOn key command during => exact filed.sendOn_eq key command during
  | receive key datagram =>
    change (registry.receive key datagram).1 = registry.edit _
    unfold receive
    cases found : registry.session? key with
    | none =>
      exact (edit_changeAt_of_absent found fun session => (session.receive datagram).1).symm
    | some session => exact update_eq filed.distinct found fun session => (session.receive datagram).1
  | closeSession key => rfl

theorem Filed.call (filed : registry.Filed) (call : Call) : (registry.call call).Filed := by
  rw [filed.call_eq]
  exact (filed.openedFor call).edit (registry.allowed_changeOf call)

theorem Filed.after (filed : registry.Filed) (calls : List Call) : (registry.after calls).Filed := by
  induction calls generalizing registry with
  | nil => exact filed
  | cons first rest ih => exact ih (filed.call first)

end Registry

end LightingControl
