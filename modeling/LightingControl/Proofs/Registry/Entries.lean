import LightingControl.Registry.Basic
/-!
# The entries of one endpoint

A registry is the entries of its endpoints side by side.  What an operation answers for an endpoint, and
what it does to the entries of the endpoint, depends on these entries alone.
-/

set_option autoImplicit false

namespace LightingControl

namespace Registry

def entriesOf (registry : Registry) (endpoint : Endpoint) : List RegistryEntry :=
  registry.entries.filter fun entry => entry.key.endpoint == endpoint

variable {registry : Registry} {endpoint : Endpoint}

theorem mem_entriesOf {entry : RegistryEntry} :
    entry ∈ registry.entriesOf endpoint ↔ entry ∈ registry.entries ∧ entry.key.endpoint = endpoint := by
  rw [entriesOf, List.mem_filter, beq_iff_eq]

theorem entry?_eq (registry : Registry) (endpoint : Endpoint) :
    registry.entry? endpoint = (registry.entriesOf endpoint).find? RegistryEntry.registered := by
  unfold entry?
  rw [registered, List.find?_filter, entriesOf, List.find?_filter]
  congr 1
  funext entry
  simp only [and_comm]

theorem get?_eq (registry : Registry) (endpoint : Endpoint) :
    registry.get? endpoint =
      ((registry.entriesOf endpoint).find? RegistryEntry.registered).map RegistryEntry.key := by
  rw [get?, entry?_eq]

theorem session?_eq (registry : Registry) (key : SessionKey) :
    registry.session? key =
      ((registry.entriesOf key.endpoint).find? fun entry => entry.key == key).map
        RegistryEntry.session := by
  rw [session?, entriesOf, List.find?_filter]
  congr 2
  funext entry
  by_cases same : entry.key = key <;> simp [same]

def edit (registry : Registry) (change : RegistryEntry → RegistryEntry) : Registry :=
  { registry with entries := registry.entries.map change }

theorem entriesOf_edit {change : RegistryEntry → RegistryEntry}
    (sameKey : ∀ entry, (change entry).key = entry.key) (registry : Registry) (endpoint : Endpoint) :
    (registry.edit change).entriesOf endpoint = (registry.entriesOf endpoint).map change := by
  rw [entriesOf, edit, List.filter_map, entriesOf]
  congr 2
  funext entry
  exact congrArg (fun key : SessionKey => key.endpoint == endpoint) (sameKey entry)

theorem exists_of_mem_registered_edit {change : RegistryEntry → RegistryEntry}
    (registered : ∀ entry, (change entry).registered = true → entry.registered = true)
    {later : RegistryEntry} (mem : later ∈ (registry.edit change).registered) :
    ∃ entry ∈ registry.registered, change entry = later := by
  obtain ⟨mem, still⟩ := List.mem_filter.1 mem
  obtain ⟨entry, was, rfl⟩ := List.mem_map.1 mem
  exact ⟨entry, List.mem_filter.2 ⟨was, registered entry still⟩, rfl⟩

end Registry

namespace RegistryEntry

def changeAt (key : SessionKey) (change : Session → Session) (entry : RegistryEntry) :
    RegistryEntry :=
  if entry.key = key then { entry with session := change entry.session } else entry

def ifRegistered (change : RegistryEntry → RegistryEntry) (entry : RegistryEntry) : RegistryEntry :=
  if entry.registered then change entry else entry

def ifRegisteredAt (endpoint : Endpoint) (change : RegistryEntry → RegistryEntry)
    (entry : RegistryEntry) : RegistryEntry :=
  if entry.registered && entry.key.endpoint == endpoint then change entry else entry

theorem key_changeAt (key : SessionKey) (change : Session → Session) (entry : RegistryEntry) :
    (entry.changeAt key change).key = entry.key := by
  rw [changeAt]
  split <;> rfl

theorem changeAt_of_ne {key : SessionKey} {entry : RegistryEntry} (other : entry.key ≠ key)
    (change : Session → Session) : entry.changeAt key change = entry :=
  if_neg other

theorem key_ifRegisteredAt {change : RegistryEntry → RegistryEntry}
    (sameKey : ∀ entry, (change entry).key = entry.key) (endpoint : Endpoint)
    (entry : RegistryEntry) : (entry.ifRegisteredAt endpoint change).key = entry.key := by
  rw [ifRegisteredAt]
  split
  · exact sameKey entry
  · rfl

theorem ifRegisteredAt_of_eq {endpoint : Endpoint} {entry : RegistryEntry}
    (own : entry.key.endpoint = endpoint) (change : RegistryEntry → RegistryEntry) :
    entry.ifRegisteredAt endpoint change = entry.ifRegistered change := by
  rw [ifRegisteredAt, own, beq_self_eq_true, Bool.and_true, ifRegistered]

theorem ifRegisteredAt_of_ne {endpoint : Endpoint} {entry : RegistryEntry}
    (other : entry.key.endpoint ≠ endpoint) (change : RegistryEntry → RegistryEntry) :
    entry.ifRegisteredAt endpoint change = entry := by
  rw [ifRegisteredAt, beq_eq_false_iff_ne.2 other, Bool.and_false]
  rfl

end RegistryEntry

namespace Registry

variable {registry : Registry} {endpoint : Endpoint}

open RegistryEntry (changeAt ifRegistered ifRegisteredAt)

theorem entriesOf_update (registry : Registry) (key : SessionKey) (session : Session)
    (endpoint : Endpoint) :
    (registry.update key session).entriesOf endpoint =
      (registry.entriesOf endpoint).map (changeAt key fun _ => session) :=
  entriesOf_edit (RegistryEntry.key_changeAt key fun _ => session) registry endpoint

theorem entriesOf_update_of_ne {key : SessionKey} (other : key.endpoint ≠ endpoint)
    (session : Session) :
    (registry.update key session).entriesOf endpoint = registry.entriesOf endpoint := by
  have fixed : ∀ entry ∈ registry.entriesOf endpoint,
      entry.changeAt key (fun _ => session) = entry := by
    intro entry mem
    refine RegistryEntry.changeAt_of_ne ?_ _
    rintro rfl
    exact other (mem_entriesOf.1 mem).2
  rw [entriesOf_update, List.map_congr_left fixed, List.map_id']

theorem entriesOf_ifRegisteredAt_self {change : RegistryEntry → RegistryEntry}
    (sameKey : ∀ entry, (change entry).key = entry.key) :
    (registry.edit (ifRegisteredAt endpoint change)).entriesOf endpoint =
      (registry.entriesOf endpoint).map (ifRegistered change) := by
  rw [entriesOf_edit (RegistryEntry.key_ifRegisteredAt sameKey endpoint)]
  refine List.map_congr_left fun entry mem => ?_
  exact RegistryEntry.ifRegisteredAt_of_eq (mem_entriesOf.1 mem).2 change

theorem entriesOf_ifRegisteredAt_of_ne {change : RegistryEntry → RegistryEntry}
    (sameKey : ∀ entry, (change entry).key = entry.key) {other : Endpoint}
    (different : other ≠ endpoint) :
    (registry.edit (ifRegisteredAt other change)).entriesOf endpoint =
      registry.entriesOf endpoint := by
  have fixed : ∀ entry ∈ registry.entriesOf endpoint,
      entry.ifRegisteredAt other change = entry := by
    intro entry mem
    refine RegistryEntry.ifRegisteredAt_of_ne (fun same => different ?_) change
    exact same.symm.trans (mem_entriesOf.1 mem).2
  rw [entriesOf_edit (RegistryEntry.key_ifRegisteredAt sameKey other), List.map_congr_left fixed,
    List.map_id']

variable {host : Host} {identity : ControllerIdentity}

theorem forController_of_registered {key : SessionKey}
    (found : registry.get? identity.endpoint = some key) (host : Host) :
    registry.forController host identity = (.ok key, registry) := by
  rw [forController, found]

theorem forController_of_error {error : SessionError}
    (absent : registry.get? identity.endpoint = none)
    (failed : Session.opened host identity registry.config registry.hasSink = .error error) :
    registry.forController host identity = (.error error, registry) := by
  rw [forController, absent]
  simp only [failed]

def nextKey (registry : Registry) (endpoint : Endpoint) : SessionKey :=
  ⟨endpoint, (registry.entriesOf endpoint).length⟩

def enter (registry : Registry) (key : SessionKey) (session : Session) : Registry :=
  { registry with entries := registry.entries ++ [⟨key, session, true⟩] }

theorem forController_of_opened {session : Session}
    (absent : registry.get? identity.endpoint = none)
    (opened : Session.opened host identity registry.config registry.hasSink = .ok session) :
    registry.forController host identity =
      (.ok (registry.nextKey identity.endpoint),
        registry.enter (registry.nextKey identity.endpoint) session) := by
  rw [forController, absent]
  simp only [opened, List.countP_eq_length_filter]
  rfl

theorem entriesOf_enter (registry : Registry) (key : SessionKey) (session : Session)
    (endpoint : Endpoint) :
    (registry.enter key session).entriesOf endpoint =
      registry.entriesOf endpoint ++
        if key.endpoint = endpoint then [⟨key, session, true⟩] else [] := by
  rw [entriesOf, enter, List.filter_append, entriesOf, List.filter_cons, List.filter_nil]
  simp only [beq_iff_eq]

theorem registered_enter (registry : Registry) (key : SessionKey) (session : Session) :
    (registry.enter key session).registered = registry.registered ++ [⟨key, session, true⟩] := by
  rw [registered, enter, List.filter_append]
  rfl

end Registry

end LightingControl
