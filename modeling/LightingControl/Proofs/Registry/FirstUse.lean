import LightingControl.Proofs.Registry.Sessions
/-!
# Callers who ask for the same controller at once

`forController` looks the session up under a read lock.  Only if there is none does it take the write
lock, and then it looks again before it opens one.  The callers are interleaved between these two
sections in any way.
-/

set_option autoImplicit false

namespace LightingControl

/-- A caller of `forController`, named for the section that comes next. -/
inductive Caller where
  | reading (host : Host) (identity : ControllerIdentity)
  | writing (host : Host) (identity : ControllerIdentity)
  | given (result : Except SessionError SessionKey)

def Caller.next (registry : Registry) : Caller → Caller × Registry
  | .reading host identity =>
    match registry.get? identity.endpoint with
    | some key => (.given (.ok key), registry)
    | none => (.writing host identity, registry)
  | .writing host identity =>
    (.given (registry.forController host identity).1, (registry.forController host identity).2)
  | .given result => (.given result, registry)

/-- The key of the session that an endpoint has, or else will have. -/
def Registry.keyFor (registry : Registry) (endpoint : Endpoint) : SessionKey :=
  (registry.get? endpoint).getD (registry.nextKey endpoint)

/-- The request is made for the endpoint, and a session can be opened for it. -/
def Registry.Grants (registry : Registry) (endpoint : Endpoint)
    (request : Host × ControllerIdentity) : Prop :=
  request.2.endpoint = endpoint ∧
    ∃ session, Session.opened request.1 request.2 registry.config registry.hasSink = .ok session

/-- A registry while requests for an endpoint are met: at most one of them has opened a session. -/
inductive Registry.Grown (registry : Registry) (endpoint : Endpoint)
    (requests : List (Host × ControllerIdentity)) : Registry → Prop
  | same : Grown registry endpoint requests registry
  | opened (absent : registry.get? endpoint = none) (request : Host × ControllerIdentity)
    (mem : request ∈ requests) : Grown registry endpoint requests (registry.withNew request.1.now request.2)

theorem Registry.Grown.eq_or {registry now : Registry} {endpoint : Endpoint}
    {requests : List (Host × ControllerIdentity)} (grown : registry.Grown endpoint requests now) :
    now = registry ∨ registry.get? endpoint = none ∧
      ∃ request ∈ requests, now = registry.withNew request.1.now request.2 := by
  cases grown with
  | same => exact .inl rfl
  | opened absent request mem => exact .inr ⟨absent, request, mem, rfl⟩

inductive Caller.Stands (endpoint : Endpoint) (key : SessionKey)
    (requests : List (Host × ControllerIdentity)) (registry : Registry) : Caller → Prop
  | reading (host : Host) (identity : ControllerIdentity) (mem : (host, identity) ∈ requests) :
    Stands endpoint key requests registry (.reading host identity)
  | writing (host : Host) (identity : ControllerIdentity) (mem : (host, identity) ∈ requests) :
    Stands endpoint key requests registry (.writing host identity)
  | given (found : registry.get? endpoint = some key) :
    Stands endpoint key requests registry (.given (.ok key))

variable {registry now : Registry} {endpoint : Endpoint}
  {requests : List (Host × ControllerIdentity)}

theorem Registry.keyFor_of_none (absent : registry.get? endpoint = none) :
    registry.keyFor endpoint = registry.nextKey endpoint := by
  rw [keyFor, absent]
  rfl

theorem Registry.keyFor_of_some {key : SessionKey} (found : registry.get? endpoint = some key) :
    registry.keyFor endpoint = key := by
  rw [keyFor, found]
  rfl

theorem Registry.get?_withNew {identity : ControllerIdentity}
    (absent : registry.get? identity.endpoint = none) (time : Moment) :
    (registry.withNew time identity).get? identity.endpoint =
      some (registry.nextKey identity.endpoint) :=
  get?_enter absent _

theorem Registry.entriesOf_withNew (registry : Registry) (time : Moment)
    (identity : ControllerIdentity) :
    (registry.withNew time identity).entriesOf identity.endpoint =
      registry.entriesOf identity.endpoint ++
        [⟨registry.nextKey identity.endpoint, registry.newSession time identity, true⟩] := by
  have own : (registry.nextKey identity.endpoint).endpoint = identity.endpoint := rfl
  rw [withNew, entriesOf_enter, if_pos own]

theorem Registry.forController_of_granted {host : Host} {identity : ControllerIdentity}
    {session : Session} (absent : registry.get? identity.endpoint = none)
    (opened : Session.opened host identity registry.config registry.hasSink = .ok session) :
    registry.forController host identity =
      (.ok (registry.keyFor identity.endpoint), registry.withNew host.now identity) := by
  rw [forController_of_opened absent opened, opened_eq opened, keyFor_of_none absent, withNew]

variable (grants : ∀ request ∈ requests, registry.Grants endpoint request)

include grants

theorem Registry.Grown.get?_eq (grown : registry.Grown endpoint requests now) :
    now.get? endpoint = none ∧ now = registry ∨
      now.get? endpoint = some (registry.keyFor endpoint) := by
  cases grown with
  | same =>
    cases found : registry.get? endpoint with
    | none => exact .inl ⟨rfl, rfl⟩
    | some key => exact .inr (congrArg some (keyFor_of_some found).symm)
  | opened absent request mem =>
    obtain ⟨rfl, -⟩ := grants request mem
    rw [keyFor_of_none absent]
    exact .inr (get?_withNew absent _)

theorem Caller.Stands.next {caller : Caller} (grown : registry.Grown endpoint requests now)
    (stands : caller.Stands endpoint (registry.keyFor endpoint) requests now) :
    registry.Grown endpoint requests (caller.next now).2 ∧
      (caller.next now).1.Stands endpoint (registry.keyFor endpoint) requests (caller.next now).2 ∧
      (now.get? endpoint = some (registry.keyFor endpoint) →
        (caller.next now).2.get? endpoint = some (registry.keyFor endpoint)) := by
  cases stands with
  | reading host identity mem =>
    obtain ⟨rfl, -⟩ := grants _ mem
    rw [Caller.next]
    obtain ⟨absent, -⟩ | found := grown.get?_eq grants
    · simp only [absent]
      exact ⟨grown, .writing host identity mem, nofun⟩
    · simp only [found]
      exact ⟨grown, .given found, id⟩
  | writing host identity mem =>
    obtain ⟨rfl, session, opened⟩ := grants _ mem
    rw [Caller.next]
    obtain ⟨absent, rfl⟩ | found := grown.get?_eq grants
    · have found := Registry.get?_withNew absent host.now
      rw [← Registry.keyFor_of_none absent] at found
      rw [Registry.forController_of_granted absent opened]
      exact ⟨.opened absent _ mem, .given found, fun _ => found⟩
    · rw [Registry.forController_of_registered found]
      exact ⟨grown, .given found, id⟩
  | given found => exact ⟨grown, .given found, id⟩

omit grants

theorem Caller.Stands.mono {caller : Caller} {key : SessionKey} {later : Registry}
    (stands : caller.Stands endpoint key requests now)
    (keeps : now.get? endpoint = some key → later.get? endpoint = some key) :
    caller.Stands endpoint key requests later := by
  cases stands with
  | reading host identity mem => exact .reading host identity mem
  | writing host identity mem => exact .writing host identity mem
  | given found => exact .given (keeps found)

def Caller.turns : Caller → Nat
  | .reading _ _ => 0
  | .writing _ _ => 1
  | .given _ => 2

theorem Caller.turns_next (registry : Registry) (caller : Caller) :
    min 2 (caller.turns + 1) ≤ (caller.next registry).1.turns := by
  cases caller with
  | reading host identity =>
    rw [next]
    split <;> simp [turns]
  | writing host identity => simp [next, turns]
  | given result => simp [next, turns]

/-! ## Any number of callers -/

structure Crowd where
  registry : Registry
  callers : List Caller

namespace Crowd

def ofRequests (registry : Registry) (requests : List (Host × ControllerIdentity)) : Crowd :=
  ⟨registry, requests.map fun request => .reading request.1 request.2⟩

def step (crowd : Crowd) (i : Nat) : Crowd :=
  match crowd.callers[i]? with
  | some caller =>
    ⟨(caller.next crowd.registry).2, crowd.callers.set i (caller.next crowd.registry).1⟩
  | none => crowd

def after (crowd : Crowd) (schedule : List Nat) : Crowd :=
  schedule.foldl step crowd

theorem step_of_some {crowd : Crowd} {i : Nat} {caller : Caller}
    (found : crowd.callers[i]? = some caller) :
    crowd.step i =
      ⟨(caller.next crowd.registry).2, crowd.callers.set i (caller.next crowd.registry).1⟩ := by
  rw [step, found]

theorem step_of_none {crowd : Crowd} {i : Nat} (missing : crowd.callers[i]? = none) :
    crowd.step i = crowd := by
  rw [step, missing]

/-- A caller on its own does what `forController` does. -/
theorem after_alone (registry : Registry) (host : Host) (identity : ControllerIdentity) :
    (ofRequests registry [(host, identity)]).after [0, 0] =
      ⟨(registry.forController host identity).2,
        [.given (registry.forController host identity).1]⟩ := by
  cases found : registry.get? identity.endpoint with
  | some key =>
    rw [Registry.forController_of_registered found]
    simp [ofRequests, after, step, Caller.next, found]
  | none => simp [ofRequests, after, step, Caller.next, found]

structure Served (registry : Registry) (endpoint : Endpoint)
    (requests : List (Host × ControllerIdentity)) (crowd : Crowd) : Prop where
  grown : registry.Grown endpoint requests crowd.registry
  stands : ∀ caller ∈ crowd.callers,
    caller.Stands endpoint (registry.keyFor endpoint) requests crowd.registry

variable {crowd : Crowd}

theorem served_ofRequests (registry : Registry) (endpoint : Endpoint)
    (requests : List (Host × ControllerIdentity)) :
    (ofRequests registry requests).Served registry endpoint requests := by
  refine ⟨.same, fun caller mem => ?_⟩
  obtain ⟨⟨host, identity⟩, asked, rfl⟩ := List.mem_map.1 mem
  exact .reading host identity asked

theorem Served.step (grants : ∀ request ∈ requests, registry.Grants endpoint request)
    (served : crowd.Served registry endpoint requests) (i : Nat) :
    (crowd.step i).Served registry endpoint requests := by
  cases found : crowd.callers[i]? with
  | none =>
    rw [step_of_none found]
    exact served
  | some caller =>
    obtain ⟨grown, own, keeps⟩ :=
      (served.stands caller (List.mem_of_getElem? found)).next grants served.grown
    rw [step_of_some found]
    refine ⟨grown, fun other mem => ?_⟩
    obtain was | rfl := List.mem_or_eq_of_mem_set mem
    · -- What somebody else does leaves a caller where it stands.
      exact (served.stands other was).mono keeps
    · exact own

theorem Served.after (grants : ∀ request ∈ requests, registry.Grants endpoint request)
    (served : crowd.Served registry endpoint requests) (schedule : List Nat) :
    (crowd.after schedule).Served registry endpoint requests := by
  induction schedule generalizing crowd with
  | nil => exact served
  | cons first rest ih => exact ih (served.step grants first)

theorem turns_step {i : Nat} {caller : Caller} (found : crowd.callers[i]? = some caller) (j : Nat) :
    ∃ later, (crowd.step j).callers[i]? = some later ∧
      min 2 (caller.turns + if j = i then 1 else 0) ≤ later.turns := by
  by_cases same : j = i
  · subst same
    obtain ⟨inside, -⟩ := List.getElem?_eq_some_iff.1 found
    rw [step_of_some found, if_pos rfl]
    exact ⟨_, List.getElem?_set_self inside, caller.turns_next crowd.registry⟩
  · refine ⟨caller, ?_, by rw [if_neg same]; omega⟩
    cases other : crowd.callers[j]? with
    | none => rwa [step_of_none other]
    | some _ =>
      rw [step_of_some other]
      exact (List.getElem?_set_ne same).trans found

theorem turns_after {i : Nat} {caller : Caller} (found : crowd.callers[i]? = some caller)
    (schedule : List Nat) :
    ∃ later, (crowd.after schedule).callers[i]? = some later ∧
      min 2 (caller.turns + schedule.count i) ≤ later.turns := by
  induction schedule generalizing crowd caller with
  | nil => exact ⟨caller, found, Nat.min_le_right _ _⟩
  | cons first rest ih =>
    obtain ⟨between, isBetween, turn⟩ := turns_step found first
    obtain ⟨later, isLater, turns⟩ := ih isBetween
    refine ⟨later, isLater, ?_⟩
    rw [List.count_cons]
    simp only [beq_iff_eq]
    omega

/-- Callers who ask for an endpoint at once are all given the same session, in whatever order they get
their locks.  At most one of them opens it, and nothing else is registered. -/
theorem one_session_for_all (grants : ∀ request ∈ requests, registry.Grants endpoint request)
    (schedule : List Nat) :
    let crowd := (ofRequests registry requests).after schedule
    let key := registry.keyFor endpoint
    (∀ i < requests.length, 2 ≤ schedule.count i →
        crowd.callers[i]? = some (.given (.ok key))) ∧
      (∀ result, .given result ∈ crowd.callers →
        result = .ok key ∧ crowd.registry.get? endpoint = some key) ∧
      (crowd.registry = registry ∨ registry.get? endpoint = none ∧
        ∃ request ∈ requests, crowd.registry = registry.withNew request.1.now request.2) ∧
      (registry.get? endpoint = none → ∀ result, .given result ∈ crowd.callers →
        ∃ request ∈ requests,
          crowd.registry.entriesOf endpoint =
            registry.entriesOf endpoint ++ [⟨key, registry.newSession request.1.now request.2, true⟩] ∧
          (registry.Numbered →
            crowd.registry.session? key = some (registry.newSession request.1.now request.2))) ∧
      ∀ other, other ≠ endpoint → crowd.registry.entriesOf other = registry.entriesOf other := by
  intro crowd key
  have served : crowd.Served registry endpoint requests :=
    (served_ofRequests registry endpoint requests).after grants schedule
  have given (result : Except SessionError SessionKey) (mem : .given result ∈ crowd.callers) :
      result = .ok key ∧ crowd.registry.get? endpoint = some key := by
    cases served.stands _ mem with
    | given found => exact ⟨rfl, found⟩
  refine ⟨?_, given, ?_, ?_, ?_⟩
  · intro i inside twice
    have asked : (ofRequests registry requests).callers[i]? =
        some (.reading requests[i].1 requests[i].2) := by
      rw [ofRequests, List.getElem?_map, List.getElem?_eq_getElem inside]
      rfl
    obtain ⟨later, found, turns⟩ := turns_after asked schedule
    have found : crowd.callers[i]? = some later := found
    rw [found]
    cases served.stands later (List.mem_of_getElem? found) with
    | given _ => rfl
    | reading | writing =>
      simp only [Caller.turns] at turns
      omega
  · exact served.grown.eq_or
  · intro absent result mem
    obtain ⟨-, found⟩ := given result mem
    obtain same | ⟨-, request, mem, opened⟩ := served.grown.eq_or
    · rw [same, absent] at found
      cases found
    · obtain ⟨rfl, -⟩ := grants request mem
      have isKey : key = registry.nextKey request.2.endpoint := Registry.keyFor_of_none absent
      rw [opened, isKey]
      exact ⟨request, mem, registry.entriesOf_withNew _ request.2,
        fun numbered => numbered.session?_enter _ _⟩
  · intro other different
    obtain same | ⟨-, request, mem, opened⟩ := served.grown.eq_or
    · rw [same]
    · obtain ⟨rfl, -⟩ := grants request mem
      rw [opened]
      exact Registry.entriesOf_withNew_of_ne (Ne.symm different)

/-- Three callers find no session, and the last of them to do so is the first to open one. -/
theorem one_session_for_all_three :
    let requests : List (Host × ControllerIdentity) :=
      [none, some ⟨0, 1, 2, 3, 4, 5⟩, none].map fun mac => (.networked, ⟨anyEndpoint, mac⟩)
    let registry := Registry.ofConfig .default true
    let crowd := (ofRequests registry requests).after [0, 1, 2, 1, 0, 2]
    (∀ request ∈ requests, registry.Grants anyEndpoint request) ∧
      (∀ i < 3, crowd.callers[i]? = some (.given (.ok ⟨anyEndpoint, 0⟩))) ∧
      crowd.registry.registered.map RegistryEntry.key = [⟨anyEndpoint, 0⟩] ∧
      ∃ request ∈ requests, crowd.registry.entriesOf anyEndpoint =
        [⟨⟨anyEndpoint, 0⟩, registry.newSession request.1.now request.2, true⟩] := by
  intro requests registry crowd
  have grants : ∀ request ∈ requests, registry.Grants anyEndpoint request := by
    intro request mem
    obtain ⟨mac, -, rfl⟩ := List.mem_map.1 mem
    exact ⟨rfl, _, rfl⟩
  obtain ⟨given, -, -, opened, -⟩ := one_session_for_all grants [0, 1, 2, 1, 0, 2]
  have all : ∀ i < 3, crowd.callers[i]? = some (.given (.ok ⟨anyEndpoint, 0⟩)) := by
    intro i inside
    exact given i inside (by revert i; decide)
  obtain ⟨request, mem, entries, -⟩ := opened rfl _ (List.mem_of_getElem? (all 0 (by decide)))
  exact ⟨grants, all, by decide +kernel, request, mem, entries⟩

end Crowd

end LightingControl
