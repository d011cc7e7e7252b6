import LightingControl.Proofs.Registry.Identification
import LightingControl.Proofs.Registry.Sessions
/-!
# The hardware addresses that a registry goes by

The session of an endpoint keeps the identity that it was opened with.  Whoever asks for it later, with a
hardware address that was not known then, is handed the same session, and the hardware address is
forgotten.

`mac_found_iff` says when events with a hardware address that was given are attributed to the session
that was handed out for it.
-/

set_option autoImplicit false

namespace LightingControl

namespace Registry

open RegistryEntry (Allowed)

variable {registry : Registry} {endpoint : Endpoint} {identity current : ControllerIdentity}

def identityAt? (registry : Registry) (endpoint : Endpoint) : Option ControllerIdentity :=
  (registry.entry? endpoint).map fun entry => entry.session.identity

theorem identityAt?_eq_none_iff :
    registry.identityAt? endpoint = none ↔ registry.get? endpoint = none := by
  rw [identityAt?, get?, Option.map_eq_none_iff, Option.map_eq_none_iff]

theorem Filed.identityAt?_eq_some_iff (filed : registry.Filed) :
    registry.identityAt? endpoint = some identity ↔
      identity ∈ registry.identities ∧ identity.endpoint = endpoint := by
  have unique : ∀ one ∈ registry.registered, ∀ other ∈ registry.registered,
      (one.key.endpoint == endpoint) = true → (other.key.endpoint == endpoint) = true →
        one = other := by
    intro one mem other otherMem own otherOwn
    have same := (beq_iff_eq.1 own).trans (beq_iff_eq.1 otherOwn).symm
    exact List.inj_on_of_nodup_map filed.single mem otherMem same
  have own {entry : RegistryEntry} (mem : entry ∈ registry.registered) :
      entry.session.identity.endpoint = entry.key.endpoint :=
    filed.own entry (List.mem_filter.1 mem).1
  rw [identityAt?, Option.map_eq_some_iff, entry?, identities, List.mem_map]
  simp only [find?_eq_some_iff_of_unique unique, beq_iff_eq]
  constructor
  · rintro ⟨entry, ⟨mem, there⟩, rfl⟩
    exact ⟨⟨entry, mem, rfl⟩, (own mem).trans there⟩
  · rintro ⟨⟨entry, mem, rfl⟩, there⟩
    exact ⟨entry, ⟨mem, (own mem).symm.trans there⟩, rfl⟩

theorem identityAt?_withNew {now : Moment} (absent : registry.get? identity.endpoint = none) :
    (registry.withNew now identity).identityAt? identity.endpoint = some identity := by
  have nobody : (registry.entriesOf identity.endpoint).find? RegistryEntry.registered = none := by
    rwa [get?_eq, Option.map_eq_none_iff] at absent
  have own : (registry.nextKey identity.endpoint).endpoint = identity.endpoint := rfl
  rw [identityAt?, entry?_eq, withNew, entriesOf_enter, if_pos own, List.find?_append, nobody]
  rfl

theorem identityAt?_forController {host : Host} {key : SessionKey}
    (answered : (registry.forController host identity).1 = .ok key) :
    (registry.forController host identity).2.identityAt? identity.endpoint =
      some ((registry.identityAt? identity.endpoint).getD identity) := by
  have asked := asked_forController registry host identity
  generalize registry.forController host identity = outcome at answered asked
  cases asked with
  | registered _ found =>
    have present : registry.identityAt? identity.endpoint ≠ none := by
      rw [Ne, identityAt?_eq_none_iff, found]
      nofun
    obtain ⟨current, isCurrent⟩ := Option.ne_none_iff_exists'.1 present
    rw [isCurrent, Option.getD_some]
  | refused error absent => cases answered
  | opened absent =>
    rw [identityAt?_eq_none_iff.2 absent, Option.getD_none]
    exact identityAt?_withNew absent

theorem Filed.identityAt?_after (filed : registry.Filed)
    (found : registry.identityAt? endpoint = some current) {calls : List Call}
    (keep : ∀ call ∈ calls, call.closes endpoint = false) :
    (registry.after calls).identityAt? endpoint = some current := by
  obtain ⟨entry, there, rfl⟩ := Option.map_eq_some_iff.1 found
  obtain ⟨later, still, allowed⟩ := filed.entry?_after there keep
  rw [identityAt?, still, Option.map_some, allowed.identity]

theorem after_append (registry : Registry) (early late : List Call) :
    registry.after (early ++ late) = (registry.after early).after late :=
  List.foldl_append

theorem Filed.identityAt?_after_forController (filed : registry.Filed) {host : Host} {key : SessionKey}
    (answered : (registry.forController host identity).1 = .ok key) {later : List Call}
    (keep : ∀ call ∈ later, call.closes identity.endpoint = false) :
    (registry.after (.forController host identity :: later)).identityAt? identity.endpoint =
      some ((registry.identityAt? identity.endpoint).getD identity) := by
  have handedOut := identityAt?_forController answered
  exact (filed.forController host identity).identityAt?_after handedOut keep

theorem mem_identities_of_edit {change : RegistryEntry → RegistryEntry}
    (allowed : ∀ entry, Allowed entry (change entry))
    (mem : identity ∈ (registry.edit change).identities) : identity ∈ registry.identities := by
  obtain ⟨later, still, rfl⟩ := List.mem_map.1 mem
  obtain ⟨entry, was, rfl⟩ := exists_of_mem_registered_edit (fun entry => (allowed entry).registered) still
  exact List.mem_map.2 ⟨entry, was, (allowed entry).identity.symm⟩

theorem identities_withNew (registry : Registry) (now : Moment) (identity : ControllerIdentity) :
    (registry.withNew now identity).identities = registry.identities ++ [identity] := by
  rw [identities, withNew, registered_enter, List.map_append]
  rfl

theorem Filed.mem_identities_call (filed : registry.Filed) {call : Call}
    (mem : identity ∈ (registry.call call).identities) :
    identity ∈ registry.identities ∨ ∃ host, call.asked? = some (host, identity) := by
  rw [filed.call_eq] at mem
  have mem := mem_identities_of_edit (registry.allowed_changeOf call) mem
  obtain same | ⟨host, asked, isAsked, -, -, opened⟩ := openedFor_cases registry call
  · rw [same] at mem
    exact .inl mem
  · rw [opened, identities_withNew, List.mem_append, List.mem_singleton] at mem
    obtain old | rfl := mem
    · exact .inl old
    · exact .inr ⟨host, isAsked⟩

theorem Filed.mem_identities_after (filed : registry.Filed) {calls : List Call}
    (mem : identity ∈ (registry.after calls).identities) :
    identity ∈ registry.identities ∨
      ∃ call ∈ calls, ∃ host, call.asked? = some (host, identity) := by
  induction calls generalizing registry with
  | nil => exact .inl mem
  | cons first rest ih =>
    obtain here | ⟨call, later, asked⟩ := ih (filed.call first) mem
    · obtain old | asked := filed.mem_identities_call here
      · exact .inl old
      · exact .inr ⟨first, List.mem_cons_self, asked⟩
    · exact .inr ⟨call, List.mem_cons_of_mem _ later, asked⟩

end Registry

/-- In none of the calls the hardware address is given for another endpoint. -/
def GivenOnlyAt (endpoint : Endpoint) (mac : MacAddress) (calls : List Registry.Call) : Prop :=
  ∀ call ∈ calls, ∀ host identity, call.asked? = some (host, identity) →
    identity.mac = some mac → identity.endpoint = endpoint

theorem GivenOnlyAt.eq_current {config : SessionConfig} {hasSink : Bool} {calls : List Registry.Call}
    {endpoint : Endpoint} {mac : MacAddress} (only : GivenOnlyAt endpoint mac calls)
    {current other : ControllerIdentity}
    (there : ((Registry.ofConfig config hasSink).after calls).identityAt? endpoint = some current)
    (mem : other ∈ ((Registry.ofConfig config hasSink).after calls).identities)
    (own : other.mac = some mac) : other = current := by
  have filed := Registry.filed_ofConfig config hasSink
  obtain old | ⟨call, given, host, asked⟩ := filed.mem_identities_after mem
  · cases old
  · have placed := only call given host other asked own
    have same := (filed.after calls).identityAt?_eq_some_iff.2 ⟨mem, placed⟩
    rw [there, Option.some_inj] at same
    exact same.symm

open ControllerIdentity (hasMacOf hasMacOf_iff hasIpOf hasIpOf_iff)

section

variable {order : List ControllerIdentity} {current : ControllerIdentity} {mac : MacAddress}

/-- If nobody else has the hardware address, its events are found by it, or else by the host's address. -/
theorem identifiedAmong_iff_of_unique {event : Event} (mem : current ∈ order)
    (unique : ∀ other ∈ order, other.mac = some mac → other = current)
    (carried : event.controller.mac = some mac) :
    identifiedAmong order event = some current ↔
      current.mac = some mac ∨ order.find? (·.hasIpOf event) = some current := by
  have has (other : ControllerIdentity) : other.hasMacOf event = true ↔ other.mac = some mac := by
    rw [hasMacOf_iff, carried]
    simp
  by_cases own : current.mac = some mac
  · obtain ⟨found, isFound, same⟩ := hasMacOf_of_identifiedAmong mem ((has current).2 own)
    have isCurrent := unique found (mem_of_identifiedAmong isFound) ((has found).1 same)
    rw [isFound, isCurrent]
    simp only [own, true_or]
  · have nobody : ∀ other ∈ order, other.hasMacOf event = false := by
      intro other otherMem
      rw [← Bool.not_eq_true, has]
      exact fun others => own (unique other otherMem others ▸ others)
    have byMac : order.find? (·.hasMacOf event) = none :=
      List.find?_eq_none.2 fun other otherMem => by simp [nobody other otherMem]
    rw [identifiedAmong, byMac, Option.none_or]
    simp only [own, false_or]

theorem exists_elsewhere (endpoint : Endpoint) : ∃ other : Endpoint, endpoint.ip ≠ other.ip := by
  by_cases same : endpoint.ip = .v4 ⟨127, 0, 0, 1⟩
  · refine ⟨.v4 ⟨127, 0, 0, 2⟩ 0, ?_⟩
    rw [same]
    decide
  · exact ⟨.v4 ⟨127, 0, 0, 1⟩ 0, same⟩

theorem identifiedAmong_forall_iff (mem : current ∈ order)
    (unique : ∀ other ∈ order, other.mac = some mac → other = current) :
    (∀ event : Event, event.controller.mac = some mac → identifiedAmong order event = some current) ↔
      current.mac = some mac := by
  constructor
  · intro all
    obtain ⟨elsewhere, away⟩ := exists_elsewhere current.endpoint
    let event : Event := ⟨⟨elsewhere, some mac⟩, 0, .profileChange 1⟩
    obtain own | byIp := (identifiedAmong_iff_of_unique mem unique rfl).1 (all event rfl)
    · exact own
    · have there := List.find?_some byIp
      exact absurd (hasIpOf_iff.1 there) away
  · intro own event carried
    exact (identifiedAmong_iff_of_unique mem unique carried).2 (.inl own)

theorem mac_getD_iff {opened? : Option ControllerIdentity} (known : current.mac = some mac) :
    (opened?.getD current).mac = some mac ↔
      ∀ opened, opened? = some opened → opened.mac = some mac := by
  cases opened? with
  | none => simp [known]
  | some opened => simp

end

/-- After a session has been handed out for an identity with a hardware address, and as long as it is
not closed and no other endpoint is given that hardware address: all its events are attributed to the
session exactly if the session was opened then, or had been opened with the same hardware address.  If
it had not, they are attributed by the host's address alone. -/
theorem mac_found_iff {config : SessionConfig} {hasSink : Bool} {before later : List Registry.Call}
    {host : Host} {identity : ControllerIdentity} {mac : MacAddress} {key : SessionKey} :
    let earlier := (Registry.ofConfig config hasSink).after before
    let calls := before ++ .forController host identity :: later
    let registry := (Registry.ofConfig config hasSink).after calls
    let current := (earlier.identityAt? identity.endpoint).getD identity
    identity.mac = some mac →
      (earlier.forController host identity).1 = .ok key →
      (∀ call ∈ later, call.closes identity.endpoint = false) →
      GivenOnlyAt identity.endpoint mac calls →
      registry.identityAt? identity.endpoint = some current ∧
        (∀ event, registry.identify event = identifiedAmong registry.identities event) ∧
        ∀ order, order.Perm registry.identities →
          (∀ event, event.controller.mac = some mac →
            (identifiedAmong order event = some current ↔
              current.mac = some mac ∨ order.find? (·.hasIpOf event) = some current)) ∧
          ((∀ event, event.controller.mac = some mac → identifiedAmong order event = some current) ↔
            ∀ opened, earlier.identityAt? identity.endpoint = some opened →
              opened.mac = some mac) := by
  intro earlier calls registry current known answered keep only
  have filed : earlier.Filed := (Registry.filed_ofConfig config hasSink).after before
  have there : registry.identityAt? identity.endpoint = some current := by
    have split : registry = earlier.after (.forController host identity :: later) :=
      Registry.after_append _ before _
    rw [split]
    exact filed.identityAt?_after_forController answered keep
  have mem : current ∈ registry.identities :=
    (((Registry.filed_ofConfig config hasSink).after calls).identityAt?_eq_some_iff.1 there).1
  refine ⟨there, registry.identify_eq, fun order same => ?_⟩
  have memOrder : current ∈ order := same.mem_iff.2 mem
  have unique : ∀ other ∈ order, other.mac = some mac → other = current :=
    fun other otherMem own => only.eq_current there (same.mem_iff.1 otherMem) own
  constructor
  · intro event carried
    exact identifiedAmong_iff_of_unique memOrder unique carried
  · rw [identifiedAmong_forall_iff memOrder unique]
    exact mac_getD_iff known

/-- The session is closed and opened again with the hardware address, which was not known before. -/
theorem mac_found_iff_reopened :
    let endpoint : Endpoint := .v4 ⟨127, 0, 0, 2⟩ 5108
    let mac : MacAddress := ⟨1, 2, 3, 4, 5, 6⟩
    let registry := (Registry.ofConfig .default true).after
      [.forController .networked ⟨endpoint, none⟩, .close endpoint,
        .forController .networked ⟨endpoint, some mac⟩,
        .forController .networked ⟨.v4 ⟨127, 0, 0, 3⟩ 5108, none⟩]
    ∀ event, event.controller.mac = some mac → registry.identify event = some ⟨endpoint, some mac⟩ := by
  intro endpoint mac registry
  let before : List Registry.Call := [.forController .networked ⟨endpoint, none⟩, .close endpoint]
  let later : List Registry.Call := [.forController .networked ⟨.v4 ⟨127, 0, 0, 3⟩ 5108, none⟩]
  let earlier := (Registry.ofConfig .default true).after before
  have absent : earlier.identityAt? endpoint = none := by decide +kernel
  have answered : (earlier.forController .networked ⟨endpoint, some mac⟩).1 = .ok ⟨endpoint, 1⟩ := by
    decide +kernel
  have keep : ∀ call ∈ later, call.closes endpoint = false := by
    simp [later, Registry.Call.closes]
  have only : GivenOnlyAt endpoint mac
      (before ++ .forController .networked ⟨endpoint, some mac⟩ :: later) := by
    intro call mem host identity asked known
    simp only [before, later, List.cons_append, List.nil_append, List.mem_cons, List.not_mem_nil,
      or_false] at mem
    rcases mem with rfl | rfl | rfl | rfl <;> cases asked <;> first | rfl | cases known
  obtain ⟨-, identify, all⟩ := mac_found_iff rfl answered keep only
  have found := (all registry.identities (.refl _)).2.2 fun opened there => by
    rw [absent] at there
    cases there
  intro event carried
  have answer : identifiedAmong registry.identities event =
      some ((earlier.identityAt? endpoint).getD ⟨endpoint, some mac⟩) := found event carried
  rw [absent, Option.getD_none] at answer
  exact (identify event).trans answer

/-- The endpoint was given without its hardware address first; events that carry it, but come from
another host, are attributed to nobody. -/
theorem mac_learnt_late_not_found :
    let identity : ControllerIdentity := ⟨.v4 ⟨127, 0, 0, 2⟩ 5108, some ⟨1, 2, 3, 4, 5, 6⟩⟩
    let earlier := (Registry.ofConfig .default true).after
      [.forController .networked ⟨identity.endpoint, none⟩]
    let event : Event := ⟨⟨.v4 ⟨127, 0, 0, 9⟩ 6969, identity.mac⟩, 0, .profileChange 1⟩
    (earlier.forController .networked identity).1 = .ok ⟨identity.endpoint, 0⟩ ∧
      (earlier.forController .networked identity).2.identities = [⟨identity.endpoint, none⟩] ∧
      (earlier.forController .networked identity).2.identify event = none := by
  decide +kernel

end LightingControl
