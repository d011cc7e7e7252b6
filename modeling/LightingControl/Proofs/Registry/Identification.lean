import LightingControl.Proofs.Registry.Calls
/-!
# Which controller an event is attributed to

A registry looks first for a controller with the hardware address of the event, and then for one with
the host's address that the event came from.  The sessions are kept without an order, so what is shown
of the search is shown for every order in which it can go through them.

`identified_matches_iff` says when the answer is a controller that the event does not match.
`identified_alike` says that nothing but the registered identities decides, if no two of them have an
address in common.
-/

set_option autoImplicit false

namespace LightingControl

namespace ControllerIdentity

def hasMacOf (identity : ControllerIdentity) (event : Event) : Bool :=
  match event.controller.mac with
  | some mac => identity.mac == some mac
  | none => false

def hasIpOf (identity : ControllerIdentity) (event : Event) : Bool :=
  identity.endpoint.ip == event.controller.endpoint.ip

/-- The hardware addresses are the same where both are known, and else the host's addresses are. -/
def Matches (identity : ControllerIdentity) (event : Event) : Prop :=
  match identity.mac, event.controller.mac with
  | some own, some carried => own = carried
  | _, _ => identity.endpoint.ip = event.controller.endpoint.ip

variable {identity : ControllerIdentity} {event : Event}

theorem hasMacOf_iff :
    identity.hasMacOf event = true ↔
      ∃ mac, event.controller.mac = some mac ∧ identity.mac = some mac := by
  unfold hasMacOf
  cases event.controller.mac with
  | none => simp
  | some mac => simp

theorem hasIpOf_iff :
    identity.hasIpOf event = true ↔ identity.endpoint.ip = event.controller.endpoint.ip :=
  beq_iff_eq

theorem Matches.of_mac (same : identity.hasMacOf event = true) : identity.Matches event := by
  obtain ⟨mac, carried, own⟩ := hasMacOf_iff.1 same
  simp only [Matches, own, carried]

theorem matches_iff_of_ip (other : identity.hasMacOf event = false)
    (ip : identity.hasIpOf event = true) :
    identity.Matches event ↔ identity.mac = none ∨ event.controller.mac = none := by
  rw [hasIpOf_iff] at ip
  unfold hasMacOf at other
  unfold Matches
  cases own : identity.mac with
  | none => simp [ip]
  | some mac =>
    cases carried : event.controller.mac with
    | none => simp [ip]
    | some eventMac =>
      rw [carried, own] at other
      have different : mac ≠ eventMac := by simpa using other
      simp [different]

end ControllerIdentity

open ControllerIdentity (hasMacOf hasMacOf_iff hasIpOf hasIpOf_iff)

def identifiedAmong (order : List ControllerIdentity) (event : Event) : Option ControllerIdentity :=
  (order.find? (·.hasMacOf event)).or (order.find? (·.hasIpOf event))

theorem Registry.identify_eq (registry : Registry) (event : Event) :
    registry.identify event = identifiedAmong registry.identities event := by
  unfold identify identifiedAmong hasMacOf hasIpOf
  cases event.controller.mac with
  | none =>
    have nobody : registry.identities.find? (fun _ => false) = none := by simp
    simp only [nobody, Option.none_or]
  | some mac =>
    dsimp only
    cases registry.identities.find? fun identity => identity.mac == some mac <;> rfl

variable {order : List ControllerIdentity} {event : Event} {identity : ControllerIdentity}

theorem identifiedAmong_eq_some_iff :
    identifiedAmong order event = some identity ↔
      order.find? (·.hasMacOf event) = some identity ∨
        (∀ other ∈ order, other.hasMacOf event = false) ∧
          order.find? (·.hasIpOf event) = some identity := by
  rw [identifiedAmong, Option.or_eq_some_iff, List.find?_eq_none]
  simp only [Bool.not_eq_true]

theorem identifiedAmong_eq_none_iff :
    identifiedAmong order event = none ↔
      ∀ other ∈ order, other.hasMacOf event = false ∧ other.hasIpOf event = false := by
  rw [identifiedAmong, Option.or_eq_none_iff, List.find?_eq_none, List.find?_eq_none,
    ← forall₂_and]
  simp only [Bool.not_eq_true]

theorem mem_of_identifiedAmong (found : identifiedAmong order event = some identity) :
    identity ∈ order := by
  obtain byMac | ⟨-, byIp⟩ := identifiedAmong_eq_some_iff.1 found
  · exact List.mem_of_find?_eq_some byMac
  · exact List.mem_of_find?_eq_some byIp

theorem addressed_of_identifiedAmong (found : identifiedAmong order event = some identity) :
    identity.hasMacOf event = true ∨
      identity.hasIpOf event = true ∧ ∀ other ∈ order, other.hasMacOf event = false := by
  obtain byMac | ⟨nobody, byIp⟩ := identifiedAmong_eq_some_iff.1 found
  · have same := List.find?_some byMac
    exact .inl same
  · have same := List.find?_some byIp
    exact .inr ⟨same, nobody⟩

theorem hasMacOf_of_identifiedAmong {other : ControllerIdentity} (mem : other ∈ order)
    (has : other.hasMacOf event = true) :
    ∃ identity, identifiedAmong order event = some identity ∧ identity.hasMacOf event = true := by
  have some : (order.find? (·.hasMacOf event)).isSome := List.find?_isSome.2 ⟨other, mem, has⟩
  obtain ⟨identity, byMac⟩ := Option.isSome_iff_exists.1 some
  have same := List.find?_some byMac
  exact ⟨identity, identifiedAmong_eq_some_iff.2 (.inl byMac), same⟩

/-- The event carries a hardware address that no identity has. -/
def Strange (identities : List ControllerIdentity) (event : Event) : Prop :=
  ∃ mac, event.controller.mac = some mac ∧ ∀ identity ∈ identities, identity.mac ≠ some mac

theorem Strange.not_hasMacOf (strange : Strange order event) (mem : identity ∈ order) :
    identity.hasMacOf event = false := by
  obtain ⟨mac, carried, unknown⟩ := strange
  rw [← Bool.not_eq_true, hasMacOf_iff]
  rintro ⟨_, same, own⟩
  rw [carried, Option.some_inj] at same
  exact unknown identity mem (same ▸ own)

/-- Only the search by the host's address can end with an identity that the event does not match. -/
theorem unmatched_iff :
    (∃ identity, identifiedAmong order event = some identity ∧ ¬ identity.Matches event) ↔
      Strange order event ∧
        ∃ identity, order.find? (·.hasIpOf event) = some identity ∧ identity.mac ≠ none := by
  constructor
  · rintro ⟨identity, found, unmatched⟩
    obtain byMac | ⟨nobody, byIp⟩ := identifiedAmong_eq_some_iff.1 found
    · have same := List.find?_some byMac
      exact absurd (.of_mac same) unmatched
    · have ip := List.find?_some byIp
      have other := nobody identity (List.mem_of_find?_eq_some byIp)
      rw [ControllerIdentity.matches_iff_of_ip other ip, not_or] at unmatched
      obtain ⟨known, carries⟩ := unmatched
      obtain ⟨mac, carried⟩ := Option.ne_none_iff_exists'.1 carries
      refine ⟨⟨mac, carried, fun one mem own => ?_⟩, identity, byIp, known⟩
      have has : one.hasMacOf event = true := hasMacOf_iff.2 ⟨mac, carried, own⟩
      rw [nobody one mem] at has
      cases has
  · rintro ⟨strange, identity, byIp, known⟩
    have nobody : ∀ other ∈ order, other.hasMacOf event = false := fun _ => strange.not_hasMacOf
    have ip := List.find?_some byIp
    refine ⟨identity, identifiedAmong_eq_some_iff.2 (.inr ⟨nobody, byIp⟩), ?_⟩
    rw [ControllerIdentity.matches_iff_of_ip (nobody _ (List.mem_of_find?_eq_some byIp)) ip, not_or]
    obtain ⟨mac, carried, -⟩ := strange
    exact ⟨known, by simp [carried]⟩

/-- Of whichever session is come across first: an event is attributed to a controller with its hardware
address if there is one, and else by the host's address alone.  The controller is one that the event does
not match exactly if the event carries a hardware address that nobody has, and the first controller at
its host knows another. -/
theorem identified_matches_iff (registry : Registry) (event : Event) :
    registry.identify event = identifiedAmong registry.identities event ∧
    ∀ order, order.Perm registry.identities →
      (∀ identity, identifiedAmong order event = some identity →
        identity ∈ registry.identities ∧
          (identity.hasMacOf event = true ∨ identity.hasIpOf event = true ∧
            ∀ other ∈ registry.identities, other.hasMacOf event = false)) ∧
      (identifiedAmong order event = none ↔ ∀ other ∈ registry.identities,
        other.hasMacOf event = false ∧ other.hasIpOf event = false) ∧
      (∀ other ∈ registry.identities, other.hasMacOf event = true →
        ∃ identity, identifiedAmong order event = some identity ∧
          identity.hasMacOf event = true ∧ identity.Matches event) ∧
      ((∃ identity, identifiedAmong order event = some identity ∧ ¬ identity.Matches event) ↔
        Strange registry.identities event ∧
          ∃ identity, order.find? (·.hasIpOf event) = some identity ∧ identity.mac ≠ none) := by
  refine ⟨registry.identify_eq event, fun order same => ?_⟩
  have sameMembers {identity : ControllerIdentity} : identity ∈ registry.identities ↔ identity ∈ order :=
    same.mem_iff.symm
  simp only [Strange, sameMembers]
  refine ⟨fun identity found => ?_, identifiedAmong_eq_none_iff, fun other mem has => ?_, unmatched_iff⟩
  · exact ⟨mem_of_identifiedAmong found, addressed_of_identifiedAmong found⟩
  · obtain ⟨identity, found, same⟩ := hasMacOf_of_identifiedAmong mem has
    exact ⟨identity, found, same, .of_mac same⟩

/-- Two controllers at one host, and an event with a hardware address that neither has: which of them it
is attributed to, and so whether it matches, hangs on which is come across first. -/
theorem identified_matches_iff_one_host :
    let known : ControllerIdentity := ⟨.v4 ⟨10, 0, 0, 1⟩ 5108, some ⟨0, 1, 2, 3, 4, 5⟩⟩
    let other : ControllerIdentity := ⟨.v4 ⟨10, 0, 0, 1⟩ 5109, none⟩
    let registry := (Registry.ofConfig .default true).after
      [.forController .networked known, .forController .networked other]
    let event : Event := ⟨⟨.v4 ⟨10, 0, 0, 1⟩ 6969, some ⟨0, 1, 2, 3, 4, 6⟩⟩, 0, .profileChange 1⟩
    [known, other].Perm registry.identities ∧ [other, known].Perm registry.identities ∧
      (∃ identity, identifiedAmong [known, other] event = some identity ∧ ¬ identity.Matches event) ∧
      ¬ ∃ identity, identifiedAmong [other, known] event = some identity ∧ ¬ identity.Matches event := by
  intro known other registry event
  have identities : registry.identities = [known, other] := by decide +kernel
  have strange : Strange registry.identities event := ⟨⟨0, 1, 2, 3, 4, 6⟩, rfl, by decide +kernel⟩
  have forth : [known, other].Perm registry.identities := .of_eq identities.symm
  have back : [other, known].Perm registry.identities := (List.Perm.swap _ _ _).trans forth
  obtain ⟨-, all⟩ := identified_matches_iff registry event
  refine ⟨forth, back, (all _ forth).2.2.2.2 ⟨strange, known, by decide +kernel, nofun⟩, fun found => ?_⟩
  obtain ⟨-, identity, first, knows⟩ := (all _ back).2.2.2.1 found
  have isOther : [other, known].find? (·.hasIpOf event) = some other := by decide +kernel
  rw [isOther, Option.some_inj] at first
  exact knows (first ▸ rfl)

/-- An event from the host of a controller whose hardware address is another one. -/
theorem identified_against_mac :
    let identity : ControllerIdentity := ⟨.v4 ⟨127, 0, 0, 2⟩ 5108, some ⟨1, 2, 3, 4, 5, 6⟩⟩
    let registry := (Registry.ofConfig .default true).after [.forController .networked identity]
    let event : Event := ⟨⟨.v4 ⟨127, 0, 0, 2⟩ 6969, some ⟨1, 2, 3, 4, 5, 7⟩⟩, 0, .profileChange 1⟩
    registry.identify event = some identity ∧ ¬ identity.Matches event := by
  intro identity registry event
  refine ⟨by decide +kernel, fun same : (⟨1, 2, 3, 4, 5, 6⟩ : MacAddress) = ⟨1, 2, 3, 4, 5, 7⟩ => ?_⟩
  exact absurd same (by decide)

/-! ## What decides the answer -/

/-- No two of the identities have a host's address or a hardware address in common. -/
structure ToldApart (identities : List ControllerIdentity) : Prop where
  ips : ∀ one ∈ identities, ∀ other ∈ identities, one.endpoint.ip = other.endpoint.ip → one = other
  macs : ∀ one ∈ identities, ∀ other ∈ identities, ∀ mac,
    one.mac = some mac → other.mac = some mac → one = other

theorem find?_eq_some_iff_of_unique {α : Type} {test : α → Bool} {list : List α} {found : α}
    (unique : ∀ one ∈ list, ∀ other ∈ list, test one = true → test other = true → one = other) :
    list.find? test = some found ↔ found ∈ list ∧ test found = true := by
  constructor
  · exact fun first => ⟨List.mem_of_find?_eq_some first, List.find?_some first⟩
  · rintro ⟨mem, holds⟩
    obtain ⟨other, first⟩ := Option.isSome_iff_exists.1 (List.find?_isSome.2 ⟨found, mem, holds⟩)
    rw [first, unique other (List.mem_of_find?_eq_some first) found mem (List.find?_some first) holds]

/-- Then the answer is the one identity that has the hardware address, or else the host's address. -/
theorem ToldApart.identifiedAmong_eq_some_iff (apart : ToldApart order) :
    identifiedAmong order event = some identity ↔
      identity ∈ order ∧ (identity.hasMacOf event = true ∨
        (∀ other ∈ order, other.hasMacOf event = false) ∧ identity.hasIpOf event = true) := by
  have oneMac : ∀ one ∈ order, ∀ other ∈ order, one.hasMacOf event = true →
      other.hasMacOf event = true → one = other := by
    intro one mem other otherMem has otherHas
    obtain ⟨mac, carried, own⟩ := hasMacOf_iff.1 has
    obtain ⟨_, same, others⟩ := hasMacOf_iff.1 otherHas
    rw [carried, Option.some_inj] at same
    exact apart.macs one mem other otherMem mac own (same ▸ others)
  have oneIp : ∀ one ∈ order, ∀ other ∈ order, one.hasIpOf event = true →
      other.hasIpOf event = true → one = other := by
    intro one mem other otherMem has otherHas
    exact apart.ips one mem other otherMem
      ((hasIpOf_iff.1 has).trans (hasIpOf_iff.1 otherHas).symm)
  rw [LightingControl.identifiedAmong_eq_some_iff, find?_eq_some_iff_of_unique oneMac,
    find?_eq_some_iff_of_unique oneIp, and_or_left, and_left_comm]

theorem ToldApart.congr {others : List ControllerIdentity} (apart : ToldApart order)
    (same : ∀ identity, identity ∈ others ↔ identity ∈ order) : ToldApart others where
  ips one mem other otherMem := apart.ips one ((same one).1 mem) other ((same other).1 otherMem)
  macs one mem other otherMem := apart.macs one ((same one).1 mem) other ((same other).1 otherMem)

theorem ToldApart.identifiedAmong_congr {others : List ControllerIdentity} (apart : ToldApart order)
    (same : ∀ identity, identity ∈ others ↔ identity ∈ order) (event : Event) :
    identifiedAmong others event = identifiedAmong order event := by
  ext identity
  rw [apart.identifiedAmong_eq_some_iff, (apart.congr same).identifiedAmong_eq_some_iff]
  simp only [same]

/-- Two registries that have come to the same controllers, in whatever order they were opened, closed and
opened again, attribute every event alike, if the controllers can be told apart by each address. -/
theorem identified_alike {config otherConfig : SessionConfig} {hasSink otherHasSink : Bool}
    {calls otherCalls : List Registry.Call} :
    let registry := (Registry.ofConfig config hasSink).after calls
    let other := (Registry.ofConfig otherConfig otherHasSink).after otherCalls
    (∀ identity, identity ∈ registry.identities ↔ identity ∈ other.identities) →
      ToldApart registry.identities →
      ∀ event, registry.identify event = other.identify event ∧
        (∀ order otherOrder, order.Perm registry.identities → otherOrder.Perm other.identities →
          identifiedAmong order event = identifiedAmong otherOrder event) ∧
        ∀ identity, registry.identify event = some identity ↔
          identity ∈ registry.identities ∧ (identity.hasMacOf event = true ∨
            (∀ one ∈ registry.identities, one.hasMacOf event = false) ∧
              identity.hasIpOf event = true) := by
  intro registry other same apart event
  have alike {order : List ControllerIdentity}
      (members : ∀ identity, identity ∈ order ↔ identity ∈ registry.identities) :
      identifiedAmong order event = identifiedAmong registry.identities event :=
    apart.identifiedAmong_congr members event
  refine ⟨?_, fun order otherOrder perm otherPerm => ?_, fun identity => ?_⟩
  · rw [Registry.identify_eq, Registry.identify_eq]
    exact (alike fun identity => (same identity).symm).symm
  · rw [alike fun _ => perm.mem_iff, alike fun _ => otherPerm.mem_iff.trans (same _).symm]
  · rw [Registry.identify_eq, apart.identifiedAmong_eq_some_iff]

/-- One registry has opened two controllers in turn; the other has learnt the hardware address of the
first one only when it was opened again. -/
theorem identified_alike_reopened :
    let first : ControllerIdentity := ⟨.v4 ⟨10, 0, 0, 1⟩ 5108, some ⟨0, 1, 2, 3, 4, 5⟩⟩
    let second : ControllerIdentity := ⟨.v4 ⟨10, 0, 0, 2⟩ 5108, none⟩
    let registry := (Registry.ofConfig .default true).after
      [.forController .networked first, .forController .networked second]
    let other := (Registry.ofConfig .default false).after
      [.forController .networked ⟨first.endpoint, none⟩, .forController .networked second,
        .close first.endpoint, .forController .networked first]
    let event : Event := ⟨⟨.v4 ⟨10, 0, 0, 2⟩ 6969, some ⟨0, 1, 2, 3, 4, 5⟩⟩, 0, .profileChange 1⟩
    registry.identities = [first, second] ∧ other.identities = [second, first] ∧
      registry.identify event = some first ∧ other.identify event = some first := by
  intro first second registry other event
  have here : registry.identities = [first, second] := by decide +kernel
  have there : other.identities = [second, first] := by decide +kernel
  have same : ∀ identity, identity ∈ registry.identities ↔ identity ∈ other.identities := by
    intro identity
    rw [here, there]
    exact (List.Perm.swap second first []).mem_iff
  have apart : ToldApart registry.identities := by
    rw [here]
    constructor <;> decide +kernel
  obtain ⟨alike, -, answer⟩ := identified_alike same apart event
  have found : registry.identify event = some first :=
    (answer first).2 ⟨by rw [here]; exact List.mem_cons_self, .inl rfl⟩
  exact ⟨here, there, found, alike.symm.trans found⟩

end LightingControl
