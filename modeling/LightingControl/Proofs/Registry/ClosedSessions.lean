import LightingControl.Proofs.Registry.Fleet
import LightingControl.Proofs.Registry.Sessions
import LightingControl.Proofs.Runs
import LightingControl.Proofs.Session.Closing
/-!
# Sessions that are closed behind a registry

Whoever has been handed out a session can close it directly.  The registry does not look whether its
sessions are closed, so it goes on handing out the closed session, and commands for the controller are
refused until the session is closed at the registry as well.
-/

set_option autoImplicit false

namespace LightingControl

namespace LiveSession

variable {live : LiveSession}

theorem closed_move_of_ne {move : Move} (other : move ≠ .close) :
    (live.move move).session.closed = live.session.closed := by
  cases move with
  | call command => rfl
  | enter i =>
    rw [LiveSession.move]
    split <;> rfl
  | advance => exact (stepped_advance live).beside.closed
  | receive datagram => exact closed_receive live datagram
  | close => exact absurd rfl other
  | tick time => rfl

theorem Done.closed {closing : Closing} (done : live.Done closing) (begun : closing ≠ .idle) :
    live.session.closed = true := by
  cases closing with
  | idle => exact absurd rfl begun
  | marked | signalled => exact done
  | joined | released | completed => exact done.1

theorem closing_close_ne_idle (live : LiveSession) : live.close.closing ≠ .idle := by
  unfold close
  cases stage : live.closing with
  | signalled =>
    dsimp only
    split <;> simp [stage]
  | _ => simp [stage]

theorem closed_close (done : live.Done live.closing) : live.close.session.closed = true :=
  (done_close done).closed (closing_close_ne_idle live)

end LiveSession

namespace Registry

variable {registry : Registry} {key : SessionKey}

theorem mem_all : key ∈ registry.all ↔ ∃ entry ∈ registry.registered, entry.key = key :=
  List.mem_map

theorem mem_all_of_get? {endpoint : Endpoint} (found : registry.get? endpoint = some key) :
    key ∈ registry.all := by
  obtain ⟨entry, mem, same, -⟩ := registered_of_get? found
  exact mem_all.2 ⟨entry, mem, same⟩

theorem session?_of_mem_all (mem : key ∈ registry.all) :
    ∃ session, registry.session? key = some session := by
  obtain ⟨entry, registered, rfl⟩ := mem_all.1 mem
  refine Option.isSome_iff_exists.1 ?_
  rw [session?, Option.isSome_map, List.find?_isSome]
  exact ⟨entry, (List.mem_filter.1 registered).1, beq_self_eq_true _⟩

theorem all_enter (registry : Registry) (key : SessionKey) (session : Session) :
    (registry.enter key session).all = registry.all ++ [key] := by
  rw [all, registered_enter, List.map_append]
  rfl

theorem mem_all_of_edit {change : RegistryEntry → RegistryEntry}
    (sameKey : ∀ entry, (change entry).key = entry.key)
    (registered : ∀ entry, (change entry).registered = true → entry.registered = true)
    (mem : key ∈ (registry.edit change).all) : key ∈ registry.all := by
  obtain ⟨later, still, rfl⟩ := mem_all.1 mem
  obtain ⟨entry, was, rfl⟩ := exists_of_mem_registered_edit registered still
  exact mem_all.2 ⟨entry, was, (sameKey entry).symm⟩

end Registry

namespace Fleet

open RegistryEntry (ifRegistered ifRegisteredAt withdraw)

variable {fleet : Fleet} {closings : List SessionKey}

theorem live?_put_of_ne {key other : SessionKey} {live : LiveSession}
    (found : fleet.live? key = some live) (later : LiveSession) (different : other ≠ key) :
    (fleet.put key later).live? other = fleet.live? other := by
  have looked := Registry.session?_update (session?_of_live? found).1 later.session other
  rw [if_neg different] at looked
  rw [live?, put, looked, live?]
  simp only [if_neg different]

/-- The session that is closed with a move although it is registered. -/
def closedBehind (fleet : Fleet) : Move → List SessionKey
  | .within key .close => if key ∈ fleet.registry.all then [key] else []
  | _ => []

theorem closedBehind_of_ne (fleet : Fleet) (key : SessionKey) {move : LiveSession.Move}
    (other : move ≠ .close) : fleet.closedBehind (.within key move) = [] := by
  cases move with
  | close => exact absurd rfl other
  | _ => rfl

structure Watched (fleet : Fleet) (closings : List SessionKey) : Prop where
  distinct : fleet.Distinct
  numbered : fleet.registry.Numbered
  unused : ∀ key, fleet.registry.session? key = none → fleet.threads key = .initial
  done : ∀ key live, fleet.live? key = some live → live.Done live.closing
  closed : ∀ key ∈ fleet.registry.all, ∀ live, fleet.live? key = some live →
    (live.session.closed = true ↔ key ∈ closings)
  known : ∀ key ∈ closings, fleet.registry.session? key ≠ none

theorem watched_ofConfig (config : SessionConfig) (hasSink : Bool) :
    (ofRegistry (.ofConfig config hasSink)).Watched [] := by
  constructor <;>
    simp [Distinct, ofRegistry, Registry.ofConfig, Registry.Numbered, live?, Registry.session?]

theorem Watched.put (watched : fleet.Watched closings) {key : SessionKey} {live later : LiveSession}
    (found : fleet.live? key = some live) (done : later.Done later.closing)
    {more : List SessionKey} (others : ∀ other ∈ more, other = key)
    (closed : key ∈ fleet.registry.all → (later.session.closed = true ↔ key ∈ closings ++ more)) :
    (fleet.put key later).Watched (closings ++ more) := by
  -- The other keys keep their sessions and threads, and none of them is among the new closings.
  have sameKey := RegistryEntry.key_changeAt key fun _ => later.session
  have looked := Registry.session?_update (session?_of_live? found).1 later.session
  have stillRegistered {other : SessionKey} (mem : other ∈ (fleet.put key later).registry.all) :
      other ∈ fleet.registry.all := by
    refine Registry.mem_all_of_edit sameKey (fun entry registered => ?_) mem
    rwa [RegistryEntry.registered_changeAt] at registered
  refine ⟨distinct_put watched.distinct key later, watched.numbered.edit sameKey, ?_, ?_, ?_, ?_⟩
  · intro other absent
    rw [Fleet.put, looked] at absent
    split at absent
    · cases absent
    · rename_i different
      exact (if_neg different).trans (watched.unused other absent)
  · intro other present isPresent
    by_cases same : other = key
    · rw [same, live?_put found] at isPresent
      cases isPresent
      exact done
    · rw [live?_put_of_ne found later same] at isPresent
      exact watched.done other present isPresent
  · intro other registered present isPresent
    by_cases same : other = key
    · rw [same, live?_put found] at isPresent
      cases isPresent
      exact same ▸ closed (same ▸ stillRegistered registered)
    · rw [live?_put_of_ne found later same] at isPresent
      have new : other ∉ more := fun mem => same (others other mem)
      rw [watched.closed other (stillRegistered registered) present isPresent, List.mem_append,
        or_iff_left new]
  · intro other mem absent
    rw [Fleet.put, looked] at absent
    split at absent
    · cases absent
    · rename_i different
      obtain old | new := List.mem_append.1 mem
      · exact watched.known other old absent
      · exact different (others other new)

theorem Watched.moveAt (watched : fleet.Watched closings) (key : SessionKey)
    (move : LiveSession.Move) :
    (fleet.moveAt key move).Watched (closings ++ fleet.closedBehind (.within key move)) := by
  unfold Fleet.moveAt
  cases found : fleet.live? key with
  | none =>
    -- Nobody has been handed out a key that has no session.
    have nothing : fleet.closedBehind (.within key move) = [] := by
      by_cases closes : move = .close
      · subst closes
        refine if_neg fun registered => ?_
        obtain ⟨session, present⟩ := Registry.session?_of_mem_all registered
        rw [live?, present] at found
        cases found
      · exact closedBehind_of_ne fleet key closes
    rw [nothing, List.append_nil]
    exact watched
  | some live =>
    have done := watched.done key live found
    refine watched.put found (LiveSession.done_move done move) ?_ fun registered => ?_
    · intro other mem
      by_cases closes : move = .close
      · subst closes
        rw [closedBehind] at mem
        split at mem
        · exact List.mem_singleton.1 mem
        · cases mem
      · rw [closedBehind_of_ne fleet key closes] at mem
        cases mem
    · by_cases closes : move = .close
      · subst closes
        rw [closedBehind, if_pos registered]
        exact iff_of_true (LiveSession.closed_close done)
          (List.mem_append_right _ (List.mem_singleton.2 rfl))
      · rw [closedBehind_of_ne fleet key closes, List.append_nil, LiveSession.closed_move_of_ne closes]
        exact watched.closed key registered live found

theorem live?_withNew (watched : fleet.Watched closings) (now : Moment)
    (identity : ControllerIdentity) (key : SessionKey) :
    (fleet.withRegistry (fleet.registry.withNew now identity)).live? key =
      if key = fleet.registry.nextKey identity.endpoint then
        some (.ofSession (fleet.registry.newSession now identity))
      else fleet.live? key := by
  have fresh := watched.numbered.session?_nextKey identity.endpoint
  rw [live?, withRegistry, Registry.withNew, Registry.session?_enter_of_fresh fresh]
  split
  · rename_i same
    rw [same, watched.unused _ fresh]
    rfl
  · rfl

theorem Watched.openFor (watched : fleet.Watched closings) (host : Host)
    (identity : ControllerIdentity) : (fleet.openFor host identity).Watched closings := by
  have asked := Registry.asked_forController fleet.registry host identity
  unfold Fleet.openFor
  generalize fleet.registry.forController host identity = outcome at asked
  cases asked with
  | registered key found => exact watched
  | refused error absent => exact watched
  | opened absent =>
    have fresh := watched.numbered.session?_nextKey identity.endpoint
    have looked := Registry.session?_enter_of_fresh fresh (fleet.registry.newSession host.now identity)
    refine ⟨watched.numbered.distinct_enter watched.distinct _ _, watched.numbered.enter _ _, ?_, ?_,
      ?_, ?_⟩
    · intro key missing
      rw [withRegistry, Registry.withNew, looked] at missing
      split at missing
      · cases missing
      · exact watched.unused key missing
    · intro key live isPresent
      rw [live?_withNew watched] at isPresent
      split at isPresent
      · cases isPresent
        trivial
      · exact watched.done key live isPresent
    · intro key registered live isPresent
      rw [live?_withNew watched] at isPresent
      split at isPresent
      · rename_i new
        cases isPresent
        refine iff_of_false Bool.false_ne_true fun mem => watched.known key mem ?_
        rwa [new]
      · rename_i old
        rw [withRegistry, Registry.withNew, Registry.all_enter, List.mem_append,
          List.mem_singleton, or_iff_left old] at registered
        exact watched.closed key registered live isPresent
    · intro key mem missing
      rw [withRegistry, Registry.withNew, looked] at missing
      split at missing
      · cases missing
      · exact watched.known key mem missing

theorem Watched.withdraw (watched : fleet.Watched closings) (chosen : RegistryEntry → Bool) :
    (fleet.withRegistry (fleet.registry.edit fun entry =>
      if chosen entry then entry.withdraw else entry)).Watched closings := by
  have sameKey (entry : RegistryEntry) : (if chosen entry then entry.withdraw else entry).key =
      entry.key := by
    split <;> rfl
  have looked (key : SessionKey) :
      (fleet.registry.edit fun entry => if chosen entry then entry.withdraw else entry).session? key =
        fleet.registry.session? key := by
    rw [Registry.session?_edit sameKey, Registry.session?]
    congr 1
    funext entry
    split <;> rfl
  have live (key : SessionKey) :
      (fleet.withRegistry (fleet.registry.edit fun entry =>
        if chosen entry then entry.withdraw else entry)).live? key = fleet.live? key := by
    rw [live?, withRegistry, looked, live?]
  have distinct := (congrArg List.Nodup (Registry.keys_edit sameKey fleet.registry)).mpr watched.distinct
  refine ⟨distinct, watched.numbered.edit sameKey, ?_, ?_, ?_, ?_⟩
  · intro key missing
    exact watched.unused key ((looked key).symm.trans missing)
  · intro key present isPresent
    exact watched.done key present ((live key).symm.trans isPresent)
  · intro key mem present isPresent
    have registered : key ∈ fleet.registry.all := by
      refine Registry.mem_all_of_edit sameKey (fun entry still => ?_) mem
      split at still
      · cases still
      · exact still
    exact watched.closed key registered present ((live key).symm.trans isPresent)
  · intro key mem missing
    exact watched.known key mem ((looked key).symm.trans missing)

theorem Watched.move (watched : fleet.Watched closings) (move : Move) :
    (fleet.move move).Watched (closings ++ fleet.closedBehind move) := by
  have same {later : Fleet} (watched : later.Watched closings) : later.Watched (closings ++ []) :=
    (List.append_nil closings).symm ▸ watched
  cases move with
  | within key move => exact watched.moveAt key move
  | forController host identity => exact same (watched.openFor host identity)
  | sendCommand host identity command =>
    have opened := watched.openFor host identity
    rw [Fleet.move]
    cases (fleet.registry.forController host identity).1 with
    | error error => exact same opened
    | ok key => exact opened.moveAt key (.call command)
  | get endpoint => exact same watched
  | close endpoint => exact same (watched.withdraw _)
  | closeAll => exact same (watched.withdraw _)

theorem Watched.after (watched : fleet.Watched closings) (moves : List Move) :
    (fleet.after moves).Watched (closings ++ observations Fleet.move closedBehind fleet moves) := by
  induction moves generalizing fleet closings with
  | nil => exact (List.append_nil closings).symm ▸ watched
  | cons first rest ih =>
    have later := ih (watched.move first)
    rwa [List.append_assoc] at later

/-- A session that is given for a controller is closed exactly if it has been closed behind the registry,
and then commands for the controller are refused. -/
theorem given_closed_iff (config : SessionConfig) (hasSink : Bool) (moves : List Move) {host : Host}
    {identity : ControllerIdentity} {key : SessionKey} {registry : Registry}
    (given : ((ofRegistry (.ofConfig config hasSink)).after moves).registry.forController host identity =
      (.ok key, registry)) :
    let start := ofRegistry (.ofConfig config hasSink)
    ∃ session, registry.session? key = some session ∧
      (session.closed = true ↔ key ∈ observations move closedBehind start moves) ∧
      (session.closed = true → ∀ command during,
        (start.after moves).registry.sendCommand host identity command during =
          (.error (.error .closed), [], [], registry)) := by
  intro start
  have watched : (start.after moves).Watched (observations move closedBehind start moves) :=
    (watched_ofConfig config hasSink).after moves
  have later := watched.openFor host identity
  rw [openFor, given] at later
  have registered := Registry.mem_all_of_get? (Registry.get?_of_forController given)
  obtain ⟨session, present⟩ := Registry.session?_of_mem_all registered
  have live : ((start.after moves).withRegistry registry).live? key =
      some ⟨(start.after moves).threads key, session⟩ := by
    rw [live?, withRegistry, present]
    rfl
  refine ⟨session, present, later.closed key registered _ live, fun closed command during => ?_⟩
  rw [Registry.sendCommand, given]
  exact Registry.sendOn_of_closed later.distinct present closed command during

/-- Once a session that was closed behind the registry has been closed there too, the next one that is
given is open. -/
theorem given_closed_iff_renewed :
    let identity : ControllerIdentity := ⟨anyEndpoint, none⟩
    let moves : List Move := [.forController .networked identity, .within ⟨anyEndpoint, 0⟩ .close,
      .close anyEndpoint]
    let start := ofRegistry (.ofConfig .default true)
    let outcome := (start.after moves).registry.forController .networked identity
    outcome = (.ok ⟨anyEndpoint, 1⟩, outcome.2) ∧
      ∃ session, outcome.2.session? ⟨anyEndpoint, 1⟩ = some session ∧ session.closed = false := by
  intro identity moves start outcome
  have given : outcome = (.ok ⟨anyEndpoint, 1⟩, outcome.2) :=
    Prod.ext (by decide +kernel) rfl
  obtain ⟨session, present, verdict, -⟩ := given_closed_iff .default true moves given
  refine ⟨given, session, present, Bool.eq_false_iff.2 fun closed => ?_⟩
  have mem := verdict.1 closed
  revert mem
  decide +kernel

/-- A session that has been closed directly is given again, and commands are refused. -/
theorem closed_session_given_again :
    let identity : ControllerIdentity := ⟨anyEndpoint, none⟩
    let key : SessionKey := ⟨anyEndpoint, 0⟩
    let closing : List LiveSession.Move :=
      [.close, .close, .receive none, .receive none, .close, .close, .close]
    let fleet := (ofRegistry (.ofConfig .default true)).after
      (.forController .networked identity :: closing.map (.within key))
    fleet.registry.forController .networked identity = (.ok key, fleet.registry) ∧
      (fleet.threads key).closing = .completed ∧
      (fleet.registry.session? key).map Session.closed = some true ∧
      ∀ command during, fleet.registry.sendCommand .networked identity command during =
        (.error (.error .closed), [], [], fleet.registry) := by
  intro identity key closing fleet
  have given : fleet.registry.forController .networked identity = (.ok key, fleet.registry) :=
    Registry.forController_of_registered (by decide +kernel) _
  have closed : (fleet.registry.session? key).map Session.closed = some true := by decide +kernel
  obtain ⟨session, present, isClosed⟩ := Option.map_eq_some_iff.1 closed
  refine ⟨given, by decide +kernel, closed, fun command during => ?_⟩
  rw [Registry.sendCommand, given]
  exact Registry.sendOn_of_closed (by decide +kernel) present isClosed command during

end Fleet

end LightingControl
