import LightingControl.Proofs.Registry.Calls
/-!
# A registry in use by several threads

The sessions of a registry are used by any number of threads at once.  `Fleet.move` is one step of any of
them, at the registry or at one session, so a list of moves is one way in which the threads can be
interleaved.  `reaches_after` shows that calls made one after the other are a schedule of moves.
-/

set_option autoImplicit false

namespace LightingControl

/-- A registry and the threads that use its sessions. -/
structure Fleet where
  registry : Registry
  threads : SessionKey → Threads

/-- The entry is no longer handed out.  Its session is not touched. -/
def RegistryEntry.withdraw (entry : RegistryEntry) : RegistryEntry :=
  { entry with registered := false }

theorem RegistryEntry.key_withdraw (entry : RegistryEntry) : entry.withdraw.key = entry.key := rfl

theorem RegistryEntry.key_ifRegistered_withdraw (entry : RegistryEntry) :
    (entry.ifRegistered withdraw).key = entry.key := by
  rw [ifRegistered]
  split <;> rfl

namespace Fleet

open RegistryEntry (changeAt ifRegistered ifRegisteredAt withdraw)

def ofRegistry (registry : Registry) : Fleet :=
  ⟨registry, fun _ => .initial⟩

def live? (fleet : Fleet) (key : SessionKey) : Option LiveSession :=
  (fleet.registry.session? key).map fun session => ⟨fleet.threads key, session⟩

def put (fleet : Fleet) (key : SessionKey) (live : LiveSession) : Fleet :=
  ⟨fleet.registry.update key live.session,
    fun other => if other = key then live.toThreads else fleet.threads other⟩

def moveAt (fleet : Fleet) (key : SessionKey) (move : LiveSession.Move) : Fleet :=
  match fleet.live? key with
  | some live => fleet.put key (live.move move)
  | none => fleet

def withRegistry (fleet : Fleet) (registry : Registry) : Fleet :=
  { fleet with registry }

def openFor (fleet : Fleet) (host : Host) (identity : ControllerIdentity) : Fleet :=
  fleet.withRegistry (fleet.registry.forController host identity).2

def callOn (fleet : Fleet) (given : Except SessionError SessionKey) (command : Command) : Fleet :=
  match given with
  | .ok key => fleet.moveAt key (.call command)
  | .error _ => fleet

inductive Move where
  | forController (host : Host) (identity : ControllerIdentity)
  | sendCommand (host : Host) (identity : ControllerIdentity) (command : Command)
  | get (endpoint : Endpoint)
  /-- A thread takes the session of an endpoint out of the registry, to close it by moves of its own. -/
  | close (endpoint : Endpoint)
  | closeAll
  | within (key : SessionKey) (move : LiveSession.Move)

def move (fleet : Fleet) : Move → Fleet
  | .forController host identity => fleet.openFor host identity
  | .sendCommand host identity command =>
    (fleet.openFor host identity).callOn (fleet.registry.forController host identity).1 command
  | .get _ => fleet
  | .close endpoint => fleet.withRegistry (fleet.registry.edit (ifRegisteredAt endpoint withdraw))
  | .closeAll => fleet.withRegistry (fleet.registry.edit (ifRegistered withdraw))
  | .within key move => fleet.moveAt key move

def after (fleet : Fleet) (moves : List Move) : Fleet :=
  moves.foldl move fleet

theorem after_append (fleet : Fleet) (early late : List Move) :
    fleet.after (early ++ late) = (fleet.after early).after late :=
  List.foldl_append

end Fleet

namespace Registry

open RegistryEntry (changeAt ifRegistered ifRegisteredAt retire withdraw)

variable {registry : Registry} {key : SessionKey} {session : Session}

theorem session?_edit {change : RegistryEntry → RegistryEntry}
    (sameKey : ∀ entry, (change entry).key = entry.key) (registry : Registry) (key : SessionKey) :
    (registry.edit change).session? key =
      (registry.entries.find? fun entry => entry.key == key).map fun entry =>
        (change entry).session := by
  have sameFind : ((fun entry => entry.key == key) ∘ change) =
      fun entry : RegistryEntry => entry.key == key := by
    funext entry
    exact congrArg (· == key) (sameKey entry)
  rw [session?, edit, List.find?_map, sameFind, Option.map_map]
  rfl

theorem session?_update (found : registry.session? key = some session) (later : Session)
    (other : SessionKey) :
    (registry.update key later).session? other =
      if other = key then some later else registry.session? other := by
  have edited := session?_edit (RegistryEntry.key_changeAt key fun _ => later) registry other
  refine edited.trans ?_
  rw [session?] at found ⊢
  split
  · rename_i same
    subst same
    obtain ⟨entry, found, -⟩ := Option.map_eq_some_iff.1 found
    have own := List.find?_some found
    rw [found, Option.map_some, changeAt, if_pos (beq_iff_eq.1 own)]
  · rename_i different
    cases looked : registry.entries.find? fun entry => entry.key == other with
    | none => rfl
    | some entry =>
      have own := List.find?_some looked
      have away : entry.key ≠ key := fun same => different ((beq_iff_eq.1 own).symm.trans same)
      rw [Option.map_some, RegistryEntry.changeAt_of_ne away, Option.map_some]

theorem keys_edit {change : RegistryEntry → RegistryEntry}
    (sameKey : ∀ entry, (change entry).key = entry.key) (registry : Registry) :
    (registry.edit change).entries.map RegistryEntry.key =
      registry.entries.map RegistryEntry.key := by
  rw [edit, List.map_map]
  exact List.map_congr_left fun entry _ => sameKey entry

theorem edit_edit (registry : Registry) (first second : RegistryEntry → RegistryEntry) :
    (registry.edit first).edit second = registry.edit (second ∘ first) := by
  rw [edit, edit, List.map_map, edit]

theorem edit_congr {first second : RegistryEntry → RegistryEntry}
    (same : ∀ entry ∈ registry.entries, first entry = second entry) :
    registry.edit first = registry.edit second := by
  rw [edit, List.map_congr_left same, edit]

def closeIn (keys : List SessionKey) (entry : RegistryEntry) : RegistryEntry :=
  if entry.key ∈ keys then { entry with session := entry.session.close } else entry

theorem foldl_closeSession (registry : Registry) (keys : List SessionKey) :
    keys.foldl closeSession registry = registry.edit (closeIn keys) := by
  induction keys generalizing registry with
  | nil => exact (edit_id registry).symm
  | cons first rest ih =>
    rw [List.foldl_cons, ih]
    change (registry.edit (changeAt first Session.close)).edit (closeIn rest) = _
    rw [edit_edit]
    refine edit_congr fun entry _ => ?_
    have again : entry.session.close.close = entry.session.close :=
      Session.close_of_closed (Session.closed_close _)
    by_cases same : entry.key = first <;> by_cases later : entry.key ∈ rest <;>
      simp [changeAt, closeIn, same, later, again]

/-- To retire some entries is to withdraw them and then to close their sessions. -/
theorem edit_retire (distinct : (registry.entries.map RegistryEntry.key).Nodup)
    (chosen : RegistryEntry → Bool) :
    ((registry.entries.filter chosen).map RegistryEntry.key).foldl closeSession
        (registry.edit fun entry => if chosen entry then entry.withdraw else entry) =
      registry.edit fun entry => if chosen entry then entry.retire else entry := by
  rw [foldl_closeSession, edit_edit]
  refine edit_congr fun entry mem => ?_
  have among : entry.key ∈ (registry.entries.filter chosen).map RegistryEntry.key ↔
      chosen entry = true := by
    rw [List.mem_map]
    constructor
    · rintro ⟨other, otherMem, same⟩
      obtain ⟨otherMem, isChosen⟩ := List.mem_filter.1 otherMem
      rwa [List.inj_on_of_nodup_map distinct otherMem mem same] at isChosen
    · intro isChosen
      exact ⟨entry, List.mem_filter.2 ⟨mem, isChosen⟩, rfl⟩
  rw [Function.comp_apply]
  by_cases isChosen : chosen entry = true
  · have closes : entry.withdraw.key ∈ (registry.entries.filter chosen).map RegistryEntry.key :=
      among.2 isChosen
    rw [if_pos isChosen, if_pos isChosen, closeIn, if_pos closes]
    rfl
  · rw [if_neg isChosen, if_neg isChosen, closeIn, if_neg fun closes => isChosen (among.1 closes)]

theorem update_update (registry : Registry) (key : SessionKey) (session later : Session) :
    (registry.update key session).update key later = registry.update key later := by
  unfold update
  rw [List.map_map]
  congr 1
  refine List.map_congr_left fun entry _ => ?_
  by_cases same : entry.key = key <;> simp [same]

end Registry

/-! ## Moves of one session -/

namespace Fleet

open RegistryEntry (changeAt ifRegistered ifRegisteredAt retire withdraw)

variable {fleet : Fleet} {key : SessionKey} {session : Session} {live : LiveSession}

def Distinct (fleet : Fleet) : Prop :=
  (fleet.registry.entries.map RegistryEntry.key).Nodup

theorem session?_of_live? (found : fleet.live? key = some live) :
    fleet.registry.session? key = some live.session ∧ fleet.threads key = live.toThreads := by
  obtain ⟨session, isFound, rfl⟩ := Option.map_eq_some_iff.1 found
  exact ⟨isFound, rfl⟩

theorem live?_put (found : fleet.live? key = some live) (later : LiveSession) :
    (fleet.put key later).live? key = some later := by
  have looked := Registry.session?_update (session?_of_live? found).1 later.session key
  rw [if_pos rfl] at looked
  rw [live?, put, looked]
  simp

theorem put_put (fleet : Fleet) (key : SessionKey) (live later : LiveSession) :
    (fleet.put key live).put key later = fleet.put key later := by
  unfold put
  simp only [Registry.update_update, Fleet.mk.injEq, true_and]
  funext other
  split <;> rfl

theorem put_self (distinct : fleet.Distinct) (found : fleet.live? key = some live) :
    fleet.put key live = fleet := by
  obtain ⟨sameSession, sameThreads⟩ := session?_of_live? found
  unfold put
  rw [Registry.update_self distinct sameSession, ← sameThreads]
  congr 1
  funext other
  split
  · rename_i same
    rw [same]
  · rfl

theorem distinct_put (distinct : fleet.Distinct) (key : SessionKey) (live : LiveSession) :
    (fleet.put key live).Distinct := by
  have keys := Registry.keys_edit (RegistryEntry.key_changeAt key fun _ => live.session) fleet.registry
  exact (congrArg List.Nodup keys).mpr distinct

/-- The moves at one session are the moves of the session. -/
theorem after_within (distinct : fleet.Distinct) (found : fleet.live? key = some live)
    (moves : List LiveSession.Move) :
    fleet.after (moves.map (.within key)) = fleet.put key (live.after moves) := by
  induction moves generalizing fleet live with
  | nil => exact (put_self distinct found).symm
  | cons first rest ih =>
    have moved : fleet.move (.within key first) = fleet.put key (live.move first) := by
      rw [move, moveAt, found]
    change (fleet.move (.within key first)).after (rest.map (.within key)) = _
    rw [moved, ih (distinct_put distinct key _) (live?_put found _), put_put]
    rfl

/-! ## Calls as schedules -/

structure Idle (fleet : Fleet) : Prop where
  distinct : fleet.Distinct
  used : ∀ key session, fleet.registry.session? key = some session →
    ∃ ledger, fleet.threads key = (session.live none ledger).toThreads
  unused : ∀ key, fleet.registry.session? key = none → fleet.threads key = .initial

/-- Some moves lead to a registry, and no thread is on its way after them. -/
def Reaches (fleet : Fleet) (registry : Registry) : Prop :=
  ∃ moves, (fleet.after moves).registry = registry ∧ (fleet.after moves).Idle

theorem Idle.reaches_self (idle : fleet.Idle) : fleet.Reaches fleet.registry :=
  ⟨[], rfl, idle⟩

theorem Reaches.trans_move (first : Move) {registry : Registry}
    (reaches : (fleet.move first).Reaches registry) : fleet.Reaches registry := by
  obtain ⟨moves, reached⟩ := reaches
  exact ⟨first :: moves, reached⟩

theorem Idle.put (idle : fleet.Idle) (found : fleet.registry.session? key = some session)
    (later : Session) (ledger : Ledger) : (fleet.put key (later.live none ledger)).Idle := by
  have looked (other : SessionKey) :
      (fleet.put key (later.live none ledger)).registry.session? other =
        if other = key then some later else fleet.registry.session? other :=
    Registry.session?_update found later other
  have threads (other : SessionKey) : (fleet.put key (later.live none ledger)).threads other =
      if other = key then (later.live none ledger).toThreads else fleet.threads other := rfl
  refine ⟨distinct_put idle.distinct _ _, ?_, ?_⟩
  · intro other present isPresent
    rw [looked] at isPresent
    rw [threads]
    split at isPresent
    · rename_i same
      cases isPresent
      exact ⟨ledger, if_pos same⟩
    · rename_i different
      rw [if_neg different]
      exact idle.used other present isPresent
  · intro other absent
    rw [looked] at absent
    rw [threads]
    split at absent
    · cases absent
    · rename_i different
      rw [if_neg different]
      exact idle.unused other absent

theorem Idle.reaches_update (idle : fleet.Idle) (found : fleet.registry.session? key = some session)
    {later : Session}
    (leads : ∀ ledger, ∃ ended, (session.live none ledger).Leads (later.live none ended)) :
    fleet.Reaches (fleet.registry.update key later) := by
  obtain ⟨ledger, threads⟩ := idle.used key session found
  obtain ⟨ended, moves, led⟩ := leads ledger
  have live : fleet.live? key = some (session.live none ledger) := by
    rw [live?, found, threads]
    rfl
  refine ⟨moves.map (.within key), ?_⟩
  rw [after_within idle.distinct live, led]
  exact ⟨rfl, idle.put found later ended⟩

theorem Idle.reaches_edit (idle : fleet.Idle) (key : SessionKey) {change : Session → Session}
    (leads : ∀ session ledger, ∃ ended,
      (Session.live session none ledger).Leads ((change session).live none ended)) :
    fleet.Reaches (fleet.registry.edit (changeAt key change)) := by
  cases found : fleet.registry.session? key with
  | none =>
    rw [Registry.edit_changeAt_of_absent found]
    exact idle.reaches_self
  | some session =>
    rw [← Registry.update_eq idle.distinct found]
    exact idle.reaches_update found (leads session)

theorem Idle.reaches_closing (idle : fleet.Idle) (keys : List SessionKey) :
    fleet.Reaches (keys.foldl Registry.closeSession fleet.registry) := by
  induction keys generalizing fleet with
  | nil => exact idle.reaches_self
  | cons first rest ih =>
    obtain ⟨early, closed, idleLater⟩ := idle.reaches_edit first fun session ledger =>
      ⟨ledger, Session.close_leads session none ledger⟩
    obtain ⟨late, reached, idleLast⟩ := ih idleLater
    refine ⟨early ++ late, ?_⟩
    rw [after_append, reached, closed]
    exact ⟨rfl, idleLast⟩

theorem Idle.withdraw (idle : fleet.Idle) {change : RegistryEntry → RegistryEntry}
    (sameKey : ∀ entry, (change entry).key = entry.key)
    (sameSession : ∀ entry, (change entry).session = entry.session) :
    (fleet.withRegistry (fleet.registry.edit change)).Idle := by
  have looked (other : SessionKey) :
      (fleet.registry.edit change).session? other = fleet.registry.session? other := by
    rw [Registry.session?_edit sameKey, Registry.session?]
    simp only [sameSession]
  refine ⟨(congrArg List.Nodup (Registry.keys_edit sameKey fleet.registry)).mpr idle.distinct, ?_, ?_⟩
  · intro other present isPresent
    exact idle.used other present ((looked other).symm.trans isPresent)
  · intro other absent
    exact idle.unused other ((looked other).symm.trans absent)

theorem Reaches.bind {between registry : Registry} (reaches : fleet.Reaches between)
    (next : ∀ later : Fleet, later.registry = between → later.Idle → later.Reaches registry) :
    fleet.Reaches registry := by
  obtain ⟨early, reached, idle⟩ := reaches
  obtain ⟨late, ended⟩ := next (fleet.after early) reached idle
  refine ⟨early ++ late, ?_⟩
  rwa [after_append]

theorem Idle.enter (idle : fleet.Idle) (filed : fleet.registry.Filed)
    (endpoint : Endpoint) (session : Session) (isOpen : session.closed = false) :
    (fleet.withRegistry
      (fleet.registry.enter (fleet.registry.nextKey endpoint) session)).Idle := by
  have fresh := filed.session?_nextKey endpoint
  have looked := Registry.session?_enter_of_fresh fresh session
  refine ⟨filed.distinct_enter endpoint session, ?_, ?_⟩
  · intro other present isPresent
    rw [withRegistry, looked] at isPresent
    split at isPresent
    · rename_i same
      cases isPresent
      refine ⟨⟨[], [], []⟩, ?_⟩
      rw [same]
      refine (idle.unused _ fresh).trans ?_
      simp [Session.live, isOpen, Threads.initial]
    · exact idle.used other present isPresent
  · intro other absent
    rw [withRegistry, looked] at absent
    split at absent
    · cases absent
    · exact idle.unused other absent

theorem Idle.reaches_openedFor (idle : fleet.Idle) (filed : fleet.registry.Filed)
    (call : Registry.Call) : fleet.Reaches (fleet.registry.openedFor call) := by
  obtain same | ⟨host, identity, -, -, answered, opened⟩ :=
    Registry.openedFor_cases fleet.registry call
  · rw [same]
    exact idle.reaches_self
  · refine ⟨[.forController host identity], congrArg Prod.snd answered, ?_⟩
    change (fleet.withRegistry (fleet.registry.forController host identity).2).Idle
    rw [answered, opened]
    exact idle.enter filed identity.endpoint _ rfl

theorem Idle.reaches_retire (idle : fleet.Idle) (first : Move) (chosen : RegistryEntry → Bool)
    (moved : fleet.move first = fleet.withRegistry
      (fleet.registry.edit fun entry => if chosen entry then entry.withdraw else entry)) :
    fleet.Reaches (fleet.registry.edit fun entry => if chosen entry then entry.retire else entry) := by
  refine Reaches.trans_move first ?_
  rw [← Registry.edit_retire idle.distinct chosen, moved]
  refine Idle.reaches_closing (idle.withdraw ?_ ?_) _ <;>
  · intro entry
    split <;> rfl

theorem Idle.reaches_call (idle : fleet.Idle) (filed : fleet.registry.Filed) (call : Registry.Call) :
    fleet.Reaches (fleet.registry.call call) := by
  rw [filed.call_eq]
  refine (idle.reaches_openedFor filed call).bind fun later opened idleLater => ?_
  rw [← opened]
  have sends (key : SessionKey) (command : Command) (during : Nat → List Happening) :
      later.Reaches (later.registry.edit
        (changeAt key fun session => (session.send command during).session)) :=
    idleLater.reaches_edit key fun session ledger =>
      ⟨_, Session.send_leads session command during _ ledger⟩
  cases call with
  | forController host identity =>
    rw [Registry.changeOf, Registry.edit_id]
    exact idleLater.reaches_self
  | sendCommand host identity command during =>
    rw [Registry.changeOf]
    cases (fleet.registry.forController host identity).1 with
    | ok key => exact sends key command during
    | error error =>
      rw [Registry.edit_id]
      exact idleLater.reaches_self
  | get endpoint =>
    rw [Registry.changeOf, Registry.edit_id]
    exact idleLater.reaches_self
  | close endpoint => exact idleLater.reaches_retire (.close endpoint) _ rfl
  | closeAll => exact idleLater.reaches_retire .closeAll _ rfl
  | sendOn key command during => exact sends key command during
  | receive key datagram =>
    exact idleLater.reaches_edit key fun session ledger =>
      ⟨_, Session.receive_leads session none ledger datagram⟩
  | closeSession key =>
    exact idleLater.reaches_edit key fun session ledger =>
      ⟨ledger, Session.close_leads session none ledger⟩

theorem Idle.reaches_after (idle : fleet.Idle) (filed : fleet.registry.Filed)
    (calls : List Registry.Call) : fleet.Reaches (fleet.registry.after calls) := by
  induction calls generalizing fleet with
  | nil => exact idle.reaches_self
  | cons first rest ih =>
    refine (idle.reaches_call filed first).bind fun later called idleLater => ?_
    have filedLater : later.registry.Filed := by
      rw [called]
      exact filed.call first
    have reached := ih idleLater filedLater
    rw [called] at reached
    exact reached

/-- Calls that are made one after the other are a schedule of moves. -/
theorem reaches_after (config : SessionConfig) (hasSink : Bool) (calls : List Registry.Call) :
    (ofRegistry (.ofConfig config hasSink)).Reaches ((Registry.ofConfig config hasSink).after calls) := by
  have idle : (ofRegistry (.ofConfig config hasSink)).Idle :=
    ⟨List.nodup_nil, nofun, fun _ _ => rfl⟩
  exact idle.reaches_after (Registry.filed_ofConfig config hasSink) calls

end Fleet

end LightingControl
