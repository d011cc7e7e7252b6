import LightingControl.Proofs.Registry.Fleet
import LightingControl.Proofs.Runs
/-!
# Controllers that share a registry

`isolated` compares two runs of a fleet: what an endpoint gets, answers and sessions alike, is what it
would get if nobody used the other endpoints.  Whether a socket can be opened is up to the host that a
move names, and so it does not depend on the other sessions.
-/

set_option autoImplicit false

namespace LightingControl

namespace Fleet

open RegistryEntry (ifRegistered ifRegisteredAt withdraw)

inductive Answer where
  | session (result : Except SessionError SessionKey)
  | registered (key? : Option SessionKey)
  | closed (wasRegistered : Bool)
  | number (seq : UInt8)

/-- The number that a command takes with a step. -/
def numberTaken (live : LiveSession) : LiveSession.Move → List Answer
  | .advance =>
    match live.inside with
    | some (.numbering _) => [.number live.session.tracker.next.1]
    | _ => []
  | _ => []

def answer (fleet : Fleet) : Move → List Answer
  | .forController host identity | .sendCommand host identity _ =>
    [.session (fleet.registry.forController host identity).1]
  | .get endpoint => [.registered (fleet.registry.get? endpoint)]
  | .close endpoint => [.closed (fleet.registry.entry? endpoint).isSome]
  | .closeAll => []
  | .within key move => ((fleet.live? key).map fun live => numberTaken live move).getD []

/-- The move is made for the endpoint or at one of its sessions. -/
def Move.concerns (endpoint : Endpoint) : Move → Bool
  | .forController _ identity | .sendCommand _ identity _ => identity.endpoint = endpoint
  | .get other | .close other => other = endpoint
  | .closeAll => true
  | .within key _ => key.endpoint = endpoint

def answersFor (endpoint : Endpoint) (fleet : Fleet) (move : Move) : List Answer :=
  if move.concerns endpoint then fleet.answer move else []

/-- Two fleets agree on all that the moves for an endpoint depend on. -/
structure AgreeAt (endpoint : Endpoint) (fleet other : Fleet) : Prop where
  config : fleet.registry.config = other.registry.config
  hasSink : fleet.registry.hasSink = other.registry.hasSink
  entries : fleet.registry.entriesOf endpoint = other.registry.entriesOf endpoint
  threads : ∀ key, key.endpoint = endpoint → fleet.threads key = other.threads key

variable {endpoint : Endpoint} {fleet other : Fleet}

theorem AgreeAt.refl (endpoint : Endpoint) (fleet : Fleet) : AgreeAt endpoint fleet fleet :=
  ⟨rfl, rfl, rfl, fun _ _ => rfl⟩

theorem AgreeAt.trans {third : Fleet} (first : AgreeAt endpoint fleet other)
    (second : AgreeAt endpoint other third) : AgreeAt endpoint fleet third where
  config := first.config.trans second.config
  hasSink := first.hasSink.trans second.hasSink
  entries := first.entries.trans second.entries
  threads key own := (first.threads key own).trans (second.threads key own)

theorem AgreeAt.handedOut (agree : AgreeAt endpoint fleet other) :
    fleet.registry.entry? endpoint = other.registry.entry? endpoint := by
  rw [Registry.entry?_eq, agree.entries, Registry.entry?_eq]

theorem AgreeAt.get? (agree : AgreeAt endpoint fleet other) :
    fleet.registry.get? endpoint = other.registry.get? endpoint := by
  rw [Registry.get?, agree.handedOut, Registry.get?]

theorem AgreeAt.live? (agree : AgreeAt endpoint fleet other) {key : SessionKey}
    (own : key.endpoint = endpoint) : fleet.live? key = other.live? key := by
  subst own
  rw [Fleet.live?, Registry.session?_eq, agree.entries, agree.threads key rfl, Fleet.live?,
    Registry.session?_eq]

/-! ## Moves for other endpoints -/

theorem agreeAt_withRegistry {registry : Registry} (config : registry.config = fleet.registry.config)
    (hasSink : registry.hasSink = fleet.registry.hasSink)
    (entries : registry.entriesOf endpoint = fleet.registry.entriesOf endpoint) :
    AgreeAt endpoint fleet (fleet.withRegistry registry) :=
  ⟨config.symm, hasSink.symm, entries.symm, fun _ _ => rfl⟩

theorem agreeAt_openFor {identity : ControllerIdentity} (away : identity.endpoint ≠ endpoint)
    (fleet : Fleet) (host : Host) : AgreeAt endpoint fleet (fleet.openFor host identity) := by
  have asked := Registry.asked_forController fleet.registry host identity
  unfold openFor
  generalize fleet.registry.forController host identity = outcome at asked
  cases asked with
  | registered key found => exact .refl endpoint fleet
  | refused error absent => exact .refl endpoint fleet
  | opened absent =>
    exact agreeAt_withRegistry rfl rfl (Registry.entriesOf_withNew_of_ne away)

theorem agreeAt_moveAt {key : SessionKey} (away : key.endpoint ≠ endpoint) (fleet : Fleet)
    (move : LiveSession.Move) : AgreeAt endpoint fleet (fleet.moveAt key move) := by
  unfold moveAt
  cases fleet.live? key with
  | none => exact .refl endpoint fleet
  | some live =>
    refine ⟨rfl, rfl, (Registry.entriesOf_update_of_ne away _).symm, ?_⟩
    rintro other rfl
    have different : other ≠ key := fun same => away (congrArg SessionKey.endpoint same.symm)
    exact (if_neg different).symm

theorem endpoint_of_given {registry : Registry} {host : Host} {identity : ControllerIdentity}
    {key : SessionKey} (given : (registry.forController host identity).1 = .ok key) :
    key.endpoint = identity.endpoint := by
  have asked := Registry.asked_forController registry host identity
  generalize registry.forController host identity = outcome at asked given
  cases asked with
  | registered other found =>
    cases given
    obtain ⟨entry, -, -, own⟩ := Registry.registered_of_get? found
    exact own
  | refused error absent => cases given
  | opened absent =>
    cases given
    rfl

theorem agreeAt_move_of_not_concerns {move : Move} (away : move.concerns endpoint = false)
    (fleet : Fleet) : AgreeAt endpoint fleet (fleet.move move) := by
  cases move with
  | forController host identity => exact agreeAt_openFor (of_decide_eq_false away) fleet host
  | sendCommand host identity command =>
    have opened := agreeAt_openFor (of_decide_eq_false away) fleet host
    rw [Fleet.move]
    cases given : (fleet.registry.forController host identity).1 with
    | error error => exact opened
    | ok key =>
      have other : key.endpoint ≠ endpoint := by
        rw [endpoint_of_given given]
        exact of_decide_eq_false away
      exact opened.trans (agreeAt_moveAt other _ _)
  | get asked => exact .refl endpoint fleet
  | close closed =>
    exact agreeAt_withRegistry rfl rfl
      (Registry.entriesOf_ifRegisteredAt_of_ne RegistryEntry.key_withdraw (of_decide_eq_false away))
  | closeAll => cases away
  | within key move => exact agreeAt_moveAt (of_decide_eq_false away) fleet move

/-! ## Moves for the endpoint itself -/

theorem AgreeAt.forController (agree : AgreeAt endpoint fleet other)
    {identity : ControllerIdentity} (own : identity.endpoint = endpoint) (host : Host) :
    (fleet.registry.forController host identity).1 = (other.registry.forController host identity).1 ∧
      AgreeAt endpoint (fleet.openFor host identity) (other.openFor host identity) := by
  subst own
  have sameKey := agree.get?
  unfold openFor
  cases found : fleet.registry.get? identity.endpoint with
  | some key =>
    rw [Registry.forController_of_registered found,
      Registry.forController_of_registered (sameKey.symm.trans found)]
    exact ⟨rfl, agree⟩
  | none =>
    have absent := sameKey.symm.trans found
    have nextKey : fleet.registry.nextKey identity.endpoint =
        other.registry.nextKey identity.endpoint := by
      rw [Registry.nextKey, agree.entries, Registry.nextKey]
    cases opened : Session.opened host identity fleet.registry.config fleet.registry.hasSink with
    | error error =>
      have failed := opened
      rw [agree.config, agree.hasSink] at failed
      rw [Registry.forController_of_error found opened, Registry.forController_of_error absent failed]
      exact ⟨rfl, agree⟩
    | ok session =>
      have sameOpened := opened
      rw [agree.config, agree.hasSink] at sameOpened
      rw [Registry.forController_of_opened found opened,
        Registry.forController_of_opened absent sameOpened, nextKey]
      refine ⟨rfl, agree.config, agree.hasSink, ?_, agree.threads⟩
      exact (Registry.entriesOf_enter _ _ _ _).trans
        ((congrArg (· ++ _) agree.entries).trans (Registry.entriesOf_enter _ _ _ _).symm)

theorem AgreeAt.moveAt (agree : AgreeAt endpoint fleet other) {key : SessionKey}
    (own : key.endpoint = endpoint) (move : LiveSession.Move) :
    AgreeAt endpoint (fleet.moveAt key move) (other.moveAt key move) := by
  unfold Fleet.moveAt
  rw [agree.live? own]
  cases other.live? key with
  | none => exact agree
  | some live =>
    refine ⟨agree.config, agree.hasSink, ?_, ?_⟩
    · exact (Registry.entriesOf_update _ _ _ _).trans
        ((congrArg _ agree.entries).trans (Registry.entriesOf_update _ _ _ _).symm)
    · intro third thirdOwn
      change (if third = key then _ else _) = if third = key then _ else _
      rw [agree.threads third thirdOwn]

theorem AgreeAt.move (agree : AgreeAt endpoint fleet other) {move : Move}
    (own : move.concerns endpoint = true) :
    AgreeAt endpoint (fleet.move move) (other.move move) ∧ fleet.answer move = other.answer move := by
  cases move with
  | forController host identity =>
    obtain ⟨sameAnswer, later⟩ := agree.forController (of_decide_eq_true own) host
    exact ⟨later, congrArg (fun result => [Answer.session result]) sameAnswer⟩
  | sendCommand host identity command =>
    obtain ⟨sameAnswer, later⟩ := agree.forController (of_decide_eq_true own) host
    refine ⟨?_, congrArg (fun result => [Answer.session result]) sameAnswer⟩
    rw [Fleet.move, Fleet.move, sameAnswer]
    cases given : (other.registry.forController host identity).1 with
    | error error => exact later
    | ok key => exact later.moveAt ((endpoint_of_given given).trans (of_decide_eq_true own)) _
  | get asked =>
    obtain rfl : asked = endpoint := of_decide_eq_true own
    exact ⟨agree, congrArg (fun key? => [Answer.registered key?]) agree.get?⟩
  | close closed =>
    obtain rfl : closed = endpoint := of_decide_eq_true own
    have withdrawn (registry : Registry) :
        (registry.edit (ifRegisteredAt closed withdraw)).entriesOf closed =
          (registry.entriesOf closed).map (ifRegistered withdraw) :=
      Registry.entriesOf_ifRegisteredAt_self RegistryEntry.key_withdraw
    refine ⟨⟨agree.config, agree.hasSink, ?_, agree.threads⟩, ?_⟩
    · exact (withdrawn _).trans ((congrArg _ agree.entries).trans (withdrawn _).symm)
    · exact congrArg (fun found => [Answer.closed (Option.isSome found)]) agree.handedOut
  | closeAll =>
    have withdrawn (registry : Registry) :=
      Registry.entriesOf_edit RegistryEntry.key_ifRegistered_withdraw registry endpoint
    refine ⟨⟨agree.config, agree.hasSink, ?_, agree.threads⟩, rfl⟩
    exact (withdrawn _).trans ((congrArg _ agree.entries).trans (withdrawn _).symm)
  | within key move =>
    have own : key.endpoint = endpoint := of_decide_eq_true own
    refine ⟨agree.moveAt own move, ?_⟩
    rw [answer, agree.live? own, answer]

def Move.ownOf (endpoint : Endpoint) (moves : List Move) : List Move :=
  moves.filter (concerns endpoint)

theorem AgreeAt.after (agree : AgreeAt endpoint fleet other) (moves : List Move) :
    AgreeAt endpoint (fleet.after (Move.ownOf endpoint moves)) (other.after moves) ∧
      observations Fleet.move (answersFor endpoint) fleet (Move.ownOf endpoint moves) =
        observations Fleet.move (answersFor endpoint) other moves := by
  induction moves generalizing fleet other with
  | nil => exact ⟨agree, rfl⟩
  | cons first rest ih =>
    cases own : first.concerns endpoint with
    | true =>
      obtain ⟨later, sameAnswer⟩ := agree.move own
      have kept : Move.ownOf endpoint (first :: rest) = first :: Move.ownOf endpoint rest :=
        List.filter_cons_of_pos own
      have same : answersFor endpoint fleet first = answersFor endpoint other first := by
        rw [answersFor, sameAnswer, answersFor]
      rw [kept, observations, observations, same, (ih later).2]
      exact ⟨(ih later).1, rfl⟩
    | false =>
      have skipped : Move.ownOf endpoint (first :: rest) = Move.ownOf endpoint rest :=
        List.filter_cons_of_neg (by simp [own])
      have silent : answersFor endpoint other first = [] := by
        rw [answersFor, own]
        rfl
      have later := agree.trans (agreeAt_move_of_not_concerns own other)
      rw [skipped, observations, silent, List.nil_append]
      exact ih later

/-- What an endpoint gets is what it would get without the moves for other endpoints: the same answers
and numbers, the same sessions with their trackers, and in each session the same transmissions,
forwarded datagrams and results. -/
theorem isolated (fleet : Fleet) (endpoint : Endpoint) (moves : List Move) :
    let alone := fleet.after (Move.ownOf endpoint moves)
    let together := fleet.after moves
    (∀ key, key.endpoint = endpoint →
        alone.registry.session? key = together.registry.session? key ∧
          alone.threads key = together.threads key) ∧
      alone.registry.get? endpoint = together.registry.get? endpoint ∧
      observations move (answersFor endpoint) fleet (Move.ownOf endpoint moves) =
        observations move (answersFor endpoint) fleet moves := by
  intro alone together
  obtain ⟨agree, sameAnswers⟩ := (AgreeAt.refl endpoint fleet).after moves
  refine ⟨?_, agree.get?, sameAnswers⟩
  rintro key rfl
  refine ⟨?_, agree.threads key rfl⟩
  rw [Registry.session?_eq, agree.entries, Registry.session?_eq]

-- Two controllers await a response with the same number, and the first one gets it.
example :
    let first : Endpoint := .v4 ⟨10, 0, 0, 1⟩ commandPort
    let second : Endpoint := .v4 ⟨10, 0, 0, 2⟩ commandPort
    let command : Command := ⟨"enable event emit", 0x08, .controller, .basic 1 0 0 0⟩
    let sending (endpoint : Endpoint) : List Move :=
      .sendCommand .networked ⟨endpoint, none⟩ command ::
        [.enter 0, .advance, .advance, .advance, .advance, .advance].map (.within ⟨endpoint, 0⟩)
    let ending : List Move :=
      [.within ⟨first, 0⟩ (.receive (some [0xA1, 0, 1, 0x42, 0xE2])),
        .within ⟨second, 0⟩ .advance, .within ⟨first, 0⟩ (.receive none), .within ⟨first, 0⟩ .advance]
    let fleet := (ofRegistry (.ofConfig .default true)).after (sending first ++ sending second ++ ending)
    (fleet.threads ⟨first, 0⟩).results = [.ok ⟨.answer, 0, [0x42]⟩] ∧
      (fleet.threads ⟨second, 0⟩).results = [] ∧
      (fleet.threads ⟨first, 0⟩).transmitted = (fleet.threads ⟨second, 0⟩).transmitted := by
  decide +kernel

end Fleet

end LightingControl
