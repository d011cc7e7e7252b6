import LightingControl.Proofs.Listener.Calls
/-!
# What the handlers of a listener are called on

A subscription is followed from the call that makes it: what its handler has been called on and what
is queued for it are, in this order, the events dispatched while it was registered that its filter
lets through.  Who is registered is described by a roster that knows no events.
-/

set_option autoImplicit false

namespace LightingControl

namespace Subscription

/-- The events that the handler has been called on, and then those that are queued for it. -/
def stream (subscription : Subscription) : List Event :=
  subscription.handled ++ subscription.queue

theorem handle_eq (subscription : Subscription) (event : Event) :
    subscription.handle event =
      { subscription with
        handled := subscription.handled ++ [event]
        failures := (subscription.handle event).failures } := by
  simp only [handle]
  cases subscription.handler event <;> rfl

theorem foldl_handle_eq (events : List Event) (subscription : Subscription) :
    events.foldl handle subscription =
      { subscription with
        handled := subscription.handled ++ events
        failures := (events.foldl handle subscription).failures } := by
  induction events generalizing subscription with
  | nil => simp
  | cons event rest ih =>
    rw [List.foldl_cons, ih, handle_eq]
    simp only [List.append_assoc, List.singleton_append]

theorem drain_eq (subscription : Subscription) :
    subscription.drain =
      { subscription with
        queue := []
        handled := subscription.stream
        failures := subscription.drain.failures } :=
  foldl_handle_eq _ _

theorem work_of_empty {subscription : Subscription} (empty : subscription.queue = []) :
    subscription.work = subscription := by
  rw [work, empty]

theorem work_of_cons {subscription : Subscription} {event : Event} {rest : List Event}
    (queue : subscription.queue = event :: rest) :
    subscription.work =
      { subscription with
        queue := rest
        handled := subscription.handled ++ [event]
        failures := subscription.work.failures } := by
  simp only [work, queue]
  exact handle_eq _ _

@[simp] theorem queue_work (subscription : Subscription) :
    subscription.work.queue = subscription.queue.tail := by
  cases queue : subscription.queue with
  | nil => rw [work_of_empty queue, queue, List.tail_nil]
  | cons event rest => rw [work_of_cons queue, List.tail_cons]

/-- A subscription that has been given the events `due`. -/
structure Serves (subscription : Subscription) (id : SubscriptionId) (filter : EventFilter)
    (registered : Bool) (due : List Event) : Prop where
  name : subscription.id = id
  filter : subscription.filter = filter
  registered : subscription.registered = registered
  stream : subscription.stream = due

variable {subscription : Subscription} {id : SubscriptionId} {filter : EventFilter}
  {registered : Bool} {due : List Event}

theorem Serves.work (serves : subscription.Serves id filter registered due) :
    subscription.work.Serves id filter registered due := by
  cases queue : subscription.queue with
  | nil =>
    rw [work_of_empty queue]
    exact serves
  | cons event rest =>
    rw [work_of_cons queue]
    refine ⟨serves.name, serves.filter, serves.registered, ?_⟩
    rw [← serves.stream]
    simp [Subscription.stream, queue]

theorem Serves.stop (serves : subscription.Serves id filter registered due) :
    { subscription.drain with registered := false }.Serves id filter false due := by
  rw [drain_eq]
  exact ⟨serves.name, serves.filter, rfl, by simpa [Subscription.stream] using serves.stream⟩

theorem Serves.offer (serves : subscription.Serves id filter registered due) (event : Event) :
    (subscription.offer event).Serves id filter registered
      (due ++ if registered && filter.matches event.type then [event] else []) := by
  have wants : subscription.wants event.type = (registered && filter.matches event.type) := by
    rw [Subscription.wants, serves.registered, serves.filter]
  unfold Subscription.offer
  rw [wants]
  cases registered && filter.matches event.type with
  | true =>
    refine ⟨serves.name, serves.filter, serves.registered, ?_⟩
    rw [← serves.stream]
    exact (List.append_assoc _ _ _).symm
  | false =>
    simp only [Bool.false_eq_true, if_false, List.append_nil]
    exact serves

theorem Serves.offerAll (serves : subscription.Serves id filter registered due)
    (events : List Event) :
    (events.foldl (fun subscription event => subscription.offer event) subscription).Serves id
      filter registered
      (due ++ if registered then events.filter fun event => filter.matches event.type else []) := by
  induction events generalizing subscription due with
  | nil => simpa using serves
  | cons event rest ih =>
    have later := ih (serves.offer event)
    rw [List.append_assoc] at later
    rw [List.foldl_cons, List.filter_cons]
    cases registered with
    | false => simpa using later
    | true => cases matched : filter.matches event.type <;> simpa [matched] using later

def enrolled? (subscription : Subscription) : Option (SubscriptionId × EventFilter) :=
  if subscription.registered then some (subscription.id, subscription.filter) else none

theorem Serves.enrolled? (serves : subscription.Serves id filter registered due) :
    subscription.enrolled? = if registered then some (id, filter) else none := by
  rw [Subscription.enrolled?, serves.name, serves.filter, serves.registered]

end Subscription

namespace Listener

def subscription? (listener : Listener) (id : SubscriptionId) : Option Subscription :=
  listener.subscriptions.find? fun subscription => subscription.id = id

def handledBy (listener : Listener) (id : SubscriptionId) : Option (List Event) :=
  (listener.subscription? id).map Subscription.handled

/-- The events that are dispatched while a subscription is registered and that its filter lets
through. -/
def dispatchedTo (id : SubscriptionId) (filter : EventFilter) (listener : Listener) (call : Call) :
    List Event :=
  if listener.isRegistered id then
    (listener.dispatched call).filter fun event => filter.matches event.type
  else
    []

def Call.ends (id : SubscriptionId) : Call → Bool
  | .unsubscribe other => id = other
  | .stop => true
  | .subscribe _ _ | .ingest _ _ _ | .work _ => false

variable {listener : Listener} {id : SubscriptionId} {filter : EventFilter} {registered : Bool}
  {due : List Event}

/-- What a subscription has been given, and whether it is still registered, after a call. -/
theorem serves_call {subscription : Subscription}
    (serves : subscription.Serves id filter registered due) (call : Call) :
    (call.onSubscription (listener.dispatched call) subscription).Serves id filter
      (registered && !call.ends id)
      (due ++ if registered then
        (listener.dispatched call).filter fun event => filter.matches event.type else []) := by
  have nothing (quiet : listener.dispatched call = []) :
      (due ++ if registered then
        (listener.dispatched call).filter fun event => filter.matches event.type else []) =
        due := by
    simp [quiet]
  cases call with
  | ingest now datagram source =>
    rw [Call.ends, Bool.not_false, Bool.and_true]
    exact serves.offerAll _
  | subscribe _ _ =>
    rw [nothing rfl, Call.ends, Bool.not_false, Bool.and_true]
    exact serves
  | unsubscribe other =>
    rw [nothing rfl, Call.ends, Call.onSubscription, serves.name]
    by_cases same : id = other
    · rw [if_pos same, decide_eq_true same, Bool.not_true, Bool.and_false]
      exact ⟨rfl, serves.filter, rfl, serves.stream⟩
    · rw [if_neg same, decide_eq_false same, Bool.not_false, Bool.and_true]
      exact serves
  | stop =>
    rw [nothing rfl, Call.ends, Call.onSubscription, serves.registered, Bool.not_true,
      Bool.and_false]
    cases registered with
    | true => exact serves.stop
    | false => exact serves
  | work other =>
    rw [nothing rfl, Call.ends, Call.onSubscription, serves.name, Bool.not_false, Bool.and_true]
    by_cases same : id = other
    · rw [if_pos same]
      exact serves.work
    · rw [if_neg same]
      exact serves

theorem id_onSubscription (call : Call) (subscription : Subscription) :
    (call.onSubscription (listener.dispatched call) subscription).id = subscription.id :=
  (serves_call ⟨rfl, rfl, rfl, rfl⟩ call).name

/-- All subscriptions under a name have been given the events `due`. -/
structure Follows (listener : Listener) (id : SubscriptionId) (filter : EventFilter)
    (registered : Bool) (due : List Event) : Prop where
  issued : id.number < listener.nextId
  present : ∃ subscription ∈ listener.subscriptions, subscription.id = id
  serves : ∀ subscription ∈ listener.subscriptions, subscription.id = id →
    subscription.Serves id filter registered due

theorem Follows.isRegistered (follows : listener.Follows id filter registered due) :
    listener.isRegistered id = registered := by
  obtain ⟨-, ⟨subscription, mem, name⟩, serves⟩ := follows
  cases registered with
  | true =>
    refine List.any_eq_true.2 ⟨subscription, mem, ?_⟩
    simp [name, (serves subscription mem name).registered]
  | false =>
    refine List.any_eq_false.2 fun other mem => ?_
    by_cases same : other.id = id
    · simp [(serves other mem same).registered]
    · simp [same]

theorem number_of_added {call : Call} {subscription : Subscription}
    (new : subscription ∈ listener.added call) : subscription.id.number = listener.nextId := by
  cases call with
  | subscribe filter handler =>
    rw [added, List.mem_singleton] at new
    rw [new]
  | _ => exact absurd new List.not_mem_nil

theorem Follows.call (follows : listener.Follows id filter registered due) (call : Call) :
    (listener.call call).Follows id filter (registered && !call.ends id)
      (due ++ dispatchedTo id filter listener call) := by
  have own := follows.isRegistered
  obtain ⟨issued, ⟨subscription, mem, name⟩, serves⟩ := follows
  refine ⟨?_, ?_, ?_⟩
  · rw [nextId_call]
    omega
  · rw [subscriptions_call]
    exact ⟨_, List.mem_append_left _ (List.mem_map_of_mem mem), (id_onSubscription _ _).trans name⟩
  · rw [subscriptions_call, dispatchedTo, own]
    intro later mem name
    obtain old | new := List.mem_append.1 mem
    · obtain ⟨earlier, known, rfl⟩ := List.mem_map.1 old
      exact serves_call (serves earlier known ((id_onSubscription _ _).symm.trans name)) call
    · -- A new subscription has a new number.
      have number := number_of_added new
      rw [name] at number
      omega

theorem Follows.after (follows : listener.Follows id filter registered due) (calls : List Call) :
    (listener.after calls).Follows id filter (registered && !calls.any (Call.ends id))
      (due ++ listener.along (dispatchedTo id filter) calls) := by
  induction calls generalizing listener registered due with
  | nil => simpa using follows
  | cons first rest ih =>
    have later := ih (follows.call first)
    rw [List.append_assoc, Bool.and_assoc, ← Bool.not_or] at later
    exact later

theorem Follows.subscription? (follows : listener.Follows id filter registered due) :
    ∃ subscription, listener.subscription? id = some subscription ∧
      subscription.Serves id filter registered due := by
  obtain ⟨-, ⟨subscription, mem, name⟩, serves⟩ := follows
  have found : (listener.subscription? id).isSome :=
    List.find?_isSome.2 ⟨subscription, mem, by simpa using name⟩
  obtain ⟨other, other_eq⟩ := Option.isSome_iff_exists.1 found
  have name := List.find?_some other_eq
  exact ⟨other, other_eq, serves other (List.mem_of_find?_eq_some other_eq) (by simpa using name)⟩

theorem subscription?_call {subscription : Subscription}
    (found : listener.subscription? id = some subscription) (call : Call) :
    (listener.call call).subscription? id =
      some (call.onSubscription (listener.dispatched call) subscription) := by
  have same_name :
      ((fun subscription : Subscription => decide (subscription.id = id)) ∘
        call.onSubscription (listener.dispatched call)) =
      fun subscription : Subscription => decide (subscription.id = id) :=
    funext fun subscription => by rw [Function.comp_apply, id_onSubscription]
  rw [subscription?] at found
  rw [subscription?, subscriptions_call, List.find?_append, List.find?_map, same_name, found,
    Option.map_some, Option.some_or]

theorem name_of_subscription? {subscription : Subscription}
    (found : listener.subscription? id = some subscription) : subscription.id = id := by
  rw [subscription?] at found
  simpa using List.find?_some found

theorem subscription?_after_work (count : Nat) {subscription : Subscription}
    (found : listener.subscription? id = some subscription) :
    ∃ later, (listener.after (List.replicate count (.work id))).subscription? id = some later ∧
      later.queue = subscription.queue.drop count ∧ later.stream = subscription.stream := by
  induction count generalizing listener subscription with
  | zero => exact ⟨subscription, found, rfl, rfl⟩
  | succ count ih =>
    have worked : (listener.call (.work id)).subscription? id = some subscription.work := by
      rw [subscription?_call found, Call.onSubscription, if_pos (name_of_subscription? found)]
    obtain ⟨later, later_eq, queue, stream⟩ := ih worked
    refine ⟨later, later_eq, ?_, stream.trans (Subscription.Serves.work ⟨rfl, rfl, rfl, rfl⟩).stream⟩
    rw [queue, Subscription.queue_work, List.drop_tail]

theorem Follows.handledBy_after_work (follows : listener.Follows id filter registered due) :
    (listener.after (List.replicate due.length (.work id))).handledBy id = some due := by
  obtain ⟨subscription, found, serves⟩ := follows.subscription?
  obtain ⟨later, later_eq, queue, stream⟩ := subscription?_after_work due.length found
  have short : subscription.queue.length ≤ due.length := by
    simp [← serves.stream, Subscription.stream]
  have empty : later.queue = [] := queue.trans (List.drop_of_length_le short)
  rw [serves.stream, Subscription.stream, empty, List.append_nil] at stream
  rw [handledBy, later_eq, Option.map_some, stream]

theorem Follows.handledBy_stop (follows : listener.Follows id filter true due) :
    (listener.call .stop).handledBy id = some due := by
  obtain ⟨subscription, found, serves⟩ := follows.subscription?
  rw [handledBy, subscription?_call found, Option.map_some, Call.onSubscription,
    if_pos serves.registered, Subscription.drain_eq]
  exact congrArg some serves.stream

/-- Who is registered, and the number that the next subscription gets. -/
structure Roster where
  next : Nat
  entries : List (SubscriptionId × EventFilter)

def Roster.call (roster : Roster) : Call → Roster
  | .subscribe filter _ => ⟨roster.next + 1, roster.entries ++ [(⟨roster.next⟩, filter)]⟩
  | .unsubscribe id => { roster with entries := roster.entries.filter fun entry => entry.1 ≠ id }
  | .stop => { roster with entries := [] }
  | .ingest _ _ _ | .work _ => roster

def Roster.ids (roster : Roster) : List SubscriptionId :=
  roster.entries.map Prod.fst

def rosterAfter (calls : List Call) : Roster :=
  calls.foldl Roster.call ⟨1, []⟩

def roster (listener : Listener) : Roster :=
  ⟨listener.nextId, listener.subscriptions.filterMap Subscription.enrolled?⟩

theorem enrolled?_onSubscription (call : Call) (subscription : Subscription) :
    (call.onSubscription (listener.dispatched call) subscription).enrolled? =
      subscription.enrolled?.filter fun entry => !call.ends entry.1 := by
  have before : subscription.Serves subscription.id subscription.filter subscription.registered
      subscription.stream := ⟨rfl, rfl, rfl, rfl⟩
  rw [(serves_call before call).enrolled?, before.enrolled?]
  cases subscription.registered with
  | false => rfl
  | true => cases ended : call.ends subscription.id <;> simp [Option.filter, ended]

theorem roster_call (listener : Listener) (call : Call) :
    (listener.call call).roster = listener.roster.call call := by
  have next : (listener.call call).roster.next = listener.nextId + (listener.added call).length :=
    nextId_call listener call
  have entries :
      (listener.call call).roster.entries =
        (listener.roster.entries.filter fun entry => !call.ends entry.1) ++
          (listener.added call).filterMap Subscription.enrolled? := by
    change (listener.call call).subscriptions.filterMap Subscription.enrolled? =
      (listener.subscriptions.filterMap Subscription.enrolled?).filter _ ++ _
    rw [subscriptions_call, List.filterMap_append, List.filterMap_map, List.filter_filterMap]
    congr 2
    funext subscription
    exact enrolled?_onSubscription call subscription
  generalize (listener.call call).roster = later at next entries ⊢
  obtain ⟨number, entries⟩ := later
  subst next entries
  cases call with
  | subscribe filter handler => simp [Roster.call, Call.ends, added, Subscription.enrolled?, roster]
  | unsubscribe id => simp [Roster.call, Call.ends, added, roster]
  | _ => simp [Roster.call, Call.ends, added, roster]

theorem roster_after (listener : Listener) (calls : List Call) :
    (listener.after calls).roster = calls.foldl Roster.call listener.roster := by
  induction calls generalizing listener with
  | nil => rfl
  | cons first rest ih => rw [after_cons, ih, roster_call, List.foldl_cons]

theorem isRegistered_iff (listener : Listener) (id : SubscriptionId) :
    listener.isRegistered id = true ↔ id ∈ listener.roster.ids := by
  rw [isRegistered, List.any_eq_true, Roster.ids, roster, List.map_filterMap, List.mem_filterMap]
  refine exists_congr fun subscription => and_congr_right fun _ => ?_
  rw [Subscription.enrolled?]
  cases subscription.registered <;> simp

theorem countP_wants (listener : Listener) (type : EventType) :
    (listener.subscriptions.countP fun subscription => subscription.wants type) =
      listener.roster.entries.countP fun entry => entry.2.matches type := by
  rw [roster, List.countP_filterMap]
  refine List.countP_congr fun subscription _ => ?_
  rw [Subscription.wants, Subscription.enrolled?]
  cases subscription.registered <;> simp

def Numbered (listener : Listener) : Prop :=
  ∀ subscription ∈ listener.subscriptions, subscription.id.number < listener.nextId

theorem Numbered.call (numbered : listener.Numbered) (call : Call) :
    (listener.call call).Numbered := by
  intro subscription mem
  rw [subscriptions_call] at mem
  rw [nextId_call]
  obtain old | new := List.mem_append.1 mem
  · obtain ⟨earlier, known, rfl⟩ := List.mem_map.1 old
    rw [id_onSubscription]
    exact Nat.lt_add_right _ (numbered earlier known)
  · rw [number_of_added new]
    exact Nat.lt_add_of_pos_right (List.length_pos_of_mem new)

theorem Numbered.after (numbered : listener.Numbered) (calls : List Call) :
    (listener.after calls).Numbered := by
  induction calls generalizing listener with
  | nil => exact numbered
  | cons first rest ih => exact ih (numbered.call first)

theorem numbered_ofConfig (config : ListenerConfig) : (ofConfig config).Numbered :=
  fun _ mem => absurd mem List.not_mem_nil

theorem Numbered.follows_subscribe (numbered : listener.Numbered) (filter : EventFilter)
    (handler : Event → Handling) :
    (listener.subscribe filter handler).2.Follows (listener.subscribe filter handler).1 filter true
      [] := by
  refine ⟨Nat.lt_succ_self _, ⟨_, List.mem_append_right _ (List.mem_singleton.2 rfl), rfl⟩, ?_⟩
  intro subscription mem name
  obtain old | new := List.mem_append.1 mem
  · have number := numbered subscription old
    rw [name] at number
    exact absurd number (Nat.lt_irrefl _)
  · obtain rfl := List.mem_singleton.1 new
    exact ⟨rfl, rfl, rfl, rfl⟩

theorem number_of_issued {call : Call} (new : id ∈ listener.issued call) :
    id.number = listener.nextId ∧ (listener.call call).nextId = listener.nextId + 1 := by
  cases call with
  | subscribe filter handler =>
    obtain rfl := List.mem_singleton.1 new
    exact ⟨rfl, rfl⟩
  | _ => exact absurd new List.not_mem_nil

theorem le_number_of_issued {calls : List Call} (new : id ∈ listener.along issued calls) :
    listener.nextId ≤ id.number := by
  induction calls generalizing listener with
  | nil => exact absurd new List.not_mem_nil
  | cons first rest ih =>
    rw [along_cons] at new
    obtain now | later := List.mem_append.1 new
    · exact Nat.le_of_eq (number_of_issued now).1.symm
    · have bound := ih later
      rw [nextId_call] at bound
      omega

theorem nodup_issued (listener : Listener) (calls : List Call) :
    (listener.along issued calls).Nodup := by
  induction calls generalizing listener with
  | nil => exact List.nodup_nil
  | cons first rest ih =>
    rw [along_cons]
    refine List.nodup_append.2 ⟨?_, ih _, ?_⟩
    · cases first with
      | subscribe filter handler => exact List.nodup_cons.2 ⟨List.not_mem_nil, List.nodup_nil⟩
      | _ => exact List.nodup_nil
    · intro early now late later same
      obtain ⟨number, next⟩ := number_of_issued now
      have bound := le_number_of_issued later
      rw [← same] at bound
      omega

/-! ## Delivery -/

theorem decoded?_of_dispatched {now : Moment} {datagram : Bytes} {source : Endpoint} {count : Nat}
    (answer : (listener.ingest now datagram source).1 = .dispatched count) :
    ∃ event, decoded? datagram source = some event ∧
      count = listener.roster.entries.countP fun entry => entry.2.matches event.type := by
  cases listener.ingestion now datagram source with
  | noEvent _ other => simp [answer] at other
  | repeated _ _ _ other | unreadable _ _ _ _ other => simp [answer] at other
  | dispatched _ _ _ event decoded counted =>
    refine ⟨event, decoded, ?_⟩
    rw [answer] at counted
    rw [Ingest.dispatched.inj counted, countP_wants]

/-- A handler is called, in order, on the events that are dispatched while its subscription is
registered and that its filter lets through: what it was not yet called on is queued, and when the
worker gets to it, or the listener stops, it is called on the rest.  Subscriptions come and go as the
roster says, and an event counts those of the roster that want it. -/
theorem delivery (config : ListenerConfig) :
    (∀ before filter handler calls,
      let subscribed := ((ofConfig config).after before).subscribe filter handler
      let id := subscribed.1
      let listener := subscribed.2.after calls
      let due := subscribed.2.along (dispatchedTo id filter) calls
      listener.isRegistered id = !calls.any (Call.ends id) ∧
      (∃ subscription, listener.subscription? id = some subscription ∧
        subscription.handled ++ subscription.queue = due) ∧
      (listener.after (List.replicate due.length (.work id))).handledBy id = some due ∧
      (listener.isRegistered id = true → (listener.call .stop).handledBy id = some due)) ∧
    ∀ calls,
      let listener := (ofConfig config).after calls
      ((ofConfig config).along issued calls).Nodup ∧
      listener.roster = rosterAfter calls ∧
      (∀ id, (listener.unsubscribe id).1 = true ↔ id ∈ (rosterAfter calls).ids) ∧
      ∀ now datagram source count,
        (listener.ingest now datagram source).1 = .dispatched count →
        ∃ event, decoded? datagram source = some event ∧
          count = (rosterAfter calls).entries.countP fun entry => entry.2.matches event.type := by
  refine ⟨?_, ?_⟩
  · intro before filter handler calls subscribed id listener due
    have numbered := (numbered_ofConfig config).after before
    have follows : listener.Follows id filter (!calls.any (Call.ends id)) due :=
      (numbered.follows_subscribe filter handler).after calls
    obtain ⟨subscription, found, serves⟩ := follows.subscription?
    refine ⟨follows.isRegistered, ⟨subscription, found, serves.stream⟩, follows.handledBy_after_work,
      fun registered => ?_⟩
    rw [follows.isRegistered] at registered
    rw [registered] at follows
    exact follows.handledBy_stop
  · intro calls listener
    have roster : listener.roster = rosterAfter calls := roster_after _ _
    refine ⟨nodup_issued _ _, roster, fun id => ?_, fun now datagram source count answer => ?_⟩
    · rw [← roster]
      exact isRegistered_iff listener id
    · rw [← roster]
      exact decoded?_of_dispatched answer

/-- Both handlers fail at every event; the first subscription takes all events and is ended, the second
takes scene changes. -/
theorem delivery_failing_handlers :
    let source : Endpoint := .v4 ⟨10, 0, 0, 5⟩ 6969
    let mac : MacAddress := ⟨0x00, 0x1A, 0x2B, 0x3C, 0x4D, 0x5E⟩
    let scene (number : UInt8) := withChecksum (Notification.content ⟨mac, 68, 0x05, [number]⟩)
    let sceneEvent (number : UInt8) : Event :=
      ⟨⟨source, some mac⟩, 68, .sceneChange (.group 4) number⟩
    let level := withChecksum (Notification.content ⟨mac, 3, 0x0B, [0, 128]⟩)
    let failing : Event → Handling := fun _ => .failed
    let calls : List Call :=
      [.ingest 0 (scene 4) source, .ingest 5 (scene 4) source, .ingest 6 level source,
        .work ⟨2⟩, .unsubscribe ⟨1⟩, .ingest 8 (scene 5) source]
    let subscribed :=
      ((ofConfig .default).after [.subscribe .all failing]).subscribe (.only .sceneChange) failing
    let all := .subscribe .all failing :: .subscribe (.only .sceneChange) failing :: calls
    ((subscribed.2.after calls).call .stop).handledBy subscribed.1 =
        some [sceneEvent 4, sceneEvent 5] ∧
      ∃ event, decoded? (scene 6) source = some event ∧
        1 = (rosterAfter all).entries.countP fun entry => entry.2.matches event.type := by
  intro source mac scene sceneEvent level failing calls subscribed all
  obtain ⟨streams, totals⟩ := delivery .default
  obtain ⟨-, -, -, stopped⟩ := streams [.subscribe .all failing] (.only .sceneChange) failing calls
  obtain ⟨-, -, -, counted⟩ := totals all
  have due : subscribed.2.along (dispatchedTo subscribed.1 (.only .sceneChange)) calls =
      [sceneEvent 4, sceneEvent 5] := by
    decide +kernel
  have registered : (subscribed.2.after calls).isRegistered subscribed.1 = true := by
    decide +kernel
  have answer : (((ofConfig .default).after all).ingest 9 (scene 6) source).1 = .dispatched 1 := by
    decide +kernel
  rw [← due]
  exact ⟨stopped registered, counted 9 (scene 6) source 1 answer⟩

end Listener

end LightingControl
