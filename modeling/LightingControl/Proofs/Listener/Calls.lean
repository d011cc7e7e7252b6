import LightingControl.Listener.Basic
import LightingControl.Proofs.Runs
/-!
# Sequences of calls to a listener

A call is an operation of the listener, or the worker of a subscription handles its next event.
`ingestion` says what can become of a datagram, and `subscriptions_call` what a call does to each
subscription.
-/

set_option autoImplicit false

namespace LightingControl.Listener

inductive Call where
  | subscribe (filter : EventFilter) (handler : Event → Handling)
  | unsubscribe (id : SubscriptionId)
  | ingest (now : Moment) (datagram : Bytes) (source : Endpoint)
  | stop
  | work (id : SubscriptionId)

def call (listener : Listener) : Call → Listener
  | .subscribe filter handler => (listener.subscribe filter handler).2
  | .unsubscribe id => (listener.unsubscribe id).2
  | .ingest now datagram source => (listener.ingest now datagram source).2
  | .stop => listener.stop
  | .work id => listener.work id

def after (listener : Listener) (calls : List Call) : Listener :=
  calls.foldl call listener

@[simp] theorem after_nil (listener : Listener) : listener.after [] = listener := rfl

@[simp] theorem after_cons (listener : Listener) (first : Call) (rest : List Call) :
    listener.after (first :: rest) = (listener.call first).after rest := rfl

theorem after_append (listener : Listener) (early late : List Call) :
    listener.after (early ++ late) = (listener.after early).after late :=
  List.foldl_append

def along {α : Type} (listener : Listener) (observe : Listener → Call → List α)
    (calls : List Call) : List α :=
  observations call observe listener calls

@[simp] theorem along_nil {α : Type} (listener : Listener) (observe : Listener → Call → List α) :
    listener.along observe [] = [] := rfl

theorem along_cons {α : Type} (listener : Listener) (observe : Listener → Call → List α)
    (first : Call) (rest : List Call) :
    listener.along observe (first :: rest) =
      observe listener first ++ (listener.call first).along observe rest := rfl

theorem along_append {α : Type} (listener : Listener) (observe : Listener → Call → List α)
    (early late : List Call) :
    listener.along observe (early ++ late) =
      listener.along observe early ++ (listener.after early).along observe late :=
  observations_append call observe listener early late

def decoded? (datagram : Bytes) (source : Endpoint) : Option Event :=
  match Frame.parse datagram with
  | .ok (.notification notification) => (Event.decode notification source).toOption
  | _ => none

theorem decoded?_of_parse {datagram : Bytes} {notification : Notification}
    (parsed : Frame.parse datagram = .ok (.notification notification)) (source : Endpoint) :
    decoded? datagram source = (Event.decode notification source).toOption := by
  rw [decoded?, parsed]

variable (listener : Listener) (now : Moment) (mac : MacAddress) (datagram : Bytes)
  (source : Endpoint)

theorem recognise_eq :
    (listener.recognise now mac datagram).2 =
      { listener with seen := (listener.recognise now mac datagram).2.seen } := by
  unfold recognise
  split
  · rfl
  · dsimp only
    split <;> rfl

theorem subscriptions_recognise :
    (listener.recognise now mac datagram).2.subscriptions = listener.subscriptions := by
  rw [recognise_eq]

/-- The outcome of a datagram, what repeats are recognised by after it, and the subscriptions. -/
inductive Ingestion : Prop where
  | noEvent
      (other : ∀ notification, Frame.parse datagram ≠ .ok (.notification notification))
      (answer : (listener.ingest now datagram source).1 = .dropped ∨
        (listener.ingest now datagram source).1 = .ignored)
      (seen : (listener.ingest now datagram source).2.seen = listener.seen)
      (subscriptions : (listener.ingest now datagram source).2.subscriptions =
        listener.subscriptions)
  | repeated (notification : Notification)
      (parsed : Frame.parse datagram = .ok (.notification notification))
      (known : (listener.recognise now notification.mac datagram).1 = true)
      (answer : (listener.ingest now datagram source).1 = .duplicate)
      (seen : (listener.ingest now datagram source).2.seen =
        (listener.recognise now notification.mac datagram).2.seen)
      (subscriptions : (listener.ingest now datagram source).2.subscriptions =
        listener.subscriptions)
  | unreadable (notification : Notification)
      (parsed : Frame.parse datagram = .ok (.notification notification))
      (new : (listener.recognise now notification.mac datagram).1 = false)
      (refused : decoded? datagram source = none)
      (answer : (listener.ingest now datagram source).1 = .dropped)
      (seen : (listener.ingest now datagram source).2.seen =
        (listener.recognise now notification.mac datagram).2.seen)
      (subscriptions : (listener.ingest now datagram source).2.subscriptions =
        listener.subscriptions)
  | dispatched (notification : Notification)
      (parsed : Frame.parse datagram = .ok (.notification notification))
      (new : (listener.recognise now notification.mac datagram).1 = false)
      (event : Event) (decoded : decoded? datagram source = some event)
      (answer : (listener.ingest now datagram source).1 =
        .dispatched (listener.subscriptions.countP fun subscription =>
          subscription.wants event.type))
      (seen : (listener.ingest now datagram source).2.seen =
        (listener.recognise now notification.mac datagram).2.seen)
      (subscriptions : (listener.ingest now datagram source).2.subscriptions =
        listener.subscriptions.map (Subscription.offer event))

theorem ingestion : listener.Ingestion now datagram source := by
  cases parsed : Frame.parse datagram with
  | error error =>
    refine .noEvent (by simp [parsed]) (.inl ?_) ?_ ?_ <;> simp [ingest, consider, parsed]
  | ok frame =>
    cases frame with
    | request request | response response =>
      refine .noEvent (by simp [parsed]) (.inr ?_) ?_ ?_ <;> simp [ingest, consider, parsed]
    | notification notification =>
      have subscriptions := listener.subscriptions_recognise now notification.mac datagram
      have decoded := decoded?_of_parse parsed source
      cases recognised : listener.recognise now notification.mac datagram with
      | mk known remembered =>
        rw [recognised] at subscriptions
        dsimp only at subscriptions
        cases known with
        | true =>
          refine .repeated notification parsed ?_ ?_ ?_ ?_ <;>
            simp [ingest, consider, parsed, recognised, subscriptions]
        | false =>
          cases read : Event.decode notification source with
          | error error =>
            rw [read] at decoded
            refine .unreadable notification parsed ?_ decoded ?_ ?_ ?_ <;>
              simp [ingest, consider, parsed, recognised, read, subscriptions]
          | ok event =>
            rw [read] at decoded
            refine .dispatched notification parsed ?_ event decoded ?_ ?_ ?_ <;>
              simp [ingest, consider, parsed, recognised, read, subscriptions, dispatch]

theorem ingest_eq :
    (listener.ingest now datagram source).2.config = listener.config ∧
      (listener.ingest now datagram source).2.nextId = listener.nextId := by
  change (listener.consider now datagram source).2.config = listener.config ∧
      (listener.consider now datagram source).2.nextId = listener.nextId
  unfold consider
  split
  · exact ⟨rfl, rfl⟩
  · exact ⟨rfl, rfl⟩
  · exact ⟨rfl, rfl⟩
  · rename_i notification _
    have kept := recognise_eq listener now notification.mac datagram
    have config := congrArg Listener.config kept
    have nextId := congrArg Listener.nextId kept
    generalize listener.recognise now notification.mac datagram = recognised at config nextId
    obtain ⟨known, remembered⟩ := recognised
    cases known with
    | true => exact ⟨config, nextId⟩
    | false =>
      dsimp only
      split <;> exact ⟨config, nextId⟩

theorem config_call (listener : Listener) (call : Call) :
    (listener.call call).config = listener.config := by
  cases call with
  | ingest now datagram source => exact (ingest_eq listener now datagram source).1
  | _ => rfl

theorem config_after (listener : Listener) (calls : List Call) :
    (listener.after calls).config = listener.config := by
  induction calls generalizing listener with
  | nil => rfl
  | cons first rest ih => exact (ih _).trans (config_call listener first)

/-- The events that the listener answers to have dispatched. -/
def dispatched (listener : Listener) : Call → List Event
  | .ingest now datagram source =>
    match (listener.ingest now datagram source).1 with
    | .dispatched _ => (decoded? datagram source).toList
    | .duplicate | .dropped | .ignored => []
  | _ => []

def issued (listener : Listener) : Call → List SubscriptionId
  | .subscribe filter handler => [(listener.subscribe filter handler).1]
  | _ => []

/-- A subscription after a call with which the listener dispatched some events. -/
def Call.onSubscription (events : List Event) (call : Call) (subscription : Subscription) :
    Subscription :=
  match call with
  | .subscribe _ _ => subscription
  | .unsubscribe id =>
    if subscription.id = id then { subscription with registered := false } else subscription
  | .ingest _ _ _ => events.foldl (fun subscription event => subscription.offer event) subscription
  | .stop =>
    if subscription.registered then { subscription.drain with registered := false }
    else subscription
  | .work id => if subscription.id = id then subscription.work else subscription

def added (listener : Listener) : Call → List Subscription
  | .subscribe filter handler => [⟨⟨listener.nextId⟩, filter, handler, true, [], [], 0⟩]
  | _ => []

theorem dispatched_ingest {event : Event} {count : Nat}
    (answer : (listener.ingest now datagram source).1 = .dispatched count)
    (decoded : decoded? datagram source = some event) :
    listener.dispatched (.ingest now datagram source) = [event] := by
  simp only [dispatched, answer, decoded, Option.toList_some]

theorem dispatched_ingest_of_ne
    (answer : ∀ count, (listener.ingest now datagram source).1 ≠ .dispatched count) :
    listener.dispatched (.ingest now datagram source) = [] := by
  simp only [dispatched]
  split
  · rename_i count same
    exact absurd same (answer count)
  · rfl
  · rfl
  · rfl

theorem subscriptions_ingest :
    (listener.ingest now datagram source).2.subscriptions =
      listener.subscriptions.map
        ((Call.ingest now datagram source).onSubscription
          (listener.dispatched (.ingest now datagram source))) := by
  have keeps (nothing : listener.dispatched (.ingest now datagram source) = []) :
      listener.subscriptions = listener.subscriptions.map
        ((Call.ingest now datagram source).onSubscription
          (listener.dispatched (.ingest now datagram source))) := by
    rw [nothing]
    exact (List.map_id _).symm
  cases listener.ingestion now datagram source with
  | noEvent _ answer _ same =>
    refine same.trans (keeps (dispatched_ingest_of_ne _ _ _ _ fun count other => ?_))
    obtain dropped | ignored := answer
    · simp [dropped] at other
    · simp [ignored] at other
  | repeated _ _ _ answer _ same | unreadable _ _ _ _ answer _ same =>
    exact same.trans (keeps (dispatched_ingest_of_ne _ _ _ _ (by simp [answer])))
  | dispatched _ _ _ event decoded answer _ offered =>
    rw [offered, dispatched_ingest _ _ _ _ answer decoded]
    rfl

theorem subscriptions_call (call : Call) :
    (listener.call call).subscriptions =
      listener.subscriptions.map (call.onSubscription (listener.dispatched call)) ++
        listener.added call := by
  cases call with
  | subscribe filter handler =>
    change listener.subscriptions ++ _ = listener.subscriptions.map id ++ _
    rw [List.map_id]
    rfl
  | ingest now datagram source =>
    exact (subscriptions_ingest listener now datagram source).trans (List.append_nil _).symm
  | unsubscribe id => exact (List.append_nil _).symm
  | stop => exact (List.append_nil _).symm
  | work id => exact (List.append_nil _).symm

theorem nextId_call (call : Call) :
    (listener.call call).nextId = listener.nextId + (listener.added call).length := by
  cases call with
  | ingest now datagram source => exact (ingest_eq listener now datagram source).2
  | _ => rfl

end LightingControl.Listener
