import Mathlib.Algebra.Group.Nat.Defs
import Mathlib.Logic.Function.Basic
import LightingControl.Proofs.Listener.Events
/-!
# The counts of a listener

Every exit of `ingest` moves counters of its own.  `Metered.ingest` has each movement where it
happens, on counters of 64 bits; `ingest_meter` says that this comes to counting the outcome at the
end.  What the counters show after a run is therefore how often each outcome occurred in it.  The number
of the next subscription is kept in 64 bits as well.
-/

set_option autoImplicit false

namespace LightingControl

inductive Counter where
  | received
  | dispatched
  | duplicates
  | dropped
  deriving DecidableEq, Repr

namespace ListenerStats

def read (stats : ListenerStats) : Counter → Nat
  | .received => stats.received
  | .dispatched => stats.dispatched
  | .duplicates => stats.duplicates
  | .dropped => stats.dropped

theorem eq_of_read {first second : ListenerStats}
    (same : ∀ counter, first.read counter = second.read counter) : first = second := by
  cases first
  cases second
  simp only [ListenerStats.mk.injEq]
  exact ⟨same .received, same .dispatched, same .duplicates, same .dropped⟩

end ListenerStats

namespace Ingest

def counter : Ingest → Option Counter
  | .dispatched _ => some .dispatched
  | .duplicate => some .duplicates
  | .dropped => some .dropped
  | .ignored => none

def moves (outcome : Ingest) : List Counter :=
  .received :: outcome.counter.toList

theorem count_moves (outcome : Ingest) (counter : Counter) :
    outcome.moves.count counter =
      if counter = .received ∨ outcome.counter = some counter then 1 else 0 := by
  cases outcome <;> cases counter <;> rfl

theorem read_count (stats : ListenerStats) (outcome : Ingest) (counter : Counter) :
    (stats.count outcome).read counter = stats.read counter + outcome.moves.count counter := by
  cases outcome <;> cases counter <;> rfl

theorem count_received (outcomes : List Ingest) :
    (outcomes.flatMap moves).count .received = outcomes.length := by
  induction outcomes with
  | nil => rfl
  | cons first rest ih =>
    rw [List.flatMap_cons, List.count_append, ih, count_moves, if_pos (.inl rfl),
      List.length_cons, Nat.add_comm]

theorem count_moves_le (outcomes : List Ingest) (counter : Counter) :
    (outcomes.flatMap moves).count counter ≤ outcomes.length := by
  induction outcomes with
  | nil => exact Nat.le_refl 0
  | cons first rest ih =>
    rw [List.flatMap_cons, List.count_append, count_moves, List.length_cons]
    split <;> omega

theorem count_outcomes (outcomes : List Ingest) :
    outcomes.length =
      (outcomes.flatMap moves).count .dispatched + (outcomes.flatMap moves).count .duplicates +
        (outcomes.flatMap moves).count .dropped + outcomes.count .ignored := by
  induction outcomes with
  | nil => rfl
  | cons first rest ih =>
    simp only [List.flatMap_cons, List.count_append, count_moves, List.length_cons,
      List.count_cons, ih]
    cases first <;> simp [counter] <;> omega

end Ingest

/-! ## Counters of 64 bits -/

/-- A listener that keeps its counts and the next number in words, which start over when they are full. -/
structure Metered where
  listener : Listener
  counters : Counter → UInt64
  next : UInt64

namespace Metered

def ofConfig (config : ListenerConfig) : Metered :=
  ⟨.ofConfig config, fun _ => 0, 1⟩

def stats (metered : Metered) : ListenerStats :=
  ⟨(metered.counters .received).toNat, (metered.counters .dispatched).toNat,
    (metered.counters .duplicates).toNat, (metered.counters .dropped).toNat⟩

def bump (metered : Metered) (counter : Counter) : Metered :=
  { metered with
    counters := Function.update metered.counters counter (metered.counters counter + 1) }

/-- Queues an event for one subscription after the other and counts those that it is queued for. -/
def queueEach (event : Event) : List Subscription → Nat → Nat × List Subscription
  | [], queued => (queued, [])
  | subscription :: rest, queued =>
    if subscription.wants event.type then
      let (total, later) := queueEach event rest (queued + 1)
      (total, { subscription with queue := subscription.queue ++ [event] } :: later)
    else
      let (total, later) := queueEach event rest queued
      (total, subscription :: later)

def ingest (metered : Metered) (now : Moment) (datagram : Bytes) (source : Endpoint) :
    Ingest × Metered :=
  let metered := metered.bump .received
  match Frame.parse datagram with
  | .ok (.notification notification) =>
    match metered.listener.recognise now notification.mac datagram with
    | (true, listener) => (.duplicate, { metered with listener }.bump .duplicates)
    | (false, listener) =>
      match Event.decode notification source with
      | .error _ => (.dropped, { metered with listener }.bump .dropped)
      | .ok event =>
        let (queued, subscriptions) := queueEach event listener.subscriptions 0
        let metered := { metered with listener := { listener with subscriptions } }
        (.dispatched queued, metered.bump .dispatched)
  | .ok _ => (.ignored, metered)
  | .error _ => (.dropped, metered.bump .dropped)

theorem queueEach_eq (event : Event) (subscriptions : List Subscription) (queued : Nat) :
    queueEach event subscriptions queued =
      (queued + subscriptions.countP (·.wants event.type),
        subscriptions.map (Subscription.offer event)) := by
  induction subscriptions generalizing queued with
  | nil => rfl
  | cons first rest ih =>
    rw [queueEach, List.countP_cons, List.map_cons, Subscription.offer]
    by_cases wanted : first.wants event.type = true
    · rw [if_pos wanted, if_pos wanted, if_pos wanted, ih, Nat.add_assoc, Nat.add_comm 1]
    · rw [if_neg wanted, if_neg wanted, if_neg wanted, ih, Nat.add_zero]

theorem ingest_eq (metered : Metered) (now : Moment) (datagram : Bytes) (source : Endpoint) :
    metered.ingest now datagram source =
      ((metered.listener.consider now datagram source).1,
        (metered.listener.consider now datagram source).1.moves.foldl bump
          { metered with listener := (metered.listener.consider now datagram source).2 }) := by
  unfold ingest Listener.consider
  cases Frame.parse datagram with
  | error error => rfl
  | ok frame =>
    cases frame with
    | request request | response response => rfl
    | notification notification =>
      dsimp only [bump]
      cases metered.listener.recognise now notification.mac datagram with
      | mk known remembered =>
        cases known with
        | true => rfl
        | false =>
          cases Event.decode notification source with
          | error error => rfl
          | ok event =>
            dsimp only
            rw [queueEach_eq, Nat.zero_add]
            rfl

theorem foldl_bump (metered : Metered) (moves : List Counter) :
    moves.foldl bump metered =
      { metered with
        counters := fun counter => metered.counters counter + .ofNat (moves.count counter) } := by
  induction moves generalizing metered with
  | nil => simp
  | cons first rest ih =>
    rw [List.foldl_cons, ih, Metered.mk.injEq]
    refine ⟨rfl, funext fun counter => ?_, rfl⟩
    by_cases same : first = counter
    · subst same
      simp only [bump, Function.update_self, List.count_cons_self, UInt64.ofNat_add,
        UInt64.add_assoc]
      rw [UInt64.add_comm 1]
      rfl
    · simp only [bump, Function.update_of_ne (Ne.symm same), List.count_cons_of_ne same]

end Metered

namespace Listener

def meter (listener : Listener) : Metered :=
  ⟨listener.counting {}, fun counter => .ofNat (listener.stats.read counter),
    .ofNat listener.nextId⟩

theorem stats_consider (listener : Listener) (now : Moment) (datagram : Bytes)
    (source : Endpoint) : (listener.consider now datagram source).2.stats = listener.stats :=
  congrArg (·.2.stats) (listener.consider_counting listener.stats now datagram source)

/-- Moving the counters at each exit is to count the outcome at the end. -/
theorem ingest_meter (listener : Listener) (now : Moment) (datagram : Bytes) (source : Endpoint) :
    listener.meter.ingest now datagram source =
      ((listener.ingest now datagram source).1,
        (listener.ingest now datagram source).2.meter) := by
  have next : (listener.consider now datagram source).2.nextId = listener.nextId :=
    (ingest_eq listener now datagram source).2
  rw [Metered.ingest_eq, meter, consider_counting, Metered.foldl_bump, ← next]
  simp only [ingest, meter, stats_consider, Ingest.read_count, UInt64.ofNat_add]
  rfl

inductive Step where
  | start (host : Host)
  | call (call : Call)

def Step.isIngest : Step → Bool
  | .call (.ingest _ _ _) => true
  | .start _ | .call _ => false

def Step.isSubscribe : Step → Bool
  | .call (.subscribe _ _) => true
  | .start _ | .call _ => false

def step (listener : Listener) : Step → Listener
  | .start host => (listener.start host).2
  | .call call => listener.call call

def run (listener : Listener) (steps : List Step) : Listener :=
  steps.foldl step listener

def outcomes (listener : Listener) : Step → List Ingest
  | .call (.ingest now datagram source) => [(listener.ingest now datagram source).1]
  | .start _ | .call _ => []

theorem start_counting (listener : Listener) (stats : ListenerStats) (host : Host) :
    (listener.counting stats).start host =
      ((listener.start host).1, (listener.start host).2.counting stats) := by
  have sockets : (listener.counting stats).sockets = listener.sockets := rfl
  have config : (listener.counting stats).config = listener.config := rfl
  unfold start
  rw [sockets, config]
  by_cases closed : listener.sockets.isEmpty = true
  · rw [if_pos closed, if_pos closed]
    cases openSockets host listener.config <;> rfl
  · rw [if_neg closed, if_neg closed]

theorem stats_start (listener : Listener) (host : Host) :
    (listener.start host).2.stats = listener.stats :=
  congrArg (·.2.stats) (listener.start_counting listener.stats host)

theorem nextId_start (listener : Listener) (host : Host) :
    (listener.start host).2.nextId = listener.nextId := by
  unfold start
  split
  · split <;> rfl
  · rfl

theorem nextId_run (listener : Listener) (steps : List Step) :
    (listener.run steps).nextId = listener.nextId + steps.countP Step.isSubscribe := by
  induction steps generalizing listener with
  | nil => rfl
  | cons first rest ih =>
    have here : (listener.step first).nextId =
        listener.nextId + if first.isSubscribe then 1 else 0 := by
      cases first with
      | start host => exact nextId_start listener host
      | call call =>
        cases call with
        | ingest now datagram source => exact (ingest_eq listener now datagram source).2
        | _ => rfl
    rw [run, List.foldl_cons, ← run, ih, here, List.countP_cons]
    omega

theorem stats_step_of_not_ingest {step : Step} (other : step.isIngest = false)
    (listener : Listener) : (listener.step step).stats = listener.stats := by
  cases step with
  | start host => exact stats_start listener host
  | call call =>
    cases call with
    | ingest now datagram source => cases other
    | _ => rfl

theorem outcomes_of_not_ingest {step : Step} (other : step.isIngest = false)
    (listener : Listener) : listener.outcomes step = [] := by
  cases step with
  | start host => rfl
  | call call =>
    cases call with
    | ingest now datagram source => cases other
    | _ => rfl

theorem exists_of_isIngest {step : Step} (ingest : step.isIngest = true) :
    ∃ now datagram source, step = .call (.ingest now datagram source) := by
  cases step with
  | start host => cases ingest
  | call call =>
    cases call with
    | ingest now datagram source => exact ⟨now, datagram, source, rfl⟩
    | _ => cases ingest

theorem stats_ingest (listener : Listener) (now : Moment) (datagram : Bytes)
    (source : Endpoint) :
    (listener.ingest now datagram source).2.stats =
      listener.stats.count (listener.ingest now datagram source).1 := by
  rw [ingest, ← stats_consider listener now datagram source]

theorem read_step (listener : Listener) (step : Step) (counter : Counter) :
    (listener.step step).stats.read counter =
      listener.stats.read counter +
        ((listener.outcomes step).flatMap Ingest.moves).count counter := by
  cases kind : step.isIngest with
  | false =>
    rw [stats_step_of_not_ingest kind, outcomes_of_not_ingest kind]
    rfl
  | true =>
    obtain ⟨now, datagram, source, rfl⟩ := exists_of_isIngest kind
    change (listener.ingest now datagram source).2.stats.read counter = _
    rw [stats_ingest, Ingest.read_count, outcomes, List.flatMap_singleton]

theorem read_run (listener : Listener) (steps : List Step) (counter : Counter) :
    (listener.run steps).stats.read counter =
      listener.stats.read counter +
        ((observations step outcomes listener steps).flatMap Ingest.moves).count counter := by
  induction steps generalizing listener with
  | nil => rfl
  | cons first rest ih =>
    rw [observations, List.flatMap_append, List.count_append, ← Nat.add_assoc, ← read_step]
    exact ih (listener.step first)

theorem length_outcomes (listener : Listener) (steps : List Step) :
    (observations step outcomes listener steps).length = steps.countP Step.isIngest := by
  induction steps generalizing listener with
  | nil => rfl
  | cons first rest ih =>
    rw [observations, List.length_append, ih, List.countP_cons, Nat.add_comm]
    cases kind : first.isIngest with
    | false =>
      rw [outcomes_of_not_ingest kind]
      rfl
    | true =>
      obtain ⟨now, datagram, source, rfl⟩ := exists_of_isIngest kind
      rfl

end Listener

namespace Metered

open Listener (Step)

def step (metered : Metered) : Step → Metered
  | .call (.ingest now datagram source) => (metered.ingest now datagram source).2
  | .call (.subscribe filter handler) =>
    { metered with
      listener := metered.listener.call (.subscribe filter handler)
      next := metered.next + 1 }
  | other => { metered with listener := metered.listener.step other }

def run (metered : Metered) (steps : List Step) : Metered :=
  steps.foldl step metered

theorem step_meter (listener : Listener) (step : Step) :
    listener.meter.step step = (listener.step step).meter := by
  cases step with
  | start host =>
    change Metered.mk ((listener.counting {}).start host).2 _ _ = Metered.mk _ _ _
    rw [Listener.start_counting]
    change Metered.mk _ _ _ =
      Metered.mk _ (fun counter => .ofNat ((listener.start host).2.stats.read counter))
        (.ofNat (listener.start host).2.nextId)
    rw [Listener.stats_start, Listener.nextId_start]
    rfl
  | call call =>
    cases call with
    | ingest now datagram source =>
      exact congrArg Prod.snd (listener.ingest_meter now datagram source)
    | subscribe filter handler =>
      change Metered.mk _ _ (.ofNat listener.nextId + 1) =
        Metered.mk _ _ (.ofNat (listener.nextId + 1))
      rw [UInt64.ofNat_add]
      rfl
    | _ => rfl

theorem run_meter (listener : Listener) (steps : List Step) :
    listener.meter.run steps = (listener.run steps).meter := by
  induction steps generalizing listener with
  | nil => rfl
  | cons first rest ih => exact (congrArg (run · rest) (step_meter listener first)).trans (ih _)

theorem stats_meter {listener : Listener}
    (fits : ∀ counter, listener.stats.read counter < 2 ^ 64) :
    listener.meter.stats = listener.stats := by
  refine ListenerStats.eq_of_read fun counter => ?_
  have same : listener.meter.stats.read counter = (listener.meter.counters counter).toNat := by
    cases counter <;> rfl
  exact same.trans (UInt64.toNat_ofNat_of_lt' (fits counter))

theorem ofConfig_eq (config : ListenerConfig) :
    ofConfig config = (Listener.ofConfig config).meter := by
  rw [ofConfig, Listener.meter, Metered.mk.injEq]
  refine ⟨rfl, funext fun counter => ?_, rfl⟩
  cases counter <;> rfl

/-- As long as no word is full, the counters show how often each outcome occurred. -/
theorem stats_run (config : ListenerConfig) {steps : List Step}
    (few : steps.countP Step.isIngest < 2 ^ 64) :
    ((ofConfig config).run steps).stats = ((Listener.ofConfig config).run steps).stats := by
  rw [ofConfig_eq, run_meter]
  refine stats_meter fun counter => ?_
  have start : (Listener.ofConfig config).stats.read counter = 0 := by cases counter <;> rfl
  rw [Listener.read_run, start, Nat.zero_add]
  refine Nat.lt_of_le_of_lt (Ingest.count_moves_le _ counter) ?_
  rw [Listener.length_outcomes]
  exact few

/-- As long as that word is not full, it shows the number of the next subscription. -/
theorem next_run (config : ListenerConfig) {steps : List Step}
    (few : steps.countP Step.isSubscribe + 1 < 2 ^ 64) :
    ((ofConfig config).run steps).next.toNat = ((Listener.ofConfig config).run steps).nextId := by
  have next := Listener.nextId_run (.ofConfig config) steps
  rw [ofConfig_eq, run_meter]
  refine UInt64.toNat_ofNat_of_lt' ?_
  rw [next, Nat.add_comm]
  exact few

theorem read_run_concat (config : ListenerConfig) {early : List Step} {last : Step}
    (few : (early ++ [last]).countP Step.isIngest < 2 ^ 64) (counter : Counter) :
    ((ofConfig config).run (early ++ [last])).stats.read counter =
      ((ofConfig config).run early).stats.read counter +
        ((((Listener.ofConfig config).run early).outcomes last).flatMap Ingest.moves).count
          counter := by
  have fewBefore : early.countP Step.isIngest < 2 ^ 64 := by
    rw [List.countP_append] at few
    omega
  rw [stats_run config few, stats_run config fewBefore, ← Listener.read_step, Listener.run,
    List.foldl_append]
  rfl

end Metered

namespace Listener

/-- The counters of a listener show the number of datagrams and how many of them were dispatched,
left out as repeats and dropped; the rest was ignored.  A datagram moves the counter of all and the
one of its outcome, and nothing else moves any. -/
theorem counts_balance (config : ListenerConfig) (steps : List Step)
    (few : steps.countP Step.isIngest < 2 ^ 64) :
    let shown (steps : List Step) := ((Metered.ofConfig config).run steps).stats
    let answered := observations step outcomes (ofConfig config) steps
    shown steps = ((ofConfig config).run steps).stats ∧
      (shown steps).received = steps.countP Step.isIngest ∧
      (shown steps).received = (shown steps).dispatched + (shown steps).duplicates +
        (shown steps).dropped + answered.count .ignored ∧
      (∀ early now datagram source late,
        steps = early ++ .call (.ingest now datagram source) :: late →
        let outcome := (((Metered.ofConfig config).run early).ingest now datagram source).1
        outcome = (((ofConfig config).run early).ingest now datagram source).1 ∧
          ∀ counter, (shown (early ++ [.call (.ingest now datagram source)])).read counter =
            (shown early).read counter +
              if counter = .received ∨ outcome.counter = some counter then 1 else 0) ∧
      ∀ early other late, steps = early ++ other :: late → other.isIngest = false →
        shown (early ++ [other]) = shown early := by
  intro shown answered
  have same : shown steps = ((ofConfig config).run steps).stats := Metered.stats_run config few
  have counted (counter : Counter) :
      (shown steps).read counter = (answered.flatMap Ingest.moves).count counter := by
    rw [same, read_run]
    cases counter <;> exact Nat.zero_add _
  have received : (shown steps).received = answered.length :=
    (counted .received).trans (Ingest.count_received answered)
  have fewUpTo {early late : List Step} {next : Step} (split : steps = early ++ next :: late) :
      (early ++ [next]).countP Step.isIngest < 2 ^ 64 := by
    rw [split, List.append_cons, List.countP_append] at few
    omega
  refine ⟨same, received.trans (length_outcomes _ steps), ?_, ?_, ?_⟩
  · rw [received, Ingest.count_outcomes, ← counted, ← counted, ← counted]
    rfl
  · intro early now datagram source late split outcome
    have answer : outcome = (((ofConfig config).run early).ingest now datagram source).1 := by
      change (((Metered.ofConfig config).run early).ingest now datagram source).1 = _
      rw [Metered.ofConfig_eq, Metered.run_meter, ingest_meter]
    refine ⟨answer, fun counter => ?_⟩
    rw [Metered.read_run_concat config (fewUpTo split), answer, ← Ingest.count_moves, outcomes,
      List.flatMap_singleton]
  · intro early other late split kind
    refine ListenerStats.eq_of_read fun counter => ?_
    rw [Metered.read_run_concat config (fewUpTo split), outcomes_of_not_ingest kind]
    rfl

/-- A listener is started, given a scene change twice, a corrupted copy of it and a request, loses
its only subscription, is given another scene change and stopped. -/
theorem counts_balance_mixed :
    let source : Endpoint := .v4 ⟨10, 0, 0, 5⟩ 6969
    let scene (number : UInt8) := withChecksum
      (Notification.content ⟨⟨0x00, 0x1A, 0x2B, 0x3C, 0x4D, 0x5E⟩, 68, 0x05, [number]⟩)
    let request := Request.encode ⟨9, 0xA0, [0, 0, 0, 0]⟩
    let steps : List Step :=
      [.start .networked, .call (.subscribe .all fun _ => .completed),
        .call (.ingest 0 (scene 4) source), .call (.ingest 5 (scene 4) source),
        .call (.ingest 6 (scene 4 ++ [0]) source), .call (.ingest 7 request source),
        .call (.unsubscribe ⟨1⟩), .call (.ingest 8 (scene 5) source), .call .stop]
    let shown (steps : List Step) := ((Metered.ofConfig .default).run steps).stats
    let answered := observations step outcomes (ofConfig .default) steps
    steps.countP Step.isIngest < 2 ^ 64 ∧
      answered = [.dispatched 1, .duplicate, .dropped, .ignored, .dispatched 0] ∧
      shown steps = ⟨5, 2, 1, 1⟩ ∧
      (shown steps).received = steps.countP Step.isIngest ∧
      (shown steps).received = (shown steps).dispatched + (shown steps).duplicates +
        (shown steps).dropped + answered.count .ignored ∧
      shown (steps.take 7) = shown (steps.take 6) := by
  intro source scene request steps shown answered
  have few : steps.countP Step.isIngest < 2 ^ 64 := by decide
  obtain ⟨-, received, balance, -, kept⟩ := counts_balance .default steps few
  exact ⟨few, by decide +kernel, by decide +kernel, received, balance,
    kept (steps.take 6) (.call (.unsubscribe ⟨1⟩)) (steps.drop 7) rfl rfl⟩

end Listener
end LightingControl
