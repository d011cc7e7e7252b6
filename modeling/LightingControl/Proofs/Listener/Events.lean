import LightingControl.Proofs.Listener.Duplicates
/-!
# Datagrams that are no events

A listener counts a datagram that is no event frame and does nothing else with it, and its counts
decide about nothing.  A run is therefore determined, but for the counts, by the event datagrams that
arrive in it.
-/

set_option autoImplicit false

namespace LightingControl

/-- The datagram is an event frame, whether or not the event in it can be read. -/
def isEvent (datagram : Bytes) : Bool :=
  match Frame.parse datagram with
  | .ok (.notification _) => true
  | .ok (.request _) | .ok (.response _) | .error _ => false

theorem isEvent_of_parse {datagram : Bytes} {notification : Notification}
    (parsed : Frame.parse datagram = .ok (.notification notification)) : isEvent datagram = true := by
  rw [isEvent, parsed]

theorem notification_of_isEvent {datagram : Bytes} (event : isEvent datagram = true) :
    ∃ notification, Frame.parse datagram = .ok (.notification notification) := by
  unfold isEvent at event
  split at event
  · rename_i notification parsed
    exact ⟨notification, parsed⟩
  all_goals cases event

namespace Listener

variable (listener : Listener) (stats : ListenerStats) (now : Moment) (datagram : Bytes)
  (source : Endpoint)

def counting : Listener :=
  { listener with stats }

theorem recognise_counting (mac : MacAddress) :
    (listener.counting stats).recognise now mac datagram =
      ((listener.recognise now mac datagram).1,
        (listener.recognise now mac datagram).2.counting stats) := by
  have recent : (listener.counting stats).recent now = listener.recent now := rfl
  have config : (listener.counting stats).config = listener.config := rfl
  unfold recognise
  rw [config, recent]
  by_cases zero : listener.config.dedupWindow = .zero
  · simp only [if_pos zero]
  · simp only [if_neg zero]
    by_cases known : (listener.recent now).any
        (fun sighting => sighting.mac == mac && sighting.datagram == datagram) = true
    · simp only [if_pos known]
      rfl
    · simp only [if_neg known]
      rfl

theorem consider_counting :
    (listener.counting stats).consider now datagram source =
      ((listener.consider now datagram source).1,
        (listener.consider now datagram source).2.counting stats) := by
  unfold consider
  split
  · rfl
  · rfl
  · rfl
  · rw [recognise_counting]
    cases listener.recognise now _ datagram with
    | mk known remembered =>
      cases known with
      | true => rfl
      | false =>
        dsimp only
        split <;> rfl

theorem ingest_counting :
    (listener.counting stats).ingest now datagram source =
      ((listener.ingest now datagram source).1,
        (listener.ingest now datagram source).2.counting
          (stats.count (listener.ingest now datagram source).1)) := by
  simp only [ingest, consider_counting]
  rfl

theorem ingest_of_not_event (other : isEvent datagram = false) :
    (listener.ingest now datagram source).2 =
      listener.counting (listener.stats.count (listener.ingest now datagram source).1) := by
  unfold isEvent at other
  unfold ingest consider
  split at other <;> simp_all [counting]

theorem dispatched_counting (call : Call) :
    (listener.counting stats).dispatched call = listener.dispatched call := by
  cases call with
  | ingest now datagram source => rw [dispatched, dispatched, ingest_counting]
  | _ => rfl

theorem call_counting (call : Call) :
    ∃ later, (listener.counting stats).call call = (listener.call call).counting later := by
  cases call with
  | ingest now datagram source =>
    rw [Listener.call, ingest_counting]
    exact ⟨_, rfl⟩
  | _ => exact ⟨stats, rfl⟩

theorem dispatched_of_not_event (other : isEvent datagram = false) :
    listener.dispatched (.ingest now datagram source) = [] := by
  cases listener.ingestion now datagram source with
  | noEvent _ answer =>
    refine dispatched_ingest_of_ne _ _ _ _ fun count same => ?_
    simp [same] at answer
  | repeated notification parsed | unreadable notification parsed | dispatched notification parsed =>
    rw [isEvent_of_parse parsed] at other
    cases other

theorem dispatched_of_event {datagram : Bytes} (event : isEvent datagram = true) :
    listener.dispatched (.ingest now datagram source) =
      if (listener.ingest now datagram source).1 = .duplicate then []
      else (decoded? datagram source).toList := by
  obtain ⟨notification, parsed⟩ := notification_of_isEvent event
  cases listener.ingestion now datagram source with
  | noEvent other => exact absurd parsed (other notification)
  | repeated _ _ _ answer => simp [dispatched, answer]
  | unreadable _ _ _ refused answer => simp [dispatched, answer, refused]
  | dispatched _ _ _ event decoded answer => simp [dispatched, answer]

def Call.isOfEvents : Call → Bool
  | .ingest _ datagram _ => isEvent datagram
  | .subscribe _ _ | .unsubscribe _ | .stop | .work _ => true

def ofEvents (calls : List Call) : List Call :=
  calls.filter Call.isOfEvents

theorem call_of_not_event {call : Call} (other : call.isOfEvents = false) :
    listener.dispatched call = [] ∧ ∃ later, listener.call call = listener.counting later := by
  cases call with
  | ingest now datagram source =>
    exact ⟨dispatched_of_not_event _ _ _ _ other, _, ingest_of_not_event _ _ _ _ other⟩
  | _ => cases other

/-- But for the counts, a run is determined by the event datagrams. -/
theorem after_ofEvents (calls : List Call) :
    (∃ later, (listener.counting stats).after calls =
        (listener.after (ofEvents calls)).counting later) ∧
      (listener.counting stats).along dispatched calls =
        listener.along dispatched (ofEvents calls) := by
  induction calls generalizing listener stats with
  | nil => exact ⟨⟨stats, rfl⟩, rfl⟩
  | cons first rest ih =>
    rw [after_cons, along_cons, dispatched_counting]
    cases kind : first.isOfEvents with
    | true =>
      obtain ⟨later, same⟩ := call_counting listener stats first
      rw [ofEvents, List.filter_cons_of_pos kind, same, after_cons, along_cons]
      obtain ⟨rest, events⟩ := ih (listener.call first) later
      exact ⟨rest, congrArg _ events⟩
    | false =>
      obtain ⟨nothing, later, same⟩ := (listener.counting stats).call_of_not_event kind
      rw [dispatched_counting] at nothing
      rw [ofEvents, List.filter_cons_of_neg (by simp [kind]), same, nothing]
      exact ih listener later

theorem mem_seen_of_recognise {mac : MacAddress} {sighting : Sighting}
    (mem : sighting ∈ (listener.recognise now mac datagram).2.seen) :
    sighting ∈ listener.seen ∨ sighting.datagram = datagram := by
  unfold recognise at mem
  split at mem
  · exact .inl mem
  · dsimp only at mem
    split at mem
    · exact .inl (List.mem_filter.1 mem).1
    · obtain old | new := List.mem_append.1 mem
      · exact .inl (List.mem_filter.1 old).1
      · rw [List.mem_singleton.1 new]
        exact .inr rfl

theorem mem_seen_of_call {call : Call} {sighting : Sighting}
    (mem : sighting ∈ (listener.call call).seen) :
    sighting ∈ listener.seen ∨ isEvent sighting.datagram = true := by
  cases call with
  | ingest now datagram source =>
    change sighting ∈ (listener.ingest now datagram source).2.seen at mem
    cases listener.ingestion now datagram source with
    | noEvent _ _ seen => exact .inl (seen ▸ mem)
    | repeated _ parsed _ _ seen | unreadable _ parsed _ _ _ seen
    | dispatched _ parsed _ _ _ _ seen =>
      rw [seen] at mem
      obtain old | same := mem_seen_of_recognise _ _ _ mem
      · exact .inl old
      · rw [same]
        exact .inr (isEvent_of_parse parsed)
  | _ => exact .inl mem

theorem mem_seen_of_after {calls : List Call} {sighting : Sighting}
    (mem : sighting ∈ (listener.after calls).seen) :
    sighting ∈ listener.seen ∨ isEvent sighting.datagram = true := by
  induction calls generalizing listener with
  | nil => exact .inl mem
  | cons first rest ih =>
    obtain old | event := ih (listener.call first) mem
    · exact mem_seen_of_call listener old
    · exact .inr event

end Listener
end LightingControl
