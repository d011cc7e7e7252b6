import LightingControl.Proofs.Command.Wire
import LightingControl.Proofs.Numbers
import LightingControl.Proofs.Records
/-!
# Filters are listed as they were added

A controller lists its event filters with the mode byte in front.  Each is listed in the bytes in
which it was added, and so a listing of the filters that were added reads as these filters, in their
order.
-/

set_option autoImplicit false

namespace LightingControl

/-- An event filter as it is added: the events of a mask are muted from an address or from one
input of it. -/
structure AddedFilter where
  target : Address
  input : Option UInt8
  mask : EventMask
  deriving DecidableEq, Repr

namespace AddedFilter

def operation (filter : AddedFilter) : Operation :=
  .addEventFilter filter.target filter.input filter.mask

def entry (filter : AddedFilter) : EventFilterEntry where
  address := filter.target.wireByte
  input := filter.input.getD 0xFF
  mask := filter.mask

/-- What adds a filter has the layout of its entry in a listing. -/
theorem entry?_body {filter : AddedFilter} {command : Command}
    (accepted : filter.operation.command = .ok command) :
    command.body.length = 4 ∧ EventFilterPage.entry? command.body = some filter.entry := by
  obtain ⟨byte, rfl, -, given⟩ := Operation.accepted_target_and_input accepted (by decide)
  have input : byte = filter.input.getD 0xFF := by
    rw [← given, unlessUnset]
    by_cases all : byte = 0xFF
    · rw [if_pos all]
      exact all
    · rw [if_neg all]
      rfl
  refine ⟨rfl, ?_⟩
  change some (EventFilterEntry.mk filter.target.wireByte byte
    (.ofBytes filter.mask.upper filter.mask.lower)) = _
  rw [EventMask.ofBytes_upper_lower, input]
  rfl

end AddedFilter

namespace EventFilterPage

theorem decode_cons (mode : UInt8) (more : Bytes) :
    decode (mode :: more) = .ok ⟨.ofByte mode, (Bytes.records 4 more).filterMap entry?⟩ := by
  rw [decode, Field.uint8_cons]
  rfl

theorem refused_iff (data : Bytes) : (∃ error, decode data = .error error) ↔ data = [] := by
  cases data with
  | nil => exact ⟨fun _ => rfl, fun _ => ⟨_, rfl⟩⟩
  | cons mode more =>
    rw [decode_cons]
    constructor
    · rintro ⟨_, same⟩
      cases same
    · intro none
      cases none

theorem isFull_iff (page : EventFilterPage) : page.isFull = true ↔ 15 ≤ page.entries.length :=
  decide_eq_true_iff

end EventFilterPage

/-- Filters that were accepted are listed in the order in which they were added, whatever is cut off
behind them; a listing is refused only if it has not even a mode. -/
theorem filters_listed {filters : List AddedFilter} {commands : List Command}
    (accepted : List.Forall₂ (fun filter command => filter.operation.command = .ok command)
      filters commands) (mode : EventMode) {rest : Bytes} (short : rest.length ≤ 3) :
    (∃ page,
      EventFilterPage.decode (mode.byte :: (commands.flatMap Command.body ++ rest)) = .ok page ∧
      page.mode = mode ∧ page.entries = filters.map AddedFilter.entry ∧
      (page.isFull = true ↔ 15 ≤ filters.length)) ∧
    ∀ data, (∃ error, EventFilterPage.decode data = .error error) ↔ data = [] := by
  refine ⟨⟨⟨mode, filters.map AddedFilter.entry⟩, ?_, rfl, rfl, ?_⟩, EventFilterPage.refused_iff⟩
  · have listed : List.Forall₂
        (fun value record => record.length = 4 ∧ EventFilterPage.entry? record = some value)
        (filters.map AddedFilter.entry) (commands.map Command.body) :=
      List.forall₂_map_left_iff.2 <| List.forall₂_map_right_iff.2 <|
        accepted.imp fun _ _ => AddedFilter.entry?_body
    rw [EventFilterPage.decode_cons, EventMode.ofByte_byte, List.flatMap_def,
      Bytes.filterMap_sent (by decide) listed (by omega)]
  · rw [EventFilterPage.isFull_iff, List.length_map]

/-- The whole of a device and one input of a gear, and three bytes that are cut off. -/
theorem filters_listed_two :
    let commands : List Command :=
      [⟨"add event filter", 0x31, .device 6, .basic 70 0xFF 0 3⟩,
        ⟨"add event filter", 0x31, .gear 5, .basic 5 2 1 0⟩]
    let mode : EventMode := ⟨true, true, false, true⟩
    ∃ page,
      EventFilterPage.decode (mode.byte :: (commands.flatMap Command.body ++ [1, 2, 3])) =
        .ok page ∧
      page.mode = mode ∧ page.entries = [⟨70, 0xFF, ⟨3⟩⟩, ⟨5, 2, ⟨0x100⟩⟩] ∧
      page.isFull = false := by
  intro commands mode
  have first : (AddedFilter.operation ⟨.device 6, none, ⟨3⟩⟩).command = .ok commands[0] := rfl
  have second : (AddedFilter.operation ⟨.gear 5, some 2, ⟨0x100⟩⟩).command = .ok commands[1] := rfl
  have short : ([1, 2, 3] : Bytes).length ≤ 3 := by decide
  obtain ⟨page, decoded, known, entries, full⟩ :=
    (filters_listed (.cons first (.cons second .nil)) mode short).1
  exact ⟨page, decoded, known, entries, Bool.eq_false_iff.2 fun isFull =>
    absurd (full.1 isFull) (by decide)⟩

end LightingControl
