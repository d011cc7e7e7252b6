import LightingControl.Proofs.Session.Send
/-!
# The numbers of a session's commands

Between two commands nothing is pending.  So the commands of a session take the sequence numbers in
order, and a response that comes too late for its command meets no later one until 256 commands have
gone by.
-/

set_option autoImplicit false

namespace LightingControl

def SessionConfig.number (config : SessionConfig) (i : Nat) : UInt8 :=
  UInt8.ofNat ((config.initialSeq.toNat + i) % 256)

namespace SessionConfig

variable (config : SessionConfig)

theorem toNat_number (i : Nat) : (config.number i).toNat = (config.initialSeq.toNat + i) % 256 := by
  simp [number]

theorem number_zero : config.number 0 = config.initialSeq := by
  have bound := config.initialSeq.toNat_lt
  rw [← UInt8.toNat_inj, toNat_number]
  omega

theorem number_succ (i : Nat) : config.number (i + 1) = config.number i + 1 := by
  rw [← UInt8.toNat_inj, UInt8.toNat_add, toNat_number, toNat_number, UInt8.toNat_one]
  omega

theorem number_ne {i j : Nat} (later : i < j) (near : j ≤ i + 255) :
    config.number j ≠ config.number i := by
  rw [ne_eq, ← UInt8.toNat_inj, toNat_number, toNat_number]
  omega

end SessionConfig

namespace Tracker

variable {tracker : Tracker}

theorem next_of_free (free : tracker.isPending tracker.rotation = false) :
    tracker.next = (tracker.rotation, { tracker with rotation := tracker.rotation + 1 }) := by
  have first : tracker.firstFree 256 tracker.rotation = some tracker.rotation := by
    simp [firstFree, free]
  rw [next, first]
  rfl

end Tracker

/-- Something that happens at an open session. -/
inductive Incident where
  | stray (datagram : Bytes)
  | command (command : Command) (early late : Nat → List Bytes)

def Incident.isCommand : Incident → Bool
  | .stray _ => false
  | .command _ _ _ => true

/-- The program has stopped between two transmissions of a request, which is left pending. -/
def Exchange.BreaksOff (exchange : Exchange Response) : Prop :=
  exchange.Stopped ∧ exchange.requests ≠ []

namespace Session

def after (session : Session) : Incident → Session
  | .stray datagram => (session.receive datagram).1
  | .command command early late =>
    (session.send command (arrivals early) (arrivals late)).session

def afterAll (session : Session) (incidents : List Incident) : Session :=
  incidents.foldl after session

/-- No command breaks off. -/
def Unbroken (session : Session) : List Incident → Prop
  | [] => True
  | .stray datagram :: rest => (session.after (.stray datagram)).Unbroken rest
  | .command command early late :: rest =>
    ¬ (session.send command (arrivals early) (arrivals late)).BreaksOff ∧
      (session.after (.command command early late)).Unbroken rest

/-- No command is under way, and `count` of them have been sent. -/
structure Idle (config : SessionConfig) (hasSink : Bool) (count : Nat) (session : Session) :
    Prop where
  isOpen : session.closed = false
  settings : session.config = config
  sink : session.hasSink = hasSink
  free : ∀ seq, session.tracker.isPending seq = false
  rotation : session.tracker.rotation = config.number count

variable {session : Session} {config : SessionConfig} {hasSink : Bool} {count : Nat}

theorem idle_opened {host : Host} {identity : ControllerIdentity}
    (opened : Session.opened host identity config hasSink = .ok session) :
    Idle config hasSink 0 session := by
  unfold Session.opened at opened
  split at opened
  · cases opened
    refine ⟨rfl, rfl, rfl, ?_, config.number_zero.symm⟩
    intro seq
    simp [Tracker.isPending, Tracker.slot, Tracker.startingAt, Slot.empty]
  · cases opened

theorem Idle.next (idle : Idle config hasSink count session) :
    session.tracker.next =
      (config.number count, { session.tracker with rotation := config.number (count + 1) }) := by
  rw [Tracker.next_of_free (idle.free _), idle.rotation, SessionConfig.number_succ]

theorem Idle.kept {later : Session} (idle : Idle config hasSink count session) (kept : Kept session later) :
    Idle config hasSink count later where
  isOpen := kept.closed.trans idle.isOpen
  settings := kept.config.trans idle.settings
  sink := kept.hasSink.trans idle.sink
  free := fun seq => kept.free seq (idle.free seq)
  rotation := kept.rotation.trans idle.rotation

theorem Idle.registered_rotation (idle : Idle config hasSink count session) :
    session.registered.2.tracker.rotation = config.number (count + 1) := by
  rw [registered, idle.next]
  rfl

theorem Idle.free_registered (idle : Idle config hasSink count session) {seq : UInt8}
    (other : config.number count ≠ seq) :
    session.registered.2.tracker.isPending seq = false := by
  rw [registered, idle.next, Tracker.isPending]
  simp only [Tracker.register, Tracker.slot_update_of_ne _ _ other]
  exact idle.free seq

theorem Idle.course (idle : Idle config hasSink count session)
    (bounded : config.retries.toNat + 1 < UInt32.size) (dated : session.Dated 0) (command : Command)
    (early late : Nat → List Bytes) :
    Course command (command.request (config.number count)).encode (config.number count) early late
      config.retries.toNat 0 session.registered.2
      (session.send command (arrivals early) (arrivals late)) := by
  have course := course_send idle.isOpen (idle.settings ▸ bounded) dated command early late
  rw [idle.next, idle.settings] at course
  exact course

theorem Idle.send_of_unregistered (idle : Idle config hasSink count session)
    (unregistered : ¬ (config.retries.toNat + 1 < UInt32.size ∧ session.Dated 0))
    (command : Command) (during late : Nat → List Happening) :
    ∃ abort, session.send command during late =
      ⟨{ session with tracker := session.tracker.next.2 }, [], [], .error (.abort abort)⟩ := by
  rw [← idle.settings] at unregistered
  by_cases bounded : session.config.retries.toNat + 1 < UInt32.size
  · have undated : ¬ session.Dated 0 := fun dated => unregistered ⟨bounded, dated⟩
    exact ⟨_, send_of_undated idle.isOpen bounded undated command during late⟩
  · exact ⟨_, send_of_overflow idle.isOpen bounded command during late⟩

theorem Idle.send (idle : Idle config hasSink count session) (command : Command)
    (early late : Nat → List Bytes)
    (lasts : ¬ (session.send command (arrivals early) (arrivals late)).BreaksOff) :
    Idle config hasSink (count + 1) (session.send command (arrivals early) (arrivals late)).session := by
  by_cases registers : config.retries.toNat + 1 < UInt32.size ∧ session.Dated 0
  · -- The course frees the command's own number and keeps the others free.
    have course := idle.course registers.1 registers.2 command early late
    have kept := course.kept
    have own := course.free fun stopped => lasts ⟨stopped, course.sends_something⟩
    refine ⟨kept.closed.trans idle.isOpen, kept.config.trans idle.settings,
      kept.hasSink.trans idle.sink, ?_, kept.rotation.trans idle.registered_rotation⟩
    intro seq
    by_cases same : config.number count = seq
    · exact same ▸ own
    · exact kept.free seq (idle.free_registered same)
  · obtain ⟨abort, sent⟩ := idle.send_of_unregistered registers command (arrivals early) (arrivals late)
    rw [sent, idle.next]
    exact ⟨idle.isOpen, idle.settings, idle.sink, idle.free, rfl⟩

theorem Idle.receive (idle : Idle config hasSink count session) (datagram : Bytes) :
    Idle config hasSink count (session.receive datagram).1 :=
  idle.kept (session.reception idle.isOpen datagram).kept

theorem Idle.afterAll (idle : Idle config hasSink count session) {incidents : List Incident}
    (unbroken : session.Unbroken incidents) :
    Idle config hasSink (count + incidents.countP Incident.isCommand) (session.afterAll incidents) := by
  -- `Idle` carries the induction; each command raises its count by one.
  induction incidents generalizing session count with
  | nil => exact idle
  | cons first rest ih =>
    cases first with
    | stray datagram => exact ih (idle.receive datagram) unbroken
    | command command early late =>
      have sent := ih (idle.send command early late unbroken.1) unbroken.2
      have shift : count + 1 + rest.countP Incident.isCommand =
          count + (rest.countP Incident.isCommand + 1) := by omega
      rw [shift] at sent
      rw [List.countP_cons]
      exact sent

theorem Idle.send_own (idle : Idle config hasSink count session) (command : Command)
    (early late : Nat → List Bytes) :
    let exchange := session.send command (arrivals early) (arrivals late)
    (exchange.requests ≠ [] ↔ config.retries.toNat + 1 < UInt32.size ∧ session.Dated 0) ∧
      ∀ request ∈ exchange.requests, request = (command.request (config.number count)).encode := by
  intro exchange
  by_cases registers : config.retries.toNat + 1 < UInt32.size ∧ session.Dated 0
  · have course := idle.course registers.1 registers.2 command early late
    exact ⟨iff_of_true course.sends_something registers, course.same_wire⟩
  · obtain ⟨abort, sent⟩ := idle.send_of_unregistered registers command (arrivals early) (arrivals late)
    have nothing : exchange.requests = [] := congrArg Exchange.requests sent
    refine ⟨iff_of_false (fun some => some nothing) registers, ?_⟩
    rw [nothing]
    nofun

/-! ## Responses that come too late -/

theorem Idle.receive_response (idle : Idle config hasSink count session) {datagram : Bytes}
    {response : Response} (parsed : Frame.parse datagram = .ok (.response response)) :
    session.receive datagram = (session, session.sinkOf datagram) := by
  rw [receive_of_open idle.isOpen, fate_eq, parsed]
  simp only [idle.free response.seq, Bool.false_eq_true, if_false]

/-- A number that is not the command's own is not answered by it, and the responses that carry the
number go to the sink. -/
theorem Idle.send_other (idle : Idle config hasSink count session) {seq : UInt8}
    (other : config.number count ≠ seq) (command : Command) (early late : Nat → List Bytes) :
    let exchange := session.send command (arrivals early) (arrivals late)
    let arrived := (List.range exchange.requests.length).flatMap fun i =>
      heard (config.number count) (early i) (late i)
    (∀ response, exchange.result = .ok response → response.seq ≠ seq) ∧
      exchange.forwarded.filter (carries seq) = session.sinkAll (arrived.filter (carries seq)) := by
  intro exchange arrived
  by_cases registers : config.retries.toNat + 1 < UInt32.size ∧ session.Dated 0
  · have course := idle.course registers.1 registers.2 command early late
    refine ⟨?_, ?_⟩
    · intro response ok
      rw [course.seq_of_ok ok]
      exact other
    · have passed := course.passed seq (idle.free_registered other)
      rw [← List.range_eq_range'] at passed
      exact passed
  · obtain ⟨abort, sent⟩ := idle.send_of_unregistered registers command (arrivals early) (arrivals late)
    refine ⟨?_, ?_⟩
    · intro response ok
      change (session.send command (arrivals early) (arrivals late)).result = _ at ok
      rw [sent] at ok
      cases ok
    · simp [exchange, arrived, sent, sinkAll]

/-- As long as no command breaks off, nothing is pending between the commands of a session, and they
take the numbers in order.  A response with the number of a command that is over is the result of none of
the next 255 commands: the sink gets it, whether it arrives between commands or during one. -/
theorem numbers_in_order {host : Host} {identity : ControllerIdentity} {config : SessionConfig}
    {hasSink : Bool} {start : Session}
    (opened : Session.opened host identity config hasSink = .ok start) (incidents : List Incident)
    (unbroken : start.Unbroken incidents) :
    let session := start.afterAll incidents
    let count := incidents.countP Incident.isCommand
    (∀ seq, session.tracker.isPending seq = false) ∧
    (∀ datagram response, Frame.parse datagram = .ok (.response response) →
      session.receive datagram = (session, if hasSink then [datagram] else [])) ∧
    ∀ command early late,
      let exchange := session.send command (arrivals early) (arrivals late)
      let arrived := (List.range exchange.requests.length).flatMap fun i =>
        heard (config.number count) (early i) (late i)
      (exchange.requests ≠ [] ↔ config.retries.toNat + 1 < UInt32.size ∧ session.Dated 0) ∧
      (∀ request ∈ exchange.requests,
        request = (command.request (config.number count)).encode) ∧
      ∀ i < count, count ≤ i + 255 →
        (∀ response, exchange.result = .ok response → response.seq ≠ config.number i) ∧
        exchange.forwarded.filter (carries (config.number i)) =
          if hasSink then arrived.filter (carries (config.number i)) else [] := by
  intro session count
  have idle : Idle config hasSink count session := by
    have run := (idle_opened opened).afterAll unbroken
    rw [Nat.zero_add] at run
    exact run
  refine ⟨idle.free, ?_, ?_⟩
  · intro datagram response parsed
    rw [idle.receive_response parsed, sinkOf, idle.sink]
  · intro command early late exchange arrived
    obtain ⟨sends, same⟩ := idle.send_own command early late
    refine ⟨sends, same, ?_⟩
    intro i earlier near
    obtain ⟨own, sink⟩ := idle.send_other (config.number_ne earlier near) command early late
    refine ⟨own, sink.trans ?_⟩
    rw [sinkAll, idle.sink]

/-- The reply to command 255 comes once more during the next command, whose number is 0. -/
theorem numbers_in_order_wrapped :
    let config := SessionConfig.default.withInitialSeq 255
    let start : Session := ⟨⟨anyEndpoint, none⟩, config, .startingAt 255, false, true, 0⟩
    let command : Command := ⟨"enable event emit", 0x08, .controller, .basic 1 0 0 0⟩
    let reply : Bytes := [0xA0, 255, 0, 0x5F]
    let incidents : List Incident := [.command command (fun _ => [reply]) fun _ => [], .stray reply]
    let again := fun i => if i = 1 then [reply] else []
    let exchange := (start.afterAll incidents).send command (arrivals again) (arrivals fun _ => [])
    (Session.opened .networked ⟨anyEndpoint, none⟩ config true = .ok start ∧
        start.Unbroken incidents) ∧
      exchange.requests ≠ [] ∧
      (∀ request ∈ exchange.requests, request = (command.request 0).encode) ∧
      exchange.forwarded.filter (carries 255) = [reply] := by
  intro config start command reply incidents again exchange
  have opened : Session.opened .networked ⟨anyEndpoint, none⟩ config true = .ok start := rfl
  -- The first attempt is answered, so no other deadline is worked out.
  have answered : answer? start.tracker.next.1 [reply] ≠ none := by decide +kernel
  have lasts : ¬ (start.send command (arrivals fun _ => [reply]) (arrivals fun _ => [])).Stopped := by
    rw [stopped_send_iff rfl (by decide)]
    rintro ⟨_ | n, -, reached, undated⟩
    · exact undated (by decide +kernel)
    · exact answered reached.2
  have unbroken : start.Unbroken incidents := ⟨fun broken => lasts broken.1, trivial⟩
  obtain ⟨sends, same, stale⟩ :=
    (numbers_in_order opened incidents unbroken).2.2 command again fun _ => []
  obtain ⟨-, sink⟩ := stale 0 (by decide) (by decide)
  have wrapped : config.number (incidents.countP Incident.isCommand) = 0 := by decide
  rw [wrapped] at same
  have dated : (start.afterAll incidents).Dated 0 := by decide +kernel
  exact ⟨⟨opened, unbroken⟩, sends.2 ⟨by decide, dated⟩, same, sink.trans (by decide +kernel)⟩

end Session

end LightingControl
