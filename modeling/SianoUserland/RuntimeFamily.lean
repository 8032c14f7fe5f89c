import SianoUserland.AdapterLifecycle
import SianoUserland.PidFilters

/-! `SianoFamily` and `SianoRuntimeBackend` of `siano-runtime-backend.cpp`: the daemon's side of
the adapter. The device is claimed once, before the endpoint is published, and what clients open
and close afterwards is only a lease of it. -/
namespace SianoUserland.RuntimeFamily
open Transition AdapterLifecycle

/-- `SianoFamily`, with the devices it has initialised. -/
structure SianoFamily (ι : Type) where
  system : System ι
  deviceStarted : Bool := false
  /-- How often `init_device_state_capture` succeeded. -/
  sessions : Nat := 0

/-- The constructor: `set_pid_filters` keeps at most 64. -/
def construct (pids : List UInt16) : SianoFamily ι := { system := start 0 (pids.take 64) }

/-- A call of the family, of its backend or of its stream control. -/
inductive Call (ι : Type) where
  | startDevice (stages : ReceiverAdapter.OpenStages)
  | openReceiver (receiver : Nat) (stages : ReceiverAdapter.OpenStages)
  | closeReceiver (receiver : Nat)
  | tuneTerrestrialHz (program : ReceiverAdapter.Program)
  | beginTunePower (receiver : Nat) (system : ReceiverSystem) (voltage : UInt8)
  | commitTunePower (receiver : Nat)
  | rollbackTunePower (receiver : Nat)
  | markReceiverDisconnected (receiver : Nat)
  | startCapture (receiver : Nat) (system : ReceiverSystem)
  | stopCapture (receiver : Nat) (system : ReceiverSystem) (stages : StopStages)
  | attach (identity : ι) (stages : StartStages)
  | detach (stages : StopStages)
  | shutdown
  /-- The tunes without a frequency in Hz, those of a satellite, and `is_locked`. -/
  | unsupported

namespace SianoFamily

variable {ι : Type}

/-- `ReceiverAdapter::open`, as the family and its backend call it. -/
def openAdapter (family : SianoFamily ι) (receiver : Nat) (stages : ReceiverAdapter.OpenStages) :
    Except Error Unit × SianoFamily ι :=
  let (result, system) := family.system.openDevice receiver stages
  let initialised := receiver = family.system.adapter.receiver ∧
    family.system.adapter.opened = false ∧ stages.initDeviceState = 0
  (result, { family with
    system := system
    sessions := if initialised then family.sessions + 1 else family.sessions })

/-- `SianoFamily::start_device`. -/
def startDevice (family : SianoFamily ι) (stages : ReceiverAdapter.OpenStages) :
    Except Error Unit × SianoFamily ι :=
  if family.deviceStarted then (.ok (), family)
  else
    match family.openAdapter 0 stages with
    | (.error error, family) => (.error error, family)
    | (.ok (), family) => (.ok (), { family with deviceStarted := true })

/-- What the backend answers to a lease of a device that is held. -/
def lease (receiver : Nat) : Except Error Unit :=
  if receiver = 0 then .ok () else .error .invalidArgument

/-- `SianoRuntimeBackend::open_receiver`. -/
def openReceiver (family : SianoFamily ι) (receiver : Nat)
    (stages : ReceiverAdapter.OpenStages) : Except Error Unit × SianoFamily ι :=
  if family.deviceStarted then (lease receiver, family)
  else family.openAdapter receiver stages

/-- `SianoRuntimeBackend::close_receiver`. -/
def closeReceiver (family : SianoFamily ι) (receiver : Nat) :
    Except Error Unit × SianoFamily ι :=
  if family.deviceStarted then (lease receiver, family)
  else
    let (result, system) := family.system.close receiver
    (result, { family with system := system })

/-- `SianoRuntimeBackend::tune_terrestrial_hz`, which always asks for a terrestrial tune. -/
def tuneTerrestrialHz (family : SianoFamily ι) (program : ReceiverAdapter.Program) :
    Except Error TuneProgramming × SianoFamily ι :=
  let (result, adapter) := family.system.adapter.programHz { program with system := .terrestrial }
  (result, { family with system := { family.system with adapter := adapter } })

/-- What a call returns and leaves. There is no result while it waits for a thread. -/
def perform (family : SianoFamily ι) : Call ι → Option (Except Error Unit × SianoFamily ι)
  | .startDevice stages => some (family.startDevice stages)
  | .openReceiver receiver stages => some (family.openReceiver receiver stages)
  | .closeReceiver receiver => some (family.closeReceiver receiver)
  | .tuneTerrestrialHz program =>
    let (result, family) := family.tuneTerrestrialHz program
    some (result.map fun _ => (), family)
  | .beginTunePower receiver system voltage =>
    some (family.system.adapter.beginTunePower receiver system voltage, family)
  | .commitTunePower receiver => some (family.system.adapter.endTunePower receiver, family)
  | .rollbackTunePower receiver => some (family.system.adapter.endTunePower receiver, family)
  | .markReceiverDisconnected _ => some (.ok (), family)
  | .startCapture receiver system =>
    some (family.system.adapter.startCapture receiver system, family)
  | .stopCapture receiver system stages =>
    (family.system.stopCapture receiver system stages).map fun (result, system) =>
      (result, { family with system := system })
  | .attach identity stages =>
    let (result, system) := family.system.attach identity stages
    some (result, { family with system := system })
  | .detach stages =>
    (family.system.detach stages).map fun (result, system) =>
      (result, { family with system := system })
  | .shutdown => some (family.system.adapter.shutdown, family)
  | .unsupported => some (.error .unsupported, family)

end SianoFamily

/-- A call, or a step of another thread between two calls. -/
inductive Action (ι : Type) where
  | call (call : Call ι)
  | elsewhere (event : Elsewhere)

def next (family : SianoFamily ι) : Action ι → Option (SianoFamily ι)
  | .call call => (family.perform call).map Prod.snd
  | .elsewhere event => some { family with
      system := { family.system with consumer := family.system.consumer.elsewhere event } }

/-! ## What a call does to the session of the device -/

variable {ι : Type} {system moved : System ι} {family after : SianoFamily ι}

/-- The session of the device is the one it was: nothing was opened or closed. -/
structure Leased (before after : System ι) : Prop where
  receiver : after.adapter.receiver = before.adapter.receiver
  pids : after.adapter.pids = before.adapter.pids
  opened : after.adapter.opened = before.adapter.opened
  initialized : after.adapter.initialized = before.adapter.initialized
  sentBefore : after.adapter.sentBefore = before.adapter.sentBefore
  closings : after.closings = before.closings

theorem leased_refl (system : System ι) : Leased system system :=
  ⟨rfl, rfl, rfl, rfl, rfl, rfl⟩

theorem leased_trans {middle : System ι} (first : Leased system middle)
    (second : Leased middle moved) : Leased system moved :=
  ⟨second.receiver.trans first.receiver, second.pids.trans first.pids,
    second.opened.trans first.opened, second.initialized.trans first.initialized,
    second.sentBefore.trans first.sentBefore, second.closings.trans first.closings⟩

/-- A tune touches what was sent and what was programmed. -/
theorem programHz_shape (adapter : ReceiverAdapter) (program : ReceiverAdapter.Program) :
    ∃ filters sent programmed, (adapter.programHz program).2 =
      { adapter with filters := filters, pidFiltersSent := sent, programmed := programmed } := by
  cases tuned : PidFilters.tunes adapter program with
  | false => exact ⟨_, _, _, PidFilters.programHz_of_not_tunes tuned⟩
  | true =>
    rw [PidFilters.programHz_of_tunes tuned]
    split
    · exact ⟨_, _, _, rfl⟩
    · dsimp only
      split
      · exact ⟨_, _, _, rfl⟩
      · exact ⟨_, _, _, rfl⟩

theorem tune_leased (system : System ι) (program : ReceiverAdapter.Program) :
    Leased system { system with adapter := (system.adapter.programHz program).2 } := by
  obtain ⟨filters, sent, programmed, shape⟩ := programHz_shape system.adapter program
  rw [shape]
  exact ⟨rfl, rfl, rfl, rfl, rfl, rfl⟩

theorem attach_leased (system : System ι) (identity : ι) (stages : StartStages) :
    Leased system (system.attach identity stages).2 := by
  unfold System.attach ReceiverAdapter.attach
  split
  · exact leased_refl system
  · dsimp only
    split
    · exact ⟨rfl, rfl, rfl, rfl, rfl, rfl⟩
    · exact ⟨rfl, rfl, rfl, rfl, rfl, rfl⟩

theorem stopConsumer_leased (system : System ι) (stopped : Except Error Unit)
    (consumer : Consumer ι) :
    Leased system { system with
      adapter := (system.adapter.stopConsumer stopped consumer.quiesced).2
      consumer := consumer } := by
  unfold ReceiverAdapter.stopConsumer
  cases consumer.quiesced with
  | false => exact ⟨rfl, rfl, rfl, rfl, rfl, rfl⟩
  | true => exact ⟨rfl, rfl, rfl, rfl, rfl, rfl⟩

theorem detach_leased {stages : StopStages} (detached : system.detach stages = some (result, moved)) :
    Leased system moved := by
  unfold System.detach at detached
  split at detached
  · cases detached
    exact leased_refl system
  · rename_i attached
    obtain ⟨⟨stopped, consumer⟩, -, same⟩ := Option.map_eq_some_iff.mp detached
    simp only [ReceiverAdapter.detach, if_neg attached] at same
    cases same
    exact stopConsumer_leased system stopped consumer

theorem stopCapture_leased {stages : StopStages}
    (stops : system.stopCapture receiver receiverSystem stages = some (result, moved)) :
    Leased system moved := by
  unfold System.stopCapture at stops
  split at stops
  · cases stops
    exact leased_refl system
  · rename_i supported
    obtain ⟨⟨stopped, consumer⟩, -, same⟩ := Option.map_eq_some_iff.mp stops
    simp only [ReceiverAdapter.stopCapture, if_neg supported] at same
    cases same
    exact stopConsumer_leased system stopped consumer

/-- The family holds the same session, and its book says the same. -/
structure Holds (before after : SianoFamily ι) : Prop where
  leased : Leased before.system after.system
  deviceStarted : after.deviceStarted = before.deviceStarted
  sessions : after.sessions = before.sessions

theorem holds_refl (family : SianoFamily ι) : Holds family family :=
  ⟨leased_refl family.system, rfl, rfl⟩

/-- An open that gets to the device begins a session, and ends it again when it fails. -/
theorem openAdapter_cases (family : SianoFamily ι) (receiver : Nat)
    (stages : ReceiverAdapter.OpenStages)
    (opens : family.openAdapter receiver stages = (result, after)) :
    after.deviceStarted = family.deviceStarted ∧
      ((Holds family after ∧ result ≠ .ok ()) ∨
        (family.system.adapter.opened = false ∧ after.sessions = family.sessions + 1 ∧
          after.system.adapter.receiver = family.system.adapter.receiver ∧
          after.system.adapter.initialized = after.system.adapter.opened ∧
          after.system.closings.length + after.system.adapter.opened.toNat =
            family.system.closings.length + 1 ∧
          (result = .ok () → after.system.adapter.opened = true ∧
            after.system.adapter.sentBefore = family.system.adapter.pidFiltersSent))) := by
  unfold SianoFamily.openAdapter System.openDevice ReceiverAdapter.openDevice at opens
  by_cases other : receiver ≠ family.system.adapter.receiver
  · simp only [other, ne_eq, not_false_eq_true, ↓reduceIte, true_or, false_and] at opens
    cases opens
    exact ⟨rfl, .inl ⟨holds_refl family, nofun⟩⟩
  cases opened : family.system.adapter.opened with
  | true =>
    simp only [opened, other, or_true, ↓reduceIte, Bool.true_eq_false, and_false,
      false_and] at opens
    cases opens
    exact ⟨rfl, .inl ⟨holds_refl family, nofun⟩⟩
  | false =>
    have own : receiver = family.system.adapter.receiver := Decidable.not_not.mp other
    by_cases uninitialised : stages.initDeviceState ≠ 0
    · simp only [opened, other, uninitialised, ne_eq, not_false_eq_true, Bool.false_eq_true,
        or_false, ↓reduceIte, false_and, and_false] at opens
      cases opens
      exact ⟨rfl, .inl ⟨⟨⟨rfl, rfl, rfl, rfl, rfl, rfl⟩, rfl, rfl⟩, nofun⟩⟩
    have initialised : stages.initDeviceState = 0 := Decidable.not_not.mp uninitialised
    by_cases failed : stages.rc ≠ 0
    · simp only [opened, failed, initialised, own, ne_eq, not_true_eq_false,
        Bool.false_eq_true, or_false, ↓reduceIte, and_self, not_false_eq_true] at opens
      cases opens
      refine ⟨rfl, .inr ⟨rfl, rfl, rfl, rfl, ?_, nofun⟩⟩
      simp [System.closeDevice, System.initDeviceState]
    · simp only [opened, failed, initialised, own, ne_eq, not_true_eq_false,
        Bool.false_eq_true, or_false, ↓reduceIte, and_self, and_false] at opens
      cases opens
      exact ⟨rfl, .inr ⟨rfl, rfl, rfl, rfl, rfl, fun _ => ⟨rfl, rfl⟩⟩⟩

/-- A close that gets to the device ends its session. -/
theorem close_cases (system : System ι) (receiver : Nat)
    (booked : system.adapter.initialized = system.adapter.opened) :
    Leased system (system.close receiver).2 ∨
      (system.adapter.opened = true ∧
        (system.close receiver).2.adapter.receiver = system.adapter.receiver ∧
        (system.close receiver).2.adapter.initialized = false ∧
        (system.close receiver).2.adapter.opened = false ∧
        (system.close receiver).2.closings =
          system.closings ++ [workerRunning system.consumer]) := by
  unfold System.close ReceiverAdapter.close
  by_cases other : receiver ≠ system.adapter.receiver
  · simp only [other, ne_eq, not_false_eq_true, ↓reduceIte, true_or]
    exact .inl (leased_refl system)
  cases attached : system.adapter.streamAttached with
  | true =>
    simp only [other, ↓reduceIte, true_or, or_true]
    exact .inl (leased_refl system)
  | false =>
    cases initialized : system.adapter.initialized with
    | false =>
      simp only [initialized, other, Bool.false_eq_true, ↓reduceIte, or_true]
      exact .inl (leased_refl system)
    | true =>
      simp only [other, Bool.false_eq_true, Bool.true_eq_false, or_self, ↓reduceIte]
      exact .inr ⟨by rw [← booked, initialized], trivial, trivial, trivial, rfl⟩

/-- The calls that open or close the device of a family that does not hold it. -/
def Action.claims : Action ι → Bool
  | .call (.startDevice _) | .call (.openReceiver _ _) | .call (.closeReceiver _) => true
  | _ => false

/-- Every other call leaves the session alone, and these do once the device is held. -/
theorem next_holds (held : action.claims = true → family.deviceStarted = true)
    (taken : next family action = some after) : Holds family after := by
  cases action with
  | elsewhere event =>
    cases taken
    exact ⟨⟨rfl, rfl, rfl, rfl, rfl, rfl⟩, rfl, rfl⟩
  | call call =>
    obtain ⟨⟨result, last⟩, performed, rfl⟩ := Option.map_eq_some_iff.mp taken
    cases call with
    | startDevice stages =>
      simp only [SianoFamily.perform, SianoFamily.startDevice, if_pos (held rfl)] at performed
      cases performed
      exact holds_refl family
    | openReceiver receiver stages =>
      simp only [SianoFamily.perform, SianoFamily.openReceiver, if_pos (held rfl)] at performed
      cases performed
      exact holds_refl family
    | closeReceiver receiver =>
      simp only [SianoFamily.perform, SianoFamily.closeReceiver, if_pos (held rfl)] at performed
      cases performed
      exact holds_refl family
    | tuneTerrestrialHz program =>
      cases performed
      exact ⟨tune_leased family.system _, rfl, rfl⟩
    | attach identity stages =>
      cases performed
      exact ⟨attach_leased family.system identity stages, rfl, rfl⟩
    | detach stages =>
      obtain ⟨⟨stopped, system⟩, detached, same⟩ := Option.map_eq_some_iff.mp performed
      cases same
      exact ⟨detach_leased detached, rfl, rfl⟩
    | stopCapture receiver system stages =>
      obtain ⟨⟨stopped, system⟩, stops, same⟩ := Option.map_eq_some_iff.mp performed
      cases same
      exact ⟨stopCapture_leased stops, rfl, rfl⟩
    | beginTunePower | commitTunePower | rollbackTunePower | markReceiverDisconnected
    | startCapture | shutdown | unsupported =>
      cases performed
      exact holds_refl family

/-! ## The book of sessions -/

/-- Between two calls: every session that was begun is the one that is open or has been closed,
and the device of a family that has started is open. -/
structure Booked (family : SianoFamily ι) : Prop where
  lifecycle : Invariant family.system
  receiver : family.system.adapter.receiver = 0
  initialized : family.system.adapter.initialized = family.system.adapter.opened
  sessions : family.system.closings.length + family.system.adapter.opened.toNat = family.sessions
  started : family.deviceStarted = true → family.system.adapter.opened = true

theorem construct_booked (pids : List UInt16) : Booked (construct (ι := ι) pids) :=
  ⟨start_invariant 0 (pids.take 64), rfl, rfl, rfl, nofun⟩

theorem booked_of_holds (booked : Booked family) (holds : Holds family after)
    (lifecycle : Invariant after.system) : Booked after := by
  obtain ⟨leased, started, sessions⟩ := holds
  refine ⟨lifecycle, leased.receiver.trans booked.receiver, ?_, ?_, ?_⟩
  · rw [leased.initialized, leased.opened]
    exact booked.initialized
  · rw [leased.closings, leased.opened, sessions]
    exact booked.sessions
  · rw [started, leased.opened]
    exact booked.started

/-- A tune does not touch the flags of the four layers. -/
theorem tune_invariant (invariant : Invariant system) (program : ReceiverAdapter.Program) :
    Invariant { system with adapter := (system.adapter.programHz program).2 } := by
  obtain ⟨filters, sent, programmed, shape⟩ := programHz_shape system.adapter program
  rw [shape]
  exact ⟨invariant.sound, invariant.opened, invariant.initialized, invariant.host,
    invariant.closings⟩

theorem openAdapter_lifecycle (invariant : Invariant family.system)
    (opens : family.openAdapter receiver stages = (result, after)) : Invariant after.system := by
  have opened := openDevice_invariant invariant receiver stages
  have same : (family.system.openDevice receiver stages).2 = after.system :=
    congrArg (SianoFamily.system ∘ Prod.snd) opens
  exact same ▸ opened

theorem openAdapter_booked (booked : Booked family) (unstarted : family.deviceStarted = false)
    (opens : family.openAdapter receiver stages = (result, after)) :
    Booked after ∧ after.deviceStarted = false ∧
      (result = .ok () → after.system.adapter.opened = true ∧
        after.system.adapter.sentBefore = family.system.adapter.pidFiltersSent) := by
  have lifecycle := openAdapter_lifecycle booked.lifecycle opens
  obtain ⟨started, ⟨holds, refused⟩ | ⟨unopened, one, receiver, initialized, closings, succeeds⟩⟩ :=
    openAdapter_cases family receiver stages opens
  · exact ⟨booked_of_holds booked holds lifecycle, started.trans unstarted,
      fun ok => absurd ok refused⟩
  · refine ⟨⟨lifecycle, receiver.trans booked.receiver, initialized, ?_, ?_⟩,
      started.trans unstarted, succeeds⟩
    · have before := booked.sessions
      rw [unopened, Bool.toNat_false, Nat.add_zero] at before
      rw [closings, before, one]
    · intro on
      rw [started, unstarted] at on
      cases on

theorem closeAdapter_booked (booked : Booked family) (unstarted : family.deviceStarted = false)
    (receiver : Nat) : Booked { family with system := (family.system.close receiver).2 } := by
  have lifecycle := close_invariant booked.lifecycle receiver
  rcases close_cases family.system receiver booked.initialized with leased | closed
  · exact booked_of_holds booked ⟨leased, rfl, rfl⟩ lifecycle
  · obtain ⟨opened, own, initialized, gone, closings⟩ := closed
    refine ⟨lifecycle, own.trans booked.receiver, initialized.trans gone.symm, ?_, ?_⟩
    · have before := booked.sessions
      rw [opened] at before
      simpa [closings, gone] using before
    · intro on
      rw [unstarted] at on
      cases on

theorem next_lifecycle (invariant : Invariant family.system)
    (taken : next family action = some after) : Invariant after.system := by
  cases action with
  | elsewhere event =>
    cases taken
    have elapsed : AdapterLifecycle.next family.system (.elsewhere event) = some _ := rfl
    exact next_invariant invariant elapsed
  | call call =>
    obtain ⟨⟨result, last⟩, performed, rfl⟩ := Option.map_eq_some_iff.mp taken
    cases call with
    | startDevice stages =>
      simp only [SianoFamily.perform, SianoFamily.startDevice] at performed
      split at performed
      · cases performed
        exact invariant
      · split at performed
        · rename_i opens
          cases performed
          exact openAdapter_lifecycle invariant opens
        · rename_i opens
          have kept := openAdapter_lifecycle invariant opens
          cases performed
          exact kept
    | openReceiver receiver stages =>
      simp only [SianoFamily.perform, SianoFamily.openReceiver] at performed
      split at performed
      · cases performed
        exact invariant
      · cases performed
        exact openAdapter_lifecycle invariant rfl
    | closeReceiver receiver =>
      simp only [SianoFamily.perform, SianoFamily.closeReceiver] at performed
      split at performed
      · cases performed
        exact invariant
      · cases performed
        exact close_invariant invariant receiver
    | tuneTerrestrialHz program =>
      cases performed
      exact tune_invariant invariant _
    | attach identity stages =>
      cases performed
      exact (attach_invariant invariant identity stages).1
    | detach stages =>
      obtain ⟨⟨stopped, system⟩, detached, same⟩ := Option.map_eq_some_iff.mp performed
      cases same
      exact detach_invariant invariant stages detached
    | stopCapture receiver system stages =>
      obtain ⟨⟨stopped, system⟩, stops, same⟩ := Option.map_eq_some_iff.mp performed
      cases same
      exact stopCapture_invariant invariant receiver _ stages stops
    | beginTunePower | commitTunePower | rollbackTunePower | markReceiverDisconnected
    | startCapture | shutdown | unsupported =>
      cases performed
      exact invariant

theorem startDevice_booked (booked : Booked family) (unstarted : family.deviceStarted = false)
    (starts : family.startDevice stages = (result, after)) :
    Booked after ∧ (after.deviceStarted = true →
      after.system.adapter.sentBefore = family.system.adapter.pidFiltersSent) := by
  simp only [SianoFamily.startDevice, unstarted, Bool.false_eq_true, ↓reduceIte] at starts
  split at starts
  · rename_i error opened opens
    obtain ⟨kept, still, -⟩ := openAdapter_booked booked unstarted opens
    cases starts
    refine ⟨kept, fun on => ?_⟩
    rw [still] at on
    cases on
  · rename_i opened opens
    obtain ⟨kept, -, succeeds⟩ := openAdapter_booked booked unstarted opens
    obtain ⟨on, sent⟩ := succeeds rfl
    cases starts
    exact ⟨⟨kept.lifecycle, kept.receiver, kept.initialized, kept.sessions, fun _ => on⟩,
      fun _ => sent⟩

theorem next_booked (booked : Booked family) (taken : next family action = some after) :
    Booked after := by
  have lifecycle := next_lifecycle booked.lifecycle taken
  by_cases held : action.claims = true → family.deviceStarted = true
  · exact booked_of_holds booked (next_holds held taken) lifecycle
  · obtain ⟨claims, refused⟩ := Classical.not_imp.mp held
    have unstarted : family.deviceStarted = false := by simpa using refused
    cases action with
    | elsewhere => cases claims
    | call call =>
      obtain ⟨⟨result, last⟩, performed, rfl⟩ := Option.map_eq_some_iff.mp taken
      cases call with
      | startDevice stages =>
        exact (startDevice_booked booked unstarted (Option.some.inj performed)).1
      | openReceiver receiver stages =>
        simp only [SianoFamily.perform, SianoFamily.openReceiver, if_neg refused] at performed
        exact (openAdapter_booked booked unstarted (Option.some.inj performed)).1
      | closeReceiver receiver =>
        simp only [SianoFamily.perform, SianoFamily.closeReceiver, if_neg refused] at performed
        cases performed
        exact closeAdapter_booked booked unstarted receiver
      | _ => cases claims

theorem run_booked (pids : List UInt16) (ran : run next (construct pids) actions = some family) :
    Booked family :=
  run_keeps Booked (fun _ _ _ => next_booked) (construct_booked pids) ran

theorem run_holds (started : family.deviceStarted = true)
    (ran : run next family actions = some after) : Holds family after := by
  have kept := run_keeps (fun later => Holds family later ∧ later.deviceStarted = true)
    (fun before action later ⟨holds, on⟩ taken => by
      have step := next_holds (fun _ => on) taken
      exact ⟨⟨leased_trans holds.leased step.leased,
        step.deviceStarted.trans holds.deviceStarted, step.sessions.trans holds.sessions⟩,
        step.deviceStarted.trans on⟩)
    ⟨holds_refl family, started⟩ ran
  exact kept.1

/-- **The daemon holds one session of the device.** Once `start_device` has succeeded, no
sequence of calls of the clients, whatever fails in them and whatever other threads do, begins or
ends a session: the device stays open, no `close_device` runs, and a lease of receiver 0 is
granted and given back without touching it. The flags of the four layers agree all along. -/
theorem device_held_once (pids : List UInt16)
    (ran : run next (construct pids) actions = some family) (started : family.deviceStarted = true)
    (later : run next family more = some after) :
    after.system.adapter.opened = true ∧ after.sessions = family.sessions ∧
      after.system.closings = family.system.closings ∧ Consistent after.system ∧
      ∀ receiver stages,
        after.perform (.openReceiver receiver stages) =
          some (if receiver = 0 then .ok () else .error .invalidArgument, after) ∧
        after.perform (.closeReceiver receiver) =
          some (if receiver = 0 then .ok () else .error .invalidArgument, after) := by
  have booked := run_booked pids ran
  obtain ⟨leased, still, sessions⟩ := run_holds started later
  have lifecycle := run_keeps (fun (family : SianoFamily ι) => Invariant family.system)
    (fun _ _ _ => next_lifecycle) booked.lifecycle later
  have on : after.deviceStarted = true := still.trans started
  refine ⟨leased.opened.trans (booked.started started), sessions, leased.closings,
    consistent_of_invariant lifecycle, fun receiver stages => ⟨?_, ?_⟩⟩
  · simp only [SianoFamily.perform, SianoFamily.openReceiver, if_pos on, SianoFamily.lease]
  · simp only [SianoFamily.perform, SianoFamily.closeReceiver, if_pos on, SianoFamily.lease]

/-- A start that works the second time, clients that lease, tune and capture, and one that asks
for a receiver there is none of. -/
def leases : List (Action Unit) :=
  [.call (.openReceiver 1 ⟨0, 0, 0, 0⟩), .call (.openReceiver 0 ⟨0, 0, 0, 0⟩),
    .call (.tuneTerrestrialHz ⟨0, .terrestrial, 473142857, 0, [0, 0], 1000⟩),
    .call (.attach () {}), .call (.startDevice ⟨0, 0, 0, 0⟩), .call (.closeReceiver 0),
    .call (.detach { meanwhile := [.workerPop 0] }), .call (.openReceiver 0 ⟨0, 0, 0, 0⟩),
    .call (.tuneTerrestrialHz ⟨0, .terrestrial, 527142857, 0, [], 2000⟩)]

/-- A device that is there when the daemon asks again. -/
def startTwice : List (Action Unit) :=
  [.call (.startDevice ⟨0, -Errno.nodev, 0, 0⟩), .call (.startDevice ⟨0, 0, 0, 0⟩)]

theorem device_held_once_leased :
    ∃ family after, run next (construct [0x100, 0x2000]) startTwice = some family ∧
      run next family leases = some after ∧ family.sessions = 2 ∧ after.sessions = 2 ∧
      after.system.closings = family.system.closings := by
  have evaluated : (run next (construct [0x100, 0x2000]) startTwice).any (fun family =>
      family.deviceStarted && decide (family.sessions = 2) &&
        (run next family leases).isSome) = true := by
    decide +kernel
  obtain ⟨family, ran, checked⟩ := (Option.any_eq_true _ _).mp evaluated
  simp only [Bool.and_eq_true, decide_eq_true_eq] at checked
  obtain ⟨⟨started, two⟩, some⟩ := checked
  obtain ⟨after, later⟩ := Option.isSome_iff_exists.mp some
  obtain ⟨-, sessions, closings, -, -⟩ := device_held_once [0x100, 0x2000] ran started later
  exact ⟨family, after, ran, later, two, sessions.trans two, closings⟩

/-! ## The filters of the session -/

theorem attach_adapter (system : System ι) (identity : ι) (stages : StartStages) :
    (system.attach identity stages).2.adapter = system.adapter ∨
      ∃ step, PidFilters.next system.adapter step =
        some (system.attach identity stages).2.adapter := by
  unfold System.attach
  split
  · exact .inl rfl
  · exact .inr ⟨.attach (system.consumer.start identity stages).1, rfl⟩

/-- To its adapter a call of a family that holds its device is one of those calls that keep to
the session, or nothing. -/
theorem next_adapter (held : action.claims = true → family.deviceStarted = true)
    (taken : next family action = some after) :
    after.system.adapter = family.system.adapter ∨
      ∃ step, PidFilters.next family.system.adapter step = some after.system.adapter := by
  cases action with
  | elsewhere event =>
    cases taken
    exact .inl rfl
  | call call =>
    obtain ⟨⟨result, last⟩, performed, rfl⟩ := Option.map_eq_some_iff.mp taken
    cases call with
    | startDevice stages =>
      simp only [SianoFamily.perform, SianoFamily.startDevice, if_pos (held rfl)] at performed
      cases performed
      exact .inl rfl
    | openReceiver receiver stages =>
      simp only [SianoFamily.perform, SianoFamily.openReceiver, if_pos (held rfl)] at performed
      cases performed
      exact .inl rfl
    | closeReceiver receiver =>
      simp only [SianoFamily.perform, SianoFamily.closeReceiver, if_pos (held rfl)] at performed
      cases performed
      exact .inl rfl
    | tuneTerrestrialHz program =>
      cases performed
      exact .inr ⟨.programHz { program with system := .terrestrial }, rfl⟩
    | attach identity stages =>
      cases performed
      exact attach_adapter family.system identity stages
    | detach stages =>
      obtain ⟨⟨stopped, system⟩, detached, same⟩ := Option.map_eq_some_iff.mp performed
      cases same
      unfold System.detach at detached
      split at detached
      · cases detached
        exact .inl rfl
      · obtain ⟨⟨answer, consumer⟩, -, same⟩ := Option.map_eq_some_iff.mp detached
        cases same
        exact .inr ⟨.detach answer consumer.quiesced, rfl⟩
    | stopCapture receiver system stages =>
      obtain ⟨⟨stopped, rest⟩, stops, same⟩ := Option.map_eq_some_iff.mp performed
      cases same
      unfold System.stopCapture at stops
      split at stops
      · cases stops
        exact .inl rfl
      · obtain ⟨⟨answer, consumer⟩, -, same⟩ := Option.map_eq_some_iff.mp stops
        cases same
        exact .inr ⟨.stopCapture receiver system answer consumer.quiesced, rfl⟩
    | beginTunePower | commitTunePower | rollbackTunePower | markReceiverDisconnected
    | startCapture | shutdown | unsupported =>
      cases performed
      exact .inl rfl

/-- In a session whose open found the filters unsent, every call is allowed. -/
theorem allowed_fresh (fresh : adapter.sentBefore = false) (step : PidFilters.Action) :
    PidFilters.allowed adapter step = true := by
  cases step with
  | programHz program => simp [PidFilters.allowed, fresh]
  | _ => rfl

/-- The filters of a session that began without any. -/
structure Fresh (family : SianoFamily ι) : Prop where
  started : family.deviceStarted = true
  sentBefore : family.system.adapter.sentBefore = false
  sound : PidFilters.Sound family.system.adapter
  filtered : PidFilters.Filtered family.system.adapter

theorem next_fresh (fresh : Fresh family) (taken : next family action = some after) :
    Fresh after := by
  have holds := next_holds (fun _ => fresh.started) taken
  have kept : PidFilters.Sound after.system.adapter ∧
      PidFilters.Filtered after.system.adapter := by
    rcases next_adapter (fun _ => fresh.started) taken with same | ⟨step, stepped⟩
    · rw [same]
      exact ⟨fresh.sound, fresh.filtered⟩
    · obtain ⟨sound, filtered⟩ := PidFilters.next_sound fresh.sound stepped
      exact ⟨sound, filtered.mpr ⟨fresh.filtered, allowed_fresh fresh.sentBefore step⟩⟩
  exact ⟨holds.deviceStarted.trans fresh.started, holds.leased.sentBefore.trans fresh.sentBefore,
    kept.1, kept.2⟩

theorem openDevice_adapter (system : System ι) (receiver : Nat)
    (stages : ReceiverAdapter.OpenStages) :
    (system.openDevice receiver stages).2.adapter =
      (system.adapter.openDevice receiver stages).2 := by
  unfold System.openDevice
  dsimp only
  split
  · rfl
  · split <;> rfl

theorem openDevice_pids (adapter : ReceiverAdapter) (receiver : Nat)
    (stages : ReceiverAdapter.OpenStages) :
    (adapter.openDevice receiver stages).2.pids = adapter.pids := by
  unfold ReceiverAdapter.openDevice
  split
  · rfl
  split
  · rfl
  split
  · rfl
  split <;> rfl

/-- A first start that succeeds. -/
theorem startDevice_fresh (pids : List UInt16) (stages : ReceiverAdapter.OpenStages)
    (starts : (construct (ι := ι) pids).startDevice stages = (.ok (), family)) :
    Fresh family ∧ family.system.adapter.pids = pids.take 64 := by
  obtain ⟨-, sent⟩ := startDevice_booked (construct_booked pids) rfl starts
  simp only [SianoFamily.startDevice, construct, Bool.false_eq_true, ↓reduceIte] at starts
  split at starts
  · cases starts
  · rename_i opened opens
    have same : (ReceiverAdapter.openDevice _ 0 stages).2 = opened.system.adapter :=
      (openDevice_adapter (start (ι := ι) 0 (pids.take 64)) 0 stages).symm.trans
        (congrArg (System.adapter ∘ SianoFamily.system ∘ Prod.snd) opens)
    obtain ⟨sound, filtered⟩ : PidFilters.Sound (ReceiverAdapter.openDevice _ 0 stages).2 ∧ _ :=
      PidFilters.openDevice_sound (PidFilters.start_sound 0 (pids.take 64))
    have listed : opened.system.adapter.pids = pids.take 64 := by
      rw [← same]
      exact openDevice_pids _ 0 stages
    cases starts
    refine ⟨⟨rfl, sent rfl, ?_, ?_⟩, listed⟩
    · exact same ▸ sound
    · exact same ▸ filtered.mpr (by simp [PidFilters.Filtered])

/-- **A daemon never tunes without its filters.** The device is opened before any client can
tune and not opened again, so the flag that outlives a `close` of the adapter never finds a
second session: every success of a tune found the filters of the configuration, at most 64 of
them, sent completely and in order in the session of the device. -/
theorem daemon_filters_sent (pids : List UInt16) (stages : ReceiverAdapter.OpenStages)
    (starts : (construct (ι := ι) pids).startDevice stages = (.ok (), family))
    (ran : run next family actions = some after) :
    after.system.adapter.pids = pids.take 64 ∧ PidFilters.Filtered after.system.adapter := by
  obtain ⟨fresh, configured⟩ := startDevice_fresh pids stages starts
  have holds := run_holds fresh.started ran
  exact ⟨holds.leased.pids.trans configured,
    (run_keeps Fresh (fun _ _ _ => next_fresh) fresh ran).filtered⟩

theorem daemon_filters_sent_leased :
    ∃ family after, (construct [0x100, 0x2000]).startDevice ⟨0, 0, 0, 0⟩ = (.ok (), family) ∧
      run next family leases = some after ∧ after.system.adapter.programmed.length = 2 ∧
      PidFilters.Filtered after.system.adapter := by
  have evaluated : (run next ((construct [0x100, 0x2000]).startDevice ⟨0, 0, 0, 0⟩).2 leases).any
      (fun after => decide (after.system.adapter.programmed.length = 2)) = true := by
    decide +kernel
  obtain ⟨after, ran, two⟩ := (Option.any_eq_true _ _).mp evaluated
  exact ⟨_, after, rfl, ran, of_decide_eq_true two,
    (daemon_filters_sent [0x100, 0x2000] ⟨0, 0, 0, 0⟩ rfl ran).2⟩

/-! ## The end of the daemon -/

/-- How a destructor ends. -/
inductive Ending (ι : Type) where
  /-- With what was closed by the time of `libusb_exit`. -/
  | destroyed (closedAtExit : Nat) (system : System ι)
  /-- By `std::terminate`. -/
  | terminated

/-- `~ReceiverAdapter`; nothing is left of a process that it terminates. -/
def destroyAdapter (system : System ι) : Option (System ι) :=
  if system.adapter.opened then
    match system.close system.adapter.receiver with
    | (.ok (), closed) => some closed
    | (.error _, _) => none
  else if system.adapter.initialized then
    some { system with consumer := { system.consumer with tsInitialized := false } }
  else some system

/-- `~Consumer`, after the adapter. -/
def destroyConsumer (closedAtExit : Nat) (system : System ι) (stages : StopStages) :
    Option (Ending ι) :=
  if system.consumer.host.isNone then some (.destroyed closedAtExit system)
  else (system.consumer.stop stages).map fun (stopped, consumer) =>
    match stopped with
    | .ok () => .destroyed closedAtExit { system with consumer := consumer }
    | .error _ => .terminated

/-- `~SianoFamily`: its body, which ends with `libusb_exit`, and then its members. `stages` is
what its `detach` meets, `later` what a stop in `~Consumer` would. -/
def SianoFamily.destroy (family : SianoFamily ι) (stages later : StopStages) :
    Option (Ending ι) :=
  (family.system.detach stages).bind fun (_, detached) =>
    let closed := (detached.close 0).2
    match destroyAdapter closed with
    | some system => destroyConsumer closed.closings.length system later
    | none => some .terminated

/-- `siano_capture_host_stop` leaves a worker started exactly when it could not join it. -/
theorem hostStop_joined {consumer rest : Consumer ι} {handle joined : CaptureHandle}
    {stages : StopStages} (started : handle.workerStarted = true)
    (stop : consumer.hostStop handle stages = some (rc, joined, rest)) :
    joined.workerStarted = true ↔ stages.joined ≠ 0 := by
  simp only [Consumer.hostStop, started, Bool.true_eq_false, ↓reduceIte] at stop
  split at stop
  · rename_i unjoined
    cases stop
    simp [started, unjoined]
  · rename_i left
    split at stop
    · split at stop
      · cases stop
      · cases stop
        simpa using left
    · cases stop

/-- A stop of a capture gives up its host exactly when the worker is joined. -/
theorem stop_joined {consumer stopped : Consumer ι} {stages : StopStages}
    (sound : consumer.Sound) (hosted : consumer.host.isSome = true)
    (stops : consumer.stop stages = some (result, stopped)) :
    stopped.host.isSome = true ↔ stages.joined ≠ 0 := by
  obtain ⟨host, atHost⟩ := Option.isSome_iff_exists.mp hosted
  obtain ⟨run, atRun⟩ := Option.isSome_iff_exists.mp (sound.paired.trans hosted)
  obtain ⟨handle, named, started⟩ := sound.handle host atHost
  simp only [Consumer.stop, atHost, atRun, named] at stops
  obtain ⟨⟨rc, joined, rest⟩, stop, same⟩ := Option.map_eq_some_iff.mp stops
  rw [← hostStop_joined started stop]
  simp only at same
  split at same
  · rename_i unjoined
    cases same
    simp [unjoined]
  · rename_i gone
    split at same
    · cases same
      simp [gone]
    · cases same
      simp [gone]

theorem detach_joined {stages : StopStages} (invariant : Invariant system)
    (detached : system.detach stages = some (result, moved)) :
    moved.adapter.streamAttached = true ↔
      system.adapter.streamAttached = true ∧ stages.joined ≠ 0 := by
  have hosted := (detach_invariant invariant stages detached).host
  unfold System.detach at detached
  split at detached
  · rename_i idle
    cases detached
    simp [idle]
  · rename_i attached
    simp only [Bool.not_eq_false] at attached
    obtain ⟨⟨stopped, consumer⟩, stop, same⟩ := Option.map_eq_some_iff.mp detached
    have joined := stop_joined invariant.sound (invariant.host.trans attached) stop
    have left : moved.consumer = consumer := congrArg (System.consumer ∘ Prod.snd) same.symm
    rw [← hosted, left, joined]
    simp [attached]

/-- Closing an adapter that is not attached ends the session there is. -/
theorem close_detached (detached : system.adapter.streamAttached = false)
    (own : system.adapter.receiver = 0)
    (booked : system.adapter.initialized = system.adapter.opened) :
    (system.close 0).2.adapter.opened = false ∧ (system.close 0).2.adapter.initialized = false ∧
      (system.close 0).2.adapter.streamAttached = false ∧
      (system.close 0).2.closings.length =
        system.closings.length + system.adapter.opened.toNat := by
  simp only [System.close, ReceiverAdapter.close, own, ne_eq, not_true_eq_false, ↓reduceIte,
    detached, Bool.false_eq_true, false_or]
  cases opened : system.adapter.opened with
  | false =>
    simp only [booked, opened, ↓reduceIte]
    exact ⟨trivial, trivial, detached, rfl⟩
  | true =>
    simp only [booked, opened, Bool.true_eq_false, ↓reduceIte]
    refine ⟨trivial, trivial, trivial, ?_⟩
    simp [System.closeDevice]

/-- **The daemon leaves no session open.** However it ran before, the destructor of the family
ends the process by `std::terminate` exactly when a capture is attached and its worker cannot be
joined. Otherwise every session that was ever begun has been closed once, before `libusb_exit`
and never under a running worker, and no worker is left. -/
theorem sessions_closed_once (pids : List UInt16)
    (ran : run next (construct pids) actions = some family)
    (ends : family.destroy stages later = some ending) :
    (ending = .terminated ↔
      family.system.adapter.streamAttached = true ∧ stages.joined ≠ 0) ∧
    ∀ closedAtExit system, ending = .destroyed closedAtExit system →
      closedAtExit = family.sessions ∧ system.closings = List.replicate family.sessions false ∧
      system.adapter.opened = false ∧ workerRunning system.consumer = false := by
  have booked := run_booked pids ran
  obtain ⟨⟨result, detached⟩, detach, rest⟩ := Option.bind_eq_some_iff.mp ends
  have leased := detach_leased detach
  have lifecycle := detach_invariant booked.lifecycle stages detach
  have joined := detach_joined booked.lifecycle detach
  have own : detached.adapter.receiver = 0 := leased.receiver.trans booked.receiver
  have paired : detached.adapter.initialized = detached.adapter.opened := by
    rw [leased.initialized, leased.opened, booked.initialized]
  cases attached : detached.adapter.streamAttached with
  | true =>
    -- Both closes are refused, that of the family and that of its adapter's destructor.
    have refused : detached.close 0 = (.error .busy, detached) := by
      simp [System.close, ReceiverAdapter.close, own, attached]
    have terminates : destroyAdapter detached = none := by
      simp [destroyAdapter, lifecycle.opened attached, own, refused]
    simp only [refused, terminates, Option.some.injEq] at rest
    refine ⟨iff_of_true rest.symm (joined.mp attached), ?_⟩
    rintro closedAtExit system same
    rw [same] at rest
    cases rest
  | false =>
    obtain ⟨gone, cleared, idle, closings⟩ := close_detached attached own paired
    have after := close_invariant lifecycle 0
    have hostless := idle_of_detached after idle
    have kept : destroyAdapter (detached.close 0).2 = some (detached.close 0).2 := by
      simp [destroyAdapter, gone, cleared]
    simp only [kept, destroyConsumer, hostless, Option.isNone_none, ↓reduceIte,
      Option.some.injEq] at rest
    have closed : (detached.close 0).2.closings.length = family.sessions := by
      rw [closings, leased.closings, leased.opened, booked.sessions]
    refine ⟨iff_of_false (fun same => ?_) (fun both => ?_), ?_⟩
    · rw [same] at rest
      cases rest
    · have still := joined.mpr both
      rw [attached] at still
      cases still
    · rintro closedAtExit system same
      rw [same] at rest
      cases rest
      exact ⟨closed, List.eq_replicate_iff.mpr ⟨closed, after.closings⟩, gone,
        workerRunning_idle after hostless⟩

/-- The daemon ends in the middle of a capture, and joins its worker. -/
theorem sessions_closed_once_capturing :
    ∃ family ending, run next (construct [0x100]) (startTwice ++ [.call (.attach () {})]) =
        some family ∧ family.destroy { meanwhile := [.workerPop 0] } {} = some ending ∧
      ending ≠ .terminated ∧ ∀ closedAtExit system,
        ending = .destroyed closedAtExit system → system.closings = [false, false] := by
  have evaluated : (run next (construct [0x100]) (startTwice ++ [.call (.attach () {})])).any
      (fun family => decide (family.sessions = 2) &&
        (family.destroy { meanwhile := [.workerPop 0] } {}).isSome) = true := by
    decide +kernel
  obtain ⟨family, ran, checked⟩ := (Option.any_eq_true _ _).mp evaluated
  simp only [Bool.and_eq_true, decide_eq_true_eq] at checked
  obtain ⟨two, some⟩ := checked
  obtain ⟨ending, ends⟩ := Option.isSome_iff_exists.mp some
  obtain ⟨terminates, closes⟩ := sessions_closed_once [0x100] ran ends
  refine ⟨family, ending, ran, ends, fun same => (terminates.mp same).2 rfl, ?_⟩
  intro closedAtExit system same
  rw [(closes closedAtExit system same).2.1, two]
  rfl

end SianoUserland.RuntimeFamily
