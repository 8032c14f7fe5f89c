import SianoUserland.CaptureConsumer
import SianoUserland.Lib.Transition

/-! The adapter with its consumer, its device and the workers: four layers that each
keep a flag of their own. Whatever fails at whatever stage, the flags agree again
after the call, and the device is never closed under a worker. -/
namespace SianoUserland.AdapterLifecycle
open Transition

variable {ι : Type}

/-- One adapter, the only user of its consumer. -/
structure System (ι : Type) where
  adapter : ReceiverAdapter
  consumer : Consumer ι
  /-- For each execution of `close_device`, whether a capture worker was running. -/
  closings : List Bool := []

/-- A capture worker has not left its loop. -/
def workerRunning (consumer : Consumer ι) : Bool := consumer.workers.any (·.running)

/-- The device of an adapter that has never been opened: all zero. -/
def start (receiver : Nat) (pids : List UInt16) : System ι :=
  { adapter := { receiver := receiver, pids := pids }
    consumer := { queue := .init false } }

namespace System

/-- `close_device`, as far as the queue is concerned. -/
def closeDevice (system : System ι) : System ι :=
  { system with
    consumer := { system.consumer with
      queue := if system.consumer.tsInitialized then system.consumer.queue.close
        else system.consumer.queue
      tsInitialized := false }
    closings := system.closings ++ [workerRunning system.consumer] }

/-- `init_device_state_capture` clears the device; its capture is disabled. -/
def initDeviceState (system : System ι) (rc : Int) : System ι :=
  { system with consumer := { system.consumer with
      queue := .init false
      tsInitialized := rc = 0 } }

/-- `ReceiverAdapter::open`. -/
def openDevice (system : System ι) (receiver : Nat) (stages : ReceiverAdapter.OpenStages) :
    Except Error Unit × System ι :=
  let (result, adapter) := system.adapter.openDevice receiver stages
  if receiver ≠ system.adapter.receiver ∨ system.adapter.opened then
    (result, { system with adapter := adapter })
  else
    let initialised := system.initDeviceState stages.initDeviceState
    if stages.initDeviceState = 0 ∧ stages.rc ≠ 0 then
      (result, { initialised.closeDevice with adapter := adapter })
    else (result, { initialised with adapter := adapter })

/-- `ReceiverAdapter::close`. -/
def close (system : System ι) (receiver : Nat) : Except Error Unit × System ι :=
  let (result, adapter) := system.adapter.close receiver
  if receiver ≠ system.adapter.receiver ∨ system.adapter.streamAttached ∨
      system.adapter.initialized = false then
    (result, { system with adapter := adapter })
  else (result, { system.closeDevice with adapter := adapter })

/-- `ReceiverAdapter::attach`. -/
def attach (system : System ι) (identity : ι) (stages : StartStages) :
    Except Error Unit × System ι :=
  if system.adapter.opened = false ∨ system.adapter.streamAttached then (.error .busy, system)
  else
    let (started, consumer) := system.consumer.start identity stages
    let (result, adapter) := system.adapter.attach started
    (result, { system with adapter := adapter, consumer := consumer })

/-- `ReceiverAdapter::detach`; there is no result while the join waits. -/
def detach (system : System ι) (stages : StopStages) : Option (Except Error Unit × System ι) :=
  if system.adapter.streamAttached = false then some (.ok (), system)
  else
    (system.consumer.stop stages).map fun (stopped, consumer) =>
      let (result, adapter) := system.adapter.detach stopped consumer.quiesced
      (result, { system with adapter := adapter, consumer := consumer })

/-- `ReceiverAdapter::stop_capture`. -/
def stopCapture (system : System ι) (receiver : Nat) (receiverSystem : ReceiverSystem)
    (stages : StopStages) : Option (Except Error Unit × System ι) :=
  if receiver ≠ system.adapter.receiver ∨ receiverSystem ≠ .terrestrial then
    some (.error .invalidArgument, system)
  else
    (system.consumer.stop stages).map fun (stopped, consumer) =>
      let (result, adapter) :=
        system.adapter.stopCapture receiver receiverSystem stopped consumer.quiesced
      (result, { system with adapter := adapter, consumer := consumer })

end System

/-- A call of the adapter. -/
inductive Call (ι : Type) where
  | openDevice (receiver : Nat) (stages : ReceiverAdapter.OpenStages)
  | attach (identity : ι) (stages : StartStages)
  | detach (stages : StopStages)
  | stopCapture (receiver : Nat) (receiverSystem : ReceiverSystem) (stages : StopStages)
  | close (receiver : Nat)
  | shutdown

/-- What a call returns and leaves. -/
def System.perform (system : System ι) : Call ι → Option (Except Error Unit × System ι)
  | .openDevice receiver stages => some (system.openDevice receiver stages)
  | .attach identity stages => some (system.attach identity stages)
  | .detach stages => system.detach stages
  | .stopCapture receiver receiverSystem stages =>
    system.stopCapture receiver receiverSystem stages
  | .close receiver => some (system.close receiver)
  | .shutdown => some (system.adapter.shutdown, system)

/-- A call, or a step of another thread between two calls. -/
inductive Action (ι : Type) where
  | call (call : Call ι)
  | elsewhere (event : Elsewhere)

def next (system : System ι) : Action ι → Option (System ι)
  | .call call => (system.perform call).map Prod.snd
  | .elsewhere event => some { system with consumer := system.consumer.elsewhere event }

/-- The flags of the four layers agree, and the device was never closed under a
worker. -/
structure Consistent (system : System ι) : Prop where
  opened : system.adapter.streamAttached = true → system.adapter.opened = true
  initialized : system.adapter.opened = true → system.adapter.initialized = true
  host : system.consumer.host.isSome = system.adapter.streamAttached
  run : system.consumer.run.isSome = system.adapter.streamAttached
  enabled : system.consumer.queue.captureEnabled = true → system.consumer.host.isSome = true
  closings : ∀ running ∈ system.closings, running = false

/-- A failed start leaves these as they were. -/
structure Untouched (before after : System ι) : Prop where
  host : after.consumer.host = before.consumer.host
  run : after.consumer.run = before.consumer.run
  enabled : after.consumer.queue.captureEnabled = before.consumer.queue.captureEnabled
  attached : after.adapter.streamAttached = before.adapter.streamAttached

/-- The invariant between two calls. -/
structure Invariant (system : System ι) : Prop where
  sound : system.consumer.Sound
  opened : system.adapter.streamAttached = true → system.adapter.opened = true
  initialized : system.adapter.opened = true → system.adapter.initialized = true
  host : system.consumer.host.isSome = system.adapter.streamAttached
  closings : ∀ running ∈ system.closings, running = false

theorem consistent_of_invariant {system : System ι} (invariant : Invariant system) :
    Consistent system :=
  ⟨invariant.opened, invariant.initialized, invariant.host,
    invariant.sound.paired.trans invariant.host, invariant.sound.enabled, invariant.closings⟩

variable {system after : System ι}

theorem start_invariant (receiver : Nat) (pids : List UInt16) :
    Invariant (start (ι := ι) receiver pids) := by
  refine ⟨⟨rfl, nofun, nofun, ?_⟩, nofun, nofun, rfl, nofun⟩
  rintro index ⟨worker, place, -⟩
  simp [start] at place

/-- An adapter that is not attached has no host, and so no worker. -/
theorem idle_of_detached (invariant : Invariant system)
    (detached : system.adapter.streamAttached = false) : system.consumer.host = none := by
  have none := invariant.host
  rw [detached] at none
  simpa using none

theorem workerRunning_idle (invariant : Invariant system)
    (idle : system.consumer.host = none) : workerRunning system.consumer = false := by
  obtain ⟨-, -, quiet⟩ := Consumer.sound_idle invariant.sound idle
  rw [workerRunning, List.any_eq_false]
  intro worker member running
  obtain ⟨index, place⟩ := List.mem_iff_getElem?.mp member
  exact quiet index ⟨worker, place, running⟩

/-- Closing the device of an adapter that is not attached. -/
theorem closeDevice_invariant (invariant : Invariant system)
    (idle : system.consumer.host = none) (adapter : ReceiverAdapter)
    (closed : adapter.streamAttached = false ∧ adapter.opened = false) :
    Invariant { system.closeDevice with adapter := adapter } := by
  obtain ⟨noRun, disabled, quiet⟩ := Consumer.sound_idle invariant.sound idle
  refine ⟨⟨by simp [System.closeDevice, idle, noRun], ?_, ?_, ?_⟩, by simp [closed],
    by simp [closed], by simp [System.closeDevice, idle, closed], ?_⟩
  · simp [System.closeDevice, idle]
  · simp only [System.closeDevice]
    split
    · simp [TsQueue.close, disabled]
    · simp [disabled]
  · intro index running
    exact absurd running (quiet index)
  · intro running member
    rcases List.mem_append.mp member with old | new
    · exact invariant.closings running old
    · rw [List.mem_singleton.mp new]
      exact workerRunning_idle invariant idle

/-- Clearing the device of an adapter that is not attached. -/
theorem initDeviceState_invariant (invariant : Invariant system)
    (idle : system.consumer.host = none) (rc : Int) : Invariant (system.initDeviceState rc) := by
  obtain ⟨noRun, -, quiet⟩ := Consumer.sound_idle invariant.sound idle
  exact ⟨⟨invariant.sound.paired, invariant.sound.handle, nofun, fun index running =>
    absurd running (quiet index)⟩, invariant.opened, invariant.initialized, invariant.host,
    invariant.closings⟩

theorem detached_of_unopened (invariant : Invariant system)
    (unopened : system.adapter.opened = false) : system.adapter.streamAttached = false := by
  cases attached : system.adapter.streamAttached with
  | false => rfl
  | true => rw [invariant.opened attached] at unopened; cases unopened

theorem openDevice_invariant (invariant : Invariant system) (receiver : Nat)
    (stages : ReceiverAdapter.OpenStages) :
    Invariant (system.openDevice receiver stages).2 := by
  unfold System.openDevice ReceiverAdapter.openDevice
  by_cases other : receiver ≠ system.adapter.receiver
  · simpa [other] using invariant
  cases opened : system.adapter.opened with
  | true => simpa [opened, other] using invariant
  | false =>
    have detached := detached_of_unopened invariant opened
    have idle := idle_of_detached invariant detached
    have cleared := initDeviceState_invariant invariant idle stages.initDeviceState
    by_cases uninitialised : stages.initDeviceState ≠ 0
    · simp only [other, uninitialised, Bool.false_eq_true, or_false, ↓reduceIte, false_and,
        ne_eq, not_false_eq_true]
      exact cleared
    by_cases failed : stages.rc ≠ 0
    · simp only [other, uninitialised, failed, Bool.false_eq_true, or_false, ↓reduceIte,
        and_true, not_false_eq_true, ne_eq]
      simp only [ne_eq, Decidable.not_not] at uninitialised
      rw [if_pos uninitialised]
      exact closeDevice_invariant cleared idle _ ⟨detached, rfl⟩
    · simp only [other, uninitialised, failed, Bool.false_eq_true, or_false, ↓reduceIte,
        and_false]
      refine ⟨cleared.sound, fun _ => rfl, fun _ => rfl, ?_, cleared.closings⟩
      rw [cleared.host]
      rfl

theorem close_invariant (invariant : Invariant system) (receiver : Nat) :
    Invariant (system.close receiver).2 := by
  unfold System.close ReceiverAdapter.close
  by_cases other : receiver ≠ system.adapter.receiver
  · simpa [other] using invariant
  cases attached : system.adapter.streamAttached with
  | true => simpa [attached, other] using invariant
  | false =>
    cases initialized : system.adapter.initialized with
    | false => simpa [attached, other, initialized] using invariant
    | true =>
      simp only [other, Bool.false_eq_true, Bool.true_eq_false, or_self, ↓reduceIte]
      exact closeDevice_invariant invariant (idle_of_detached invariant attached) _ ⟨rfl, rfl⟩

theorem attach_invariant (invariant : Invariant system) (identity : ι) (stages : StartStages) :
    Invariant (system.attach identity stages).2 ∧
      ((system.attach identity stages).1 ≠ .ok () →
        Untouched system (system.attach identity stages).2) := by
  unfold System.attach ReceiverAdapter.attach
  split
  · exact ⟨invariant, fun _ => ⟨rfl, rfl, rfl, rfl⟩⟩
  · rename_i free
    have started := Consumer.start_spec invariant.sound identity stages
    rcases call : system.consumer.start identity stages with ⟨result, consumer⟩
    rw [call] at started
    simp only
    cases result with
    | error error =>
      obtain ⟨host, run, enabled⟩ := started.failed nofun
      refine ⟨⟨started.sound, invariant.opened, invariant.initialized, ?_, invariant.closings⟩,
        fun _ => ⟨host, run, enabled, rfl⟩⟩
      exact host ▸ invariant.host
    | ok =>
      have opened : system.adapter.opened = true := by simpa using (not_or.mp free).1
      exact ⟨⟨started.sound, fun _ => opened, invariant.initialized, started.succeeded rfl,
        invariant.closings⟩, fun no => absurd rfl no⟩

/-- Both calls that stop a capture end in the same way. -/
theorem stopped_invariant (invariant : Invariant system) (stages : StopStages)
    (stopped : system.consumer.stop stages = some (result, consumer)) :
    Invariant { system with
      adapter := (system.adapter.stopConsumer result consumer.quiesced).2
      consumer := consumer } := by
  obtain ⟨sound, quiesced, earlier⟩ := Consumer.stop_spec invariant.sound stages stopped
  unfold ReceiverAdapter.stopConsumer
  cases host : consumer.host with
  | none =>
    rw [quiesced, host]
    exact ⟨sound, nofun, invariant.initialized, by simp [host], invariant.closings⟩
  | some own =>
    rw [quiesced, host]
    refine ⟨sound, invariant.opened, invariant.initialized, ?_, invariant.closings⟩
    have attached := invariant.host.symm.trans (earlier (by simp [host]))
    simp [host, attached]

theorem detach_invariant (invariant : Invariant system) (stages : StopStages)
    (detached : system.detach stages = some (result, after)) : Invariant after := by
  unfold System.detach at detached
  split at detached
  · cases detached
    exact invariant
  · rename_i attached
    obtain ⟨⟨stopped, consumer⟩, stop, same⟩ := Option.map_eq_some_iff.mp detached
    simp only [ReceiverAdapter.detach, if_neg attached] at same
    cases same
    exact stopped_invariant invariant stages stop

theorem stopCapture_invariant (invariant : Invariant system) (receiver : Nat)
    (receiverSystem : ReceiverSystem) (stages : StopStages)
    (stops : system.stopCapture receiver receiverSystem stages = some (result, after)) :
    Invariant after := by
  unfold System.stopCapture at stops
  split at stops
  · cases stops
    exact invariant
  · rename_i supported
    obtain ⟨⟨stopped, consumer⟩, stop, same⟩ := Option.map_eq_some_iff.mp stops
    simp only [ReceiverAdapter.stopCapture, if_neg supported] at same
    cases same
    exact stopped_invariant invariant stages stop

theorem next_invariant (invariant : Invariant system) (taken : next system action = some after) :
    Invariant after := by
  cases action with
  | elsewhere event =>
    cases taken
    have elapsed := Consumer.elapsed_elsewhere system.consumer event
    exact ⟨Consumer.sound_elapsed invariant.sound elapsed, invariant.opened,
      invariant.initialized, elapsed.host ▸ invariant.host, invariant.closings⟩
  | call call =>
    obtain ⟨⟨result, last⟩, performed, rfl⟩ := Option.map_eq_some_iff.mp taken
    cases call with
    | openDevice receiver stages =>
      have returned := congrArg Prod.snd (Option.some.inj performed)
      exact returned ▸ openDevice_invariant invariant receiver stages
    | attach identity stages =>
      have returned := congrArg Prod.snd (Option.some.inj performed)
      exact returned ▸ (attach_invariant invariant identity stages).1
    | detach stages => exact detach_invariant invariant stages performed
    | stopCapture receiver receiverSystem stages =>
      exact stopCapture_invariant invariant receiver receiverSystem stages performed
    | close receiver =>
      have returned := congrArg Prod.snd (Option.some.inj performed)
      exact returned ▸ close_invariant invariant receiver
    | shutdown =>
      cases performed
      exact invariant

/-- **The flags of the adapter, its consumer, the host and the queue agree.** After
every sequence of calls, whatever failed in them and whatever other threads did, the
stream is attached only to an open device and exactly when the consumer has its host
and its run, the capture is enabled only with a host, and `close_device` never ran
while a capture worker was running. A start that fails leaves no trace in any of
them. -/
theorem lifecycle_consistent (receiver : Nat) (pids : List UInt16)
    (ran : run next (start receiver pids) actions = some system) :
    Consistent system ∧
      ∀ (identity : ι) (stages : StartStages), (system.attach identity stages).1 ≠ .ok () →
        Untouched system (system.attach identity stages).2 := by
  have invariant := run_keeps Invariant (fun _ _ _ => next_invariant)
    (start_invariant receiver pids) ran
  exact ⟨consistent_of_invariant invariant,
    fun identity stages => (attach_invariant invariant identity stages).2⟩

/-- No thread for the first capture, and no join for the second until it is stopped
again. -/
def failingCalls : List (Action Unit) :=
  [.call (.openDevice 0 ⟨0, 0, 0, 0⟩), .call (.attach () { created := Errno.again }),
    .call (.attach () {}), .call (.detach { joined := Errno.inval }), .call (.close 0),
    .call (.detach { meanwhile := [.workerPop 0] }), .call (.close 0)]

/-- The device is closed once, after the worker has left. -/
theorem lifecycle_consistent_failing :
    ∃ system, run next (start 0 []) failingCalls = some system ∧
      system.consumer.workers.length = 1 ∧ system.closings = [false] ∧ Consistent system := by
  have evaluated : (run next (start 0 []) failingCalls).any (fun system =>
      system.consumer.workers.length = 1 ∧ system.closings = [false]) = true := by
    decide +kernel
  obtain ⟨system, ran, checked⟩ := (Option.any_eq_true _ _).mp evaluated
  obtain ⟨created, closings⟩ := of_decide_eq_true checked
  exact ⟨system, ran, created, closings, (lifecycle_consistent 0 [] ran).1⟩

end SianoUserland.AdapterLifecycle
