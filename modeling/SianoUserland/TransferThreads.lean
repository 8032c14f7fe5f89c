import Mathlib.Logic.Function.Basic
import SianoUserland.Errno
import SianoUserland.Lib.Transition
import SianoUserland.StreamState

/-! The threads that share `state.mutex`: `start_streaming`, `stop_streaming`,
`event_thread_main`, the callbacks and the `fail_streaming` calls they make. A
critical section in which nothing is handed to libusb is one step, taken while
the mutex is free. A section that submits holds the mutex over several steps,
since libusb may run the callback before the submitter has counted it. -/
namespace SianoUserland.TransferThreads
open Libusb Transition

/-- One successful `libusb_submit_transfer`; `slot` is the index of the transfer. -/
structure Submission where
  slot : Nat
  serial : Nat
  deriving Repr, DecidableEq

/-- Where a call of `cancel_transfers` stands: before it copies the table, or with
the transfers of its copy it has still to cancel. -/
inductive Cancel where
  | copy
  | each (transfers : List Nat)
  deriving Repr, DecidableEq

/-- Where a call of `fail_streaming` stands. -/
inductive Fail where
  | state (error : Int)
  | close
  | cancel (position : Cancel)
  deriving Repr, DecidableEq

/-- Where a thread that holds the mutex stands with its `libusb_submit_transfer`. -/
inductive Submit where
  | calling
  | counting
  | refused (rc : Int)
  deriving Repr, DecidableEq

/-- Where `start_streaming` stands. -/
inductive Start where
  | create
  | created
  | allocate (index : Nat)
  | lock (index : Nat)
  | submit (index : Nat) (position : Submit)
  | returned (rc : Int)
  deriving Repr, DecidableEq

/-- Where a run of `transfer_callback` stands. -/
inductive Callback where
  | entered
  | classified (action : TransferAction)
  | handled
  | submit (position : Submit)
  | fail (position : Fail)
  | returned
  deriving Repr, DecidableEq

/-- Where `event_thread_main` stands. -/
inductive Event where
  | check
  | handle
  | fail (position : Fail)
  | exited
  deriving Repr, DecidableEq

/-- Where `stop_streaming` stands. -/
inductive Stop where
  | state
  | cancel (position : Cancel)
  | join
  | free
  | returned
  deriving Repr, DecidableEq

inductive Thread where
  | start (position : Start)
  | callback (slot : Nat) (status : TransferStatus) (position : Callback)
  | event (position : Event)
  | stop (position : Stop)
  deriving Repr, DecidableEq

/-- The fields of `struct siano_device` these threads share, libusb's side of the
transfers, and what a reader wants to know about the past. -/
structure Device where
  /-- `MAX_URBS`, which differs between platforms. -/
  maxUrbs : Nat
  state : StreamState := {}
  /-- The thread that holds `state.mutex` over several steps. -/
  owner : Option Nat := none
  activeTransfers : Nat := 0
  /-- Whether `transfers[i]` is set. -/
  transfers : Nat → Bool := fun _ => false
  eventThreadStarted : Bool := false
  /-- The queue was closed by `fail_streaming`. -/
  closed : Bool := false
  /-- `stop_streaming` has freed the transfers and their buffers. -/
  freed : Bool := false
  threads : List Thread
  /-- What libusb has accepted and not called back yet. -/
  flying : List Submission := []
  submissions : Nat := 0
  /-- What was flying when it was handed to `libusb_cancel_transfer`. -/
  cancelled : List Submission := []
  /-- The call that set `stopping`, with what was flying then. -/
  stopper : Option (Nat × List Submission) := none
  /-- That call has finished its `cancel_transfers`. -/
  swept : Bool := false

namespace Device

/-- Setting `stopping`, with a note of who did it first. -/
def setState (device : Device) (thread : Nat) (state : StreamState) : Device :=
  { device with
    state := state
    stopper := if device.state.stopping then device.stopper else some (thread, device.flying) }

/-- `cancel_transfers`; `none` as a position means that the call has returned. -/
def cancelTransfers (device : Device) (thread : Nat) : Cancel → Option (Device × Option Cancel)
  | .copy =>
    if device.owner = none then
      some (device, some (.each ((List.range device.maxUrbs).filter device.transfers)))
    else none
  | .each [] =>
    some ({ device with
      swept := device.swept || device.stopper.any (·.1 = thread) }, none)
  | .each (slot :: rest) =>
    some ({ device with
      cancelled := device.cancelled ++ device.flying.filter (·.slot = slot) }, some (.each rest))

/-- `fail_streaming`. The broadcast after `ts_queue_close` changes nothing here. -/
def failStreaming (device : Device) (thread : Nat) : Fail → Option (Device × Option Fail)
  | .state error =>
    if device.owner = none then
      let (transitioned, state) := device.state.fail error
      if transitioned then some (device.setState thread state, some .close)
      else some (device, none)
    else none
  | .close => some ({ device with closed := true }, some (.cancel .copy))
  | .cancel position =>
    (device.cancelTransfers thread position).map fun (after, rest) => (after, rest.map .cancel)

/-- The part of a critical section that submits a transfer, with the answer of
libusb. At its end the mutex is released and the section has its result. -/
def submitTransfer (device : Device) (slot : Nat) (answer : Int) :
    Submit → Device × (Submit ⊕ Int)
  | .calling =>
    if answer = 0 then
      ({ device with
        flying := device.flying ++ [⟨slot, device.submissions⟩]
        submissions := device.submissions + 1 }, .inl .counting)
    else (device, .inl (.refused answer))
  | .counting =>
    ({ device with activeTransfers := device.activeTransfers + 1, owner := none }, .inr 0)
  | .refused rc => ({ device with owner := none }, .inr rc)

/-- `start_streaming`. -/
def startStreaming (device : Device) (thread : Nat) (answer : Int) :
    Start → Option (Device × Start)
  | .create =>
    if answer = 0 then
      some ({ device with threads := device.threads ++ [.event .check] }, .created)
    else some (device, .returned (-answer))
  | .created => some ({ device with eventThreadStarted := true }, .allocate 0)
  | .allocate index =>
    if index < device.maxUrbs then
      some (device, if answer = 0 then .lock index else .returned (-Errno.nomem))
    else some (device, .returned 0)
  | .lock index =>
    if device.owner = none then
      if device.state.stopping then
        some (device, .returned
          (if device.state.error ≠ 0 then device.state.error else -Errno.canceled))
      else some ({ device with
          owner := some thread
          transfers := Function.update device.transfers index true }, .submit index .calling)
    else none
  | .submit index position =>
    match device.submitTransfer index answer position with
    | (after, .inl position) => some (after, .submit index position)
    | (after, .inr rc) => some (after, if rc < 0 then .returned rc else .allocate (index + 1))
  | .returned _ => none

/-- `transfer_callback`. Handling the received buffer touches nothing of this. -/
def transferCallback (device : Device) (thread slot : Nat) (status : TransferStatus)
    (answer : Int) :
    Callback → Option (Device × Callback)
  | .entered =>
    if device.owner = none then
      some ({ device with activeTransfers := device.activeTransfers - 1 },
        .classified (StreamState.classifyStatus status device.state.stopping))
    else none
  | .classified .fatal => some (device, .fail (.state (StreamState.statusError status)))
  | .classified .drain => some (device, .returned)
  | .classified .complete | .classified .retry => some (device, .handled)
  | .handled =>
    if device.owner = none then
      if device.state.stopping then some (device, .returned)
      else some ({ device with owner := some thread }, .submit .calling)
    else none
  | .submit position =>
    match device.submitTransfer slot answer position with
    | (after, .inl position) => some (after, .submit position)
    | (after, .inr rc) => some (after, if rc = 0 then .returned else .fail (.state rc))
  | .fail position =>
    (device.failStreaming thread position).map fun (after, rest) =>
      (after, rest.elim .returned .fail)
  | .returned => none

/-- `event_thread_main`. -/
def eventThreadMain (device : Device) (thread : Nat) (answer : Int) :
    Event → Option (Device × Event)
  | .check =>
    if device.owner = none then
      some (device, if device.state.stopping ∧ device.activeTransfers = 0 then .exited else .handle)
    else none
  | .handle =>
    some (device, if answer < 0 ∧ answer ≠ errorInterrupted then .fail (.state answer) else .check)
  | .fail position =>
    (device.failStreaming thread position).map fun (after, rest) => (after, rest.elim .check .fail)
  | .exited => none

/-- `stop_streaming`. -/
def stopStreaming (device : Device) (thread : Nat) : Stop → Option (Device × Stop)
  | .state =>
    if device.owner = none then
      some (device.setState thread device.state.stop, .cancel .copy)
    else none
  | .cancel position =>
    (device.cancelTransfers thread position).map fun (after, rest) =>
      (after, rest.elim .join .cancel)
  | .join =>
    if device.eventThreadStarted = false ∨ .event .exited ∈ device.threads then
      some (device, .free)
    else none
  | .free => some ({ device with transfers := fun _ => false, freed := true }, .returned)
  | .returned => none

/-- One step of a thread. -/
def advance (device : Device) (thread : Nat) (answer : Int) : Thread → Option (Device × Thread)
  | .start position =>
    (device.startStreaming thread answer position).map fun (after, next) => (after, .start next)
  | .callback slot status position =>
    (device.transferCallback thread slot status answer position).map fun (after, next) =>
      (after, .callback slot status next)
  | .event position =>
    (device.eventThreadMain thread answer position).map fun (after, next) => (after, .event next)
  | .stop position =>
    (device.stopStreaming thread position).map fun (after, next) => (after, .stop next)

end Device

inductive Action where
  /-- A step of a thread; `answer` is what the call it makes, if any, returns. -/
  | step (thread : Nat) (answer : Int)
  /-- libusb runs the callback of a submission. -/
  | deliver (submission : Submission) (status : TransferStatus)

/-- Before `start_streaming`, with a `stop_streaming` that may begin at any time. -/
def start (maxUrbs : Nat) : Device :=
  { maxUrbs := maxUrbs, threads := [.start .create, .stop .state] }

def next (device : Device) : Action → Option Device
  | .step index answer =>
    match device.threads[index]? with
    | some thread =>
      (device.advance index answer thread).map fun (after, moved) =>
        { after with threads := after.threads.set index moved }
    | none => none
  | .deliver submission status =>
    if submission ∈ device.flying then
      some { device with
        flying := device.flying.erase submission
        threads := device.threads ++ [.callback submission.slot status .entered] }
    else none

end SianoUserland.TransferThreads
