import SianoUserland.Lib.Resource
import SianoUserland.OpenFailure

/-! What `siano-device.c` and `main` of `siano-ts.c` take and give back: memory, descriptors,
locks, handles, transfers and the event thread. Each function is followed call by call, with the
answers of the calls as its input. -/
namespace SianoUserland.DeviceResources
open Resource OpenFailure DeviceListing

inductive Resource where
  | firmwarePath | usb | device
  | stateMutex | responseMutex | responseCond | queueMutex | queueCond
  /-- The attribute of a condition variable that is being set up. -/
  | condAttr
  | deviceList | handle | configDescriptor | interface | eventThread
  | buffer (slot : Nat) | transfer (slot : Nat)
  /-- A transfer that libusb has not handed back yet. -/
  | submitted (slot : Nat)
  | firmwareFile | fileData | wirePayload
  | outputFd
  /-- `O_NONBLOCK`, set on a descriptor that others may share. -/
  | outputMode
  deriving Repr, DecidableEq

/-- What has to be given back before a resource is. -/
def dependents (maxUrbs : Nat) : Resource → List Resource
  | .usb => [.deviceList, .handle, .eventThread]
  | .device =>
    [.stateMutex, .responseMutex, .responseCond, .queueMutex, .queueCond, .eventThread] ++
      (List.range maxUrbs).map .submitted
  | .stateMutex | .responseMutex | .responseCond | .queueMutex | .queueCond => [.eventThread]
  | .handle =>
    [.interface, .configDescriptor] ++ (List.range maxUrbs).map .submitted ++
      (List.range maxUrbs).map .transfer
  | .buffer slot | .transfer slot => [.submitted slot]
  | .outputFd => [.outputMode]
  | _ => []

/-- `struct siano_device`, as far as it says what there is to give back. -/
structure Device where
  handle : Bool := false
  interfaceNumber : Option UInt8 := none
  eventThreadStarted : Bool := false
  stateInitialized : Bool := false
  responseMutexInitialized : Bool := false
  responseCondInitialized : Bool := false
  tsInitialized : Bool := false
  transfers : Nat → Bool := fun _ => false
  transferBuffers : Nat → Bool := fun _ => false

abbrev Do := Act Resource

def onlyIf (condition : Bool) (program : Do Unit) : Do Unit :=
  if condition then program else pure ()

/-- Giving back what may not be there, as `free` does. -/
def releaseIf (maxUrbs : Nat) (there : Bool) (resource : Resource) : Do Unit :=
  onlyIf there (release (dependents maxUrbs) resource)

/-! ## Locks -/

/-- What the calls of `cond_init_waitable` answer. Where there is no clock to set, setting it
succeeds. -/
structure CondCalls where
  attrInit : Bool := true
  setClock : Bool := true
  condInit : Bool := true
  deriving Repr, DecidableEq

/-- `cond_init_waitable`. -/
def condInitWaitable (maxUrbs : Nat) (calls : CondCalls) (cond : Resource) : Do Int :=
  if calls.attrInit = false then pure (-1)
  else do
    acquire .condAttr
    if calls.setClock = false then do
      release (dependents maxUrbs) .condAttr
      pure (-1)
    else if calls.condInit = false then do
      release (dependents maxUrbs) .condAttr
      pure (-1)
    else do
      acquire cond
      release (dependents maxUrbs) .condAttr
      pure 0

/-- What the calls of `init_device_state_capture` answer. -/
structure InitCalls where
  stateMutex : Bool := true
  responseMutex : Bool := true
  responseChanged : CondCalls := {}
  queueMutex : Bool := true
  available : CondCalls := {}
  deriving Repr, DecidableEq

/-- `ts_queue_init`. -/
def tsQueueInit (maxUrbs : Nat) (calls : InitCalls) : Do Int :=
  if calls.queueMutex = false then pure (-1)
  else do
    acquire .queueMutex
    let rc ← condInitWaitable maxUrbs calls.available .queueCond
    if rc ≠ 0 then do
      release (dependents maxUrbs) .queueMutex
      pure (-1)
    else pure 0

/-- `destroy_device_sync_state`. -/
def destroySyncState (maxUrbs : Nat) (device : Device) : Do Device := do
  releaseIf maxUrbs device.responseCondInitialized .responseCond
  releaseIf maxUrbs device.responseMutexInitialized .responseMutex
  releaseIf maxUrbs device.stateInitialized .stateMutex
  releaseIf maxUrbs device.tsInitialized .queueCond
  releaseIf maxUrbs device.tsInitialized .queueMutex
  pure { device with
    responseCondInitialized := false, responseMutexInitialized := false
    stateInitialized := false, tsInitialized := false }

/-- The label `fail` of `init_device_state_capture`. -/
def initFailed (maxUrbs : Nat) (device : Device) : Do (Int × Device) := do
  let device ← destroySyncState maxUrbs device
  pure (-1, device)

/-- `init_device_state_capture`. -/
def initDeviceState (maxUrbs : Nat) (calls : InitCalls) : Do (Int × Device) :=
  let device : Device := {}
  if calls.stateMutex = false then pure (-1, device)
  else do
    acquire .stateMutex
    let device := { device with stateInitialized := true }
    if calls.responseMutex = false then initFailed maxUrbs device
    else do
      acquire .responseMutex
      let device := { device with responseMutexInitialized := true }
      let rc ← condInitWaitable maxUrbs calls.responseChanged .responseCond
      if rc ≠ 0 then initFailed maxUrbs device
      else do
        let device := { device with responseCondInitialized := true }
        let rc ← tsQueueInit maxUrbs calls
        if rc < 0 then initFailed maxUrbs device
        else pure (0, { device with tsInitialized := true })

/-! ## The handle -/

/-- `inspect_and_claim`. -/
def inspectAndClaim (maxUrbs : Nat) (answers : Handle) (detachKernelDriver : Bool)
    (device : Device) : Do (Int × Device) := do
  use .handle
  match answers.getDeviceDescriptor with
  | .error rc => pure (rc, device)
  | .ok (vendor, product) =>
    if (deviceName vendor product).2 = false then pure (-Errno.nodev, device)
    else
      match answers.getActiveConfigDescriptor with
      | .error rc => pure (rc, device)
      | .ok config => do
        acquire .configDescriptor
        release (dependents maxUrbs) .configDescriptor
        match findInterface config with
        | none => pure (-Errno.nodev, device)
        | some interface =>
          let device := { device with interfaceNumber := some interface.interfaceNumber }
          match (if detachKernelDriver then .ok ()
              else refuseKernelDriver answers interface.interfaceNumber) with
          | .error failure => pure (failure.rc, device)
          | .ok () =>
            match answers.claimInterface interface.interfaceNumber with
            | .error rc => pure (rc, device)
            | .ok () => do
              acquire .interface
              pure (0, device)

variable {δ : Type}

/-- `open_rio`. -/
def openRio (maxUrbs : Nat) (host : Host δ) (detachKernelDriver : Bool) (device : Device) :
    Do (Int × Device) := do
  use .usb
  match host.getDeviceList with
  | .error rc => pure (rc, device)
  | .ok list => do
    acquire .deviceList
    match selectRio host.usb list host.selector host.selectorText with
    | .error failure => do
      release (dependents maxUrbs) .deviceList
      pure (failure.rc, device)
    | .ok selected =>
      match host.openUsb selected with
      | .error rc => do
        release (dependents maxUrbs) .deviceList
        pure (rc, device)
      | .ok handle => do
        acquire .handle
        release (dependents maxUrbs) .deviceList
        inspectAndClaim maxUrbs handle detachKernelDriver { device with handle := true }

/-- `open_from_fd`. -/
def openFromFd (maxUrbs : Nat) (host : Host δ) (detachKernelDriver : Bool) (device : Device) :
    Do (Int × Device) := do
  use .usb
  if host.fdKnown = false then pure (-Errno.badf, device)
  else
    match host.wrapSysDevice with
    | .error rc => pure (rc, device)
    | .ok handle => do
      acquire .handle
      inspectAndClaim maxUrbs handle detachKernelDriver { device with handle := true }

/-- The device is opened, from `--fd` if it is given. -/
def openUsbDevice (maxUrbs : Nat) (host : Host δ) (detachKernelDriver : Bool) (device : Device) :
    Do (Int × Device) :=
  if 0 ≤ host.deviceFd then openFromFd maxUrbs host detachKernelDriver device
  else openRio maxUrbs host detachKernelDriver device

/-! ## Streaming -/

/-- What one pass of the loop of `start_streaming` meets. -/
structure SlotCalls where
  malloc : Bool := true
  allocTransfer : Bool := true
  /-- The state under its lock. -/
  state : StreamState := {}
  submitTransfer : Answer Unit := .ok ()

/-- The loop of `start_streaming`, when `left` slots are left. -/
def fillRing (maxUrbs : Nat) (ring : Nat → SlotCalls) : Nat → Device → Do (Int × Device)
  | 0, device => pure (0, device)
  | left + 1, device => do
    let slot := maxUrbs - (left + 1)
    let calls := ring slot
    onlyIf calls.malloc (acquire (.buffer slot))
    onlyIf calls.allocTransfer (acquire (.transfer slot))
    if calls.malloc = false ∨ calls.allocTransfer = false then do
      releaseIf maxUrbs calls.malloc (.buffer slot)
      releaseIf maxUrbs calls.allocTransfer (.transfer slot)
      pure (-Errno.nomem, device)
    else if calls.state.stopping then do
      release (dependents maxUrbs) (.buffer slot)
      release (dependents maxUrbs) (.transfer slot)
      pure (if calls.state.error ≠ 0 then calls.state.error else -Errno.canceled, device)
    else
      let device := { device with
        transferBuffers := Function.update device.transferBuffers slot true
        transfers := Function.update device.transfers slot true }
      match calls.submitTransfer with
      | .error rc => pure (rc, device)
      | .ok () => do
        acquire (.submitted slot)
        fillRing maxUrbs ring left device

/-- `start_streaming`. -/
def startStreaming (maxUrbs : Nat) (createThread : Int) (ring : Nat → SlotCalls)
    (device : Device) : Do (Int × Device) :=
  if createThread ≠ 0 then pure (-createThread, device)
  else do
    acquire .eventThread
    fillRing maxUrbs ring maxUrbs { device with eventThreadStarted := true }

/-- `pthread_join` of the event thread, which ends when libusb has handed back every transfer. -/
def joinEventThread : Do Unit := fun held =>
  if held .eventThread then
    some ((), fun
      | .eventThread => false
      | .submitted _ => false
      | resource => held resource)
  else none

/-- `cancel_transfers`. -/
def cancelTransfers (maxUrbs : Nat) (device : Device) : Do Unit := do
  use .stateMutex
  (List.range maxUrbs).forM fun slot => onlyIf (device.transfers slot) (use (.transfer slot))

/-- `stop_streaming`. -/
def stopStreaming (maxUrbs : Nat) (device : Device) : Do Device := do
  cancelTransfers maxUrbs device
  onlyIf device.eventThreadStarted joinEventThread
  (List.range maxUrbs).forM fun slot => do
    releaseIf maxUrbs (device.transfers slot) (.transfer slot)
    releaseIf maxUrbs (device.transferBuffers slot) (.buffer slot)
  pure { device with transfers := fun _ => false, transferBuffers := fun _ => false }

/-- `libusb_release_interface`, which finds out for itself whether the interface is claimed. -/
def releaseInterface : Do Unit := do
  use .handle
  fun held => some ((), Function.update held .interface false)

/-- `close_device`. -/
def closeDevice (maxUrbs : Nat) (device : Device) : Do Device := do
  let device ← (if device.eventThreadStarted then stopStreaming maxUrbs device else pure device)
  onlyIf device.tsInitialized (use .queueMutex)
  onlyIf device.handle do
    onlyIf device.interfaceNumber.isSome releaseInterface
    release (dependents maxUrbs) .handle
  destroySyncState maxUrbs { device with handle := false }

/-! ## The firmware -/

/-- What the calls of `load_family2_firmware` answer. -/
structure FirmwareCalls where
  /-- The `errno` of `fopen`, or zero. -/
  fopen : Int := 0
  seek : Bool := true
  malloc : Bool := true
  fread : Bool := true
  /-- `sms_parse_firmware_header`. -/
  parsed : Bool := true
  calloc : Bool := true
  /-- What comes of the exchanges with the device. -/
  exchanges : Int := 0
  deriving Repr, DecidableEq

/-- `read_file`. -/
def readFile (maxUrbs : Nat) (calls : FirmwareCalls) : Do Int :=
  if calls.fopen ≠ 0 then pure (-calls.fopen)
  else do
    acquire .firmwareFile
    if calls.seek = false then do
      release (dependents maxUrbs) .firmwareFile
      pure (-Errno.io)
    else if calls.malloc = false then do
      release (dependents maxUrbs) .firmwareFile
      pure (-Errno.nomem)
    else do
      acquire .fileData
      if calls.fread = false then do
        release (dependents maxUrbs) .fileData
        release (dependents maxUrbs) .firmwareFile
        pure (-Errno.io)
      else do
        release (dependents maxUrbs) .firmwareFile
        pure 0

/-- `load_family2_firmware`. -/
def loadFamily2Firmware (maxUrbs : Nat) (calls : FirmwareCalls) : Do Int := do
  let rc ← readFile maxUrbs calls
  if rc ≠ 0 then pure rc
  else if calls.parsed = false then do
    release (dependents maxUrbs) .fileData
    pure (-Errno.badmsg)
  else if calls.calloc = false then do
    release (dependents maxUrbs) .fileData
    pure (-Errno.nomem)
  else do
    acquire .wirePayload
    use .fileData
    release (dependents maxUrbs) .wirePayload
    release (dependents maxUrbs) .fileData
    pure calls.exchanges

/-- What `set_device_mode` meets: the results of what it asks the device before and after it loads
the firmware, if it does. -/
structure ModeCalls where
  before : Int := 0
  firmware : Option FirmwareCalls := none
  after : Int := 0
  deriving Repr, DecidableEq

/-- `set_device_mode`. -/
def setDeviceMode (maxUrbs : Nat) (calls : ModeCalls) : Do Int := do
  use .handle
  if calls.before < 0 then pure calls.before
  else
    match calls.firmware with
    | none => pure calls.after
    | some firmware => do
      let rc ← loadFamily2Firmware maxUrbs firmware
      if rc < 0 then pure rc else pure calls.after

/-! ## The standalone program -/

/-- What `main` of `siano-ts.c` was asked for. -/
structure Options where
  list : Bool := false
  detachKernelDriver : Bool := false
  /-- A channel or a frequency was given. -/
  tunes : Bool := false
  control : Bool := false
  output : Bool := false
  deriving Repr, DecidableEq

/-- What the calls of `main` answer. -/
structure MainCalls (δ : Type) where
  parseOptions : Int := 0
  channelFrequency : Int := 0
  /-- A firmware file is there to read. -/
  firmwareFound : Bool := true
  strdup : Bool := true
  libusbInit : Int := 0
  /-- What `libusb_get_device_list` returns to `list_devices`. -/
  deviceCount : Int := 0
  calloc : Bool := true
  init : InitCalls := {}
  host : Host δ
  createThread : Int := 0
  ring : Nat → SlotCalls := fun _ => {}
  mode : ModeCalls := {}
  tune : Int := 0
  configurePidFilters : Int := 0
  /-- The `errno` of `open`, or zero. -/
  openOutput : Int := 0
  outputPumpInit : Int := 0
  /-- `siano_output_begin` has set `O_NONBLOCK`. -/
  armed : Bool := false
  /-- What the loop over the stream returns. -/
  stream : Int := 0
  drops : UInt64 := 0
  stopRequested : Bool := false
  stateError : Int := 0

/-- `list_devices`, as far as it holds anything. -/
def listDevices (maxUrbs : Nat) (count : Int) : Do Int :=
  if count < 0 then pure count
  else do
    acquire .deviceList
    release (dependents maxUrbs) .deviceList
    pure 0

/-- Where `main` is when it comes to its label `out`. -/
structure Leaving where
  rc : Int
  device : Device
  closeOutput : Bool := false
  pumpInitialized : Bool := false
  /-- `pump.output.armed`. -/
  armed : Bool := false

/-- The part of `main` that writes the stream. -/
def streamOut (maxUrbs : Nat) (options : Options) (calls : MainCalls δ) (device : Device) :
    Do Leaving :=
  if options.output ∧ calls.openOutput ≠ 0 then
    pure { rc := -calls.openOutput, device := device }
  else do
    onlyIf options.output (acquire .outputFd)
    if calls.outputPumpInit < 0 then
      pure { rc := calls.outputPumpInit, device := device, closeOutput := options.output }
    else do
      onlyIf calls.armed (acquire .outputMode)
      use .queueMutex
      releaseIf maxUrbs calls.armed .outputMode
      pure { rc := calls.stream, device := device, closeOutput := options.output }

/-- The first tune of `main`, when one was asked for. -/
def firstTune (maxUrbs : Nat) (options : Options) (calls : MainCalls δ) (device : Device) :
    Do Leaving :=
  if options.tunes = false then streamOut maxUrbs options calls device
  else if calls.tune < 0 ∧ options.control = false then
    pure { rc := calls.tune, device := device }
  else if calls.tune = 0 ∧ calls.configurePidFilters < 0 then
    pure { rc := calls.configurePidFilters, device := device }
  else streamOut maxUrbs options calls device

/-- The stages of `main` that may go to its label `out`. -/
def stages (maxUrbs : Nat) (options : Options) (calls : MainCalls δ) (device : Device) :
    Do Leaving := do
  let (rc, device) ← openUsbDevice maxUrbs calls.host options.detachKernelDriver device
  if rc < 0 then pure { rc := rc, device := device }
  else do
    let (rc, device) ← startStreaming maxUrbs calls.createThread calls.ring device
    if rc < 0 then pure { rc := rc, device := device }
    else do
      let rc ← setDeviceMode maxUrbs calls.mode
      if rc < 0 then pure { rc := rc, device := device }
      else firstTune maxUrbs options calls device

/-- The exit status of `main` after its label `out`. -/
def exitStatus (calls : MainCalls δ) (rc : Int) : Nat :=
  if calls.drops ≠ 0 then 8
  else if calls.stopRequested then 0
  else if calls.stateError = Libusb.errorNoDevice then 7
  else sianoExitCode rc

/-- The label `out` of `main`. -/
def leave (maxUrbs : Nat) (calls : MainCalls δ) (leaving : Leaving) : Do Nat := do
  releaseIf maxUrbs (leaving.pumpInitialized && leaving.armed) .outputMode
  use .stateMutex
  let _ ← closeDevice maxUrbs leaving.device
  releaseIf maxUrbs leaving.closeOutput .outputFd
  release (dependents maxUrbs) .device
  release (dependents maxUrbs) .firmwarePath
  release (dependents maxUrbs) .usb
  pure (exitStatus calls leaving.rc)

/-- `main` of `siano-ts.c`, once the firmware is found and libusb is initialised. -/
def runDevice (maxUrbs : Nat) (options : Options) (calls : MainCalls δ) : Do Nat :=
  if calls.calloc = false then do
    release (dependents maxUrbs) .firmwarePath
    release (dependents maxUrbs) .usb
    pure 70
  else do
    acquire .device
    let (rc, device) ← initDeviceState maxUrbs calls.init
    if rc < 0 then do
      release (dependents maxUrbs) .device
      release (dependents maxUrbs) .firmwarePath
      release (dependents maxUrbs) .usb
      pure 70
    else do
      let leaving ← stages maxUrbs options calls device
      leave maxUrbs calls leaving

/-- `main` of `siano-ts.c`. -/
def main (maxUrbs : Nat) (options : Options) (calls : MainCalls δ) : Do Nat :=
  if calls.parseOptions < 0 ∨ calls.channelFrequency < 0 then pure 2
  else if options.list then do
    if calls.libusbInit < 0 then pure 1
    else do
      acquire .usb
      let rc ← listDevices maxUrbs calls.deviceCount
      release (dependents maxUrbs) .usb
      pure (sianoExitCode rc)
  else if calls.firmwareFound = false then pure (sianoExitCode (-Errno.noent))
  else if calls.strdup = false then pure (sianoExitCode (-Errno.nomem))
  else do
    acquire .firmwarePath
    if calls.libusbInit < 0 then do
      release (dependents maxUrbs) .firmwarePath
      pure 1
    else do
      acquire .usb
      runDevice maxUrbs options calls

/-! ## What is held -/

/-- What `main` holds for itself. -/
structure Owner where
  firmwarePath : Bool := false
  usb : Bool := false
  device : Bool := false
  outputFd : Bool := false

/-- What libusb and the system know of a device and its record does not say. -/
structure Outside where
  claimed : Bool := false
  running : Bool := false
  submitted : Nat → Bool := fun _ => false

/-- What is held between two calls. -/
def owned (owner : Owner) (device : Device) (outside : Outside) : Held Resource
  | .firmwarePath => owner.firmwarePath
  | .usb => owner.usb
  | .device => owner.device
  | .outputFd => owner.outputFd
  | .stateMutex => device.stateInitialized
  | .responseMutex => device.responseMutexInitialized
  | .responseCond => device.responseCondInitialized
  | .queueMutex | .queueCond => device.tsInitialized
  | .handle => device.handle
  | .interface => outside.claimed
  | .eventThread => outside.running
  | .buffer slot => device.transferBuffers slot
  | .transfer slot => device.transfers slot
  | .submitted slot => outside.submitted slot
  | .condAttr | .deviceList | .configDescriptor | .firmwareFile | .fileData | .wirePayload
  | .outputMode => false

/-- A device that `close_device` can be called for. -/
structure Closable (maxUrbs : Nat) (device : Device) (outside : Outside) : Prop where
  initialized : device.stateInitialized = true ∧ device.tsInitialized = true
  claimed : outside.claimed = true → device.handle = true ∧ device.interfaceNumber.isSome = true
  running : outside.running = device.eventThreadStarted
  buffers : device.transferBuffers = device.transfers
  ring : ∀ slot, device.transfers slot = true → device.eventThreadStarted = true ∧ slot < maxUrbs
  submitted : ∀ slot, outside.submitted slot = true → device.transfers slot = true

variable {maxUrbs : Nat} {owner : Owner} {device : Device} {outside : Outside} {held : Held Resource}

theorem onlyIf_pos {condition : Bool} {program : Do Unit} (there : condition = true) :
    onlyIf condition program = program := if_pos there

theorem onlyIf_neg {condition : Bool} {program : Do Unit} (missing : ¬condition = true) :
    onlyIf condition program = pure () := if_neg missing

/-- What is held when a resource that may have been there is given back. -/
def without (held : Held Resource) (there : Bool) (resource : Resource) : Held Resource :=
  fun other => if there = true ∧ other = resource then false else held other

theorem runs_releaseIf {there : Bool} {resource : Resource} {rest : Unit → Do α}
    {post : α → Held Resource → Prop} (has : there = true → held resource = true)
    (clear : there = true → ∀ other ∈ dependents maxUrbs resource, held other = false)
    (goes : Runs (without held there resource) (rest ()) post) :
    Runs held (releaseIf maxUrbs there resource >>= rest) post := by
  cases there with
  | false =>
    have same : without held false resource = held := by
      funext other
      simp [without]
    rw [same] at goes
    exact goes
  | true =>
    have same : without held true resource = Function.update held resource false := by
      funext other
      simp [without, Function.update_apply]
    rw [same] at goes
    exact runs_release (has rfl) (clear rfl) goes

/-! ## Setting up -/

/-- A condition variable is set up, or nothing has changed. -/
theorem condInit_runs (calls : CondCalls) {cond : Resource} (other : cond ≠ .condAttr)
    (free : held cond = false) (idle : held .condAttr = false) :
    Runs held (condInitWaitable maxUrbs calls cond) fun rc after =>
      (rc = 0 ∧ after = Function.update held cond true) ∨ (rc = -1 ∧ after = held) := by
  unfold condInitWaitable
  split
  · exact runs_pure (Or.inr ⟨rfl, rfl⟩)
  refine runs_acquire idle ?_
  split
  · exact runs_release (by simp) nofun (runs_pure (Or.inr ⟨rfl, update_back idle⟩))
  split
  · exact runs_release (by simp) nofun (runs_pure (Or.inr ⟨rfl, update_back idle⟩))
  · refine runs_acquire (by simp [other, free]) ?_
    refine runs_release (by simp [other.symm]) nofun (runs_pure (Or.inl ⟨rfl, ?_⟩))
    rw [Function.update_comm other.symm]
    exact update_back (by simp [other.symm, idle])

/-- The queue is set up, or nothing has changed. -/
theorem tsQueueInit_runs (calls : InitCalls) (mutex : held .queueMutex = false)
    (cond : held .queueCond = false) (attr : held .condAttr = false)
    (thread : held .eventThread = false) :
    Runs held (tsQueueInit maxUrbs calls) fun rc after =>
      (rc = 0 ∧ after = Function.update (Function.update held .queueMutex true) .queueCond true) ∨
        (rc = -1 ∧ after = held) := by
  unfold tsQueueInit
  split
  · exact runs_pure (Or.inr ⟨rfl, rfl⟩)
  refine runs_acquire mutex ?_
  refine runs_bind (condInit_runs calls.available (by simp) (by simp [cond]) (by simp [attr])) ?_
  rintro rc _ (⟨rfl, rfl⟩ | ⟨rfl, rfl⟩)
  · rw [if_neg (by simp)]
    exact runs_pure (Or.inl ⟨rfl, rfl⟩)
  · rw [if_pos (by simp)]
    refine runs_release (by simp) ?_ (runs_pure (Or.inr ⟨rfl, update_back mutex⟩))
    simp [dependents, thread]

/-- The device with its locks set up. -/
def ready : Device where
  stateInitialized := true
  responseMutexInitialized := true
  responseCondInitialized := true
  tsInitialized := true

/-- The locks that are there are destroyed, once nothing runs that uses them. -/
theorem destroySyncState_runs (device : Device) (idle : outside.running = false) :
    Runs (owned owner device outside) (destroySyncState maxUrbs device) fun after held =>
      after = { device with
        responseCondInitialized := false, responseMutexInitialized := false
        stateInitialized := false, tsInitialized := false } ∧
        held = owned owner after outside := by
  unfold destroySyncState
  refine runs_releaseIf (fun there => there) (fun _ => by simp [dependents, owned, idle]) ?_
  refine runs_releaseIf (fun there => ?_) (fun _ => by simp [dependents, without, owned, idle]) ?_
  · simpa [without, owned] using there
  refine runs_releaseIf (fun there => ?_) (fun _ => by simp [dependents, without, owned, idle]) ?_
  · simpa [without, owned] using there
  refine runs_releaseIf (fun there => ?_) (fun _ => by simp [dependents, without, owned, idle]) ?_
  · simpa [without, owned] using there
  refine runs_releaseIf (fun there => ?_) (fun _ => by simp [dependents, without, owned, idle]) ?_
  · simpa [without, owned] using there
  refine runs_pure ⟨rfl, ?_⟩
  funext resource
  cases resource <;> simp [without, owned]

theorem initFailed_runs (device : Device) (idle : outside.running = false)
    (bare : { device with
      responseCondInitialized := false, responseMutexInitialized := false
      stateInitialized := false, tsInitialized := false } = ({} : Device)) :
    Runs (owned owner device outside) (initFailed maxUrbs device) fun result held =>
      result = (-1, {}) ∧ held = owned owner {} outside := by
  refine runs_bind (destroySyncState_runs device idle) ?_
  rintro after _ ⟨rfl, rfl⟩
  exact runs_pure ⟨by rw [bare], by rw [bare]⟩

/-- A device is ready, or nothing has changed. -/
theorem initDeviceState_runs (calls : InitCalls) :
    Runs (owned owner {} {}) (initDeviceState maxUrbs calls) fun result held =>
      (result = (0, ready) ∧ held = owned owner ready {}) ∨
        (result = (-1, {}) ∧ held = owned owner {} {}) := by
  unfold initDeviceState
  dsimp only
  split
  · exact runs_pure (Or.inr ⟨rfl, rfl⟩)
  have state : Function.update (owned owner {} {}) .stateMutex true =
      owned owner { stateInitialized := true } {} := by
    funext resource
    cases resource <;> simp [owned]
  refine runs_acquire rfl ?_
  rw [state]
  split
  · refine runs_mono (initFailed_runs _ rfl rfl) fun _ _ failed => Or.inr failed
  have response : Function.update (owned owner { stateInitialized := true } {})
      .responseMutex true =
      owned owner { stateInitialized := true, responseMutexInitialized := true } {} := by
    funext resource
    cases resource <;> simp [owned]
  refine runs_acquire rfl ?_
  rw [response]
  refine runs_bind (condInit_runs calls.responseChanged (by simp) rfl rfl) ?_
  rintro rc _ (⟨rfl, rfl⟩ | ⟨rfl, rfl⟩)
  · rw [if_neg (by simp)]
    have changed : Function.update
        (owned owner { stateInitialized := true, responseMutexInitialized := true } {})
        .responseCond true =
        owned owner { ready with tsInitialized := false } {} := by
      funext resource
      cases resource <;> simp [owned, ready]
    rw [changed]
    refine runs_bind (tsQueueInit_runs calls rfl rfl rfl rfl) ?_
    rintro rc _ (⟨rfl, rfl⟩ | ⟨rfl, rfl⟩)
    · rw [if_neg (by simp)]
      refine runs_pure (Or.inl ⟨rfl, ?_⟩)
      funext resource
      cases resource <;> simp [owned, ready]
    · rw [if_pos (by simp)]
      exact runs_mono (initFailed_runs _ rfl rfl) fun _ _ failed => Or.inr failed
  · rw [if_pos (by simp)]
    exact runs_mono (initFailed_runs _ rfl rfl) fun _ _ failed => Or.inr failed

/-! ## Opening -/

/-- A device whose handle is there. -/
def opened (number : Option UInt8) : Device :=
  { ready with handle := true, interfaceNumber := number }

/-- What is there between opening and streaming: what is held can be given back, and unless the
open has failed there is a handle. -/
structure Unstarted (maxUrbs : Nat) (owner : Owner) (result : Int × Device)
    (held : Held Resource) : Prop where
  closable : ∃ claimed, Closable maxUrbs result.2 { claimed := claimed } ∧
    held = owned owner result.2 { claimed := claimed }
  fresh : result.2.eventThreadStarted = false ∧ result.2.transfers = fun _ => false
  handle : 0 ≤ result.1 → result.2.handle = true

theorem unstarted_ready (failed : rc < 0) :
    Unstarted maxUrbs owner (rc, ready) (owned owner ready {}) :=
  ⟨⟨false, ⟨⟨rfl, rfl⟩, nofun, rfl, rfl, nofun, nofun⟩, rfl⟩, ⟨rfl, rfl⟩,
    fun succeeded => by simp only at succeeded; omega⟩

theorem unstarted_opened (rc : Int) (number : Option UInt8) (claimed : Bool)
    (named : claimed = true → number.isSome = true) :
    Unstarted maxUrbs owner (rc, opened number) (owned owner (opened number) { claimed := claimed }) :=
  ⟨⟨claimed, ⟨⟨rfl, rfl⟩, fun there => ⟨rfl, named there⟩, rfl, rfl, nofun, nofun⟩, rfl⟩,
    ⟨rfl, rfl⟩, fun _ => rfl⟩

theorem inspectAndClaim_runs (answers : Handle) (detachKernelDriver : Bool) :
    Runs (owned owner (opened none) {})
      (inspectAndClaim maxUrbs answers detachKernelDriver (opened none))
      (Unstarted maxUrbs owner) := by
  unfold inspectAndClaim
  refine runs_use rfl ?_
  cases answers.getDeviceDescriptor with
  | error rc => exact runs_pure (unstarted_opened rc none false nofun)
  | ok ids =>
    dsimp only
    split
    · exact runs_pure (unstarted_opened _ none false nofun)
    cases answers.getActiveConfigDescriptor with
    | error rc => exact runs_pure (unstarted_opened rc none false nofun)
    | ok config =>
      refine runs_acquire rfl (runs_release (by simp) nofun ?_)
      rw [update_back rfl]
      cases findInterface config with
      | none => exact runs_pure (unstarted_opened _ none false nofun)
      | some interface =>
        dsimp only
        generalize (if detachKernelDriver = true then Except.ok ()
          else refuseKernelDriver answers interface.interfaceNumber) = asked
        have named : owned owner (opened none) {} =
            owned owner (opened (some interface.interfaceNumber)) {} := by
          funext resource
          cases resource <;> rfl
        rw [named]
        cases asked with
        | error failure => exact runs_pure (unstarted_opened _ _ false nofun)
        | ok allowed =>
          cases answers.claimInterface interface.interfaceNumber with
          | error rc => exact runs_pure (unstarted_opened rc _ false nofun)
          | ok claimed =>
            have taken : Function.update (owned owner (opened (some interface.interfaceNumber)) {})
                .interface true =
                owned owner (opened (some interface.interfaceNumber)) { claimed := true } := by
              funext resource
              cases resource <;> simp [owned]
            refine runs_acquire rfl ?_
            rw [taken]
            exact runs_pure (unstarted_opened _ _ true fun _ => rfl)

theorem selectRio_negative {usb : Usb δ} {list : DeviceList δ} {selector : DeviceSelector}
    {failure : DeviceListing.Failure}
    (failed : selectRio usb list selector text = .error failure) : failure.rc < 0 := by
  unfold selectRio at failed
  dsimp only at failed
  split at failed
  · cases failed
    exact show -Errno.inval < 0 by decide
  · split at failed
    · cases failed
      exact show -Errno.nodev < 0 by decide
    · cases failed

theorem handle_acquired : Function.update (owned owner ready {}) .handle true =
    owned owner (opened none) {} := by
  funext resource
  cases resource <;> simp [owned, ready, opened]

theorem openUsbDevice_runs (host : Host δ) (detachKernelDriver : Bool) (usb : owner.usb = true) :
    Runs (owned owner ready {}) (openUsbDevice maxUrbs host detachKernelDriver ready)
      (Unstarted maxUrbs owner) := by
  unfold openUsbDevice
  split
  · unfold openFromFd
    refine runs_use usb ?_
    split
    · exact runs_pure (unstarted_ready (by decide))
    cases host.wrapSysDevice with
    | error rc => exact runs_pure (unstarted_ready rc.property)
    | ok handle =>
      refine runs_acquire rfl ?_
      rw [handle_acquired]
      exact inspectAndClaim_runs handle detachKernelDriver
  · unfold openRio
    refine runs_use usb ?_
    cases host.getDeviceList with
    | error rc => exact runs_pure (unstarted_ready rc.property)
    | ok list =>
      refine runs_acquire rfl ?_
      cases selection : selectRio host.usb list host.selector host.selectorText with
      | error failure =>
        dsimp only
        refine runs_release (by simp) nofun ?_
        rw [update_back rfl]
        exact runs_pure (unstarted_ready (selectRio_negative selection))
      | ok selected =>
        dsimp only
        cases host.openUsb selected with
        | error rc =>
          dsimp only
          refine runs_release (by simp) nofun ?_
          rw [update_back rfl]
          exact runs_pure (unstarted_ready rc.property)
        | ok handle =>
          have back : Function.update (Function.update
              (Function.update (owned owner ready {}) .deviceList true) .handle true)
              .deviceList false = owned owner (opened none) {} := by
            rw [Function.update_comm (a := Resource.handle) (by simp), update_back rfl,
              handle_acquired]
          dsimp only
          refine runs_acquire rfl ?_
          refine runs_release (by simp) nofun ?_
          rw [back]
          exact inspectAndClaim_runs handle detachKernelDriver

/-! ## The ring of transfers -/

/-- A transfer and its buffer are put in their slot. -/
theorem slot_filled (slot : Nat) :
    Function.update (Function.update (owned owner device outside) (.buffer slot) true)
        (.transfer slot) true =
      owned owner { device with
        transferBuffers := Function.update device.transferBuffers slot true
        transfers := Function.update device.transfers slot true } outside := by
  funext resource
  cases resource <;> simp [owned, Function.update_apply]

/-- Every slot is filled, or the record says which are. -/
theorem fillRing_runs (ring : Nat → SlotCalls) (left : Nat) (within : left ≤ maxUrbs)
    (closable : Closable maxUrbs device outside) (started : device.eventThreadStarted = true)
    (free : ∀ slot, maxUrbs - left ≤ slot → device.transfers slot = false) :
    Runs (owned owner device outside) (fillRing maxUrbs ring left device) fun result held =>
      ∃ outside, Closable maxUrbs result.2 outside ∧ held = owned owner result.2 outside ∧
        result.2.handle = device.handle := by
  induction left generalizing device outside with
  | zero => exact runs_pure ⟨outside, closable, rfl, rfl⟩
  | succ left ih =>
    unfold fillRing
    generalize place : maxUrbs - (left + 1) = slot
    have transferFree : device.transfers slot = false := free slot (by omega)
    have noTransfer : owned owner device outside (.transfer slot) = false := transferFree
    have noBuffer : owned owner device outside (.buffer slot) = false := by
      simp only [owned, closable.buffers, transferFree]
    have idle : outside.submitted slot = false := by
      cases busy : outside.submitted slot with
      | false => rfl
      | true => exact absurd (closable.submitted slot busy) (by simp [transferFree])
    dsimp only
    by_cases malloc : (ring slot).malloc = true
    · rw [onlyIf_pos malloc]
      refine runs_acquire noBuffer ?_
      by_cases alloc : (ring slot).allocTransfer = true
      · rw [onlyIf_pos alloc]
        refine runs_acquire (by simp [owned, transferFree]) ?_
        rw [if_neg (by simp [malloc, alloc])]
        split
        · refine runs_release (by simp) (by simp [dependents, owned, idle]) ?_
          refine runs_release (by simp) (by simp [dependents, owned, idle]) ?_
          rw [Function.update_comm (a := Resource.transfer slot) (by simp), update_back noBuffer,
            update_back noTransfer]
          exact runs_pure ⟨outside, closable, rfl, rfl⟩
        rw [slot_filled]
        have filled : Closable maxUrbs { device with
            transferBuffers := Function.update device.transferBuffers slot true
            transfers := Function.update device.transfers slot true } outside := by
          refine ⟨closable.initialized, closable.claimed, closable.running, ?_, ?_, ?_⟩
          · dsimp only
            rw [closable.buffers]
          · intro other there
            by_cases same : other = slot
            · exact ⟨started, by omega⟩
            · exact ⟨started, (closable.ring other (by simpa [same] using there)).2⟩
          · intro other busy
            by_cases same : other = slot
            · simp [same]
            · simpa [same] using closable.submitted other busy
        cases (ring slot).submitTransfer with
        | error rc => exact runs_pure ⟨outside, filled, rfl, rfl⟩
        | ok submitted =>
          have flies : Function.update (owned owner { device with
              transferBuffers := Function.update device.transferBuffers slot true
              transfers := Function.update device.transfers slot true } outside)
              (.submitted slot) true =
              owned owner { device with
                transferBuffers := Function.update device.transferBuffers slot true
                transfers := Function.update device.transfers slot true }
                { outside with submitted := Function.update outside.submitted slot true } := by
            funext resource
            cases resource <;> simp [owned, Function.update_apply]
          refine runs_acquire idle ?_
          rw [flies]
          refine ih (by omega) ?_ started ?_
          · refine ⟨filled.initialized, filled.claimed, filled.running, filled.buffers,
              filled.ring, fun other busy => ?_⟩
            by_cases same : other = slot
            · simp [same]
            · simpa [same] using closable.submitted other (by simpa [same] using busy)
          · intro other later
            have different : other ≠ slot := by omega
            simpa [different] using free other (by omega)
      · rw [onlyIf_neg alloc, pure_bind, if_pos (by simp [alloc]), releaseIf, onlyIf_pos malloc]
        refine runs_release (by simp) (by simp [dependents, owned, idle]) ?_
        rw [update_back noBuffer, releaseIf, onlyIf_neg alloc, pure_bind]
        exact runs_pure ⟨outside, closable, rfl, rfl⟩
    · rw [onlyIf_neg malloc, pure_bind]
      by_cases alloc : (ring slot).allocTransfer = true
      · rw [onlyIf_pos alloc]
        refine runs_acquire noTransfer ?_
        rw [if_pos (by simp [malloc]), releaseIf, onlyIf_neg malloc, pure_bind, releaseIf,
          onlyIf_pos alloc]
        refine runs_release (by simp) (by simp [dependents, owned, idle]) ?_
        rw [update_back noTransfer]
        exact runs_pure ⟨outside, closable, rfl, rfl⟩
      · rw [onlyIf_neg alloc, pure_bind, if_pos (by simp [malloc]), releaseIf, onlyIf_neg malloc,
          pure_bind, releaseIf, onlyIf_neg alloc, pure_bind]
        exact runs_pure ⟨outside, closable, rfl, rfl⟩

/-- Streaming starts, or the record says how far it has come. -/
theorem startStreaming_runs (createThread : Int) (ring : Nat → SlotCalls) {rc : Int}
    (unstarted : Unstarted maxUrbs owner (rc, device) held) :
    Runs held (startStreaming maxUrbs createThread ring device) fun result held =>
      ∃ outside, Closable maxUrbs result.2 outside ∧ held = owned owner result.2 outside ∧
        result.2.handle = device.handle := by
  obtain ⟨⟨claimed, closable, rfl⟩, ⟨-, empty⟩, -⟩ := unstarted
  dsimp only at closable empty
  unfold startStreaming
  split
  · exact runs_pure ⟨_, closable, rfl, rfl⟩
  have begun : Function.update (owned owner device { claimed := claimed }) .eventThread true =
      owned owner { device with eventThreadStarted := true }
        { claimed := claimed, running := true } := by
    funext resource
    cases resource <;> simp [owned]
  refine runs_acquire rfl ?_
  dsimp only
  rw [begun]
  refine fillRing_runs ring maxUrbs (Nat.le_refl _) ?_ rfl (fun slot _ => by simp [empty])
  refine ⟨closable.initialized, closable.claimed, rfl, closable.buffers, fun slot there => ?_,
    nofun⟩
  exact absurd there (by simp [empty])

/-! ## Closing -/

/-- Cancelling uses the transfers that are there. -/
theorem cancelTransfers_runs (closable : Closable maxUrbs device outside) :
    Runs (owned owner device outside) (cancelTransfers maxUrbs device) fun _ held =>
      held = owned owner device outside := by
  unfold cancelTransfers
  refine runs_use closable.initialized.1 ?_
  refine runs_forM (fun _ held => held = owned owner device outside) _ rfl ?_
  rintro done slot later _ - rfl
  by_cases there : device.transfers slot = true
  · rw [onlyIf_pos there]
    exact runs_last (runs_use there (runs_pure rfl))
  · rw [onlyIf_neg there]
    exact runs_pure rfl

/-- What is left of the ring when the slots in `done` have been cleared. -/
def cleared (device : Device) (done : List Nat) : Device :=
  { device with
    transfers := fun slot => device.transfers slot && !done.contains slot
    transferBuffers := fun slot => device.transferBuffers slot && !done.contains slot }

/-- The event thread is joined before the ring is given back. -/
theorem stopStreaming_runs (closable : Closable maxUrbs device outside)
    (started : device.eventThreadStarted = true) :
    Runs (owned owner device outside) (stopStreaming maxUrbs device) fun after held =>
      after = { device with transfers := fun _ => false, transferBuffers := fun _ => false } ∧
        held = owned owner after { claimed := outside.claimed } := by
  unfold stopStreaming
  refine runs_bind (cancelTransfers_runs closable) ?_
  rintro ⟨⟩ _ rfl
  rw [onlyIf_pos started]
  refine runs_after (if_pos (closable.running.trans started)) ?_
  have joined : (fun
      | .eventThread => false
      | .submitted _ => false
      | resource => owned owner device outside resource : Held Resource) =
      owned owner (cleared device []) { claimed := outside.claimed } := by
    funext resource
    cases resource <;> simp [owned, cleared]
  rw [joined]
  refine runs_bind (runs_forM (fun done held =>
    held = owned owner (cleared device done) { claimed := outside.claimed }) _ rfl ?_) ?_
  · rintro done slot later _ order rfl
    have unseen : slot ∉ done := by
      have distinct := List.nodup_range (n := maxUrbs)
      rw [order] at distinct
      exact fun seen => (List.nodup_append.mp distinct).2.2 slot seen slot List.mem_cons_self rfl
    refine runs_releaseIf (fun there => by simp [owned, cleared, there, unseen])
      (fun _ => by simp [dependents, owned]) ?_
    refine runs_last (runs_releaseIf (fun there => by simp [without, owned, cleared, there, unseen])
      (fun _ => by simp [dependents, without, owned]) (runs_pure ?_))
    funext resource
    cases resource with
    | transfer other =>
      by_cases same : other = slot
      · subst same
        cases there : device.transfers other <;> simp [without, owned, cleared, there]
      · simp [without, owned, cleared, same]
    | buffer other =>
      by_cases same : other = slot
      · subst same
        cases there : device.transferBuffers other <;> simp [without, owned, cleared, there]
      · simp [without, owned, cleared, same]
    | _ => simp [without, owned, cleared]
  · rintro ⟨⟩ _ rfl
    refine runs_pure ⟨rfl, ?_⟩
    have inside : ∀ slot, device.transfers slot = true → slot < maxUrbs :=
      fun slot there => (closable.ring slot there).2
    funext resource
    cases resource with
    | transfer slot | buffer slot => simpa [owned, cleared, closable.buffers] using inside slot
    | _ => simp [owned, cleared]

/-- **Closing gives everything back.** -/
theorem closeDevice_runs (closable : Closable maxUrbs device outside) :
    Runs (owned owner device outside) (closeDevice maxUrbs device) fun _ held =>
      held = owned owner {} {} := by
  unfold closeDevice
  have stopped : Runs (owned owner device outside)
      (if device.eventThreadStarted then stopStreaming maxUrbs device else pure device)
      fun after held => after = { device with
        transfers := fun _ => false, transferBuffers := fun _ => false } ∧
        held = owned owner after { claimed := outside.claimed } := by
    by_cases started : device.eventThreadStarted = true
    · rw [if_pos started]
      exact stopStreaming_runs closable started
    · rw [if_neg started]
      have empty : ∀ slot, device.transfers slot = false := by
        intro slot
        cases there : device.transfers slot with
        | false => rfl
        | true => exact absurd (closable.ring slot there).1 started
      have same : ({ device with
          transfers := fun _ => false, transferBuffers := fun _ => false } : Device) = device := by
        have transfers : (fun _ => false) = device.transfers := (funext empty).symm
        have buffers := transfers.trans closable.buffers.symm
        obtain ⟨⟩ := device
        simp only at transfers buffers
        rw [← transfers, ← buffers]
      refine runs_pure ⟨same.symm, ?_⟩
      funext resource
      cases resource with
      | eventThread =>
        show outside.running = false
        rw [closable.running]
        simpa using started
      | submitted slot =>
        cases busy : outside.submitted slot with
        | false => exact busy
        | true => exact absurd (closable.submitted slot busy) (by simp [empty])
      | _ => rfl
  refine runs_bind stopped ?_
  rintro _ _ ⟨rfl, rfl⟩
  dsimp only
  rw [onlyIf_pos closable.initialized.2]
  refine runs_use closable.initialized.2 ?_
  have synced : Runs (owned owner { device with
      handle := false, transfers := fun _ => false, transferBuffers := fun _ => false } {})
      (destroySyncState maxUrbs { device with
        handle := false, transfers := fun _ => false, transferBuffers := fun _ => false })
      fun _ held => held = owned owner {} {} := by
    refine runs_mono (destroySyncState_runs _ rfl) ?_
    rintro _ _ ⟨rfl, rfl⟩
    funext resource
    cases resource <;> rfl
  by_cases there : device.handle = true
  · rw [onlyIf_pos there]
    have released : Runs (owned owner { device with
        transfers := fun _ => false, transferBuffers := fun _ => false }
        { claimed := outside.claimed })
        (onlyIf device.interfaceNumber.isSome releaseInterface)
        fun _ held => held = owned owner { device with
          transfers := fun _ => false, transferBuffers := fun _ => false } {} := by
      by_cases named : device.interfaceNumber.isSome = true
      · rw [onlyIf_pos named]
        refine runs_use there ⟨(), _, rfl, ?_⟩
        funext resource
        cases resource <;> simp [owned]
      · rw [onlyIf_neg named]
        refine runs_pure ?_
        have unclaimed : outside.claimed = false := by
          cases claimed : outside.claimed with
          | false => rfl
          | true => exact absurd (closable.claimed claimed).2 named
        rw [unclaimed]
    simp only [bind_assoc]
    refine runs_bind released ?_
    rintro ⟨⟩ _ rfl
    refine runs_release there ?_ ?_
    · intro other rests
      simp only [dependents, List.mem_append, List.mem_cons, List.not_mem_nil, or_false,
        List.mem_map] at rests
      obtain ((rfl | rfl) | ⟨slot, -, rfl⟩) | ⟨slot, -, rfl⟩ := rests
      · rfl
      · rfl
      · rfl
      · rfl
    have closed : Function.update (owned owner { device with
        transfers := fun _ => false, transferBuffers := fun _ => false } {}) .handle false =
        owned owner { device with
          handle := false, transfers := fun _ => false, transferBuffers := fun _ => false } {} := by
      funext resource
      cases resource <;> simp [owned]
    rw [closed]
    exact synced
  · rw [onlyIf_neg there, pure_bind]
    have unclaimed : outside.claimed = false := by
      cases claimed : outside.claimed with
      | false => rfl
      | true => exact absurd (closable.claimed claimed).1 there
    have same : owned owner { device with
        transfers := fun _ => false, transferBuffers := fun _ => false }
        { claimed := outside.claimed } = owned owner { device with
          handle := false, transfers := fun _ => false, transferBuffers := fun _ => false } {} := by
      rw [unclaimed]
      funext resource
      cases resource with
      | handle => simpa [owned] using there
      | _ => rfl
    rw [same]
    exact synced

/-! ## The firmware -/

/-- The file is read into memory, or nothing has changed. -/
theorem readFile_runs (calls : FirmwareCalls) (file : held .firmwareFile = false)
    (data : held .fileData = false) :
    Runs held (readFile maxUrbs calls) fun rc after =>
      (rc = 0 ∧ after = Function.update held .fileData true) ∨ (rc ≠ 0 ∧ after = held) := by
  unfold readFile
  split
  · rename_i failed
    exact runs_pure (Or.inr ⟨by simpa using failed, rfl⟩)
  refine runs_acquire file ?_
  split
  · exact runs_release (by simp) nofun (runs_pure (Or.inr ⟨by decide, update_back file⟩))
  split
  · exact runs_release (by simp) nofun (runs_pure (Or.inr ⟨by decide, update_back file⟩))
  refine runs_acquire (by simp [data]) ?_
  split
  · refine runs_release (by simp) nofun (runs_release (by simp) nofun ?_)
    rw [update_back (by simp [data]), update_back file]
    exact runs_pure (Or.inr ⟨by decide, rfl⟩)
  · refine runs_release (by simp) nofun (runs_pure (Or.inl ⟨rfl, ?_⟩))
    rw [Function.update_comm (a := Resource.fileData) (by simp), update_back file]

theorem loadFamily2Firmware_runs (calls : FirmwareCalls) (file : held .firmwareFile = false)
    (data : held .fileData = false) (wire : held .wirePayload = false) :
    Runs held (loadFamily2Firmware maxUrbs calls) fun _ after => after = held := by
  unfold loadFamily2Firmware
  refine runs_bind (readFile_runs calls file data) ?_
  rintro rc _ (⟨rfl, rfl⟩ | ⟨failed, rfl⟩)
  · rw [if_neg (by simp)]
    split
    · exact runs_release (by simp) nofun (runs_pure (update_back data))
    split
    · exact runs_release (by simp) nofun (runs_pure (update_back data))
    refine runs_acquire (by simp [wire]) (runs_use (by simp) ?_)
    refine runs_release (by simp) nofun ?_
    rw [update_back (by simp [wire])]
    exact runs_release (by simp) nofun (runs_pure (update_back data))
  · rw [if_pos failed]
    exact runs_pure rfl

theorem setDeviceMode_runs (calls : ModeCalls) (handle : device.handle = true) :
    Runs (owned owner device outside) (setDeviceMode maxUrbs calls) fun _ after =>
      after = owned owner device outside := by
  unfold setDeviceMode
  refine runs_use handle ?_
  split
  · exact runs_pure rfl
  cases calls.firmware with
  | none => exact runs_pure rfl
  | some firmware =>
    refine runs_bind (loadFamily2Firmware_runs firmware rfl rfl rfl) ?_
    rintro rc _ rfl
    split
    · exact runs_pure rfl
    · exact runs_pure rfl

/-! ## The standalone program -/

/-- What `main` holds when it comes to its label `out`. -/
structure Leavable (maxUrbs : Nat) (owner : Owner) (leaving : Leaving) (held : Held Resource) :
    Prop where
  closable : ∃ outside, Closable maxUrbs leaving.device outside ∧
    held = owned { owner with outputFd := leaving.closeOutput } leaving.device outside
  pump : leaving.pumpInitialized = false

theorem leavable {leaving : Leaving} (closable : Closable maxUrbs leaving.device outside)
    (output : leaving.closeOutput = owner.outputFd) (pump : leaving.pumpInitialized = false) :
    Leavable maxUrbs owner leaving (owned owner leaving.device outside) :=
  ⟨⟨outside, closable, by rw [output]⟩, pump⟩

theorem streamOut_runs (options : Options) (calls : MainCalls δ)
    (closable : Closable maxUrbs device outside) (closed : owner.outputFd = false) :
    Runs (owned owner device outside) (streamOut maxUrbs options calls device)
      (Leavable maxUrbs owner) := by
  have opened : Function.update (owned owner device outside) .outputFd true =
      owned { owner with outputFd := true } device outside := by
    funext resource
    cases resource <;> simp [owned]
  have pumped : ∀ owner : Owner, Runs (owned owner device outside)
      (do
        onlyIf calls.armed (acquire .outputMode)
        use .queueMutex
        releaseIf maxUrbs calls.armed .outputMode
        pure ({ rc := calls.stream, device := device, closeOutput := owner.outputFd } : Leaving))
      (Leavable maxUrbs owner) := by
    intro owner
    by_cases armed : calls.armed = true
    · rw [onlyIf_pos armed, releaseIf, onlyIf_pos armed]
      refine runs_acquire rfl (runs_use (by simp [owned, closable.initialized.2]) ?_)
      refine runs_release (by simp) nofun ?_
      rw [update_back rfl]
      exact runs_pure (leavable closable rfl rfl)
    · rw [onlyIf_neg armed, pure_bind, releaseIf, onlyIf_neg armed]
      refine runs_use closable.initialized.2 ?_
      rw [pure_bind]
      exact runs_pure (leavable closable rfl rfl)
  unfold streamOut
  split
  · exact runs_pure (leavable closable closed.symm rfl)
  by_cases output : options.output = true
  · rw [onlyIf_pos output]
    refine runs_acquire closed ?_
    rw [opened, output]
    split
    · exact runs_pure ⟨⟨outside, closable, rfl⟩, rfl⟩
    · refine runs_mono (pumped { owner with outputFd := true }) ?_
      rintro leaving _ ⟨⟨other, kept, rfl⟩, pump⟩
      exact ⟨⟨other, kept, rfl⟩, pump⟩
  · rw [onlyIf_neg output, pure_bind]
    have none : options.output = owner.outputFd := by
      rw [closed]
      simpa using output
    rw [none]
    split
    · exact runs_pure (leavable closable rfl rfl)
    · exact pumped owner

theorem stages_runs (options : Options) (calls : MainCalls δ) (usb : owner.usb = true)
    (closed : owner.outputFd = false) :
    Runs (owned owner ready {}) (stages maxUrbs options calls ready) (Leavable maxUrbs owner) := by
  unfold stages
  refine runs_bind (openUsbDevice_runs calls.host options.detachKernelDriver usb) ?_
  rintro ⟨rc, device⟩ held unstarted
  dsimp only
  split
  · obtain ⟨⟨claimed, closable, rfl⟩, -, -⟩ := unstarted
    exact runs_pure (leavable closable closed.symm rfl)
  rename_i succeeded
  have handle : device.handle = true := unstarted.handle (by simpa using succeeded)
  refine runs_bind (startStreaming_runs calls.createThread calls.ring unstarted) ?_
  rintro ⟨rc, started⟩ _ ⟨outside, closable, rfl, same⟩
  dsimp only at closable same ⊢
  split
  · exact runs_pure (leavable closable closed.symm rfl)
  refine runs_bind (setDeviceMode_runs calls.mode (same.trans handle)) ?_
  rintro rc _ rfl
  split
  · exact runs_pure (leavable closable closed.symm rfl)
  unfold firstTune
  split
  · exact streamOut_runs options calls closable closed
  split
  · exact runs_pure (leavable closable closed.symm rfl)
  split
  · exact runs_pure (leavable closable closed.symm rfl)
  · exact streamOut_runs options calls closable closed

/-- Behind its label `out`, `main` gives back all it holds. -/
theorem leave_runs (calls : MainCalls δ) {leaving : Leaving}
    (leavable : Leavable maxUrbs { firmwarePath := true, usb := true, device := true } leaving held) :
    Runs held (leave maxUrbs calls leaving) fun _ after => after = fun _ => false := by
  obtain ⟨⟨outside, closable, rfl⟩, pump⟩ := leavable
  unfold leave
  rw [releaseIf, onlyIf_neg (by simp [pump]), pure_bind]
  refine runs_use closable.initialized.1 ?_
  refine runs_bind (closeDevice_runs closable) ?_
  rintro _ _ rfl
  refine runs_releaseIf (fun there => there) (fun _ => by simp [dependents, owned]) ?_
  refine runs_release (by simp [without, owned]) (by simp [dependents, without, owned]) ?_
  refine runs_release (by simp [without, owned]) nofun ?_
  refine runs_release (by simp [without, owned]) (by simp [dependents, without, owned]) ?_
  refine runs_pure ?_
  funext resource
  cases resource <;> simp [without, owned]

theorem runDevice_runs (options : Options) (calls : MainCalls δ) :
    Runs (owned { firmwarePath := true, usb := true } {} {}) (runDevice maxUrbs options calls)
      fun _ after => after = fun _ => false := by
  have back : Runs (owned { firmwarePath := true, usb := true } {} {}) (do
      release (dependents maxUrbs) .firmwarePath
      release (dependents maxUrbs) .usb
      pure 70) fun _ after => after = fun _ => false := by
    refine runs_release rfl nofun ?_
    refine runs_release rfl (by simp [dependents, owned]) (runs_pure ?_)
    funext resource
    cases resource <;> simp [owned]
  unfold runDevice
  split
  · exact back
  have allocated : Function.update (owned { firmwarePath := true, usb := true } {} {}) .device true =
      owned { firmwarePath := true, usb := true, device := true } {} {} := by
    funext resource
    cases resource <;> simp [owned]
  refine runs_acquire rfl ?_
  rw [allocated]
  refine runs_bind (initDeviceState_runs calls.init) ?_
  rintro _ _ (⟨rfl, rfl⟩ | ⟨rfl, rfl⟩)
  · dsimp only
    rw [if_neg (by simp)]
    refine runs_bind (stages_runs options calls rfl rfl) ?_
    intro leaving held leavable
    exact leave_runs calls leavable
  · dsimp only
    rw [if_pos (by simp)]
    refine runs_release rfl (by simp [dependents, owned]) ?_
    rw [← allocated, update_back rfl]
    exact back

/-- **The standalone program gives back everything it takes.** Whatever it is asked for, whatever
every call answers and wherever it stops, `main` takes nothing twice, uses and gives back only what
it holds, and gives nothing back before what rests on it; when it returns, it holds nothing. -/
theorem main_gives_back (maxUrbs : Nat) (options : Options) (calls : MainCalls δ) :
    ∃ status, main maxUrbs options calls (fun _ => false) = some (status, fun _ => false) := by
  have runs : Runs (fun _ => false) (main maxUrbs options calls)
      fun _ after => after = fun _ => false := by
    unfold main
    split
    · exact runs_pure rfl
    split
    · split
      · exact runs_pure rfl
      refine runs_acquire rfl ?_
      unfold listDevices
      split
      · rw [pure_bind]
        exact runs_release (by simp) (by simp [dependents]) (runs_pure (update_back rfl))
      · simp only [bind_assoc, pure_bind]
        refine runs_acquire (by simp) (runs_release (by simp) nofun ?_)
        rw [update_back (by simp)]
        exact runs_release (by simp) (by simp [dependents]) (runs_pure (update_back rfl))
    split
    · exact runs_pure rfl
    split
    · exact runs_pure rfl
    refine runs_acquire rfl ?_
    split
    · exact runs_release (by simp) nofun (runs_pure (update_back rfl))
    have both : Function.update (Function.update (fun _ => false) .firmwarePath true) .usb true =
        owned { firmwarePath := true, usb := true } {} {} := by
      funext resource
      cases resource <;> simp [owned]
    refine runs_acquire (by simp) ?_
    rw [both]
    exact runDevice_runs options calls
  obtain ⟨status, after, ran, rfl⟩ := runs
  exact ⟨status, ran⟩

/-! ## The receiver of the daemon -/

/-- `ReceiverAdapter`, with its device. -/
structure Receiver where
  adapter : ReceiverAdapter
  device : Device := {}

/-- What the calls of `ReceiverAdapter::open` answer. -/
structure OpenCalls (δ : Type) where
  init : InitCalls := {}
  host : Host δ
  createThread : Int := 0
  ring : Nat → SlotCalls := fun _ => {}
  mode : ModeCalls := {}

/-- The stages of `ReceiverAdapter::open` behind the first, each run when those before it returned
zero. -/
def openStages (maxUrbs : Nat) (calls : OpenCalls δ) (device : Device) : Do (Int × Device) := do
  let (rc, device) ← openUsbDevice maxUrbs calls.host false device
  if rc ≠ 0 then pure (rc, device)
  else do
    let (rc, device) ← startStreaming maxUrbs calls.createThread calls.ring device
    if rc ≠ 0 then pure (rc, device)
    else do
      let rc ← setDeviceMode maxUrbs calls.mode
      pure (rc, device)

/-- The flags after `ReceiverAdapter::open`, when the stages behind the first return `rc`. -/
def settle (adapter : ReceiverAdapter) (rc : Int) : ReceiverAdapter :=
  (adapter.openDevice adapter.receiver
    { initDeviceState := 0, openRio := rc, startStreaming := 0, setDeviceMode := 0 }).2

/-- `ReceiverAdapter::open`. -/
def openReceiver (maxUrbs : Nat) (state : Receiver) (receiver : Nat) (calls : OpenCalls δ) :
    Do Receiver :=
  if receiver ≠ state.adapter.receiver ∨ state.adapter.opened then pure state
  else do
    let (rc, device) ← initDeviceState maxUrbs calls.init
    if rc ≠ 0 then pure { state with device := device }
    else do
      let (rc, device) ← openStages maxUrbs calls device
      if rc ≠ 0 then do
        let device ← closeDevice maxUrbs device
        pure { adapter := settle state.adapter rc, device := device }
      else pure { adapter := settle state.adapter rc, device := device }

/-- `ReceiverAdapter::close`. -/
def closeReceiver (maxUrbs : Nat) (state : Receiver) (receiver : Nat) : Do Receiver :=
  if receiver ≠ state.adapter.receiver ∨ state.adapter.streamAttached ∨
      state.adapter.initialized = false then pure state
  else do
    let device ← closeDevice maxUrbs state.device
    pure { adapter := (state.adapter.close receiver).2, device := device }

/-- The calls that a `ReceiverAdapter` is used with, with the answers they meet. -/
inductive Call (δ : Type) where
  | open (receiver : Nat) (calls : OpenCalls δ)
  | close (receiver : Nat)
  | attach (started : Except Error Unit)
  | detach (stopped : Except Error Unit) (quiesced : Bool)

def perform (maxUrbs : Nat) (state : Receiver) : Call δ → Do Receiver
  | .open receiver calls => openReceiver maxUrbs state receiver calls
  | .close receiver => closeReceiver maxUrbs state receiver
  | .attach started => pure { state with adapter := (state.adapter.attach started).2 }
  | .detach stopped quiesced =>
    pure { state with adapter := (state.adapter.detach stopped quiesced).2 }

def performAll (maxUrbs : Nat) (state : Receiver) : List (Call δ) → Do Receiver
  | [] => pure state
  | call :: rest => do
    let state ← perform maxUrbs state call
    performAll maxUrbs state rest

/-- `ReceiverAdapter::~ReceiverAdapter`; it terminates the program while a stream is attached. -/
def destroy (maxUrbs : Nat) (state : Receiver) : Do Unit :=
  if state.adapter.opened then do
    let _ ← closeReceiver maxUrbs state state.adapter.receiver
    pure ()
  else if state.adapter.initialized then do
    let _ ← destroySyncState maxUrbs state.device
    pure ()
  else pure ()

/-- A receiver holds what its device needs while it is open, and nothing else. -/
def Keeps (maxUrbs : Nat) (owner : Owner) (state : Receiver) (held : Held Resource) : Prop :=
  (state.adapter.opened = false ∧ state.adapter.initialized = false ∧
      state.adapter.streamAttached = false ∧ held = owned owner {} {}) ∨
    (state.adapter.opened = true ∧ state.adapter.initialized = true ∧
      ∃ outside, Closable maxUrbs state.device outside ∧ held = owned owner state.device outside)

variable {state : Receiver}

theorem openStages_runs (calls : OpenCalls δ) (usb : owner.usb = true) :
    Runs (owned owner ready {}) (openStages maxUrbs calls ready) fun result held =>
      ∃ outside, Closable maxUrbs result.2 outside ∧ held = owned owner result.2 outside := by
  unfold openStages
  refine runs_bind (openUsbDevice_runs calls.host false usb) ?_
  rintro ⟨rc, device⟩ held unstarted
  dsimp only
  split
  · obtain ⟨⟨claimed, closable, rfl⟩, -, -⟩ := unstarted
    exact runs_pure ⟨_, closable, rfl⟩
  rename_i succeeded
  have handle : device.handle = true := unstarted.handle (by simp only; omega)
  refine runs_bind (startStreaming_runs calls.createThread calls.ring unstarted) ?_
  rintro ⟨rc, started⟩ _ ⟨outside, closable, rfl, same⟩
  dsimp only at closable same ⊢
  split
  · exact runs_pure ⟨_, closable, rfl⟩
  refine runs_bind (setDeviceMode_runs calls.mode (same.trans handle)) ?_
  rintro rc _ rfl
  exact runs_pure ⟨_, closable, rfl⟩

theorem openReceiver_runs (receiver : Nat) (calls : OpenCalls δ) (usb : owner.usb = true)
    (keeps : Keeps maxUrbs owner state held) :
    Runs held (openReceiver maxUrbs state receiver calls) (Keeps maxUrbs owner) := by
  unfold openReceiver
  split
  · exact runs_pure keeps
  rename_i fresh
  obtain ⟨closed, bare, free, rfl⟩ | ⟨open_, -, -⟩ := keeps
  · refine runs_bind (initDeviceState_runs calls.init) ?_
    rintro _ _ (⟨rfl, rfl⟩ | ⟨rfl, rfl⟩)
    · dsimp only
      rw [if_neg (by simp)]
      refine runs_bind (openStages_runs calls usb) ?_
      rintro ⟨rc, device⟩ _ ⟨outside, closable, rfl⟩
      dsimp only at closable ⊢
      split
      · rename_i failed
        have settled : settle state.adapter rc = { state.adapter with initialized := false } := by
          simp [settle, ReceiverAdapter.openDevice, ReceiverAdapter.OpenStages.rc, closed, failed]
        refine runs_bind (closeDevice_runs closable) ?_
        rintro after _ rfl
        rw [settled]
        exact runs_pure (Or.inl ⟨closed, rfl, free, rfl⟩)
      · rename_i succeeded
        have settled : settle state.adapter rc = { state.adapter with
            initialized := true, opened := true, filters := []
            sentBefore := state.adapter.pidFiltersSent } := by
          simp only [ne_eq, Decidable.not_not] at succeeded
          simp [settle, ReceiverAdapter.openDevice, ReceiverAdapter.OpenStages.rc, closed, succeeded]
        rw [settled]
        exact runs_pure (Or.inr ⟨rfl, rfl, outside, closable, rfl⟩)
    · dsimp only
      rw [if_pos (by simp)]
      exact runs_pure (Or.inl ⟨closed, bare, free, rfl⟩)
  · exact absurd (Or.inr open_) fresh

theorem closeReceiver_runs (receiver : Nat) (keeps : Keeps maxUrbs owner state held) :
    Runs held (closeReceiver maxUrbs state receiver) fun after held =>
      Keeps maxUrbs owner after held ∧ (receiver = state.adapter.receiver →
        state.adapter.streamAttached = false → held = owned owner {} {}) := by
  unfold closeReceiver
  split
  · rename_i refused
    refine runs_pure ⟨keeps, fun named free => ?_⟩
    obtain ⟨-, -, -, same⟩ | ⟨-, ready, -⟩ := keeps
    · exact same
    · simp [named, free, ready] at refused
  rename_i accepted
  simp only [ne_eq, not_or, Bool.not_eq_true, Decidable.not_not] at accepted
  obtain ⟨named, free, ready⟩ := accepted
  obtain ⟨-, bare, -, -⟩ | ⟨-, -, outside, closable, rfl⟩ := keeps
  · exact absurd bare (by simpa using ready)
  · refine runs_bind (closeDevice_runs closable) ?_
    rintro after _ rfl
    refine runs_pure ⟨Or.inl ?_, fun _ _ => rfl⟩
    simp [ReceiverAdapter.close, named, free, ready]

theorem perform_runs (call : Call δ) (usb : owner.usb = true)
    (keeps : Keeps maxUrbs owner state held) :
    Runs held (perform maxUrbs state call) (Keeps maxUrbs owner) := by
  cases call with
  | «open» receiver calls => exact openReceiver_runs receiver calls usb keeps
  | close receiver => exact runs_mono (closeReceiver_runs receiver keeps) fun _ _ kept => kept.1
  | attach started =>
    refine runs_pure ?_
    obtain ⟨closed, bare, free, rfl⟩ | ⟨open_, ready, outside, closable, rfl⟩ := keeps
    · exact Or.inl (by simp [ReceiverAdapter.attach, closed, bare, free])
    · refine Or.inr ⟨?_, ?_, outside, closable, rfl⟩
      · cases started <;> cases attached : state.adapter.streamAttached <;>
          simp [ReceiverAdapter.attach, open_, attached]
      · cases started <;> cases attached : state.adapter.streamAttached <;>
          simp [ReceiverAdapter.attach, open_, ready, attached]
  | detach stopped quiesced =>
    refine runs_pure ?_
    obtain ⟨closed, bare, free, rfl⟩ | ⟨open_, ready, outside, closable, rfl⟩ := keeps
    · exact Or.inl (by simp [ReceiverAdapter.detach, closed, bare, free])
    · refine Or.inr ⟨?_, ?_, outside, closable, rfl⟩
      · cases attached : state.adapter.streamAttached <;> cases quiesced <;>
          simp [ReceiverAdapter.detach, ReceiverAdapter.stopConsumer, open_, attached]
      · cases attached : state.adapter.streamAttached <;> cases quiesced <;>
          simp [ReceiverAdapter.detach, ReceiverAdapter.stopConsumer, ready, attached]

theorem performAll_runs (calls : List (Call δ)) (usb : owner.usb = true)
    (keeps : Keeps maxUrbs owner state held) :
    Runs held (performAll maxUrbs state calls) (Keeps maxUrbs owner) := by
  induction calls generalizing state held with
  | nil => exact runs_pure keeps
  | cons call rest ih =>
    refine runs_bind (perform_runs call usb keeps) ?_
    intro after held kept
    exact ih kept

/-- **The receiver of the daemon gives back everything it takes.** Whatever sequence of calls it is
used with and whatever they meet, a receiver makes no mistake with what its device needs, holds
nothing for it while it is not open, and its destructor leaves nothing behind, unless a stream is
still attached. -/
theorem receiver_gives_back (maxUrbs : Nat) (receiver : Nat) (pids : List UInt16)
    (calls : List (Call δ)) :
    Runs (owned { usb := true } {} {})
      (performAll maxUrbs { adapter := { receiver := receiver, pids := pids } } calls)
      fun state held =>
        (state.adapter.opened = false → held = owned { usb := true } {} {}) ∧
        (state.adapter.streamAttached = false →
          Runs held (destroy maxUrbs state) fun _ after => after = owned { usb := true } {} {}) := by
  refine runs_mono (performAll_runs calls rfl (Or.inl ⟨rfl, rfl, rfl, rfl⟩)) ?_
  intro state held keeps
  refine ⟨fun closed => ?_, fun free => ?_⟩
  · obtain ⟨-, -, -, same⟩ | ⟨open_, -, -⟩ := keeps
    · exact same
    · exact absurd open_ (by simp [closed])
  · unfold destroy
    split
    · refine runs_bind (closeReceiver_runs state.adapter.receiver keeps) ?_
      intro after held closed
      exact runs_pure (closed.2 rfl free)
    rename_i closed
    obtain ⟨-, bare, -, rfl⟩ | ⟨open_, -, -⟩ := keeps
    · rw [if_neg (by simp [bare])]
      exact runs_pure rfl
    · exact absurd open_ closed

end SianoUserland.DeviceResources
