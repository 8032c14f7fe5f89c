import SianoUserland.DeviceListing
import SianoUserland.DeviceMode
import SianoUserland.Lib.Check
import SianoUserland.ReceiverAdapter
import SianoUserland.StreamState

/-! What becomes of the code that an open of `siano-receiver-adapter.cpp` fails with. The stages of
`siano-device.c` hand back errno values and libusb's own codes alike; `siano_exit_code` of the
standalone program tells both apart, `from_errno` of the adapter reads them all as errno values. -/
namespace SianoUserland.OpenFailure
open Check DeviceListing DeviceMode

abbrev LIBUSB_ERROR_BUSY : Int := -6
abbrev LIBUSB_ERROR_NOT_SUPPORTED : Int := -12

/-- `siano_exit_code`. -/
def sianoExitCode (rc : Int) : Nat :=
  if 0 ≤ rc then 0
  else if rc = -Errno.nodev then 3
  else if rc = -Errno.busy ∨ rc = LIBUSB_ERROR_BUSY then 4
  else if rc = -Errno.timedout then 5
  else if rc = Libusb.errorNoDevice then 7
  else if rc = -Errno.noent ∨ rc = -Errno.badmsg then 10
  else if rc = -Errno.nomem ∨ rc = -Errno.again then 70
  else 1

/-! ## The stages -/

/-- Why an open fails. -/
inductive Failure where
  /-- The state of the device cannot be set up. -/
  | uninitialised
  /-- A call came back with this code, or a stage has found that there is no device. -/
  | code (rc : Int)
  /-- The interface is bound to a kernel driver. -/
  | driverBound
  /-- The kernel driver cannot be asked for; libusb's answer. -/
  | driverUnknown (answer : Int)
  deriving Repr, DecidableEq

/-- What the stage that fails returns. -/
def Failure.rc : Failure → Int
  | uninitialised => -1
  | code rc => rc
  | driverBound => -Errno.busy
  | driverUnknown _ => -Errno.io

/-- The code that came back, before the stage made its own of it. -/
def Failure.cause : Failure → Int
  | uninitialised => -1
  | code rc => rc
  | driverBound => -Errno.busy
  | driverUnknown answer => answer

/-- The answer of a call that fails below zero. -/
abbrev Answer (α : Type) := Except { rc : Int // rc < 0 } α

def Answer.orFail : Answer α → Except Failure α
  | .ok value => .ok value
  | .error rc => .error (.code rc)

/-- `struct libusb_endpoint_descriptor`. -/
structure Endpoint where
  bmAttributes : UInt8
  bEndpointAddress : UInt8
  wMaxPacketSize : UInt16
  deriving Repr, DecidableEq

/-- `struct libusb_interface_descriptor`: one alternate setting of an interface. -/
structure AltSetting where
  bInterfaceNumber : UInt8
  endpoints : List Endpoint
  deriving Repr, DecidableEq

/-- What libusb answers about a device that is open. -/
structure Handle where
  getDeviceDescriptor : Answer (UInt16 × UInt16)
  /-- The alternate settings of each interface. -/
  getActiveConfigDescriptor : Answer (List (List AltSetting))
  kernelDriverActive : UInt8 → Int
  claimInterface : UInt8 → Answer Unit

/-- `enum detach_decision`. -/
inductive DetachDecision where
  | allow | refuseBound | refuseUnknown
  deriving Repr, DecidableEq

/-- `classify_kernel_driver_query`. -/
def classifyKernelDriverQuery (queryResult : Int) : DetachDecision :=
  if queryResult = 1 then .refuseBound
  else if queryResult < 0 ∧ queryResult ≠ LIBUSB_ERROR_NOT_SUPPORTED then .refuseUnknown
  else .allow

/-- What `inspect_and_claim` finds out about a device. -/
structure Interface where
  interfaceNumber : UInt8
  inEp : UInt8
  responseAlignment : Nat
  deriving Repr, DecidableEq

/-- The last bulk IN endpoint of an alternate setting with its packet size, or zeros. -/
def bulkIn (endpoints : List Endpoint) : UInt8 × Nat :=
  endpoints.foldl (fun found endpoint =>
    if endpoint.bmAttributes &&& 3 ≠ 2 then found
    else if endpoint.bEndpointAddress &&& 0x80 ≠ 0 then
      (endpoint.bEndpointAddress, (endpoint.wMaxPacketSize &&& 0x7ff).toNat)
    else found) (0, 0)

/-- The search through the interfaces: the first alternate setting with a bulk IN endpoint. -/
def findInterface (config : List (List AltSetting)) : Option Interface :=
  config.flatten.findSome? fun alt =>
    let (inEp, maxPacket) := bulkIn alt.endpoints
    if inEp = 0 then none
    else some {
      interfaceNumber := alt.bInterfaceNumber, inEp := inEp
      responseAlignment := if 8 < maxPacket then maxPacket - 8 else 0 }

/-- The question for a kernel driver, which `--detach-kernel-driver` of the standalone program
leaves out. -/
def refuseKernelDriver (handle : Handle) (interfaceNumber : UInt8) : Except Failure Unit :=
  let bound := handle.kernelDriverActive interfaceNumber
  match classifyKernelDriverQuery bound with
  | .refuseBound => .error .driverBound
  | .refuseUnknown => .error (.driverUnknown bound)
  | .allow => .ok ()

/-- `inspect_and_claim`. -/
def inspectAndClaim (handle : Handle) (detachKernelDriver : Bool) : Except Failure Interface := do
  let (vendor, product) ← handle.getDeviceDescriptor.orFail
  require (deviceName vendor product).2 (.code (-Errno.nodev))
  let config ← handle.getActiveConfigDescriptor.orFail
  match findInterface config with
  | none => .error (.code (-Errno.nodev))
  | some interface => do
    if detachKernelDriver = false then refuseKernelDriver handle interface.interfaceNumber
    (handle.claimInterface interface.interfaceNumber).orFail
    return interface

/-- One pass of the loop of `start_streaming` over the ring of transfers. -/
structure Submission where
  allocated : Bool := true
  /-- The state under its lock. -/
  state : StreamState := {}
  submitTransfer : Answer Unit := .ok ()

def Submission.perform (submission : Submission) : Except Failure Unit := do
  require submission.allocated (.code (-Errno.nomem))
  require (!submission.state.stopping)
    (.code (if submission.state.error ≠ 0 then submission.state.error else -Errno.canceled))
  submission.submitTransfer.orFail

variable {δ : Type}

/-- What an open meets. -/
structure Host (δ : Type) where
  /-- `init_device_state_capture`. -/
  initDeviceState : Int := 0
  /-- `device_fd_`. -/
  deviceFd : Int := -1
  /-- `fcntl` knows the descriptor. -/
  fdKnown : Bool := true
  wrapSysDevice : Answer Handle
  usb : Usb δ
  getDeviceList : Answer (DeviceList δ)
  selector : DeviceSelector
  selectorText : List UInt8 := []
  openUsb : δ → Answer Handle
  /-- `pthread_create`. -/
  createThread : Int := 0
  /-- As many as `MAX_URBS`. -/
  ring : List Submission
  session : Session

namespace Host

/-- `open_rio`. -/
def openRio (host : Host δ) : Except Failure Interface := do
  let list ← host.getDeviceList.orFail
  match selectRio host.usb list host.selector host.selectorText with
  | .error failure => .error (.code failure.rc)
  | .ok selected => do
    let handle ← (host.openUsb selected).orFail
    inspectAndClaim handle false

/-- `open_from_fd`. -/
def openFromFd (host : Host δ) : Except Failure Interface := do
  require host.fdKnown (.code (-Errno.badf))
  let handle ← host.wrapSysDevice.orFail
  inspectAndClaim handle false

/-- The device is opened. -/
def openUsbDevice (host : Host δ) : Except Failure Interface :=
  if 0 ≤ host.deviceFd then host.openFromFd else host.openRio

/-- `start_streaming`. -/
def startStreaming (host : Host δ) : Except Failure Unit := do
  require (host.createThread = 0) (.code (-host.createThread))
  checkEach Submission.perform host.ring

/-- `set_device_mode`. -/
def setMode (host : Host δ) (interface : Interface) : Int :=
  (setDeviceMode host.session { responseAlignment := interface.responseAlignment }).1

/-- What the stages return to `ReceiverAdapter::open`. -/
def stages (host : Host δ) : ReceiverAdapter.OpenStages where
  initDeviceState := host.initDeviceState
  openRio := match host.openUsbDevice with
    | .ok _ => 0
    | .error failure => failure.rc
  startStreaming := match host.startStreaming with
    | .ok _ => 0
    | .error failure => failure.rc
  setDeviceMode := match host.openUsbDevice with
    | .ok interface => host.setMode interface
    | .error _ => 0

end Host

/-- `ReceiverAdapter::open`. -/
def openReceiver (adapter : ReceiverAdapter) (receiver : Nat) (host : Host δ) :
    Except Error Unit × ReceiverAdapter :=
  adapter.openDevice receiver host.stages

/-- An error says what the standalone program's classification says of a cause: an interface that is
busy or bound to a kernel driver, a device that is not there, a timeout, or none of these. -/
structure Keeps (cause : Int) (error : Error) : Prop where
  busy : error = .busy ↔ sianoExitCode cause = 4
  gone : error = .disconnected ↔ sianoExitCode cause = 3 ∨ sianoExitCode cause = 7
  timeout : error = .timeout ↔ sianoExitCode cause = 5

variable {failure : Failure} {adapter : ReceiverAdapter} {host : Host δ}

/-- A host with one receiver, on which libusb answers the question for a kernel driver and the claim
of the interface with these. -/
def answering (driver : Int) (claim : Answer Unit) : Host Unit where
  wrapSysDevice := .error ⟨-1, by decide⟩
  usb := {
    getDeviceDescriptor := fun _ => .ok (0x3275, 0x0080)
    getBusNumber := fun _ => 1
    getDeviceAddress := fun _ => 4
    getPortNumbers := fun _ _ => .ok [2] }
  getDeviceList := .ok { devices := [()], few := by decide }
  selector := { kind := .index, index := 0, bus := 0, address := 0, ports := [] }
  openUsb := fun _ => .ok {
    getDeviceDescriptor := .ok (0x3275, 0x0080)
    getActiveConfigDescriptor :=
      .ok [[{ bInterfaceNumber := 0
              endpoints := [{ bmAttributes := 2, bEndpointAddress := 0x81, wMaxPacketSize := 512 },
                { bmAttributes := 2, bEndpointAddress := 0x02, wMaxPacketSize := 512 }] }]]
    kernelDriverActive := fun _ => driver
    claimInterface := fun _ => claim }
  ring := [{}]
  session := { exchanges := fun _ => {}, host := { file := .error (-Errno.noent) } }

/-- An adapter that was never opened. -/
def fresh : ReceiverAdapter := { receiver := 0, pids := [] }

end SianoUserland.OpenFailure
