import SianoUserland.Errno
import SianoUserland.Protocol

/-! `siano-receiver-adapter.cpp`: the receiver of the daemon. What the device, the
consumer and the clock answer during a call is an argument of that call. -/
namespace SianoUserland

/-- `dtv::userland::Error`, as far as the adapter and its consumer use it. -/
inductive Error where
  | invalidArgument | notFound | busy | timeout | disconnected | unsupported | internal
  | resourceLimit
  deriving Repr, DecidableEq

/-- `ReceiverSystem`. -/
inductive ReceiverSystem where
  | terrestrial
  | satellite
  deriving Repr, DecidableEq

/-- A PID filter request that succeeded, and whether its acknowledgement was waited
for. -/
structure PidFilter where
  pid : UInt16
  acknowledged : Bool
  deriving Repr, DecidableEq

/-- `siano_pid_filter_requires_ack`. -/
def pidFilterRequiresAck (pid : UInt16) : Bool := pid ≠ 0x2000

/-- The loop of `configure_pid_filters`: its result, and the requests that succeeded.
`answers` are what the calls of `add_pid` and `send_pid_filter` return. -/
def sendPidFilters : List UInt16 → List Int → Int × List PidFilter
  | [], _ => (0, [])
  | pid :: rest, answers =>
    let rc := answers.headD (-Errno.timedout)
    if rc < 0 then (rc, [])
    else
      let (final, sent) := sendPidFilters rest answers.tail
      (final, { pid := pid, acknowledged := pidFilterRequiresAck pid } :: sent)

/-- `configure_pid_filters`. Past the listed answers a request times out. -/
def configurePidFilters (pids : List UInt16) (answers : List Int) : Int × List PidFilter :=
  if pids = [] then
    let rc := answers.headD (-Errno.timedout)
    (rc, if rc < 0 then [] else [{ pid := 0x2000, acknowledged := false }])
  else sendPidFilters pids answers

/-- `TuneProgramming`; `sampledAtNs` is there when the lock measurement is valid. -/
structure TuneProgramming where
  programmedHz : UInt64
  sampledAtNs : Option UInt64
  deriving Repr, DecidableEq

/-- `ReceiverAdapter`, with what its device was told. -/
structure ReceiverAdapter where
  receiver : Nat
  /-- The first `pid_count_` entries of `pids_`. -/
  pids : List UInt16
  initialized : Bool := false
  opened : Bool := false
  streamAttached : Bool := false
  pidFiltersSent : Bool := false
  /-- The filter requests that succeeded since the device was last opened. -/
  filters : List PidFilter := []
  /-- What `pid_filters_sent_` was when it was last opened. -/
  sentBefore : Bool := false
  /-- For each success of `program_hz`, the filters sent since the open before it. -/
  programmed : List (List PidFilter) := []
  deriving Repr, DecidableEq

namespace ReceiverAdapter

/-- `ReceiverAdapter::from_errno`. -/
def fromErrno (rc : Int) : Error :=
  if rc = -Errno.timedout then .timeout
  else if rc = -Errno.nodev ∨ rc = -Errno.nxio then .disconnected
  else if rc = -Errno.busy ∨ rc = -Errno.already then .busy
  else if rc = -Errno.inval then .invalidArgument
  else .internal

/-- What the stages of `ReceiverAdapter::open` return; the second is `open_from_fd` or
`open_rio`. -/
structure OpenStages where
  initDeviceState : Int
  openRio : Int
  startStreaming : Int
  setDeviceMode : Int
  deriving Repr, DecidableEq

/-- The result of the stages after the initialisation, each run when those before it
returned 0. -/
def OpenStages.rc (stages : OpenStages) : Int :=
  if stages.openRio ≠ 0 then stages.openRio
  else if stages.startStreaming ≠ 0 then stages.startStreaming
  else stages.setDeviceMode

/-- `ReceiverAdapter::open`. -/
def openDevice (adapter : ReceiverAdapter) (receiver : Nat) (stages : OpenStages) :
    Except Error Unit × ReceiverAdapter :=
  if receiver ≠ adapter.receiver then (.error .invalidArgument, adapter)
  else if adapter.opened then (.error .busy, adapter)
  else if stages.initDeviceState ≠ 0 then (.error .internal, adapter)
  else if stages.rc ≠ 0 then (.error (fromErrno stages.rc), { adapter with initialized := false })
  else (.ok (), { adapter with
    initialized := true, opened := true, filters := [], sentBefore := adapter.pidFiltersSent })

/-- What `program_hz` is asked, and what it finds. -/
structure Program where
  receiver : Nat
  system : ReceiverSystem
  requestedHz : UInt64
  /-- What `tune_with_timeout` returns. -/
  tuned : Int
  /-- What the filter requests return, if they are made. -/
  answers : List Int
  monotonicMs : UInt64
  deriving Repr, DecidableEq

/-- The lock measurement of a successful `program_hz`. -/
def sampledAtNs (monotonicMs : UInt64) : Option UInt64 :=
  if monotonicMs ≠ 0 ∧ monotonicMs.toNat ≤ 18446744073709551615 / 1000000 then
    some (monotonicMs * 1000000)
  else none

/-- The end of a successful `program_hz`. -/
def programmedTo (adapter : ReceiverAdapter) (program : Program) :
    Except Error TuneProgramming × ReceiverAdapter :=
  (.ok { programmedHz := program.requestedHz, sampledAtNs := sampledAtNs program.monotonicMs },
    { adapter with programmed := adapter.programmed ++ [adapter.filters] })

/-- `ReceiverAdapter::program_hz`. -/
def programHz (adapter : ReceiverAdapter) (program : Program) :
    Except Error TuneProgramming × ReceiverAdapter :=
  if program.receiver ≠ adapter.receiver ∨ program.system ≠ .terrestrial then
    (.error .unsupported, adapter)
  else if adapter.opened = false then (.error .notFound, adapter)
  else if program.requestedHz = 0 ∨ program.requestedHz.toNat > 4294967295 then
    (.error .invalidArgument, adapter)
  else if program.tuned ≠ 0 then
    (.error (if program.tuned = -Errno.timedout then .timeout else .internal), adapter)
  else if adapter.pidFiltersSent then adapter.programmedTo program
  else
    let (rc, sent) := configurePidFilters adapter.pids program.answers
    let adapter := { adapter with filters := adapter.filters ++ sent }
    if rc ≠ 0 then (.error .internal, adapter)
    else programmedTo { adapter with pidFiltersSent := true } program

/-- `ReceiverAdapter::close`. -/
def close (adapter : ReceiverAdapter) (receiver : Nat) : Except Error Unit × ReceiverAdapter :=
  if receiver ≠ adapter.receiver then (.error .invalidArgument, adapter)
  else if adapter.streamAttached then (.error .busy, adapter)
  else if adapter.initialized = false then (.ok (), adapter)
  else (.ok (), { adapter with initialized := false, opened := false })

/-- `ReceiverAdapter::attach`; `started` is what `Consumer::start` returns. -/
def attach (adapter : ReceiverAdapter) (started : Except Error Unit) :
    Except Error Unit × ReceiverAdapter :=
  if adapter.opened = false ∨ adapter.streamAttached then (.error .busy, adapter)
  else
    match started with
    | .error error => (.error error, adapter)
    | .ok () => (.ok (), { adapter with streamAttached := true })

/-- The end of a capture in `detach` and `stop_capture`, with what `Consumer::stop` and
`Consumer::quiesced` return. -/
def stopConsumer (adapter : ReceiverAdapter) (stopped : Except Error Unit) (quiesced : Bool) :
    Except Error Unit × ReceiverAdapter :=
  let adapter := if quiesced then { adapter with streamAttached := false } else adapter
  (match stopped with
    | .error .notFound => .ok ()
    | other => other, adapter)

/-- `ReceiverAdapter::detach`. -/
def detach (adapter : ReceiverAdapter) (stopped : Except Error Unit) (quiesced : Bool) :
    Except Error Unit × ReceiverAdapter :=
  if adapter.streamAttached = false then (.ok (), adapter)
  else adapter.stopConsumer stopped quiesced

/-- `ReceiverAdapter::stop_capture`. -/
def stopCapture (adapter : ReceiverAdapter) (receiver : Nat) (system : ReceiverSystem)
    (stopped : Except Error Unit) (quiesced : Bool) : Except Error Unit × ReceiverAdapter :=
  if receiver ≠ adapter.receiver ∨ system ≠ .terrestrial then (.error .invalidArgument, adapter)
  else adapter.stopConsumer stopped quiesced

/-- `ReceiverAdapter::shutdown`. -/
def shutdown (adapter : ReceiverAdapter) : Except Error Unit :=
  if adapter.streamAttached then .error .busy else .ok ()

/-- `ReceiverAdapter::supports`. -/
def supports (adapter : ReceiverAdapter) (receiver : Nat) (system : ReceiverSystem) : Bool :=
  receiver = adapter.receiver ∧ system = .terrestrial

/-- `ReceiverAdapter::start_capture`. -/
def startCapture (adapter : ReceiverAdapter) (receiver : Nat) (system : ReceiverSystem) :
    Except Error Unit :=
  if adapter.supports receiver system = false ∨ adapter.opened = false then
    .error .invalidArgument
  else .ok ()

/-- `ReceiverAdapter::begin_tune_power`. -/
def beginTunePower (adapter : ReceiverAdapter) (receiver : Nat) (system : ReceiverSystem)
    (voltage : UInt8) : Except Error Unit :=
  if adapter.supports receiver system = false then .error .unsupported
  else if voltage = 0 then .ok ()
  else .error .unsupported

/-- `ReceiverAdapter::commit_tune_power` and `ReceiverAdapter::rollback_tune_power`. -/
def endTunePower (adapter : ReceiverAdapter) (receiver : Nat) : Except Error Unit :=
  if receiver = adapter.receiver then .ok () else .error .invalidArgument

end ReceiverAdapter
end SianoUserland
