/-! `stream-state.c`: how streaming ends, and what a transfer status means for it. -/
namespace SianoUserland

namespace Libusb

abbrev errorIo : Int := -1
abbrev errorNoDevice : Int := -4
abbrev errorOverflow : Int := -8
abbrev errorPipe : Int := -9
abbrev errorInterrupted : Int := -10
abbrev errorOther : Int := -99

/-- `enum libusb_transfer_status`. -/
inductive TransferStatus where
  | completed | error | timedOut | cancelled | stall | noDevice | overflow
  deriving Repr, DecidableEq

end Libusb

open Libusb

/-- `struct siano_stream_state`. The first failure wins; a later graceful stop
must not invent an error. -/
structure StreamState where
  stopping : Bool := false
  error : Int := 0
  deriving Repr, DecidableEq

/-- `enum siano_transfer_action`. -/
inductive TransferAction where
  | complete | retry | drain | fatal
  deriving Repr, DecidableEq

namespace StreamState

/-- `siano_stream_disconnect_error`. -/
def disconnectError (error : Int) : Int :=
  if error = errorNoDevice ∨ error = errorIo ∨ error = errorPipe then errorNoDevice else error

/-- `siano_stream_state_stop`. -/
def stop (state : StreamState) : StreamState := { state with stopping := true }

/-- `siano_stream_state_fail`: whether this call made the transition. -/
def fail (state : StreamState) (error : Int) : Bool × StreamState :=
  if state.stopping then (false, state)
  else (true, { stopping := true, error := disconnectError error })

/-- `siano_transfer_classify_status`. -/
def classifyStatus (status : TransferStatus) (stopping : Bool) : TransferAction :=
  match status with
  | .completed => .complete
  | .timedOut => .retry
  | .cancelled => if stopping then .drain else .fatal
  | _ => .fatal

/-- `siano_transfer_status_error`. -/
def statusError : TransferStatus → Int
  | .noDevice => errorNoDevice
  | .error => errorIo
  | .stall => errorPipe
  | .overflow => errorOverflow
  | .cancelled => errorInterrupted
  | _ => errorOther

end StreamState
end SianoUserland
