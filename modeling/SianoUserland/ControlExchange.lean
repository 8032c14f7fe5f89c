import SianoUserland.Response

/-! A control exchange of `siano-device.c`: `send_message`, `wait_response` and
`send_and_wait`, while the event thread hands received buffers to
`handle_received_buffer`. -/
namespace SianoUserland.ControlExchange
open Protocol

abbrev LIBUSB_ERROR_IO : Int := -1
abbrev LIBUSB_ERROR_TIMEOUT : Int := -7

/-- A message for the bulk endpoint, and what became of its exchange. -/
structure Sent where
  message : List UInt8
  result : Int
  deriving Repr, DecidableEq

/-- `struct siano_device` as far as control reaches, with two histories. -/
structure Device where
  responseAlignment : Nat
  responses : Responses := {}
  /-- The buffers handled since the last `clear_response`. -/
  heard : List (List UInt8) := []
  /-- Every message handed to `libusb_bulk_transfer`. -/
  sent : List Sent := []

/-- One look of the waiting thread: the buffers handled before it, and the flags it finds. -/
structure Look where
  buffers : List (List UInt8) := []
  stopRequested : Bool := false
  /-- `siano_stream_state_error`. -/
  error : Int := 0
  deriving Repr, DecidableEq

/-- What `wait_response` meets. -/
structure Wait where
  /-- The first `deadline_remaining_ms` is not zero. -/
  timely : Bool := true
  /-- The first look at the counter. -/
  first : Look := {}
  /-- The looks after a wake-up. -/
  wakes : List Look := []
  /-- The look after `ETIMEDOUT`, when no wake-up is left. -/
  expired : Look := {}
  /-- The last `deadline_remaining_ms` is not zero. -/
  inTime : Bool := true
  deriving Repr, DecidableEq

/-- What one exchange meets. -/
structure Exchange where
  /-- The buffers handled since the exchange before it. -/
  earlier : List (List UInt8) := []
  /-- What `libusb_bulk_transfer` returns. -/
  usb : Int := 0
  /-- What it reports as transferred when that is less than the message. -/
  short : Option Nat := none
  wait : Wait := {}
  deriving Repr, DecidableEq

namespace Device

/-- `handle_received_buffer`, for what is not transport-stream data. -/
def handle (device : Device) (buffer : List UInt8) : Device :=
  let device := { device with heard := device.heard ++ [buffer] }
  match received device.responseAlignment buffer with
  | .response type payload => { device with responses := device.responses.note type payload }
  | .data _ | .invalid => device

def handleAll (device : Device) (buffers : List (List UInt8)) : Device :=
  buffers.foldl handle device

/-- `clear_response`. -/
def clearResponse (device : Device) (type : Nat) : Device :=
  { device with responses := device.responses.clear type, heard := [] }

/-- The condition of the loop of `wait_response_until`. -/
def waits (device : Device) (type : Nat) (look : Look) : Bool :=
  device.responses.responseCount type = 0 ∧ look.stopRequested = false ∧ look.error = 0

/-- The loop of `wait_response_until`: what it leaves, what it saw last, and whether it was
timed out. -/
def waitLoop (type : Nat) (expired : Look) (device : Device) (look : Look) :
    List Look → Device × Look × Bool
  | [] =>
    if device.waits type look then (device.handleAll expired.buffers, expired, true)
    else (device, look, false)
  | wake :: wakes =>
    if device.waits type look then waitLoop type expired (device.handleAll wake.buffers) wake wakes
    else (device, look, false)

/-- `wait_response`. -/
def waitResponse (device : Device) (type : Nat) (wait : Wait) : Int × Device :=
  let device := device.handleAll wait.first.buffers
  if wait.timely = false then (-Errno.timedout, device)
  else
    let (device, look, timedOut) := device.waitLoop type wait.expired wait.first wait.wakes
    if device.responses.responseCount type ≠ 0 ∧ wait.inTime then
      (0, { device with responses := device.responses.consume type })
    else if device.responses.responseCount type ≠ 0 then (-Errno.timedout, device)
    else if look.stopRequested then (-Errno.intr, device)
    else if look.error < 0 then (look.error, device)
    else if timedOut then (-Errno.timedout, device)
    else (-Errno.io, device)

/-- `send_message`: what `libusb_bulk_transfer` makes of the message. -/
def sendMessage (message : List UInt8) (exchange : Exchange) : Int :=
  let transferred := exchange.short.getD message.length
  if exchange.usb = LIBUSB_ERROR_TIMEOUT then -Errno.timedout
  else if exchange.usb < 0 then exchange.usb
  else if transferred ≠ message.length then LIBUSB_ERROR_IO
  else exchange.usb

/-- A message goes out and nothing is waited for. -/
def sendOnly (device : Device) (message : List UInt8) (exchange : Exchange) : Int × Device :=
  let rc := sendMessage message exchange
  (rc, { device.handleAll exchange.earlier with sent := device.sent ++ [⟨message, rc⟩] })

/-- `send_and_wait`. -/
def sendAndWait (device : Device) (message : List UInt8) (responseType : Nat)
    (exchange : Exchange) : Int × Device :=
  let cleared := (device.handleAll exchange.earlier).clearResponse responseType
  let sent := sendMessage message exchange
  let (rc, after) :=
    if sent < 0 then (sent, cleared) else cleared.waitResponse responseType exchange.wait
  (rc, { after with sent := device.sent ++ [⟨message, rc⟩] })

/-! ## What stays -/

theorem handle_heard (device : Device) (buffer : List UInt8) :
    (device.handle buffer).heard = device.heard ++ [buffer] := by
  unfold handle
  dsimp only
  split
  · rfl
  · rfl
  · rfl

@[simp]
theorem handle_responseAlignment (device : Device) (buffer : List UInt8) :
    (device.handle buffer).responseAlignment = device.responseAlignment := by
  unfold handle
  dsimp only
  split
  · rfl
  · rfl
  · rfl

/-- What every buffer keeps is kept by all of them. -/
theorem handleAll_keeps {holds : Device → Prop} {admitted : List UInt8 → Prop}
    (step : ∀ device buffer, admitted buffer → holds device → holds (device.handle buffer))
    (members : ∀ buffer ∈ buffers, admitted buffer) (start : holds device) :
    holds (device.handleAll buffers) := by
  unfold handleAll
  induction buffers generalizing device with
  | nil => exact start
  | cons buffer buffers ih =>
    apply ih
    · exact fun other found => members other (List.mem_cons_of_mem _ found)
    · exact step device buffer (members buffer List.mem_cons_self) start

/-- The loop of a wait keeps it as well. -/
theorem waitLoop_keeps {holds : Device → Prop} {admitted : List UInt8 → Prop}
    (step : ∀ device buffer, admitted buffer → holds device → holds (device.handle buffer))
    (type : Nat) (expired look : Look) (wakes : List Look)
    (members : ∀ wake ∈ wakes, ∀ buffer ∈ wake.buffers, admitted buffer)
    (last : ∀ buffer ∈ expired.buffers, admitted buffer) (start : holds device) :
    holds (device.waitLoop type expired look wakes).1 := by
  induction wakes generalizing device look with
  | nil =>
    unfold waitLoop
    split
    · exact handleAll_keeps step last start
    · exact start
  | cons wake wakes ih =>
    unfold waitLoop
    split
    · apply ih
      · exact fun other found => members other (List.mem_cons_of_mem _ found)
      · exact handleAll_keeps step (members wake List.mem_cons_self) start
    · exact start

theorem handle_keeps_responseAlignment (alignment : Nat) (device : Device) (buffer : List UInt8)
    (_ : True) (same : device.responseAlignment = alignment) :
    (device.handle buffer).responseAlignment = alignment := by
  rw [handle_responseAlignment, same]

@[simp]
theorem handleAll_responseAlignment (device : Device) (buffers : List (List UInt8)) :
    (device.handleAll buffers).responseAlignment = device.responseAlignment :=
  handleAll_keeps (handle_keeps_responseAlignment _) (fun _ _ => trivial) rfl

@[simp]
theorem waitLoop_responseAlignment (type : Nat) (expired : Look) (device : Device) (look : Look)
    (wakes : List Look) :
    (device.waitLoop type expired look wakes).1.responseAlignment = device.responseAlignment :=
  waitLoop_keeps (handle_keeps_responseAlignment _) type expired look wakes
    (fun _ _ _ _ => trivial) (fun _ _ => trivial) rfl

@[simp]
theorem waitResponse_responseAlignment (device : Device) (type : Nat) (wait : Wait) :
    (device.waitResponse type wait).2.responseAlignment = device.responseAlignment := by
  simp only [waitResponse, apply_ite Prod.snd, apply_ite responseAlignment,
    waitLoop_responseAlignment, handleAll_responseAlignment, ite_self]

@[simp]
theorem sendAndWait_responseAlignment (device : Device) (message : List UInt8) (type : Nat)
    (exchange : Exchange) :
    (device.sendAndWait message type exchange).2.responseAlignment =
      device.responseAlignment := by
  simp only [sendAndWait, apply_ite Prod.snd, apply_ite responseAlignment, clearResponse,
    waitResponse_responseAlignment, handleAll_responseAlignment, ite_self]

@[simp]
theorem sendOnly_responseAlignment (device : Device) (message : List UInt8)
    (exchange : Exchange) :
    (device.sendOnly message exchange).2.responseAlignment = device.responseAlignment :=
  handleAll_responseAlignment _ _

/-! ## What an answer tells -/

/-- A wait returns no error only when its loop ends with a response, which it consumes. -/
theorem waitResponse_answered (answered : 0 ≤ (waitResponse device type wait).1) :
    ∃ after look timedOut,
      (device.handleAll wait.first.buffers).waitLoop type wait.expired wait.first wait.wakes =
        (after, look, timedOut) ∧
      after.responses.responseCount type ≠ 0 ∧
      waitResponse device type wait =
        (0, { after with responses := after.responses.consume type }) := by
  unfold waitResponse at answered ⊢
  dsimp only at answered ⊢
  generalize (device.handleAll wait.first.buffers).waitLoop _ _ _ _ = outcome at *
  obtain ⟨after, look, timedOut⟩ := outcome
  dsimp only at answered ⊢
  refine ⟨after, look, timedOut, rfl, ?_⟩
  by_cases late : wait.timely = false
  · rw [if_pos late] at answered
    exact absurd (show 0 ≤ -Errno.timedout from answered) (by decide)
  · rw [if_neg late] at answered ⊢
    by_cases counted : after.responses.responseCount type ≠ 0 ∧ wait.inTime = true
    · rw [if_pos counted]
      exact ⟨counted.1, rfl⟩
    · exfalso
      rw [if_neg counted] at answered
      split at answered
      · exact absurd (show 0 ≤ -Errno.timedout from answered) (by decide)
      split at answered
      · exact absurd (show 0 ≤ -Errno.intr from answered) (by decide)
      split at answered
      · rename_i negative
        exact absurd negative (Int.not_lt.mpr answered)
      split at answered
      · exact absurd (show 0 ≤ -Errno.timedout from answered) (by decide)
      · exact absurd (show 0 ≤ -Errno.io from answered) (by decide)

/-- A response that is there at the first look is consumed at once. -/
theorem waitResponse_counted (device : Device) (type : Nat) (wait : Wait)
    (timely : wait.timely = true) (inTime : wait.inTime = true)
    (counted : (device.handleAll wait.first.buffers).responses.responseCount type ≠ 0) :
    waitResponse device type wait =
      (0, { device.handleAll wait.first.buffers with
        responses := (device.handleAll wait.first.buffers).responses.consume type }) := by
  have stops : (device.handleAll wait.first.buffers).waits type wait.first = false := by
    simp [waits, counted]
  have looped : (device.handleAll wait.first.buffers).waitLoop type wait.expired wait.first
      wait.wakes = (device.handleAll wait.first.buffers, wait.first, false) := by
    cases wait.wakes <;> simp [waitLoop, stops]
  simp only [waitResponse, timely, looped, inTime, counted, ne_eq, not_false_eq_true, and_self,
    if_true, Bool.true_eq_false, if_false]

/-- An exchange returns no error only when its message goes out and its wait is answered. -/
theorem sendAndWait_answered
    (answered : 0 ≤ (sendAndWait device message responseType exchange).1) :
    0 ≤ (((device.handleAll exchange.earlier).clearResponse responseType).waitResponse
      responseType exchange.wait).1 ∧
    (sendAndWait device message responseType exchange).2 =
      { (((device.handleAll exchange.earlier).clearResponse responseType).waitResponse
          responseType exchange.wait).2 with
        sent := device.sent ++
          [⟨message, (sendAndWait device message responseType exchange).1⟩] } := by
  unfold sendAndWait at answered ⊢
  dsimp only at answered ⊢
  by_cases refused : sendMessage message exchange < 0
  · rw [if_pos refused] at answered
    exact absurd refused (Int.not_lt.mpr answered)
  · rw [if_neg refused] at answered ⊢
    exact ⟨answered, rfl⟩

end Device
end SianoUserland.ControlExchange
