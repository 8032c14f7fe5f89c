import SianoUserland.ControlExchange
import SianoUserland.ProtocolFraming
import SianoUserland.Lib.Slice

/-! `load_family2_firmware` of `siano-device.c`: a firmware file on the wire. -/
namespace SianoUserland.FirmwareLoad
open Protocol ControlExchange

abbrev MSG_SMS_DATA_DOWNLOAD_REQ : Nat := 660
abbrev MSG_SMS_DATA_DOWNLOAD_RES : Nat := 661
abbrev MSG_SMS_DATA_VALIDITY_REQ : Nat := 662
abbrev MSG_SMS_DATA_VALIDITY_RES : Nat := 663
abbrev MSG_SMS_SWDOWNLOAD_TRIGGER_REQ : Nat := 664
abbrev MSG_SMS_SWDOWNLOAD_TRIGGER_RES : Nat := 665
abbrev MSG_SW_RELOAD_START_REQ : Nat := 702
abbrev MSG_SW_RELOAD_START_RES : Nat := 703
abbrev MSG_SW_RELOAD_EXEC_REQ : Nat := 704

abbrev DEVICE_MODE_NONE : Int := -1

/-- `struct sms_firmware_header`. -/
structure FirmwareHeader where
  checkSum : Nat
  length : Nat
  startAddress : Nat
  deriving Repr, DecidableEq

/-- `sms_parse_firmware_header`. -/
def parseFirmwareHeader (buffer : List UInt8) : Except Int FirmwareHeader :=
  if buffer.length < 12 then .error (-Errno.inval)
  else
    let header : FirmwareHeader := {
      checkSum := getLe32 buffer
      length := getLe32 (buffer.drop 4)
      startAddress := getLe32 (buffer.drop 8) }
    if header.length > buffer.length - 12 then .error (-Errno.badmsg) else .ok header

/-- A message from the host to `SMS_HIF_TASK` with words as its arguments. -/
def hifMessage (type : Nat) (arguments : List Nat) : List UInt8 :=
  packHeader type 0 11 (8 + 4 * arguments.length) 0 ++ arguments.flatMap putLe32

/-- The message for one chunk of the image. -/
def downloadMessage (address : Nat) (chunk : List UInt8) : List UInt8 :=
  packHeader MSG_SMS_DATA_DOWNLOAD_REQ 0 11 ((8 + 4 + chunk.length) % 65536) 0 ++
    putLe32 address ++ chunk

/-- What `load_family2_firmware` finds besides its exchanges. -/
structure Host where
  /-- `read_file`. -/
  file : Except Int (List UInt8)
  /-- `calloc` has the memory. -/
  granted : Bool := true

/-- `send_and_wait`; the exchanges of a run are met in order. -/
def exchange (exchanges : Nat → Exchange) (device : Device) (message : List UInt8)
    (responseType : Nat) : Int × Device :=
  device.sendAndWait message responseType (exchanges device.sent.length)

/-- The loop over the image, with the result of the last exchange. -/
def download (exchanges : Nat → Exchange) (wirePayload : List UInt8) (rc : Int) (device : Device)
    (offset address : Nat) : Int × Device :=
  if offset < wirePayload.length then
    let chunk := min (wirePayload.length - offset) 240
    let message := downloadMessage address ((wirePayload.drop offset).take chunk)
    let (rc, device) := exchange exchanges device message MSG_SMS_DATA_DOWNLOAD_RES
    if rc < 0 then (rc, device)
    else download exchanges wirePayload rc device (offset + chunk) ((address + chunk) % 4294967296)
  else (rc, device)
termination_by wirePayload.length - offset

/-- From the loop to the end of `load_family2_firmware`. -/
def transmit (exchanges : Nat → Exchange) (header : FirmwareHeader) (wirePayload : List UInt8)
    (currentMode : Int) (device : Device) (address : Nat) : Int × Device :=
  let (rc, device) := download exchanges wirePayload 0 device 0 address
  if rc < 0 then (rc, device)
  else
    let (rc, device) := exchange exchanges device
      (hifMessage MSG_SMS_DATA_VALIDITY_REQ [header.startAddress, header.length, 0])
      MSG_SMS_DATA_VALIDITY_RES
    if rc < 0 then (rc, device)
    else if currentMode = DEVICE_MODE_NONE then
      exchange exchanges device
        (hifMessage MSG_SMS_SWDOWNLOAD_TRIGGER_REQ [header.startAddress, 6, 0x200, 0, 4])
        MSG_SMS_SWDOWNLOAD_TRIGGER_RES
    else
      device.sendOnly (hifMessage MSG_SW_RELOAD_EXEC_REQ []) (exchanges device.sent.length)

/-- `load_family2_firmware`. -/
def loadFamily2Firmware (exchanges : Nat → Exchange) (host : Host) (currentMode : Int)
    (device : Device) : Int × Device :=
  match host.file with
  | .error rc => (rc, device)
  | .ok file =>
    match parseFirmwareHeader file with
    | .error _ => (-Errno.badmsg, device)
    | .ok header =>
      if host.granted = false then (-Errno.nomem, device)
      else
        let wirePayload := (file.drop 12).take header.length ++
          List.replicate (file.length - header.length) 0
        if currentMode ≠ DEVICE_MODE_NONE then
          let (rc, device) := exchange exchanges device
            (hifMessage MSG_SW_RELOAD_START_REQ []) MSG_SW_RELOAD_START_RES
          if rc < 0 then (rc, device)
          else if header.length < 24 then (-Errno.badmsg, device)
          else
            transmit exchanges header wirePayload currentMode device
              (getLe32 (wirePayload.drop 20))
        else transmit exchanges header wirePayload currentMode device header.startAddress

/-! ## The upload as a list of messages

Nothing in a message depends on an answer, so an upload is a list of messages that are sent
until an exchange fails. -/

/-- A message, and the response that is waited for after it. -/
structure Step where
  message : List UInt8
  response : Option Nat
  deriving Repr, DecidableEq

def perform (exchanges : Nat → Exchange) (device : Device) (step : Step) : Int × Device :=
  match step.response with
  | some type => exchange exchanges device step.message type
  | none => device.sendOnly step.message (exchanges device.sent.length)

/-- The steps are taken until one fails. -/
def runSteps (exchanges : Nat → Exchange) (rc : Int) (device : Device) : List Step → Int × Device
  | [] => (rc, device)
  | step :: rest =>
    let (rc, device) := perform exchanges device step
    if rc < 0 then (rc, device) else runSteps exchanges rc device rest

/-- Chunk `index` of the image. -/
def chunkAt (wirePayload : List UInt8) (index : Nat) : List UInt8 :=
  Slice.slice wirePayload (240 * index) 240

def chunkStep (wirePayload : List UInt8) (base index : Nat) : Step where
  message := downloadMessage ((base + 240 * index) % 4294967296) (chunkAt wirePayload index)
  response := some MSG_SMS_DATA_DOWNLOAD_RES

def chunkCount (wirePayload : List UInt8) : Nat := (wirePayload.length + 239) / 240

def chunkSteps (wirePayload : List UInt8) (base : Nat) : List Step :=
  (List.range (chunkCount wirePayload)).map (chunkStep wirePayload base)

def validityStep (header : FirmwareHeader) : Step where
  message := hifMessage MSG_SMS_DATA_VALIDITY_REQ [header.startAddress, header.length, 0]
  response := some MSG_SMS_DATA_VALIDITY_RES

/-- What starts the new firmware. -/
def finalStep (header : FirmwareHeader) (currentMode : Int) : Step :=
  if currentMode = DEVICE_MODE_NONE then
    ⟨hifMessage MSG_SMS_SWDOWNLOAD_TRIGGER_REQ [header.startAddress, 6, 0x200, 0, 4],
      some MSG_SMS_SWDOWNLOAD_TRIGGER_RES⟩
  else ⟨hifMessage MSG_SW_RELOAD_EXEC_REQ [], none⟩

def transmission (header : FirmwareHeader) (wirePayload : List UInt8) (currentMode : Int)
    (base : Nat) : List Step :=
  chunkSteps wirePayload base ++ [validityStep header, finalStep header currentMode]

variable {exchanges : Nat → Exchange}

theorem runSteps_append (rc : Int) (device : Device) (first second : List Step) (fine : 0 ≤ rc) :
    runSteps exchanges rc device (first ++ second) =
      if (runSteps exchanges rc device first).1 < 0 then runSteps exchanges rc device first
      else runSteps exchanges (runSteps exchanges rc device first).1
        (runSteps exchanges rc device first).2 second := by
  induction first generalizing rc device with
  | nil =>
    have going : ¬ rc < 0 := by omega
    simp [runSteps, going]
  | cons step rest ih =>
    simp only [List.cons_append, runSteps]
    by_cases failed : (perform exchanges device step).1 < 0
    · simp [failed]
    · simp only [failed, if_false]
      exact ih _ _ (by omega)

/-- The result before a step does not matter to it. -/
theorem runSteps_rc (rc other : Int) (device : Device) (some : steps ≠ []) :
    runSteps exchanges rc device steps = runSteps exchanges other device steps := by
  cases steps with
  | nil => exact absurd rfl some
  | cons step rest => rfl

theorem perform_waiting (device : Device) (message : List UInt8) (type : Nat) :
    perform exchanges device ⟨message, some type⟩ = exchange exchanges device message type := rfl

theorem perform_chunkStep (device : Device) (wirePayload : List UInt8) (base index : Nat) :
    perform exchanges device (chunkStep wirePayload base index) =
      exchange exchanges device (downloadMessage ((base + 240 * index) % 4294967296)
        (chunkAt wirePayload index)) MSG_SMS_DATA_DOWNLOAD_RES := rfl

/-- A loop that is at the end of the image leaves what it has. -/
theorem download_done (done : wirePayload.length ≤ offset) (address : Nat) :
    download exchanges wirePayload rc device offset address = (rc, device) := by
  rw [download, if_neg (by omega)]

/-- The loop takes the steps of the chunks that are left. -/
theorem download_eq (exchanges : Nat → Exchange) (wirePayload : List UInt8) (base : Nat)
    (rc : Int) (device : Device) (index left : Nat)
    (count : index + left = chunkCount wirePayload) :
    download exchanges wirePayload rc device (240 * index) ((base + 240 * index) % 4294967296) =
      runSteps exchanges rc device
        ((List.range' index left).map (chunkStep wirePayload base)) := by
  unfold chunkCount at count
  induction left generalizing rc device index with
  | zero => exact download_done (by omega) _
  | succ left ih =>
    have chunk : (wirePayload.drop (240 * index)).take
        (min (wirePayload.length - 240 * index) 240) = chunkAt wirePayload index := by
      rw [chunkAt, Slice.slice, ← List.length_drop, Nat.min_comm, ← List.take_take,
        List.take_length]
    rw [download, if_pos (by omega), List.range'_succ, List.map_cons, runSteps, perform_chunkStep]
    dsimp only
    rw [chunk]
    generalize exchange exchanges device _ MSG_SMS_DATA_DOWNLOAD_RES = outcome
    obtain ⟨answer, after⟩ := outcome
    dsimp only
    by_cases failed : answer < 0
    · rw [if_pos failed, if_pos failed]
    · rw [if_neg failed, if_neg failed]
      by_cases whole : 240 * index + 240 ≤ wirePayload.length
      · have size : min (wirePayload.length - 240 * index) 240 = 240 := by omega
        have address : ((base + 240 * index) % 4294967296 + 240) % 4294967296 =
            (base + 240 * (index + 1)) % 4294967296 := by omega
        rw [size, address, ← ih answer after (index + 1) (by omega), Nat.mul_succ]
      · -- The last chunk is short, and the loop ends at the end of the image.
        obtain rfl : left = 0 := by omega
        exact download_done (by omega) _

theorem transmit_eq (header : FirmwareHeader) (wirePayload : List UInt8) (currentMode : Int)
    (device : Device) (base : Nat) (word : base < 4294967296) :
    transmit exchanges header wirePayload currentMode device base =
      runSteps exchanges 0 device (transmission header wirePayload currentMode base) := by
  have loop := download_eq exchanges wirePayload base 0 device 0
    (chunkCount wirePayload) (by omega)
  rw [Nat.mul_zero, Nat.add_zero, Nat.mod_eq_of_lt word, ← List.range_eq_range'] at loop
  rw [transmission, runSteps_append 0 device _ _ (by decide), transmit, loop, chunkSteps]
  generalize runSteps exchanges 0 device _ = outcome
  obtain ⟨answer, after⟩ := outcome
  dsimp only
  by_cases failed : answer < 0
  · rw [if_pos failed, if_pos failed]
  · rw [if_neg failed, if_neg failed]
    by_cases none : currentMode = DEVICE_MODE_NONE
    · simp [runSteps, finalStep, none, perform, validityStep]
    · simp [runSteps, finalStep, none, perform, validityStep]

/-- What `wire_payload` holds: the payload of the header, zeros up to the size of the file. -/
def wirePayload (file : List UInt8) (header : FirmwareHeader) : List UInt8 :=
  (file.drop 12).take header.length ++ List.replicate (file.length - header.length) 0

/-- Where the image goes: the start address of the header, or what the payload of an image says
that replaces a running one. -/
def baseAddress (file : List UInt8) (header : FirmwareHeader) (currentMode : Int) : Nat :=
  if currentMode = DEVICE_MODE_NONE then header.startAddress
  else getLe32 (((file.drop 12).take header.length).drop 20)

def reloadStart (currentMode : Int) : List Step :=
  if currentMode = DEVICE_MODE_NONE then []
  else [⟨hifMessage MSG_SW_RELOAD_START_REQ [], some MSG_SW_RELOAD_START_RES⟩]

/-- Every message of an upload. -/
def uploadSteps (file : List UInt8) (header : FirmwareHeader) (currentMode : Int) : List Step :=
  reloadStart currentMode ++
    transmission header (wirePayload file header) currentMode (baseAddress file header currentMode)

theorem getLe16_lt (bytes : List UInt8) : getLe16 bytes < 65536 := by
  have low := (bytes.getD 0 0).toNat_lt
  have high := (bytes.getD 1 0).toNat_lt
  unfold getLe16
  omega

theorem getLe32_lt (bytes : List UInt8) : getLe32 bytes < 4294967296 := by
  have low := getLe16_lt bytes
  have high := getLe16_lt (bytes.drop 2)
  unfold getLe32
  omega

/-- A word is read from what it lies in. -/
theorem getLe32_append (within : 4 ≤ first.length) (second : List UInt8) :
    getLe32 (first ++ second) = getLe32 first := by
  match first, within with
  | a :: b :: c :: d :: rest, _ => rfl

theorem header_fits (accepted : parseFirmwareHeader file = .ok header) :
    12 ≤ file.length ∧ header.length ≤ file.length - 12 ∧ header.startAddress < 4294967296 ∧
      header.length < 4294967296 := by
  unfold parseFirmwareHeader at accepted
  split at accepted
  · cases accepted
  · dsimp only at accepted
    split at accepted
    · cases accepted
    · cases accepted
      have start := getLe32_lt (file.drop 8)
      have length := getLe32_lt (file.drop 4)
      dsimp only at *
      omega

theorem length_wirePayload (accepted : parseFirmwareHeader file = .ok header) :
    (wirePayload file header).length = file.length := by
  obtain ⟨long, fits, -⟩ := header_fits accepted
  rw [wirePayload, List.length_append, List.length_take, List.length_drop, List.length_replicate]
  omega

/-- An upload takes its steps, as far as the payload holds the address it is for. -/
theorem load_eq (read : host.file = .ok file) (accepted : parseFirmwareHeader file = .ok header)
    (granted : host.granted = true)
    (addressed : currentMode ≠ DEVICE_MODE_NONE → 24 ≤ header.length) :
    loadFamily2Firmware exchanges host currentMode device =
      runSteps exchanges 0 device (uploadSteps file header currentMode) := by
  obtain ⟨long, fits, start, -⟩ := header_fits accepted
  simp only [loadFamily2Firmware, read, accepted, granted, Bool.true_eq_false, if_false]
  by_cases none : currentMode = DEVICE_MODE_NONE
  · simp only [uploadSteps, reloadStart, baseAddress, none, ne_eq, not_true, if_false, if_true,
      List.nil_append]
    exact transmit_eq header _ _ device _ start
  · have address : getLe32 ((wirePayload file header).drop 20) =
        getLe32 (((file.drop 12).take header.length).drop 20) := by
      have size := addressed none
      have payload : ((file.drop 12).take header.length).length = header.length := by
        rw [List.length_take, List.length_drop]
        omega
      rw [wirePayload, List.drop_append_of_le_length (by omega), getLe32_append]
      rw [List.length_drop]
      omega
    have size : ¬ header.length < 24 := Nat.not_lt.mpr (addressed none)
    have start : uploadSteps file header currentMode =
        ⟨hifMessage MSG_SW_RELOAD_START_REQ [], some MSG_SW_RELOAD_START_RES⟩ ::
          transmission header (wirePayload file header) currentMode
            (getLe32 ((wirePayload file header).drop 20)) := by
      rw [uploadSteps, reloadStart, if_neg none, baseAddress, if_neg none, address]
      rfl
    rw [if_pos none, start, runSteps, perform_waiting]
    generalize exchange exchanges device _ MSG_SW_RELOAD_START_RES = outcome
    obtain ⟨answer, after⟩ := outcome
    dsimp only
    by_cases failed : answer < 0
    · rw [if_pos failed, if_pos failed]
    · rw [if_neg failed, if_neg failed, if_neg size,
        runSteps_rc answer 0 _ (by simp [transmission])]
      exact transmit_eq header _ _ after _ (getLe32_lt _)

/-! ## What is sent -/

/-- Nothing follows a failed exchange. -/
def Orderly (log : List Sent) : Prop :=
  ∀ before entry after, log = before ++ entry :: after → entry.result < 0 → after = []

theorem orderly_nil : Orderly [] := by
  intro before entry after split
  simp at split

theorem orderly_cons (fine : ¬ first.result < 0) (orderly : Orderly log) :
    Orderly (first :: log) := by
  intro before entry after split failed
  cases before with
  | nil =>
    cases split
    exact absurd failed fine
  | cons head before =>
    cases split
    exact orderly before entry after rfl failed

theorem orderly_singleton (entry : Sent) : Orderly [entry] := by
  intro before other after split _
  cases before with
  | nil =>
    cases split
    rfl
  | cons head before => simp at split

theorem perform_sent (exchanges : Nat → Exchange) (device : Device) (step : Step) :
    (perform exchanges device step).2.sent =
      device.sent ++ [⟨step.message, (perform exchanges device step).1⟩] := by
  unfold perform
  split
  · rfl
  · rfl

/-- A run sends its messages in order and stops at the first failure. -/
theorem runSteps_sent (exchanges : Nat → Exchange) (rc : Int) (device : Device)
    (steps : List Step) :
    ∃ log, (runSteps exchanges rc device steps).2.sent = device.sent ++ log ∧ Orderly log ∧
      ((∀ entry ∈ log, 0 ≤ entry.result) → log.map Sent.message = steps.map Step.message ∧
        (0 ≤ rc → 0 ≤ (runSteps exchanges rc device steps).1)) := by
  induction steps generalizing rc device with
  | nil =>
    refine ⟨[], by simp [runSteps], ?_, fun _ => ⟨rfl, id⟩⟩
    exact orderly_nil
  | cons step rest ih =>
    have sent := perform_sent exchanges device step
    rw [runSteps]
    generalize perform exchanges device step = outcome at sent
    obtain ⟨answer, after⟩ := outcome
    dsimp only at sent ⊢
    by_cases failed : answer < 0
    · refine ⟨[⟨step.message, answer⟩], by rw [if_pos failed, sent], ?_, ?_⟩
      · exact orderly_singleton _
      · intro fine
        exact absurd failed (Int.not_lt.mpr (fine _ List.mem_cons_self))
    · obtain ⟨log, rest, orderly, whole⟩ := ih answer after
      refine ⟨⟨step.message, answer⟩ :: log, ?_, ?_, ?_⟩
      · rw [if_neg failed, rest, sent, List.append_assoc]
        rfl
      · exact orderly_cons failed orderly
      · intro fine
        rw [if_neg failed]
        obtain ⟨messages, result⟩ := whole (fun entry member =>
          fine entry (List.mem_cons_of_mem _ member))
        refine ⟨by rw [List.map_cons, messages, List.map_cons], fun _ => result (by omega)⟩

/-- Whatever an upload finds, it leaves the device as some steps leave it. -/
theorem load_steps (exchanges : Nat → Exchange) (host : Host) (currentMode : Int)
    (device : Device) :
    ∃ steps, (loadFamily2Firmware exchanges host currentMode device).2 =
      (runSteps exchanges 0 device steps).2 := by
  cases read : host.file with
  | error rc => exact ⟨[], by simp [loadFamily2Firmware, read, runSteps]⟩
  | ok file =>
    cases accepted : parseFirmwareHeader file with
    | error rc => exact ⟨[], by simp [loadFamily2Firmware, read, accepted, runSteps]⟩
    | ok header =>
      cases granted : host.granted with
      | false => exact ⟨[], by simp [loadFamily2Firmware, read, accepted, granted, runSteps]⟩
      | true =>
        by_cases addressed : currentMode ≠ DEVICE_MODE_NONE → 24 ≤ header.length
        · exact ⟨uploadSteps file header currentMode,
            by rw [load_eq read accepted granted addressed]⟩
        · -- The address is read after the exchange that starts the reload.
          obtain ⟨mode, short⟩ := Classical.not_imp.mp addressed
          have short : header.length < 24 := Nat.not_le.mp short
          refine ⟨reloadStart currentMode, ?_⟩
          rw [reloadStart, if_neg mode, runSteps, perform_waiting]
          simp only [loadFamily2Firmware, read, accepted, granted, Bool.true_eq_false, if_false,
            if_pos mode, if_pos short, apply_ite Prod.snd, ite_self, runSteps]

theorem runSteps_responseAlignment (exchanges : Nat → Exchange) (rc : Int) (device : Device)
    (steps : List Step) :
    (runSteps exchanges rc device steps).2.responseAlignment = device.responseAlignment := by
  induction steps generalizing rc device with
  | nil => rfl
  | cons step rest ih =>
    have performed : (perform exchanges device step).2.responseAlignment =
        device.responseAlignment := by
      unfold perform
      split
      · exact Device.sendAndWait_responseAlignment _ _ _ _
      · exact Device.sendOnly_responseAlignment _ _ _
    rw [runSteps]
    dsimp only
    split
    · exact performed
    · exact (ih _ _).trans performed

theorem load_responseAlignment (exchanges : Nat → Exchange) (host : Host) (currentMode : Int)
    (device : Device) :
    (loadFamily2Firmware exchanges host currentMode device).2.responseAlignment =
      device.responseAlignment := by
  obtain ⟨steps, left⟩ := load_steps exchanges host currentMode device
  rw [left, runSteps_responseAlignment]

/-! ## The image -/

/-- The messages of one type, in order. -/
def messagesOf (type : Nat) (messages : List (List UInt8)) : List (List UInt8) :=
  messages.filter (getLe16 · == type)

/-- The bytes that a download message carries. -/
def carried (message : List UInt8) : List UInt8 := message.drop 12

theorem getLe16_hifMessage (type : Nat) (arguments : List Nat) :
    getLe16 (hifMessage type arguments) = type % 65536 := ProtocolFraming.getLe16_putLe16 type _

theorem length_hifMessage (type : Nat) (arguments : List Nat) :
    (hifMessage type arguments).length = 8 + 4 * arguments.length := by
  rw [hifMessage, List.length_append, ProtocolFraming.length_packHeader]
  induction arguments with
  | nil => rfl
  | cons argument arguments ih =>
    have word : (putLe32 argument).length = 4 := rfl
    rw [List.flatMap_cons, List.length_append, word, List.length_cons]
    omega

theorem lengthField_hifMessage (type : Nat) (few : arguments.length ≤ 5) :
    getLe16 ((hifMessage type arguments).drop 4) = (hifMessage type arguments).length := by
  have field : getLe16 ((hifMessage type arguments).drop 4) =
      (8 + 4 * arguments.length) % 65536 := ProtocolFraming.getLe16_putLe16 _ _
  rw [field, length_hifMessage]
  omega

theorem getLe16_downloadMessage (address : Nat) (chunk : List UInt8) :
    getLe16 (downloadMessage address chunk) = MSG_SMS_DATA_DOWNLOAD_REQ :=
  ProtocolFraming.getLe16_putLe16 MSG_SMS_DATA_DOWNLOAD_REQ _

theorem length_downloadMessage (address : Nat) (chunk : List UInt8) :
    (downloadMessage address chunk).length = 12 + chunk.length := by
  simp [downloadMessage, packHeader, putLe16, putLe32]
  omega

theorem address_downloadMessage (address : Nat) (chunk : List UInt8) :
    getLe32 ((downloadMessage address chunk).drop 8) = address % 4294967296 :=
  ProtocolFraming.getLe32_putLe32 address chunk

theorem lengthField_downloadMessage (address : Nat) (small : chunk.length ≤ 240) :
    getLe16 ((downloadMessage address chunk).drop 4) = (downloadMessage address chunk).length := by
  have field : getLe16 ((downloadMessage address chunk).drop 4) =
      (8 + 4 + chunk.length) % 65536 % 65536 := ProtocolFraming.getLe16_putLe16 _ _
  rw [field, length_downloadMessage]
  omega

/-- What an upload is to put on the wire. -/
structure OnTheWire (file : List UInt8) (header : FirmwareHeader) (currentMode : Int)
    (messages : List (List UInt8)) : Prop where
  /-- The chunks are the payload, followed by zeros up to the size of the file. -/
  image : ((messagesOf MSG_SMS_DATA_DOWNLOAD_REQ messages).map carried).flatten =
    (file.drop 12).take header.length ++ List.replicate (file.length - header.length) 0
  size : ∀ message ∈ messagesOf MSG_SMS_DATA_DOWNLOAD_REQ messages,
    1 ≤ (carried message).length ∧ (carried message).length ≤ 240
  address : ∀ index message,
    (messagesOf MSG_SMS_DATA_DOWNLOAD_REQ messages)[index]? = some message →
      getLe32 (message.drop 8) =
        (baseAddress file header currentMode + 240 * index) % 4294967296
  /-- The length field of every message is its size. -/
  lengthField : ∀ message ∈ messages, getLe16 (message.drop 4) = message.length
  /-- One validity request, with the start address and the length of the header. -/
  validity : ∃ request, messagesOf MSG_SMS_DATA_VALIDITY_REQ messages = [request] ∧
    getLe32 (request.drop 8) = header.startAddress ∧ getLe32 (request.drop 12) = header.length

theorem flatten_chunks (wirePayload : List UInt8) (count : Nat) :
    ((List.range count).map (chunkAt wirePayload)).flatten = wirePayload.take (240 * count) := by
  induction count with
  | zero => rfl
  | succ count ih =>
    rw [List.range_succ, List.map_append, List.flatten_append, ih, List.map_singleton,
      List.flatten_singleton, chunkAt, Slice.slice, Nat.mul_succ, List.take_add]

theorem messagesOf_append (type : Nat) (first second : List (List UInt8)) :
    messagesOf type (first ++ second) = messagesOf type first ++ messagesOf type second :=
  List.filter_append _ _

theorem messagesOf_all (all : ∀ message ∈ messages, getLe16 message = type) :
    messagesOf type messages = messages := by
  apply List.filter_eq_self.mpr
  intro message member
  exact beq_iff_eq.mpr (all message member)

theorem messagesOf_none (none : ∀ message ∈ messages, getLe16 message ≠ type) :
    messagesOf type messages = [] := by
  apply List.filter_eq_nil_iff.mpr
  intro message member same
  exact none message member (beq_iff_eq.mp same)

/-- The messages of an upload, in order. -/
theorem messages_eq (file : List UInt8) (header : FirmwareHeader) (currentMode : Int) :
    (uploadSteps file header currentMode).map Step.message =
      (reloadStart currentMode).map Step.message ++
        (chunkSteps (wirePayload file header) (baseAddress file header currentMode)).map
          Step.message ++ ([(validityStep header).message] ++
            [(finalStep header currentMode).message]) := by
  simp [uploadSteps, transmission]

theorem type_reloadStart (member : message ∈ (reloadStart currentMode).map Step.message) :
    getLe16 message = MSG_SW_RELOAD_START_REQ ∧ getLe16 (message.drop 4) = message.length := by
  unfold reloadStart at member
  split at member
  · simp at member
  · cases List.mem_singleton.mp member
    exact ⟨getLe16_hifMessage _ _, lengthField_hifMessage _ (by decide)⟩

theorem type_finalStep (header : FirmwareHeader) (currentMode : Int) :
    (getLe16 (finalStep header currentMode).message = MSG_SMS_SWDOWNLOAD_TRIGGER_REQ ∨
      getLe16 (finalStep header currentMode).message = MSG_SW_RELOAD_EXEC_REQ) ∧
    getLe16 ((finalStep header currentMode).message.drop 4) =
      (finalStep header currentMode).message.length := by
  unfold finalStep
  split
  · exact ⟨Or.inl (getLe16_hifMessage _ _), lengthField_hifMessage _ (Nat.le_refl 5)⟩
  · exact ⟨Or.inr (getLe16_hifMessage _ _), lengthField_hifMessage _ (by decide)⟩

theorem mem_chunkSteps (member : message ∈ (chunkSteps image base).map Step.message) :
    ∃ index < chunkCount image, message =
      downloadMessage ((base + 240 * index) % 4294967296) (chunkAt image index) := by
  simp only [chunkSteps, List.map_map, List.mem_map, List.mem_range] at member
  obtain ⟨index, within, rfl⟩ := member
  exact ⟨index, within, rfl⟩

theorem messagesOf_reloadStart (other : MSG_SW_RELOAD_START_REQ ≠ type) :
    messagesOf type ((reloadStart currentMode).map Step.message) = [] := by
  apply messagesOf_none
  intro message member
  rwa [(type_reloadStart member).1]

theorem messagesOf_finalStep (trigger : MSG_SMS_SWDOWNLOAD_TRIGGER_REQ ≠ type)
    (exec : MSG_SW_RELOAD_EXEC_REQ ≠ type) :
    messagesOf type [(finalStep header currentMode).message] = [] := by
  apply messagesOf_none
  intro message member
  cases List.mem_singleton.mp member
  obtain same | same := (type_finalStep header currentMode).1
  · rwa [same]
  · rwa [same]

/-- The download messages of an upload are those of its chunks. -/
theorem downloads_eq (file : List UInt8) (header : FirmwareHeader) (currentMode : Int) :
    messagesOf MSG_SMS_DATA_DOWNLOAD_REQ ((uploadSteps file header currentMode).map Step.message) =
      (chunkSteps (wirePayload file header) (baseAddress file header currentMode)).map
        Step.message := by
  have validity : messagesOf MSG_SMS_DATA_DOWNLOAD_REQ [(validityStep header).message] = [] := by
    apply messagesOf_none
    intro message member
    cases List.mem_singleton.mp member
    rw [validityStep, getLe16_hifMessage]
    decide
  rw [messages_eq, messagesOf_append, messagesOf_append, messagesOf_append,
    messagesOf_reloadStart (by decide), validity, messagesOf_finalStep (by decide) (by decide),
    messagesOf_all, List.nil_append, List.append_nil, List.append_nil]
  intro message member
  obtain ⟨index, -, rfl⟩ := mem_chunkSteps member
  exact getLe16_downloadMessage _ _

theorem validity_eq (file : List UInt8) (header : FirmwareHeader) (currentMode : Int) :
    messagesOf MSG_SMS_DATA_VALIDITY_REQ ((uploadSteps file header currentMode).map Step.message) =
      [(validityStep header).message] := by
  have chunks : messagesOf MSG_SMS_DATA_VALIDITY_REQ ((chunkSteps (wirePayload file header)
      (baseAddress file header currentMode)).map Step.message) = [] := by
    apply messagesOf_none
    intro message member
    obtain ⟨index, -, rfl⟩ := mem_chunkSteps member
    rw [getLe16_downloadMessage]
    decide
  rw [messages_eq, messagesOf_append, messagesOf_append, messagesOf_append,
    messagesOf_reloadStart (by decide), chunks, messagesOf_finalStep (by decide) (by decide),
    messagesOf_all, List.nil_append, List.nil_append, List.append_nil]
  intro message member
  cases List.mem_singleton.mp member
  rw [validityStep, getLe16_hifMessage]
  decide

/-- Every chunk has something in it and fits in a message. -/
theorem length_chunkAt {image : List UInt8} (within : index < chunkCount image) :
    1 ≤ (chunkAt image index).length ∧ (chunkAt image index).length ≤ 240 := by
  rw [chunkAt, Slice.slice, List.length_take, List.length_drop]
  unfold chunkCount at within
  omega

/-- An upload that is sent whole puts the image on the wire. -/
theorem uploadSteps_onTheWire (accepted : parseFirmwareHeader file = .ok header)
    (currentMode : Int) :
    OnTheWire file header currentMode ((uploadSteps file header currentMode).map Step.message) := by
  obtain ⟨long, fits, start, length⟩ := header_fits accepted
  have whole := length_wirePayload accepted
  refine ⟨?_, ?_, ?_, ?_, ⟨(validityStep header).message, validity_eq file header currentMode,
    ?_, ?_⟩⟩
  · rw [downloads_eq]
    have chunks : ((chunkSteps (wirePayload file header) (baseAddress file header currentMode)).map
        Step.message).map carried =
          (List.range (chunkCount (wirePayload file header))).map
            (chunkAt (wirePayload file header)) := by
      simp only [chunkSteps, List.map_map]
      rfl
    rw [chunks, flatten_chunks, List.take_of_length_le, wirePayload]
    unfold chunkCount
    omega
  · intro message member
    rw [downloads_eq] at member
    obtain ⟨index, within, rfl⟩ := mem_chunkSteps member
    exact length_chunkAt within
  · intro index message found
    rw [downloads_eq, chunkSteps, List.map_map, List.getElem?_map] at found
    obtain ⟨place, placed, rfl⟩ := Option.map_eq_some_iff.mp found
    obtain ⟨within, rfl⟩ := List.getElem?_eq_some_iff.mp placed
    rw [List.getElem_range]
    exact (address_downloadMessage _ _).trans (Nat.mod_mod _ _)
  · intro message member
    rw [messages_eq] at member
    simp only [List.mem_append, List.mem_singleton] at member
    obtain (started | chunk) | rfl | rfl := member
    · exact (type_reloadStart started).2
    · obtain ⟨index, within, rfl⟩ := mem_chunkSteps chunk
      exact lengthField_downloadMessage _ (length_chunkAt within).2
    · exact lengthField_hifMessage _ (by simp)
    · exact (type_finalStep header currentMode).2
  · have field : getLe32 ((validityStep header).message.drop 8) =
        header.startAddress % 4294967296 := ProtocolFraming.getLe32_putLe32 _ _
    rw [field, Nat.mod_eq_of_lt start]
  · have field : getLe32 ((validityStep header).message.drop 12) =
        header.length % 4294967296 := ProtocolFraming.getLe32_putLe32 _ _
    rw [field, Nat.mod_eq_of_lt length]

/-- What a run of `load_family2_firmware` adds to what was sent before it. -/
def sentBy (exchanges : Nat → Exchange) (host : Host) (currentMode : Int) (device : Device) :
    List Sent :=
  (loadFamily2Firmware exchanges host currentMode device).2.sent.drop device.sent.length

/-- **A firmware image on the wire.** Nothing is sent after an exchange that failed. When all
exchanges succeed, an accepted file is sent whole, in chunks that lie where the addresses say,
and the validity request is about the payload of the header. -/
theorem firmware_image_on_the_wire (exchanges : Nat → Exchange) (host : Host) (currentMode : Int)
    (device : Device) (file : List UInt8) (header : FirmwareHeader) (read : host.file = .ok file)
    (accepted : parseFirmwareHeader file = .ok header) :
    (∀ before entry after, sentBy exchanges host currentMode device = before ++ entry :: after →
      entry.result < 0 → after = []) ∧
    ((∀ entry ∈ sentBy exchanges host currentMode device, 0 ≤ entry.result) →
      host.granted = true → (currentMode ≠ DEVICE_MODE_NONE → 24 ≤ header.length) →
      0 ≤ (loadFamily2Firmware exchanges host currentMode device).1 ∧
      OnTheWire file header currentMode
        ((sentBy exchanges host currentMode device).map Sent.message)) := by
  constructor
  · obtain ⟨steps, left⟩ := load_steps exchanges host currentMode device
    obtain ⟨log, sent, orderly, -⟩ := runSteps_sent exchanges 0 device steps
    rw [sentBy, left, sent, List.drop_left]
    exact orderly
  · intro fine granted addressed
    obtain ⟨log, sent, -, whole⟩ := runSteps_sent exchanges 0 device
      (uploadSteps file header currentMode)
    rw [← load_eq read accepted granted addressed] at sent whole
    rw [sentBy, sent, List.drop_left] at fine ⊢
    obtain ⟨messages, result⟩ := whole fine
    rw [messages]
    exact ⟨result (by decide), uploadSteps_onTheWire accepted currentMode⟩

/-- The response to a message, with nothing in it. -/
def answering (type : Nat) : Exchange :=
  { wait := { first := { buffers := [packHeader type 11 0 8 0] } } }

/-- A device that answers what a reload in two chunks sends. -/
def reloading : Nat → Exchange
  | 0 => answering MSG_SW_RELOAD_START_RES
  | 1 | 2 => answering MSG_SMS_DATA_DOWNLOAD_RES
  | 3 => answering MSG_SMS_DATA_VALIDITY_RES
  | _ => {}

/-- A file with a payload of 300 bytes. Its sixth word is an address just below `2^32`. -/
def reloadFile : List UInt8 :=
  putLe32 0 ++ putLe32 300 ++ putLe32 0x20000 ++
    (List.replicate 20 1 ++ putLe32 0xFFFFFF80 ++ List.replicate 276 2)

/-- What a reload with that file sends to a device in mode 6. -/
def reloadMessages : List (List UInt8) :=
  (sentBy reloading ⟨.ok reloadFile, true⟩ 6 ⟨0, {}, [], []⟩).map Sent.message

/-- A device with firmware takes the file in two chunks: its payload, then zeros. The first goes to
the address that the payload names, and the second wraps around. -/
theorem reload_on_the_wire :
    0 ≤ (loadFamily2Firmware reloading ⟨.ok reloadFile, true⟩ 6 ⟨0, {}, [], []⟩).1 ∧
    ((messagesOf MSG_SMS_DATA_DOWNLOAD_REQ reloadMessages).map carried).flatten =
      reloadFile.drop 12 ++ List.replicate 12 0 ∧
    (messagesOf MSG_SMS_DATA_DOWNLOAD_REQ reloadMessages).length = 2 ∧
    ∀ index message, (messagesOf MSG_SMS_DATA_DOWNLOAD_REQ reloadMessages)[index]? = some message →
      getLe32 (message.drop 8) = (0xFFFFFF80 + 240 * index) % 4294967296 := by
  have accepted : parseFirmwareHeader reloadFile = .ok ⟨0, 300, 0x20000⟩ := by
    have fields : 12 ≤ reloadFile.length ∧ 300 ≤ reloadFile.length - 12 ∧
        getLe32 reloadFile = 0 ∧ getLe32 (reloadFile.drop 4) = 300 ∧
        getLe32 (reloadFile.drop 8) = 0x20000 := by decide +kernel
    obtain ⟨long, fits, sum, length, start⟩ := fields
    simp only [parseFirmwareHeader, sum, length, start]
    rw [if_neg (by omega), if_neg (by omega)]
  have sent := (firmware_image_on_the_wire reloading ⟨.ok reloadFile, true⟩ 6 ⟨0, {}, [], []⟩
    reloadFile ⟨0, 300, 0x20000⟩ rfl accepted).2 (by decide +kernel) rfl (by simp)
  have whole : (reloadFile.drop 12).take 300 = reloadFile.drop 12 ∧
      reloadFile.length - 300 = 12 ∧ baseAddress reloadFile ⟨0, 300, 0x20000⟩ 6 = 0xFFFFFF80 ∧
      (messagesOf MSG_SMS_DATA_DOWNLOAD_REQ reloadMessages).length = 2 := by
    decide +kernel
  obtain ⟨payload, zeros, base, chunks⟩ := whole
  refine ⟨sent.1, ?_, chunks, ?_⟩
  · refine sent.2.image.trans ?_
    rw [payload, zeros]
  · intro index message found
    rw [← base]
    exact sent.2.address index message found

end SianoUserland.FirmwareLoad
