import SianoUserland.FirmwareLoad

/-! `get_version` and `set_device_mode` of `siano-device.c`: which responses the version
data come from that the mode is chosen by. -/
namespace SianoUserland.DeviceMode
open Protocol ControlExchange FirmwareLoad

abbrev MSG_SMS_INIT_DEVICE_REQ : Nat := 578
abbrev MSG_SMS_INIT_DEVICE_RES : Nat := 579
abbrev MSG_SMS_GET_VERSION_EX_REQ : Nat := 668

abbrev DEVICE_MODE_ISDBT_BDA : Int := 6

/-- `get_version`. -/
def getVersion (exchanges : Nat → Exchange) (device : Device) : Int × Device :=
  exchange exchanges device (hifMessage MSG_SMS_GET_VERSION_EX_REQ []) MSG_SMS_GET_VERSION_EX_RES

/-- What `set_device_mode` meets: its exchanges, the firmware file, and the buffers that the event
thread handles before each read of `device->version`. -/
structure Session where
  exchanges : Nat → Exchange
  host : Host
  beforeMode : List (List UInt8) := []
  beforeProtocols : List (List UInt8) := []
  afterReload : List (List UInt8) := []
  beforeFirmware : List (List UInt8) := []

/-- `current_mode`. -/
def currentMode (version : VersionInfo) : Int :=
  if version.firmwareId = 255 then DEVICE_MODE_NONE else version.firmwareId.toNat

/-- The end of `set_device_mode`, with the states that the version was read in before. -/
def initDevice (session : Session) (device : Device) (reads : List Device) :
    Int × Device × List Device :=
  let device := device.handleAll session.beforeFirmware
  if 0x800 ≤ device.responses.version.firmwareVersion then
    let (rc, after) := exchange session.exchanges device
      (hifMessage MSG_SMS_INIT_DEVICE_REQ [DEVICE_MODE_ISDBT_BDA.toNat]) MSG_SMS_INIT_DEVICE_RES
    (if rc < 0 then rc else 0, after, reads ++ [device])
  else (0, device, reads ++ [device])

/-- `set_device_mode`: its result, the device, and the states it reads the version in to choose
between returning, reloading the firmware and `INIT_DEVICE`. -/
def setDeviceMode (session : Session) (device : Device) : Int × Device × List Device :=
  let (rc, device) := getVersion session.exchanges device
  if rc < 0 then (rc, device, [])
  else
    let atMode := device.handleAll session.beforeMode
    let mode := currentMode atMode.responses.version
    if mode = DEVICE_MODE_ISDBT_BDA then (0, atMode, [atMode])
    else
      let atProtocols := atMode.handleAll session.beforeProtocols
      if atProtocols.responses.version.supportedProtocols &&& 64 = 0 then
        let (rc, loaded) := loadFamily2Firmware session.exchanges session.host mode atProtocols
        if rc < 0 then (rc, loaded, [atMode, atProtocols])
        else
          let (rc, device) := getVersion session.exchanges loaded
          if rc < 0 then (rc, device, [atMode, atProtocols])
          else
            let again := device.handleAll session.afterReload
            if currentMode again.responses.version = DEVICE_MODE_ISDBT_BDA then
              (0, again, [atMode, atProtocols, again])
            else initDevice session again [atMode, atProtocols, again]
      else initDevice session atProtocols [atMode, atProtocols]

/-! ## Where the version comes from -/

/-- What a version response with enough of a payload says. -/
def versionOf (payload : List UInt8) : VersionInfo where
  firmwareId := payload.getD 4 0
  supportedProtocols := payload.getD 5 0
  firmwareVersion := (payload.getD 10 0).toNat * 256 + (payload.getD 11 0).toNat

/-- The version that a received buffer supplies. -/
def supplied (responseAlignment : Nat) (buffer : List UInt8) : Option VersionInfo :=
  match received responseAlignment buffer with
  | .response type payload =>
    if type = MSG_SMS_GET_VERSION_EX_RES ∧ 12 ≤ payload.length then some (versionOf payload)
    else none
  | .data _ | .invalid => none

/-- The version is that of the last response which supplied one since the counter was cleared. -/
def Fresh (device : Device) : Prop :=
  (device.heard.filterMap (supplied device.responseAlignment)).getLast? =
    some device.responses.version

instance (device : Device) : Decidable (Fresh device) :=
  inferInstanceAs (Decidable ((device.heard.filterMap (supplied device.responseAlignment)).getLast?
    = some device.responses.version))

/-- A version response with all the payload that `response_note` reads. -/
def Complete (responseAlignment : Nat) (buffer : List UInt8) : Prop :=
  ∀ payload, received responseAlignment buffer = .response MSG_SMS_GET_VERSION_EX_RES payload →
    12 ≤ payload.length

/-! ## What an exchange hears -/

/-- The buffers that an exchange may hand to `handle_received_buffer`. -/
def buffersOf (exchange : Exchange) : List (List UInt8) :=
  exchange.earlier ++ exchange.wait.first.buffers ++
    exchange.wait.wakes.flatMap Look.buffers ++ exchange.wait.expired.buffers

/-- A device since its version counter was cleared, with `start` the version it had. -/
structure Since (admitted : List UInt8 → Prop) (alignment : Nat) (start : VersionInfo)
    (device : Device) : Prop where
  aligned : device.responseAlignment = alignment
  version : device.responses.version =
    ((device.heard.filterMap (supplied alignment)).getLast?).getD start
  counted : device.responses.responseCount MSG_SMS_GET_VERSION_EX_RES ≠ 0 →
    ∃ buffer ∈ device.heard, ∃ payload, received alignment buffer =
      .response MSG_SMS_GET_VERSION_EX_RES payload
  admitted : ∀ buffer ∈ device.heard, admitted buffer

variable {admitted : List UInt8 → Prop} {alignment : Nat} {start : VersionInfo} {device : Device}

theorem since_clear (admitted : List UInt8 → Prop) (device : Device) :
    Since admitted device.responseAlignment device.responses.version
      (device.clearResponse MSG_SMS_GET_VERSION_EX_RES) := by
  refine ⟨rfl, rfl, ?_, by simp [Device.clearResponse]⟩
  intro counted
  simp [Device.clearResponse, Responses.clear] at counted

/-- A buffer changes the version exactly when it supplies one. -/
theorem handle_version (device : Device) (buffer : List UInt8) :
    (device.handle buffer).responses.version =
      (supplied device.responseAlignment buffer).getD device.responses.version := by
  cases frame : received device.responseAlignment buffer with
  | invalid => simp [Device.handle, supplied, frame]
  | data payload => simp [Device.handle, supplied, frame]
  | response type payload =>
    simp only [Device.handle, supplied, frame, Responses.note_version]
    split
    · rfl
    · rfl

/-- A buffer raises the version counter only as a version response. -/
theorem handle_counted (device : Device) (buffer : List UInt8)
    (counted : (device.handle buffer).responses.responseCount MSG_SMS_GET_VERSION_EX_RES ≠ 0) :
    device.responses.responseCount MSG_SMS_GET_VERSION_EX_RES ≠ 0 ∨
      ∃ payload, received device.responseAlignment buffer =
        .response MSG_SMS_GET_VERSION_EX_RES payload := by
  unfold Device.handle at counted
  cases frame : received device.responseAlignment buffer with
  | invalid =>
    simp only [frame] at counted
    exact Or.inl counted
  | data payload =>
    simp only [frame] at counted
    exact Or.inl counted
  | response type payload =>
    simp only [frame, Responses.note_responseCount] at counted
    by_cases version : type < 1024 ∧ MSG_SMS_GET_VERSION_EX_RES = type
    · rw [version.2]
      exact Or.inr ⟨payload, rfl⟩
    · rw [if_neg version] at counted
      exact Or.inl counted

theorem getLast?_snoc_getD (known : List VersionInfo) (last : Option VersionInfo) :
    ((known ++ last.toList).getLast?).getD start = last.getD (known.getLast?.getD start) := by
  cases last with
  | none => simp
  | some last => simp

theorem filterMap_snoc (f : List UInt8 → Option VersionInfo) (heard : List (List UInt8))
    (buffer : List UInt8) :
    (heard ++ [buffer]).filterMap f = heard.filterMap f ++ (f buffer).toList := by
  cases found : f buffer <;> simp [found]

theorem since_handle (since : Since admitted alignment start device) (member : admitted buffer) :
    Since admitted alignment start (device.handle buffer) := by
  refine ⟨?_, ?_, ?_, ?_⟩
  · rw [Device.handle_responseAlignment, since.aligned]
  · rw [handle_version, Device.handle_heard, filterMap_snoc, getLast?_snoc_getD, ← since.version,
      since.aligned]
  · rw [Device.handle_heard]
    intro counted
    obtain before | ⟨payload, frame⟩ := handle_counted device buffer counted
    · obtain ⟨earlier, member, frame⟩ := since.counted before
      exact ⟨earlier, List.mem_append_left _ member, frame⟩
    · rw [since.aligned] at frame
      exact ⟨buffer, by simp, payload, frame⟩
  · rw [Device.handle_heard]
    intro other found
    obtain before | last := List.mem_append.mp found
    · exact since.admitted other before
    · cases List.mem_singleton.mp last
      exact member

theorem since_handleAll (since : Since admitted alignment start device)
    (members : ∀ buffer ∈ buffers, admitted buffer) :
    Since admitted alignment start (device.handleAll buffers) :=
  Device.handleAll_keeps (fun _ _ member since => since_handle since member) members since

/-- The loop of the wait keeps the device traced, and ends with what it has heard. -/
theorem since_waitLoop (since : Since admitted alignment start device) (type : Nat)
    (expired look : Look) (wakes : List Look)
    (members : ∀ wake ∈ wakes, ∀ buffer ∈ wake.buffers, admitted buffer)
    (last : ∀ buffer ∈ expired.buffers, admitted buffer) :
    Since admitted alignment start (device.waitLoop type expired look wakes).1 :=
  Device.waitLoop_keeps (fun _ _ member since => since_handle since member) type expired look wakes
    members last since

/-- A wait ends without an error only by a response that it heard. -/
theorem since_waitResponse (since : Since admitted alignment start device) (wait : Wait)
    (members : ∀ buffer ∈ wait.first.buffers ++ wait.wakes.flatMap Look.buffers ++
      wait.expired.buffers, admitted buffer)
    (answered : 0 ≤ (device.waitResponse MSG_SMS_GET_VERSION_EX_RES wait).1) :
    ∃ after, Since admitted alignment start after ∧
      after.responses.responseCount MSG_SMS_GET_VERSION_EX_RES ≠ 0 ∧
      (device.waitResponse MSG_SMS_GET_VERSION_EX_RES wait).2 =
        { after with responses := after.responses.consume MSG_SMS_GET_VERSION_EX_RES } := by
  have first : Since admitted alignment start (device.handleAll wait.first.buffers) :=
    since_handleAll since fun buffer found => members buffer (by simp [found])
  have looped := since_waitLoop first MSG_SMS_GET_VERSION_EX_RES wait.expired wait.first wait.wakes
    (fun wake found buffer inside => members buffer (by
      simp only [List.mem_append, List.mem_flatMap]
      exact Or.inl (Or.inr ⟨wake, found, inside⟩)))
    (fun buffer found => members buffer (by simp [found]))
  obtain ⟨after, look, timedOut, ends, counted, result⟩ := Device.waitResponse_answered answered
  rw [ends] at looped
  exact ⟨after, looped, counted, by rw [result]⟩

theorem supplied_of_complete (complete : Complete alignment buffer)
    (frame : received alignment buffer = .response MSG_SMS_GET_VERSION_EX_RES payload) :
    supplied alignment buffer = some (versionOf payload) := by
  simp [supplied, frame, complete payload frame]

/-- When all that was heard is complete, a version response among it has set the version. -/
theorem fresh_of_since (since : Since (Complete alignment) alignment start device)
    (counted : device.responses.responseCount MSG_SMS_GET_VERSION_EX_RES ≠ 0) : Fresh device := by
  obtain ⟨buffer, found, payload, frame⟩ := since.counted counted
  have some : versionOf payload ∈ device.heard.filterMap (supplied alignment) :=
    List.mem_filterMap.mpr ⟨buffer, found,
      supplied_of_complete (since.admitted buffer found) frame⟩
  rw [Fresh, since.aligned, since.version]
  cases known : (device.heard.filterMap (supplied alignment)).getLast? with
  | none =>
    rw [List.getLast?_eq_none_iff.mp known] at some
    cases some
  | some version => rfl

/-- A query that hears only complete version responses is fresh when it succeeds. -/
theorem fresh_getVersion (exchanges : Nat → Exchange) (device : Device)
    (complete : ∀ buffer ∈ buffersOf (exchanges device.sent.length),
      Complete device.responseAlignment buffer)
    (answered : 0 ≤ (getVersion exchanges device).1) : Fresh (getVersion exchanges device).2 := by
  have since := since_clear (Complete device.responseAlignment)
    (device.handleAll (exchanges device.sent.length).earlier)
  rw [Device.handleAll_responseAlignment] at since
  obtain ⟨answered, left⟩ := Device.sendAndWait_answered answered
  obtain ⟨after, since, counted, waited⟩ := since_waitResponse since
    (exchanges device.sent.length).wait (fun buffer found => complete buffer (by
      simp only [buffersOf, List.mem_append] at found ⊢
      grind)) answered
  have fresh : Fresh after := fresh_of_since since counted
  rw [getVersion, exchange, left, waited]
  exact fresh

/-! ## Sessions -/

/-- A version that is fresh stays fresh, whatever is received. -/
theorem fresh_handle (fresh : Fresh device) (buffer : List UInt8) :
    Fresh (device.handle buffer) := by
  rw [Fresh, Device.handle_heard, Device.handle_responseAlignment, handle_version, filterMap_snoc]
  cases supplied device.responseAlignment buffer with
  | none =>
    rw [Option.toList_none, List.append_nil]
    exact fresh
  | some version => simp

theorem fresh_handleAll (fresh : Fresh device) (buffers : List (List UInt8)) :
    Fresh (device.handleAll buffers) := by
  have step : ∀ (device : Device) (buffer : List UInt8), True → Fresh device →
      Fresh (device.handle buffer) := fun _ buffer _ fresh => fresh_handle fresh buffer
  exact Device.handleAll_keeps step (fun _ _ => trivial) fresh

theorem fresh_initDevice (session : Session) (fresh : Fresh device)
    (known : ∀ state ∈ reads, Fresh state) :
    ∀ state ∈ (initDevice session device reads).2.2, Fresh state := by
  have reading := fresh_handleAll fresh session.beforeFirmware
  have all : ∀ state ∈ reads ++ [device.handleAll session.beforeFirmware], Fresh state := by
    intro state found
    obtain before | last := List.mem_append.mp found
    · exact known state before
    · cases List.mem_singleton.mp last
      exact reading
  unfold initDevice
  dsimp only
  split
  · exact all
  · exact all

theorem getVersion_responseAlignment (exchanges : Nat → Exchange) (device : Device) :
    (getVersion exchanges device).2.responseAlignment = device.responseAlignment :=
  Device.sendAndWait_responseAlignment _ _ _ _

/-- When every version query that succeeds is fresh, so is every version that a mode is chosen
by. -/
theorem fresh_setDeviceMode (session : Session) (device : Device)
    (queries : ∀ asking : Device, asking.responseAlignment = device.responseAlignment →
      0 ≤ (getVersion session.exchanges asking).1 →
        Fresh (getVersion session.exchanges asking).2) :
    ∀ state ∈ (setDeviceMode session device).2.2, Fresh state := by
  have first := queries device rfl
  have aligned := getVersion_responseAlignment session.exchanges device
  unfold setDeviceMode
  generalize getVersion session.exchanges device = outcome at first aligned
  obtain ⟨rc, asked⟩ := outcome
  dsimp only at first aligned ⊢
  by_cases failed : rc < 0
  · simp [failed]
  rw [if_neg failed]
  have atMode := fresh_handleAll (first (by omega)) session.beforeMode
  by_cases running : currentMode (asked.handleAll session.beforeMode).responses.version =
      DEVICE_MODE_ISDBT_BDA
  · simpa [running] using atMode
  rw [if_neg running]
  have atProtocols := fresh_handleAll atMode session.beforeProtocols
  have both : ∀ state ∈ [asked.handleAll session.beforeMode,
      (asked.handleAll session.beforeMode).handleAll session.beforeProtocols], Fresh state := by
    simp [atMode, atProtocols]
  split
  · have loads := load_responseAlignment session.exchanges session.host
      (currentMode (asked.handleAll session.beforeMode).responses.version)
      ((asked.handleAll session.beforeMode).handleAll session.beforeProtocols)
    generalize loadFamily2Firmware session.exchanges session.host _ _ = reloaded at loads
    obtain ⟨rc, loaded⟩ := reloaded
    dsimp only at loads ⊢
    split
    · exact both
    have second := queries loaded (by simp [loads, aligned])
    generalize getVersion session.exchanges loaded = outcome at second
    obtain ⟨rc, again⟩ := outcome
    dsimp only at second ⊢
    by_cases failed : rc < 0
    · rw [if_pos failed]
      exact both
    rw [if_neg failed]
    have afterReload := fresh_handleAll (second (by omega)) session.afterReload
    have three : ∀ state ∈ [asked.handleAll session.beforeMode,
        (asked.handleAll session.beforeMode).handleAll session.beforeProtocols,
        again.handleAll session.afterReload], Fresh state := by
      simp [atMode, atProtocols, afterReload]
    split
    · exact three
    · exact fresh_initDevice session afterReload three
  · exact fresh_initDevice session atProtocols both

/-- Everything that a session receives in its exchanges. -/
def Receives (session : Session) (buffer : List UInt8) : Prop :=
  (∃ index, buffer ∈ buffersOf (session.exchanges index)) ∨ buffer ∈ session.beforeMode ∨
    buffer ∈ session.beforeProtocols ∨ buffer ∈ session.afterReload ∨
    buffer ∈ session.beforeFirmware

/-- A version query that succeeds is a fresh one, and so is every version that
`set_device_mode` chooses by. -/
def SuppliedThroughout (session : Session) (device : Device) : Prop :=
  ((getVersion session.exchanges device).1 = 0 → Fresh (getVersion session.exchanges device).2) ∧
    ∀ state ∈ (setDeviceMode session device).2.2, Fresh state

theorem supplied_of_receives (session : Session) (device : Device)
    (complete : ∀ buffer, Receives session buffer → Complete device.responseAlignment buffer) :
    SuppliedThroughout session device := by
  have queries : ∀ asking : Device, asking.responseAlignment = device.responseAlignment →
      0 ≤ (getVersion session.exchanges asking).1 →
        Fresh (getVersion session.exchanges asking).2 := by
    intro asking aligned answered
    apply fresh_getVersion session.exchanges asking _ answered
    intro buffer found
    rw [aligned]
    exact complete buffer (Or.inl ⟨_, found⟩)
  exact ⟨fun answered => queries device rfl (by omega), fresh_setDeviceMode session device queries⟩

/-- A session in which nothing is received but one buffer, during every wait. -/
def echoing (buffer : List UInt8) : Session where
  exchanges := fun _ => { wait := { first := { buffers := [buffer] } } }
  host := ⟨.error (-Errno.io), true⟩

/-- A short version response is counted, and the query succeeds without a version. -/
theorem stale_of_short (alignment : Nat) (buffer payload : List UInt8)
    (frame : received alignment buffer = .response MSG_SMS_GET_VERSION_EX_RES payload)
    (short : payload.length < 12) :
    (getVersion (echoing buffer).exchanges ⟨alignment, {}, [], []⟩).1 = 0 ∧
      ¬ Fresh (getVersion (echoing buffer).exchanges ⟨alignment, {}, [], []⟩).2 := by
  let cleared : Device := ⟨alignment, Responses.clear {} MSG_SMS_GET_VERSION_EX_RES, [], []⟩
  have handled : cleared.handle buffer =
      { cleared with
        responses := cleared.responses.note MSG_SMS_GET_VERSION_EX_RES payload
        heard := [buffer] } := by
    simp [Device.handle, cleared, frame]
  have counted :
      (cleared.handle buffer).responses.responseCount MSG_SMS_GET_VERSION_EX_RES ≠ 0 := by
    rw [handled]
    dsimp only
    rw [Responses.note_responseCount, if_pos ⟨by decide, rfl⟩]
    exact Nat.succ_ne_zero _
  have waited := Device.waitResponse_counted cleared MSG_SMS_GET_VERSION_EX_RES
    { first := { buffers := [buffer] } } rfl rfl counted
  have asked : getVersion (echoing buffer).exchanges ⟨alignment, {}, [], []⟩ =
      (0, { cleared.handle buffer with
        responses := (cleared.handle buffer).responses.consume MSG_SMS_GET_VERSION_EX_RES
        sent := [⟨hifMessage MSG_SMS_GET_VERSION_EX_REQ [], 0⟩] }) := by
    have goes : Device.sendMessage (hifMessage MSG_SMS_GET_VERSION_EX_REQ [])
        ((echoing buffer).exchanges 0) = 0 := rfl
    have begins : (Device.handleAll ⟨alignment, {}, [], []⟩
        ((echoing buffer).exchanges 0).earlier).clearResponse MSG_SMS_GET_VERSION_EX_RES =
          cleared := rfl
    have waits : ((echoing buffer).exchanges 0).wait = { first := { buffers := [buffer] } } := rfl
    have first : (⟨alignment, {}, [], []⟩ : Device).sent.length = 0 := rfl
    rw [getVersion, exchange, first, Device.sendAndWait, goes, begins, waits, waited]
    rfl
  have unsupplied : supplied alignment buffer = none := by
    simp [supplied, frame, Nat.not_le.mpr short]
  rw [asked]
  refine ⟨rfl, ?_⟩
  rw [Fresh, handled]
  simp [unsupplied, cleared]

/-- **When version queries are fresh ones.** Version data come from a response in every session
over what a device may deliver exactly when it delivers no version response with less than
twelve bytes of payload. -/
theorem version_supplied_iff (alignment : Nat) (admitted : List UInt8 → Prop) :
    (∀ session : Session, ∀ device : Device, device.responseAlignment = alignment →
      (∀ buffer, Receives session buffer → admitted buffer) →
        SuppliedThroughout session device) ↔
    ∀ buffer, admitted buffer → Complete alignment buffer := by
  constructor
  · intro supplied buffer member payload frame
    apply Nat.not_lt.mp
    intro short
    obtain ⟨answered, stale⟩ := stale_of_short alignment buffer payload frame short
    apply stale
    refine (supplied (echoing buffer) ⟨alignment, {}, [], []⟩ rfl ?_).1 answered
    rintro other (⟨index, found⟩ | none | none | none | none)
    · have same : other ∈ [buffer] := by simpa [echoing, buffersOf] using found
      cases List.mem_singleton.mp same
      exact member
    · cases none
    · cases none
    · cases none
    · cases none
  · intro complete session device aligned receives
    apply supplied_of_receives session device
    intro buffer found
    rw [aligned]
    exact complete buffer (receives buffer found)

/-- A version response without a payload: the query succeeds, nothing has set the version, and
`set_device_mode` goes on to reload the firmware by it. -/
theorem empty_version_response_accepted :
    (getVersion (echoing (packHeader MSG_SMS_GET_VERSION_EX_RES 11 0 8 0)).exchanges
      ⟨0, {}, [], []⟩).1 = 0 ∧
    ¬ Fresh (getVersion (echoing (packHeader MSG_SMS_GET_VERSION_EX_RES 11 0 8 0)).exchanges
      ⟨0, {}, [], []⟩).2 ∧
    ∃ state ∈ (setDeviceMode (echoing (packHeader MSG_SMS_GET_VERSION_EX_RES 11 0 8 0))
      ⟨0, {}, [], []⟩).2.2, ¬ Fresh state := by
  decide +kernel

end SianoUserland.DeviceMode
