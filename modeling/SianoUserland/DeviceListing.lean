import SianoUserland.UsbLocation

/-! The two scans over libusb's device list: `list_devices` of `siano-ts.c`, which prints it, and
`select_rio` of `siano-device.c`, which picks one device of it. -/
namespace SianoUserland.DeviceListing
open ControlParse UsbLocation

/-! ## What libusb says about a device -/

/-- What libusb answers for each device it handed out, the same whenever it is asked. The
descriptor may be unreadable, and the ports need not fit in the buffer they are asked into. -/
structure Usb (δ : Type) where
  getDeviceDescriptor : δ → Except Int (UInt16 × UInt16)
  getBusNumber : δ → UInt8
  getDeviceAddress : δ → UInt8
  getPortNumbers : δ → Nat → Except Int (List UInt8)

/-- A list of `libusb_get_device_list`. A bus number and an address are one byte each, so that a
host falls far short of as many devices as an `unsigned` counts. -/
structure DeviceList (δ : Type) where
  devices : List δ
  few : devices.length < 4294967296

/-- `is_rio_id`. -/
def isRioId (vendor product : UInt16) : Bool :=
  (vendor == 0x3275 && product == 0x0080) ||
  (vendor == 0x187f && product == 0x0600) ||
  (vendor == 0x187f && product == 0x0302)

/-- `device_name`, with what it stores in `supported`. -/
def deviceName (vendor product : UInt16) : String × Bool :=
  let supported := isRioId vendor product
  if supported then
    if vendor = 0x3275 ∧ product = 0x0080 then ("PX-S1UD", supported)
    else if vendor = 0x187f ∧ product = 0x0600 then ("Siano-Rio-0600", supported)
    else ("Siano-Rio-0302", supported)
  else if vendor = 0x187f then
    let name :=
      if product = 0x0010 then "Siano-Stellar-ROM"
      else if product = 0x0100 then "Siano-Stellar"
      else if product = 0x0200 then "Siano-Nova-A"
      else if product = 0x0201 then "Siano-Nova-B"
      else if product = 0x0300 then "Siano-Vega"
      else if product = 0x0301 then "Siano-Venice"
      else if product = 0x0310 then "Siano-Ming"
      else if product = 0x0500 then "Siano-Pele"
      else if product = 0x0700 then "Siano-Denver-2160"
      else if product = 0x0800 then "Siano-Denver-1530"
      else "Siano-device"
    (name, supported)
  else ("USB-device", supported)

/-! ## The listing -/

/-- A line on standard output. -/
inductive Line where
  | ready (model : String) (vendor product : UInt16) (location : List UInt8)
  | receiver
  | rejected (model : String) (vendor product : UInt16) (location : List UInt8)
  deriving Repr, DecidableEq

namespace Line

/-- A digit of `%x`. -/
def hexDigit (digit : UInt16) : UInt8 :=
  if digit < 10 then 48 + digit.toUInt8 else 87 + digit.toUInt8

/-- `%04x`. -/
def hex (word : UInt16) : List UInt8 :=
  [hexDigit (word / 4096), hexDigit (word / 256 % 16), hexDigit (word / 16 % 16),
    hexDigit (word % 16)]

/-- A line as it is printed. -/
def text : Line → List UInt8
  | ready model vendor product location =>
    ascii "model=" ++ ascii model ++ ascii " usb=" ++ hex vendor ++ ascii ":" ++ hex product ++
      location ++ ascii " status=ready receivers=1\n"
  | receiver => ascii "receiver=0 device=1 local=0 system=ISDB-T\n"
  | rejected model vendor product location =>
    ascii "rejected model=" ++ ascii model ++ ascii " usb=" ++ hex vendor ++ ascii ":" ++
      hex product ++ location ++ ascii " status=unsupported\n"

def isReady : Line → Bool
  | ready .. => true
  | receiver | rejected .. => false

end Line

variable {δ : Type}

/-- The `location` of a line. A path of more than seven ports reads as no ports. -/
def listLocation (usb : Usb δ) (device : δ) : List UInt8 :=
  let ports := match usb.getPortNumbers device 7 with
    | .error _ => []
    | .ok ports => ports
  match sianoFormatUsbLocation 64 (usb.getBusNumber device) (usb.getDeviceAddress device) ports with
  | none => []
  | some location => location

/-- One pass of the loop of `list_devices`. -/
def listDevice (usb : Usb δ) (device : δ) : List Line :=
  match usb.getDeviceDescriptor device with
  | .error _ => []
  | .ok (vendor, product) =>
    let (name, supported) := deviceName vendor product
    if vendor ≠ 0x187f ∧ vendor ≠ 0x3275 then []
    else
      let location := listLocation usb device
      if supported then [.ready name vendor product location, .receiver]
      else [.rejected name vendor product location]

/-- `list_devices`, over the answer of `libusb_get_device_list`: the result, and every line with
the device it is printed for. -/
def listDevices (usb : Usb δ) : Except Int (DeviceList δ) → Int × List (δ × Line)
  | .error rc => (rc, [])
  | .ok list =>
    (0, list.devices.flatMap fun device => (listDevice usb device).map (device, ·))

/-- The `status=ready` lines in the order they are printed. -/
def readyLines (usb : Usb δ) (list : DeviceList δ) : List (δ × Line) :=
  (listDevices usb (.ok list)).2.filter (·.2.isReady)

/-! ## The selection -/

/-- `selector_matches`. A path that does not fit has a negative count. -/
def selectorMatches (usb : Usb δ) (selector : DeviceSelector) (candidate : δ) : Bool :=
  match selector.kind with
  | .busAddress =>
    usb.getBusNumber candidate == selector.bus &&
      usb.getDeviceAddress candidate == selector.address
  | .port =>
    match usb.getPortNumbers candidate 8 with
    | .error _ => false
    | .ok ports =>
      usb.getBusNumber candidate == selector.bus && ports.length == selector.ports.length &&
        ports.take selector.ports.length == selector.ports
  | .index => false

/-- The loop of `select_rio`: `matched` and `selected` after it. -/
def selectLoop (usb : Usb δ) (selector : DeviceSelector) (found matched : UInt32)
    (selected : Option δ) : List δ → UInt32 × Option δ
  | [] => (matched, selected)
  | device :: rest =>
    match usb.getDeviceDescriptor device with
    | .error _ => selectLoop usb selector found matched selected rest
    | .ok (vendor, product) =>
      if !isRioId vendor product then selectLoop usb selector found matched selected rest
      else if selector.kind = .index then
        if found.toNat = selector.index then (matched, some device)
        else selectLoop usb selector (found + 1) matched selected rest
      else if selectorMatches usb selector device then
        selectLoop usb selector found (matched + 1) (some device) rest
      else selectLoop usb selector found matched selected rest

/-- A result below zero with what is said on standard error. -/
structure Failure where
  rc : Int
  message : List UInt8
  deriving Repr, DecidableEq

/-- `select_rio`. -/
def selectRio (usb : Usb δ) (list : DeviceList δ) (selector : DeviceSelector)
    (selectorText : List UInt8) : Except Failure δ :=
  let (matched, selected) := selectLoop usb selector 0 0 none list.devices
  if 1 < matched then
    .error ⟨-Errno.inval, ascii "RIO device " ++ selectorText ++ ascii " is ambiguous\n"⟩
  else
    match selected with
    | none => .error ⟨-Errno.nodev, ascii "RIO device " ++ selectorText ++ ascii " not found\n"⟩
    | some device => .ok device

/-! ## Supported devices -/

/-- A device whose descriptor can be read and names a RIO. -/
def supported (usb : Usb δ) (device : δ) : Bool :=
  match usb.getDeviceDescriptor device with
  | .error _ => false
  | .ok (vendor, product) => isRioId vendor product

/-- The line of a supported device: its model, its numbers and its place. -/
def description (usb : Usb δ) (device : δ) : Option Line :=
  match usb.getDeviceDescriptor device with
  | .error _ => none
  | .ok (vendor, product) =>
    some (.ready (deviceName vendor product).1 vendor product (listLocation usb device))

/-- What a selector of a place asks of a device: its bus and its path of ports, or its bus and its
address. -/
def Names (usb : Usb δ) (selector : DeviceSelector) (device : δ) : Prop :=
  usb.getBusNumber device = selector.bus ∧
    match selector.kind with
    | .busAddress => usb.getDeviceAddress device = selector.address
    | .port => usb.getPortNumbers device 8 = .ok selector.ports
    | .index => False

theorem deviceName_supported (vendor product : UInt16) :
    (deviceName vendor product).2 = isRioId vendor product := by
  simp only [deviceName, apply_ite Prod.snd, ite_self]

/-- Both vendors of a RIO pass the filter of the listing. -/
theorem vendor_of_isRioId (rio : isRioId vendor product = true) :
    vendor = 0x187f ∨ vendor = 0x3275 := by
  simp only [isRioId, Bool.or_eq_true, Bool.and_eq_true, beq_iff_eq] at rio
  rcases rio with (⟨vendor, -⟩ | ⟨vendor, -⟩) | ⟨vendor, -⟩
  · exact .inr vendor
  · exact .inl vendor
  · exact .inl vendor

/-- One device prints a ready line when it is supported, and none otherwise. -/
theorem listDevice_ready (usb : Usb δ) (device : δ) :
    (listDevice usb device).filter Line.isReady =
      if supported usb device then (description usb device).toList else [] := by
  unfold listDevice supported description
  cases usb.getDeviceDescriptor device with
  | error rc => simp
  | ok identity =>
    obtain ⟨vendor, product⟩ := identity
    simp only [deviceName_supported]
    by_cases rio : isRioId vendor product = true
    · have known : ¬ (vendor ≠ 0x187f ∧ vendor ≠ 0x3275) := by
        have vendor := vendor_of_isRioId rio
        grind
      rw [if_neg known, if_pos rio, if_pos rio]
      rfl
    · rw [if_neg rio, if_neg rio]
      split <;> rfl

theorem readyLines_eq (usb : Usb δ) (list : DeviceList δ) :
    readyLines usb list = (list.devices.filter (supported usb)).flatMap fun device =>
      (description usb device).toList.map (device, ·) := by
  simp only [readyLines, listDevices]
  induction list.devices with
  | nil => rfl
  | cons device devices ih =>
    have ready := listDevice_ready usb device
    rw [List.flatMap_cons, List.filter_append, ih, List.filter_map]
    change List.map _ ((listDevice usb device).filter Line.isReady) ++ _ = _
    rw [ready]
    by_cases rio : supported usb device = true
    · rw [if_pos rio, List.filter_cons_of_pos rio, List.flatMap_cons]
    · rw [if_neg rio, List.filter_cons_of_neg rio]
      rfl

variable {usb : Usb δ} {list : DeviceList δ} {selector : DeviceSelector}

theorem description_supported (rio : supported usb device = true) :
    ∃ line, description usb device = some line := by
  unfold supported at rio
  unfold description
  cases read : usb.getDeviceDescriptor device with
  | error rc =>
    rw [read] at rio
    cases rio
  | ok identity => exact ⟨_, rfl⟩

/-- The ready lines stand for the supported devices, in the order of the list. -/
theorem readyLines_devices (usb : Usb δ) (list : DeviceList δ) :
    (readyLines usb list).map Prod.fst = list.devices.filter (supported usb) := by
  rw [readyLines_eq, List.map_flatMap]
  have all : ∀ device ∈ list.devices.filter (supported usb), supported usb device = true :=
    fun device member => (List.mem_filter.mp member).2
  generalize list.devices.filter (supported usb) = devices at all
  induction devices with
  | nil => rfl
  | cons device devices ih =>
    obtain ⟨line, described⟩ := description_supported (all device List.mem_cons_self)
    rw [List.flatMap_cons, ih fun other member => all other (List.mem_cons_of_mem _ member),
      described]
    rfl

theorem readyLines_description (member : (device, line) ∈ readyLines usb list) :
    description usb device = some line := by
  rw [readyLines_eq, List.mem_flatMap] at member
  obtain ⟨other, -, member⟩ := member
  obtain ⟨described, shown, same⟩ := List.mem_map.mp member
  cases same
  exact Option.mem_toList.mp shown

/-! ## The place in a line -/

/-- The ports of a device as the listing asks for them. -/
def listedPorts (usb : Usb δ) (device : δ) : List UInt8 :=
  match usb.getPortNumbers device 7 with
  | .error _ => []
  | .ok ports => ports

/-- The ports are those of a device behind a hub, or they are not known. -/
def Placed (usb : Usb δ) (device : δ) : Prop :=
  listedPorts usb device = [] ∨ PortPath (listedPorts usb device)

/-- What a line says of the ports. -/
def portText (bus : UInt8) (ports : List UInt8) : List UInt8 :=
  if ports = [] then ascii "-" else spelling bus ports

/-- The place in a line is the bus, the address and the ports of the device. -/
theorem listLocation_eq (placed : Placed usb device) :
    listLocation usb device =
      locationHead (usb.getBusNumber device) (usb.getDeviceAddress device) ++
        portText (usb.getBusNumber device) (listedPorts usb device) := by
  have formatted : sianoFormatUsbLocation 64 (usb.getBusNumber device)
      (usb.getDeviceAddress device) (listedPorts usb device) =
        some (locationHead (usb.getBusNumber device) (usb.getDeviceAddress device) ++
          portText (usb.getBusNumber device) (listedPorts usb device)) := by
    rcases placed with none | path
    · rw [none]
      exact format_dash (by decide) _ _
    · obtain ⟨first, rest, ports⟩ := path.cons
      rw [portText, if_neg (by simp [ports])]
      exact format_spelling path (by decide) _ _
  have unfolded : listLocation usb device = (sianoFormatUsbLocation 64 (usb.getBusNumber device)
      (usb.getDeviceAddress device) (listedPorts usb device)).getD [] := by
    rw [listLocation, ← listedPorts]
    cases sianoFormatUsbLocation 64 (usb.getBusNumber device) (usb.getDeviceAddress device)
      (listedPorts usb device) <;> rfl
  rw [unfolded, formatted, Option.getD_some]

/-- The text tells ports apart. -/
theorem portText_injective {bus : UInt8} {ports others : List UInt8}
    (path : ports = [] ∨ PortPath ports) (otherPath : others = [] ∨ PortPath others)
    (same : portText bus others = portText bus ports) : others = ports := by
  have dash {ports : List UInt8} (path : PortPath ports) : portText bus ports ≠ ascii "-" := by
    obtain ⟨first, rest, rfl⟩ := path.cons
    intro same
    have length := congrArg List.length same
    have some := List.length_pos_iff.mpr (Decimal.print_ne_nil bus.toNat)
    have more := List.length_pos_iff.mpr (Decimal.print_ne_nil first.toNat)
    have one : (ascii "-").length = 1 := by decide
    rw [portText, if_neg (by simp), one, spelling, List.length_append, List.length_cons,
      List.length_append] at length
    omega
  rcases path with rfl | path
  · rcases otherPath with rfl | otherPath
    · rfl
    · exact absurd same (dash otherPath)
  · rcases otherPath with rfl | otherPath
    · exact absurd same.symm (dash path)
    · have spelled {ports : List UInt8} (path : PortPath ports) :
          portText bus ports = spelling bus ports := by
        obtain ⟨first, rest, rfl⟩ := path.cons
        exact if_neg (by simp)
      rw [spelled path, spelled otherPath] at same
      exact (spelling_injective path otherPath same).2

/-- Devices in one place of a line are on one bus with one address behind the same ports. -/
theorem listLocation_injective {other : δ} (placed : Placed usb device)
    (otherPlaced : Placed usb other) (same : listLocation usb other = listLocation usb device) :
    usb.getBusNumber other = usb.getBusNumber device ∧
      usb.getDeviceAddress other = usb.getDeviceAddress device ∧
      listedPorts usb other = listedPorts usb device := by
  rw [listLocation_eq placed, listLocation_eq otherPlaced] at same
  obtain ⟨buses, addresses, texts⟩ := locationHead_injective same
  rw [buses] at texts
  exact ⟨buses, addresses, portText_injective placed otherPlaced texts⟩

/-- **A ready line names its device.** Supported devices that are described by one line are on one
bus with one address behind the same ports. -/
theorem description_injective {other : δ} (placed : Placed usb device)
    (otherPlaced : Placed usb other) (described : description usb device = some line)
    (likewise : description usb other = some line) :
    usb.getBusNumber other = usb.getBusNumber device ∧
      usb.getDeviceAddress other = usb.getDeviceAddress device ∧
      listedPorts usb other = listedPorts usb device := by
  apply listLocation_injective placed otherPlaced
  unfold description at described likewise
  split at described
  · cases described
  split at likewise
  · cases likewise
  rw [Option.some.injEq] at described likewise
  exact (Line.ready.inj (likewise.trans described.symm)).2.2.2

/-! ## What the loop of `select_rio` finds -/

/-- A pass over a device that is not supported changes nothing. -/
theorem selectLoop_unsupported (other : ¬ supported usb device = true) :
    selectLoop usb selector found matched selected (device :: rest) =
      selectLoop usb selector found matched selected rest := by
  unfold supported at other
  rw [selectLoop]
  cases read : usb.getDeviceDescriptor device with
  | error rc => rfl
  | ok identity =>
    obtain ⟨vendor, product⟩ := identity
    rw [read] at other
    simp only [Bool.not_eq_true] at other
    simp [other]

theorem selectLoop_supported (rio : supported usb device = true) :
    selectLoop usb selector found matched selected (device :: rest) =
      if selector.kind = .index then
        if found.toNat = selector.index then (matched, some device)
        else selectLoop usb selector (found + 1) matched selected rest
      else if selectorMatches usb selector device then
        selectLoop usb selector found (matched + 1) (some device) rest
      else selectLoop usb selector found matched selected rest := by
  unfold supported at rio
  rw [selectLoop]
  cases read : usb.getDeviceDescriptor device with
  | error rc =>
    rw [read] at rio
    cases rio
  | ok identity =>
    obtain ⟨vendor, product⟩ := identity
    rw [read] at rio
    simp only at rio
    simp [rio]

/-- With an index the loop stops at the supported device of that number. -/
theorem selectLoop_index (byIndex : selector.kind = .index) (devices : List δ)
    (before : found.toNat ≤ selector.index) (few : found.toNat + devices.length < 4294967296) :
    selectLoop usb selector found matched selected devices =
      (matched, ((devices.filter (supported usb))[selector.index - found.toNat]?).or selected) := by
  induction devices generalizing found with
  | nil => rfl
  | cons device devices ih =>
    rw [List.length_cons] at few
    by_cases rio : supported usb device = true
    · rw [selectLoop_supported rio, if_pos byIndex, List.filter_cons_of_pos rio]
      by_cases here : found.toNat = selector.index
      · rw [if_pos here, here, Nat.sub_self]
        rfl
      · have next : (found + 1).toNat = found.toNat + 1 := by
          rw [UInt32.toNat_add, UInt32.toNat_one]
          omega
        have later : selector.index - found.toNat = selector.index - (found + 1).toNat + 1 := by
          omega
        rw [if_neg here, ih (by omega) (by omega), later, List.getElem?_cons_succ]
    · rw [selectLoop_unsupported rio, List.filter_cons_of_neg rio]
      exact ih before (by omega)

theorem selectorMatches_iff (usb : Usb δ) (selector : DeviceSelector) (device : δ) :
    selectorMatches usb selector device = true ↔ Names usb selector device := by
  unfold selectorMatches Names
  cases selector.kind with
  | index => simp
  | busAddress => simp
  | port =>
    cases usb.getPortNumbers device 8 with
    | error rc => simp
    | ok ports =>
      simp only [Bool.and_eq_true, beq_iff_eq, and_assoc, Except.ok.injEq]
      apply and_congr_right
      intro _
      constructor
      · rintro ⟨length, same⟩
        rwa [← length, List.take_length] at same
      · rintro rfl
        exact ⟨rfl, List.take_length⟩

instance (usb : Usb δ) (selector : DeviceSelector) : DecidablePred (Names usb selector) :=
  fun device => decidable_of_iff _ (selectorMatches_iff usb selector device)

/-- The supported devices that a selector names. -/
def matching (usb : Usb δ) (selector : DeviceSelector) (devices : List δ) : List δ :=
  devices.filter fun device => supported usb device ∧ Names usb selector device

/-- With a place the loop counts the devices that match and keeps the last of them. -/
theorem selectLoop_place (byPlace : selector.kind ≠ .index) (devices : List δ) :
    selectLoop usb selector found matched selected devices =
      (matched + .ofNat (matching usb selector devices).length,
        (matching usb selector devices).getLast?.or selected) := by
  induction devices generalizing matched selected with
  | nil => simp [selectLoop, matching]
  | cons device devices ih =>
    by_cases rio : supported usb device = true
    · rw [selectLoop_supported rio, if_neg byPlace]
      by_cases named : selectorMatches usb selector device = true
      · have split : matching usb selector (device :: devices) =
            device :: matching usb selector devices := by
          simp [matching, rio, ← selectorMatches_iff, named]
        rw [if_pos named, ih, split, List.length_cons, List.getLast?_cons, Nat.add_comm _ 1,
          UInt32.ofNat_add, UInt32.add_assoc]
        cases (matching usb selector devices).getLast? <;> rfl
      · have split : matching usb selector (device :: devices) = matching usb selector devices := by
          simp [matching, rio, ← selectorMatches_iff, named]
        rw [if_neg named, ih, split]
    · have split : matching usb selector (device :: devices) = matching usb selector devices := by
        simp [matching, rio]
      rw [selectLoop_unsupported rio, ih, split]

/-! ## Listing and selection -/

theorem selectRio_index (byIndex : selector.kind = .index) (text : List UInt8) :
    selectRio usb list selector text =
      match (readyLines usb list)[selector.index]? with
      | some (device, _) => .ok device
      | none => .error ⟨-Errno.nodev, ascii "RIO device " ++ text ++ ascii " not found\n"⟩ := by
  have few := list.few
  have none : ¬ 1 < (0 : UInt32) := by decide
  rw [selectRio, selectLoop_index byIndex list.devices (Nat.zero_le _) (by simpa using few),
    UInt32.toNat_zero, Nat.sub_zero, Option.or_none, ← readyLines_devices, List.getElem?_map]
  dsimp only
  rw [if_neg none]
  cases (readyLines usb list)[selector.index]? <;> rfl

theorem selectRio_place (byPlace : selector.kind ≠ .index) (text : List UInt8) :
    selectRio usb list selector text =
      match matching usb selector list.devices with
      | [] => .error ⟨-Errno.nodev, ascii "RIO device " ++ text ++ ascii " not found\n"⟩
      | [device] => .ok device
      | _ => .error ⟨-Errno.inval, ascii "RIO device " ++ text ++ ascii " is ambiguous\n"⟩ := by
  have few : (matching usb selector list.devices).length < 4294967296 :=
    Nat.lt_of_le_of_lt (List.length_filter_le _ _) list.few
  rw [selectRio, selectLoop_place byPlace, UInt32.zero_add, Option.or_none]
  dsimp only
  cases found : matching usb selector list.devices with
  | nil => rfl
  | cons first rest =>
    cases rest with
    | nil => rfl
    | cons second rest =>
      have several : 1 < UInt32.ofNat (first :: second :: rest).length := by
        rw [found] at few
        rw [UInt32.lt_iff_toNat_lt, UInt32.toNat_ofNat_of_lt' few]
        simp
      rw [if_pos several]

/-- **Listing and selection agree.** The ready line of every number describes the device that the
index selector of that number picks, and past the last of them nothing is found; a selector of a
place picks the one supported device it names, and is refused as ambiguous exactly when it names
several. -/
theorem listing_and_selection_agree (usb : Usb δ) (list : DeviceList δ) (text : List UInt8) :
    (∀ selector : DeviceSelector, selector.kind = .index →
      (∀ device line, (readyLines usb list)[selector.index]? = some (device, line) →
        description usb device = some line ∧ selectRio usb list selector text = .ok device) ∧
      ((readyLines usb list).length ≤ selector.index →
        ∃ message, selectRio usb list selector text = .error ⟨-Errno.nodev, message⟩)) ∧
    (∀ selector : DeviceSelector, selector.kind = .port ∨ selector.kind = .busAddress →
      (∀ device, selectRio usb list selector text = .ok device ↔
        matching usb selector list.devices = [device]) ∧
      ((∃ message, selectRio usb list selector text = .error ⟨-Errno.inval, message⟩) ↔
        1 < (matching usb selector list.devices).length)) := by
  constructor
  · intro selector byIndex
    rw [selectRio_index byIndex]
    constructor
    · intro device line shown
      rw [shown]
      exact ⟨readyLines_description (List.mem_of_getElem? shown), rfl⟩
    · intro past
      rw [List.getElem?_eq_none past]
      exact ⟨_, rfl⟩
  · intro selector place
    have byPlace : selector.kind ≠ .index := by
      rcases place with port | busAddress
      · simp [port]
      · simp [busAddress]
    rw [selectRio_place byPlace]
    cases matching usb selector list.devices with
    | nil => simp [Errno.nodev, Errno.inval]
    | cons first rest =>
      cases rest with
      | nil => simp
      | cons second rest => simp

/-- A device that cannot be read, one that is not supported, and a tuner. -/
example :
    let usb : Usb Nat := {
      getDeviceDescriptor := fun device => if device = 0 then .error (-4)
        else if device = 1 then .ok (0x187f, 0x0201) else .ok (0x3275, 0x0080)
      getBusNumber := fun _ => 1
      getDeviceAddress := fun device => 10 + .ofNat device
      getPortNumbers := fun device _ => .ok [2, .ofNat device] }
    (listDevices usb (.ok ⟨[0, 1, 2], by decide⟩)).2.map (fun line => line.2.text) = [
      ascii ("rejected model=Siano-Nova-B usb=187f:0201 bus=1 address=11 port=1-2.1" ++
        " status=unsupported\n"),
      ascii "model=PX-S1UD usb=3275:0080 bus=1 address=12 port=1-2.2 status=ready receivers=1\n",
      ascii "receiver=0 device=1 local=0 system=ISDB-T\n"] := by
  decide +kernel

end SianoUserland.DeviceListing
