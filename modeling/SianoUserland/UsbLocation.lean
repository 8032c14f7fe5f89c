import SianoUserland.ControlParse
import SianoUserland.DeviceSelector
import Mathlib.Data.List.TakeWhile

/-! Where a device sits on the bus, as text: `usb-location.h` for the listing, `siano-enclosure.cpp`
for the public identity, and the two parsers that read it back, `device-selector.c` and
`map_public_selector` of `sianod.cpp`. -/
namespace SianoUserland.UsbLocation
open ControlParse DeviceSelector

/-! ## The formatters -/

/-- `snprintf` after `used` bytes of a buffer of `size`; nothing when the text does not fit with
its NUL. -/
def snprintf (size : Nat) (used text : List UInt8) : Option (List UInt8) :=
  if size - used.length ≤ text.length then none else some (used ++ text)

/-- What `siano_format_usb_location` writes before the port. -/
def locationHead (bus address : UInt8) : List UInt8 :=
  ascii " bus=" ++ Decimal.print bus.toNat ++ ascii " address=" ++ Decimal.print address.toNat ++
    ascii " port="

/-- `siano_format_usb_location`. No ports stand for a `port_count` that is not positive. -/
def sianoFormatUsbLocation (size : Nat) (bus address : UInt8) (ports : List UInt8) :
    Option (List UInt8) := do
  let used ← snprintf size [] (locationHead bus address)
  match ports with
  | [] => snprintf size used (ascii "-")
  | first :: rest =>
    let used ← snprintf size used
      (Decimal.print bus.toNat ++ ascii "-" ++ Decimal.print first.toNat)
    rest.foldlM (fun used port => snprintf size used (ascii "." ++ Decimal.print port.toNat)) used

/-- `SianoFacts`, with the first `port_count` of its ports. -/
structure SianoFacts where
  bus : UInt8
  ports : List UInt8
  hasBus : Bool := true
  deriving Repr, DecidableEq

/-- The loop over the ports in `copy_numbers` and `siano_identity`. -/
def appendPorts (size : Nat) (used : List UInt8) (ports : List UInt8) : Option (List UInt8) :=
  ports.zipIdx.foldlM (fun used (port, index) => snprintf size used
    ((if index = 0 then ascii "-" else ascii ".") ++ Decimal.print port.toNat)) used

/-- `copy_numbers`, for a `WString` of `capacity` bytes. -/
def copyNumbers (capacity : Nat) (facts : SianoFacts) : Option (List UInt8) := do
  guard (facts.hasBus ∧ facts.ports ≠ [])
  let path ← snprintf 64 [] (Decimal.print facts.bus.toNat)
  let path ← appendPorts 64 path facts.ports
  guard (path.length ≤ capacity)
  return path

/-- The selector text of `siano_identity`. -/
def selectorText (facts : SianoFacts) : Option (List UInt8) := do
  guard (facts.hasBus ∧ facts.ports ≠ [])
  let text ← snprintf 96 [] (ascii "usb:" ++ Decimal.print facts.bus.toNat)
  appendPorts 96 text facts.ports

/-- What `identity::parse_device_selector` makes of a public selector. -/
inductive PublicSelector where
  | serial
  | topology (paths : List (List UInt8))
  deriving Repr, DecidableEq

/-- `siano_identity`, over the parser and the resolver of the identity library. -/
def sianoIdentity (parseDeviceSelector : List UInt8 → Except ε PublicSelector)
    (resolveSelector : PublicSelector → Except ε ι) (invalidArgument : ε) (facts : SianoFacts) :
    Except ε ι :=
  match selectorText facts with
  | none => .error invalidArgument
  | some text => parseDeviceSelector text >>= resolveSelector

/-! ## The public selector -/

/-- `std::from_chars` for an unsigned number of 32 bits: the number and the rest of the text. -/
def fromChars (text : List UInt8) : Option (Nat × List UInt8) :=
  let digits := text.takeWhile Decimal.isDigit
  if digits = [] ∨ 4294967295 < Decimal.value digits then none
  else some (Decimal.value digits, text.dropWhile Decimal.isDigit)

/-- `parse_number` of `sianod.cpp`: the whole text is a number. -/
def parseNumberWhole (text : List UInt8) : Option Nat :=
  match fromChars text with
  | some (number, []) => some number
  | some (_, _ :: _) | none => none

/-- `SelectorStatus` of a selector that is refused. -/
inductive SelectorStatus where
  | notFound
  | invalid
  deriving Repr, DecidableEq

/-- A refusal with its message. -/
structure Refusal where
  status : SelectorStatus
  error : String
  deriving Repr, DecidableEq

def refuse (status : SelectorStatus) (error : String) : Except Refusal α := .error ⟨status, error⟩

/-- The loop over the ports of a path, with room for `left` of them. -/
def mapPorts (selector : DeviceSelector) : Nat → List UInt8 → Except Refusal DeviceSelector
  | _, [] => .ok selector
  | 0, _ :: _ => refuse .invalid
      "--device USB ports must be decimal values in 0..255 with at most 8 levels"
  | left + 1, byte :: rest =>
    match parseNumberWhole ((byte :: rest).takeWhile (· != 46)) with
    | none => refuse .invalid
        "--device USB ports must be decimal values in 0..255 with at most 8 levels"
    | some port =>
      if 255 < port then refuse .invalid
        "--device USB ports must be decimal values in 0..255 with at most 8 levels"
      else
        let selector := { selector with ports := selector.ports ++ [.ofNat port] }
        match (byte :: rest).dropWhile (· != 46) with
        | [] => .ok selector
        | _ :: rest => mapPorts selector left rest

/-- `map_public_selector`, over the parser of the identity library. -/
def mapPublicSelector (parseDeviceSelector : List UInt8 → Except ε PublicSelector)
    (text : List UInt8) : Except Refusal DeviceSelector :=
  match parseDeviceSelector text with
  | .error _ => refuse .invalid "--device expects usb:BUS-PORT[.PORT...] (for example usb:1-2.3)"
  | .ok .serial => refuse .notFound
      ("--device serial: cannot be resolved because this enclosure has no usable serial; " ++
        "use usb:BUS-PORT[.PORT...]")
  | .ok (.topology [path]) =>
    match path.dropWhile (· != 45) with
    | [] => refuse .invalid "--device USB path must be usb:BUS-PORT[.PORT...]"
    | _ :: rest =>
      match parseNumberWhole (path.takeWhile (· != 45)) with
      | none => refuse .invalid "--device USB bus must be a decimal value in 0..255"
      | some bus =>
        if 255 < bus then refuse .invalid "--device USB bus must be a decimal value in 0..255"
        else
          match mapPorts { kind := .port, bus := .ofNat bus } 8 rest with
          | .error refusal => .error refusal
          | .ok selector =>
            if selector.ports = [] then
              refuse .invalid "--device requires at least one USB port after the bus"
            else .ok selector
  | .ok (.topology _) => refuse .invalid
      "--device requires exactly one USB topology path: usb:BUS-PORT[.PORT...]"

/-! ## The spelling -/

/-- Ports after the first one. -/
def dotted (ports : List UInt8) : List UInt8 :=
  ports.flatMap fun port => 46 :: Decimal.print port.toNat

/-- The name of a device by its place: `BUS-PORT.PORT...`. -/
def spelling (bus : UInt8) : List UInt8 → List UInt8
  | [] => Decimal.print bus.toNat
  | first :: rest =>
    Decimal.print bus.toNat ++ 45 :: (Decimal.print first.toNat ++ dotted rest)

/-- A port path of a device: one to eight ports, none of them zero. -/
structure PortPath (ports : List UInt8) : Prop where
  some : 1 ≤ ports.length
  few : ports.length ≤ 8
  nonzero : ∀ port ∈ ports, port ≠ 0

theorem PortPath.cons {ports : List UInt8} (path : PortPath ports) :
    ∃ first rest, ports = first :: rest :=
  List.exists_cons_of_length_pos path.some

theorem length_print_byte (byte : UInt8) : (Decimal.print byte.toNat).length ≤ 3 := by
  have small := byte.toNat_lt
  exact Decimal.length_print_le (by decide) (by omega)

theorem dotted_cons (port : UInt8) (ports : List UInt8) :
    dotted (port :: ports) = 46 :: (Decimal.print port.toNat ++ dotted ports) := rfl

theorem length_dotted (ports : List UInt8) : (dotted ports).length ≤ 4 * ports.length := by
  induction ports with
  | nil => exact Nat.le_refl 0
  | cons port ports ih =>
    have digits := length_print_byte port
    rw [dotted_cons, List.length_cons, List.length_append, List.length_cons]
    omega

theorem length_spelling (bus : UInt8) (ports : List UInt8) :
    (spelling bus ports).length ≤ 3 + 4 * ports.length := by
  have digits := length_print_byte bus
  cases ports with
  | nil => exact digits
  | cons first rest =>
    have port := length_print_byte first
    have ports := length_dotted rest
    rw [spelling, List.length_append, List.length_cons, List.length_append, List.length_cons]
    omega

theorem guard_holds {condition : Prop} [Decidable condition] (holds : condition) :
    (guard condition : Option Unit) = some () := if_pos holds

theorem snprintf_fits (fits : used.length + text.length < size) :
    snprintf size used text = some (used ++ text) := by
  rw [snprintf, if_neg (by omega)]

theorem foldlM_snprintf (write : α → List UInt8) (items : List α) (used : List UInt8)
    (fits : used.length + (items.flatMap write).length < size) :
    items.foldlM (fun used item => snprintf size used (write item)) used =
      some (used ++ items.flatMap write) := by
  induction items generalizing used with
  | nil => simp
  | cons item items ih =>
    rw [List.flatMap_cons, List.length_append] at fits
    rw [List.foldlM_cons, snprintf_fits (by omega)]
    rw [List.flatMap_cons, ← List.append_assoc]
    apply ih
    rw [List.length_append]
    omega

/-- The ports after the first have a dot before them, whatever number they begin with. -/
theorem zipIdx_flatMap (ports : List UInt8) (start : Nat) :
    (ports.zipIdx (start + 1)).flatMap (fun (port, index) =>
      (if index = 0 then ascii "-" else ascii ".") ++ Decimal.print port.toNat) = dotted ports := by
  induction ports generalizing start with
  | nil => rfl
  | cons port ports ih =>
    rw [List.zipIdx_cons, List.flatMap_cons, ih, dotted_cons]
    rfl

theorem appendPorts_spelling (first : UInt8) (rest : List UInt8)
    (fits : (used ++ 45 :: (Decimal.print first.toNat ++ dotted rest)).length < size) :
    appendPorts size used (first :: rest) =
      some (used ++ 45 :: (Decimal.print first.toNat ++ dotted rest)) := by
  have text : (first :: rest).zipIdx.flatMap (fun (port, index) =>
      (if index = 0 then ascii "-" else ascii ".") ++ Decimal.print port.toNat) =
        45 :: (Decimal.print first.toNat ++ dotted rest) := by
    rw [List.zipIdx_cons, List.flatMap_cons, zipIdx_flatMap]
    rfl
  rw [appendPorts, foldlM_snprintf, text]
  rw [text, ← List.length_append]
  exact fits

/-! ## One spelling for all -/

variable {ports : List UInt8}

theorem length_locationHead (bus address : UInt8) : (locationHead bus address).length ≤ 26 := by
  have bus := length_print_byte bus
  have address := length_print_byte address
  have texts : (ascii " bus=").length = 5 ∧ (ascii " address=").length = 9 ∧
      (ascii " port=").length = 6 := by decide
  simp only [locationHead, List.length_append]
  omega

/-- Without ports a dash stands for them. -/
theorem format_dash (large : 62 ≤ size) (bus address : UInt8) :
    sianoFormatUsbLocation size bus address [] = some (locationHead bus address ++ ascii "-") := by
  have head := length_locationHead bus address
  have dash : (ascii "-").length = 1 := by decide
  rw [sianoFormatUsbLocation, snprintf_fits (by simp; omega)]
  exact snprintf_fits (by simp only [List.nil_append]; omega)

theorem format_spelling (path : PortPath ports) (large : 62 ≤ size) (bus address : UInt8) :
    sianoFormatUsbLocation size bus address ports =
      some (locationHead bus address ++ spelling bus ports) := by
  have head := length_locationHead bus address
  have length := length_spelling bus ports
  have few := path.few
  obtain ⟨first, rest, rfl⟩ := path.cons
  have text : spelling bus (first :: rest) =
      (Decimal.print bus.toNat ++ ascii "-" ++ Decimal.print first.toNat) ++ dotted rest := by
    have dash : ascii "-" = [45] := rfl
    simp [spelling, dash]
  rw [text, List.length_append] at length
  rw [sianoFormatUsbLocation, snprintf_fits (by simp; omega), text, ← List.append_assoc]
  simp only [Option.bind_eq_bind, Option.bind_some, List.nil_append]
  rw [snprintf_fits (by omega), Option.bind_some, foldlM_snprintf]
  · rfl
  · rw [List.length_append]
    change _ + (dotted rest).length < size
    omega

theorem copyNumbers_spelling (path : PortPath ports) (room : 35 ≤ capacity) (bus : UInt8) :
    copyNumbers capacity ⟨bus, ports, true⟩ = some (spelling bus ports) := by
  have length := length_spelling bus ports
  have few := path.few
  obtain ⟨first, rest, rfl⟩ := path.cons
  have digits := length_print_byte bus
  rw [spelling] at length
  rw [copyNumbers, snprintf_fits (by simp; omega)]
  dsimp only [Option.bind_eq_bind, Option.bind_some, List.nil_append]
  rw [appendPorts_spelling first rest (by omega), Option.bind_some, spelling,
    guard_holds (by simp), guard_holds (by omega)]
  rfl

theorem selectorText_spelling (path : PortPath ports) (bus : UInt8) :
    selectorText ⟨bus, ports, true⟩ = some (ascii "usb:" ++ spelling bus ports) := by
  have length := length_spelling bus ports
  have few := path.few
  have scheme : (ascii "usb:").length = 4 := by decide
  obtain ⟨first, rest, rfl⟩ := path.cons
  have digits := length_print_byte bus
  rw [spelling, List.length_append] at length
  rw [selectorText, snprintf_fits (by simp; omega)]
  dsimp only [Option.bind_eq_bind, Option.bind_some, List.nil_append]
  rw [appendPorts_spelling first rest (by simp only [List.length_append]; omega),
    guard_holds (by simp), spelling, List.append_assoc]
  rfl

/-! ## The spelling is read back -/

theorem stops_dotted (ports : List UInt8) : Stops (dotted ports) := by
  cases ports with
  | nil =>
    intro byte head
    cases head
  | cons port ports =>
    intro byte head
    cases head
    rfl

theorem parsePorts_dotted (selector : DeviceSelector) (few : ports.length ≤ left)
    (nonzero : ∀ port ∈ ports, port ≠ 0) :
    parsePorts selector left (dotted ports) =
      .ok { selector with ports := selector.ports ++ ports } := by
  induction ports generalizing selector left with
  | nil =>
    rw [List.append_nil]
    cases left <;> rfl
  | cons port ports ih =>
    cases left with
    | zero => exact absurd few (by simp)
    | succ left =>
      have small := port.toNat_lt
      have some : port.toNat ≠ 0 := fun zero =>
        nonzero port List.mem_cons_self (UInt8.toNat_inj.mp zero)
      rw [dotted_cons, parsePorts, if_pos rfl,
        parseNumber_print (by decide) (by omega) (stops_dotted ports)]
      dsimp only
      rw [if_neg some, ih _ (Nat.le_of_succ_le_succ few)
        (fun other member => nonzero other (List.mem_cons_of_mem _ member)),
        UInt8.ofNat_toNat, List.append_assoc]
      rfl

/-- The parser of the command line reads a spelling back. -/
theorem sianoParseDeviceSelector_spelling (path : PortPath ports) (bus : UInt8) :
    sianoParseDeviceSelector (spelling bus ports) =
      .ok { kind := .port, bus := bus, ports := ports } := by
  have few := path.few
  obtain ⟨first, rest, rfl⟩ := path.cons
  have busSmall := bus.toNat_lt
  have portSmall := first.toNat_lt
  have some : first.toNat ≠ 0 := fun zero =>
    path.nonzero first List.mem_cons_self (UInt8.toNat_inj.mp zero)
  have dash : Stops (45 :: (Decimal.print first.toNat ++ dotted rest)) := by
    intro byte head
    cases head
    rfl
  have nonempty : spelling bus (first :: rest) ≠ [] := by
    simp [spelling]
  rw [sianoParseDeviceSelector, if_neg nonempty, spelling,
    parseNumber_print (by decide) (by omega) dash]
  dsimp only
  rw [if_neg (by decide), if_pos rfl, if_neg (by omega),
    parseNumber_print (by decide) (by omega) (stops_dotted rest)]
  dsimp only
  rw [if_neg some, parsePorts_dotted _ (Nat.le_of_succ_le_succ few)
    (fun other member => path.nonzero other (List.mem_cons_of_mem _ member)),
    UInt8.ofNat_toNat, UInt8.ofNat_toNat]
  rfl

theorem parseNumberWhole_print (byte : UInt8) :
    parseNumberWhole (Decimal.print byte.toNat) = some byte.toNat := by
  have small := byte.toNat_lt
  have digits : (Decimal.print byte.toNat).takeWhile Decimal.isDigit = Decimal.print byte.toNat :=
    List.takeWhile_eq_self_iff.mpr fun _ member => Decimal.isDigit_of_mem_print member
  have rest : (Decimal.print byte.toNat).dropWhile Decimal.isDigit = [] :=
    List.dropWhile_eq_nil_iff.mpr fun _ member => Decimal.isDigit_of_mem_print member
  have fits : ¬ 4294967295 < byte.toNat := by omega
  rw [parseNumberWhole, fromChars, digits, rest, Decimal.value_print]
  simp [Decimal.print_ne_nil, fits]

theorem print_inside (number : Nat) (other : Decimal.isDigit separator = false) :
    ∀ byte ∈ Decimal.print number, (byte != separator) = true := by
  intro byte member
  have digit := Decimal.isDigit_of_mem_print member
  apply bne_iff_ne.mpr
  rintro rfl
  rw [other] at digit
  cases digit

/-- A number ends before a separator. -/
theorem print_separated (number : Nat) (separator : UInt8)
    (other : Decimal.isDigit separator = false) (rest : List UInt8) :
    (Decimal.print number ++ separator :: rest).takeWhile (· != separator) =
        Decimal.print number ∧
      (Decimal.print number ++ separator :: rest).dropWhile (· != separator) =
        separator :: rest := by
  rw [List.takeWhile_append_of_pos (print_inside number other),
    List.dropWhile_append_of_pos (print_inside number other)]
  simp

/-- One pass of the loop, over a part that is a port. -/
theorem mapPorts_part (selector : DeviceSelector) (left : Nat) (port : UInt8)
    (nonempty : text ≠ []) (part : text.takeWhile (· != 46) = Decimal.print port.toNat) :
    mapPorts selector (left + 1) text =
      match text.dropWhile (· != 46) with
      | [] => .ok { selector with ports := selector.ports ++ [port] }
      | _ :: rest => mapPorts { selector with ports := selector.ports ++ [port] } left rest := by
  have small := port.toNat_lt
  cases text with
  | nil => exact absurd rfl nonempty
  | cons byte text =>
    rw [mapPorts, part, parseNumberWhole_print]
    dsimp only
    rw [if_neg (by omega), UInt8.ofNat_toNat]

theorem mapPorts_spelling (selector : DeviceSelector) (first : UInt8) (rest : List UInt8)
    (few : rest.length < left) :
    mapPorts selector left (Decimal.print first.toNat ++ dotted rest) =
      .ok { selector with ports := selector.ports ++ first :: rest } := by
  induction rest generalizing selector first left with
  | nil =>
    obtain ⟨left, rfl⟩ : ∃ room, left = room + 1 := ⟨left - 1, by omega⟩
    have inside := print_inside first.toNat (show Decimal.isDigit 46 = false from rfl)
    have whole : dotted [] = [] := rfl
    rw [whole, List.append_nil, mapPorts_part selector left first (Decimal.print_ne_nil _)
      (List.takeWhile_eq_self_iff.mpr inside), List.dropWhile_eq_nil_iff.mpr inside]
  | cons second rest ih =>
    obtain ⟨left, rfl⟩ : ∃ room, left = room + 1 := ⟨left - 1, by omega⟩
    obtain ⟨part, after⟩ := print_separated first.toNat 46 (by decide)
      (Decimal.print second.toNat ++ dotted rest)
    rw [dotted_cons, mapPorts_part selector left first (by simp) part, after]
    dsimp only
    rw [ih _ second (Nat.lt_of_succ_lt_succ few), List.append_assoc]
    rfl

/-- What the code relies on: the parser of the identity library takes a single path as it is
spelled. -/
def PassesThrough (parseDeviceSelector : List UInt8 → Except ε PublicSelector) : Prop :=
  ∀ (bus : UInt8) (ports : List UInt8), PortPath ports →
    parseDeviceSelector (ascii "usb:" ++ spelling bus ports) = .ok (.topology [spelling bus ports])

/-- The daemon reads a spelling back. -/
theorem mapPublicSelector_spelling {parseDeviceSelector : List UInt8 → Except ε PublicSelector}
    (passes : PassesThrough parseDeviceSelector) (path : PortPath ports) (bus : UInt8) :
    mapPublicSelector parseDeviceSelector (ascii "usb:" ++ spelling bus ports) =
      .ok { kind := .port, bus := bus, ports := ports } := by
  have passed := passes bus ports path
  have few := path.few
  have small := bus.toNat_lt
  obtain ⟨first, rest, rfl⟩ := path.cons
  obtain ⟨part, after⟩ := print_separated bus.toNat 45 (by decide)
    (Decimal.print first.toNat ++ dotted rest)
  rw [mapPublicSelector, passed]
  dsimp only
  rw [spelling, after, part, parseNumberWhole_print]
  dsimp only
  rw [if_neg (by omega), mapPorts_spelling _ first rest few, UInt8.ofNat_toNat]
  rfl

/-- The spelling tells places apart. -/
theorem spelling_injective {bus other : UInt8} {others : List UInt8} (path : PortPath ports)
    (otherPath : PortPath others) (same : spelling other others = spelling bus ports) :
    other = bus ∧ others = ports := by
  have parsed := sianoParseDeviceSelector_spelling path bus
  rw [← same, sianoParseDeviceSelector_spelling otherPath other] at parsed
  cases parsed
  exact ⟨rfl, rfl⟩

/-- A number before a separator is told apart from what follows. -/
theorem print_split {number printed : Nat} (apart : Decimal.isDigit separator = false)
    (same : Decimal.print number ++ separator :: rest =
      Decimal.print printed ++ separator :: tail) : number = printed ∧ rest = tail := by
  obtain ⟨digits, behind⟩ := print_separated number separator apart rest
  obtain ⟨others, past⟩ := print_separated printed separator apart tail
  have numbers : Decimal.print number = Decimal.print printed := by rw [← digits, same, others]
  have rests : separator :: rest = separator :: tail := by rw [← behind, same, past]
  refine ⟨?_, (List.cons.inj rests).2⟩
  rw [← Decimal.value_print number, numbers, Decimal.value_print]

/-- The bus and the address are told apart from what follows. -/
theorem locationHead_injective {bus other address another : UInt8}
    (same : locationHead bus address ++ rest = locationHead other another ++ tail) :
    bus = other ∧ address = another ∧ rest = tail := by
  have shape (bus address : UInt8) (rest : List UInt8) : locationHead bus address ++ rest =
      ascii " bus=" ++ (Decimal.print bus.toNat ++ 32 :: (ascii "address=" ++
        (Decimal.print address.toNat ++ 32 :: (ascii "port=" ++ rest)))) := by
    have texts : ascii " address=" = 32 :: ascii "address=" ∧
        ascii " port=" = 32 :: ascii "port=" := by decide
    simp only [locationHead, texts, List.append_assoc, List.cons_append]
  rw [shape, shape] at same
  obtain ⟨buses, same⟩ := print_split (by decide) (List.append_cancel_left same)
  obtain ⟨addresses, same⟩ := print_split (by decide) (List.append_cancel_left same)
  exact ⟨UInt8.toNat_inj.mp buses, UInt8.toNat_inj.mp addresses, List.append_cancel_left same⟩

/-- **One spelling of a USB location.** The listing, the wire and the public identity name a place
by the same text; both parsers take that text for the place, and no other place has it. -/
theorem usb_location_one_spelling (parseDeviceSelector : List UInt8 → Except ε PublicSelector)
    (passes : PassesThrough parseDeviceSelector)
    (resolveSelector : PublicSelector → Except ε ι) (invalidArgument : ε)
    (bus address : UInt8) (ports : List UInt8) (path : PortPath ports)
    (size capacity : Nat) (large : 62 ≤ size) (room : 35 ≤ capacity) :
    sianoFormatUsbLocation size bus address ports =
      some (locationHead bus address ++ spelling bus ports) ∧
    copyNumbers capacity ⟨bus, ports, true⟩ = some (spelling bus ports) ∧
    selectorText ⟨bus, ports, true⟩ = some (ascii "usb:" ++ spelling bus ports) ∧
    sianoIdentity parseDeviceSelector resolveSelector invalidArgument ⟨bus, ports, true⟩ =
      resolveSelector (.topology [spelling bus ports]) ∧
    sianoParseDeviceSelector (spelling bus ports) =
      .ok { kind := .port, bus := bus, ports := ports } ∧
    mapPublicSelector parseDeviceSelector (ascii "usb:" ++ spelling bus ports) =
      .ok { kind := .port, bus := bus, ports := ports } ∧
    ∀ (other : UInt8) (others : List UInt8), PortPath others →
      spelling other others = spelling bus ports → other = bus ∧ others = ports := by
  have text := selectorText_spelling path bus
  refine ⟨format_spelling path large bus address, copyNumbers_spelling path room bus, text, ?_,
    sianoParseDeviceSelector_spelling path bus, mapPublicSelector_spelling passes path bus,
    fun other others otherPath same => spelling_injective path otherPath same⟩
  rw [sianoIdentity, text]
  dsimp only
  rw [passes bus ports path]
  rfl

/-- A parser that takes what follows the scheme for a path. -/
def pathParser (text : List UInt8) : Except Unit PublicSelector := .ok (.topology [text.drop 4])

/-- A device behind two hubs, on the bus that needs most digits. -/
theorem usb_location_behind_hubs :
    sianoFormatUsbLocation 64 255 17 [2, 3, 1] =
      some (ascii " bus=255 address=17 port=255-2.3.1") ∧
    sianoParseDeviceSelector (ascii "255-2.3.1") =
      .ok { kind := .port, bus := 255, ports := [2, 3, 1] } ∧
    mapPublicSelector pathParser (ascii "usb:255-2.3.1") =
      .ok { kind := .port, bus := 255, ports := [2, 3, 1] } := by
  have spelled := usb_location_one_spelling pathParser (fun bus ports _ => rfl)
    (fun selector => .ok selector) () 255 17 [2, 3, 1] ⟨by decide, by decide, by simp⟩ 64 64
    (by decide) (by decide)
  have text : spelling 255 [2, 3, 1] = ascii "255-2.3.1" := by decide +kernel
  rw [text] at spelled
  exact ⟨spelled.1.trans (by decide +kernel), spelled.2.2.2.2.1, spelled.2.2.2.2.2.1⟩

end SianoUserland.UsbLocation
