import Mathlib.Data.List.Basic
import Mathlib.Data.List.Induction
import Mathlib.Logic.Function.Basic

/-! `docs/release-validation/ts-check.py`: framing, transport errors and payload
continuity of a recorded stream. -/
namespace SianoUserland.TsCheck

/-- A byte of a packet. Every packet that is looked at has 188 of them. -/
def byteAt (packet : List UInt8) (index : Nat) : UInt8 := packet.getD index 0

/-- The packet starts with the sync byte. -/
def synced (packet : List UInt8) : Bool := byteAt packet 0 == 0x47

/-- The PID of a packet. -/
def pid (packet : List UInt8) : Nat :=
  ((byteAt packet 1 &&& 0x1F).toNat <<< 8) ||| (byteAt packet 2).toNat

/-- The PID of null packets. -/
abbrev nullPid : Nat := 0x1FFF

/-- The transport error indicator. -/
def transportError (packet : List UInt8) : Bool := byteAt packet 1 &&& 0x80 != 0

/-- The continuity counter. -/
def counter (packet : List UInt8) : UInt8 := byteAt packet 3 &&& 0x0F

/-- The adaptation field control: 1 for a payload, 2 for an adaptation field, 3 for both. -/
def adaptation (packet : List UInt8) : UInt8 := byteAt packet 3 >>> 4 &&& 0x03

def hasPayload (packet : List UInt8) : Bool := adaptation packet == 1 || adaptation packet == 3

def hasAdaptation (packet : List UInt8) : Bool := adaptation packet == 2 || adaptation packet == 3

def discontinuity (packet : List UInt8) : Bool :=
  hasAdaptation packet && byteAt packet 4 > 0 && byteAt packet 5 &&& 0x80 != 0

def hasPcr (packet : List UInt8) : Bool :=
  hasAdaptation packet && byteAt packet 4 > 0 && byteAt packet 5 &&& 0x10 != 0

/-- One of the checks of the adaptation field fails. -/
def invalid (packet : List UInt8) : Bool :=
  let length := (byteAt packet 4).toNat
  let extension := ((byteAt packet 10 &&& 1).toNat <<< 8) ||| (byteAt packet 11).toNat
  adaptation packet == 0 || (adaptation packet == 2 && length != 183) ||
    (adaptation packet == 3 && length > 182) ||
    (hasPcr packet && (length < 7 || byteAt packet 10 &&& 0x7e != 0x7e || extension ≥ 300))

/-- `equivalent_duplicate`: the same packet but for the value of its clock reference. -/
def equivalentDuplicate (previous packet : List UInt8) (pcr : Bool) : Bool :=
  if pcr then
    previous.take 6 == packet.take 6 &&
      (byteAt previous 10 &&& 0x7e) == (byteAt packet 10 &&& 0x7e) &&
      previous.drop 12 == packet.drop 12
  else previous == packet

/-- The counter that follows a packet with `last` as its counter. -/
def expected (last : UInt8) (packet : List UInt8) : UInt8 :=
  (last + if hasPayload packet then 1 else 0) &&& 0x0F

/-- What is kept of the last packet of a PID. -/
structure Entry where
  counter : UInt8
  hasPayload : Bool
  repeated : Bool
  epoch : Nat
  packet : List UInt8
  deriving Repr, DecidableEq

/-- The locals of `inspect`. Sets are lists here, the newest member first. -/
structure State where
  syncErrors : Nat := 0
  tei : Nat := 0
  invalidPacketIndices : List Nat := []
  continuityErrorIndices : List Nat := []
  duplicatePacketIndices : List Nat := []
  excludedSeen : List Nat := []
  previous : Nat → Option Entry := fun _ => none
  packets : Nat := 0
  nullPacketIndices : List Nat := []
  untrustedEpoch : Nat := 0
  retuneBoundaryIndex : Nat := 0
  retuneSegment : Nat := 0
  retuneSegmentPids : List Nat := []
  retuneExcludedCc : List Nat := []

/-- The indices given on the command line. -/
structure Options where
  excludedCc : List Nat := []
  retuneBoundaries : List Nat := []
  deriving Repr, DecidableEq

variable (options : Options)

/-- A retune boundary that has been reached opens a new segment. -/
def enterSegment (state : State) (index : Nat) : State :=
  if options.retuneBoundaries[state.retuneBoundaryIndex]?.any (· ≤ index) then
    { state with
      retuneSegment := state.retuneSegment + 1
      retuneSegmentPids := []
      retuneBoundaryIndex := state.retuneBoundaryIndex + 1 }
  else state

/-- The first packet of a PID in a segment is noted, and excluded after a retune. -/
def notePid (state : State) (index : Nat) (packet : List UInt8) : State :=
  let first := pid packet ≠ nullPid ∧ pid packet ∉ state.retuneSegmentPids
  { state with
    retuneSegmentPids :=
      if pid packet ≠ nullPid then pid packet :: state.retuneSegmentPids
      else state.retuneSegmentPids
    retuneExcludedCc :=
      if 0 < state.retuneSegment ∧ first then index :: state.retuneExcludedCc
      else state.retuneExcludedCc }

/-- The packet repeats the counter of the last one of its PID. -/
def repeats (last : Entry) (packet : List UInt8) : Bool :=
  hasPayload packet && counter packet == last.counter

/-- The packet is accepted as a duplicate of the last one of its PID. -/
def duplicates (epoch : Nat) (last : Entry) (packet : List UInt8) : Bool :=
  repeats last packet && last.hasPayload && !last.repeated && last.epoch == epoch &&
    equivalentDuplicate last.packet packet (hasPcr packet)

/-- The comparison with the last packet of the PID. -/
def compareCounter (state : State) (index : Nat) (packet : List UInt8) (last : Entry) : State :=
  if duplicates state.untrustedEpoch last packet then
    { state with duplicatePacketIndices := state.duplicatePacketIndices ++ [index] }
  else if counter packet ≠ expected last.counter packet then
    if index ∈ options.excludedCc ∨ index ∈ state.retuneExcludedCc then
      { state with excludedSeen := state.excludedSeen ++ [index] }
    else { state with continuityErrorIndices := state.continuityErrorIndices ++ [index] }
  else state

/-- A valid packet is compared unless it announces a discontinuity or is the first of
its PID. -/
def compareLast (state : State) (index : Nat) (packet : List UInt8) : State :=
  match state.previous (pid packet) with
  | some last =>
    if discontinuity packet then state else compareCounter options state index packet last
  | none => state

/-- What a valid packet leaves for the next one of its PID. -/
def remember (state : State) (packet : List UInt8) (last : Option Entry) : State :=
  { state with previous := Function.update state.previous (pid packet) (some {
      counter := counter packet
      hasPayload := hasPayload packet
      repeated := last.any (repeats · packet)
      epoch := state.untrustedEpoch
      packet := packet }) }

/-- One packet. -/
def check (state : State) (packet : List UInt8) : State :=
  let index := state.packets
  let state := enterSegment options { state with packets := state.packets + 1 } index
  if synced packet = false then
    { state with
      syncErrors := state.syncErrors + 1
      untrustedEpoch := state.untrustedEpoch + 1 }
  else
    let state := notePid state index packet
    if transportError packet then
      { state with
        tei := state.tei + 1
        untrustedEpoch := state.untrustedEpoch + 1 }
    else if pid packet = nullPid then
      { state with nullPacketIndices := state.nullPacketIndices ++ [index] }
    else if invalid packet then
      { state with
        invalidPacketIndices := state.invalidPacketIndices ++ [index]
        untrustedEpoch := state.untrustedEpoch + 1 }
    else
      remember (compareLast options state index packet) packet (state.previous (pid packet))

/-- The whole packets at the beginning of `data`. -/
def packetsOf (data : List UInt8) : List (List UInt8) :=
  (List.range (data.length / 188)).map fun index => (data.drop (188 * index)).take 188

/-- One read: its packets, behind what was pending, and what is pending after it. -/
def scan (progress : State × List UInt8) (chunk : List UInt8) : State × List UInt8 :=
  let data := progress.2 ++ chunk
  ((packetsOf data).foldl (check options) progress.1, data.drop (data.length / 188 * 188))

/-- What `inspect` returns, without the names of its files. -/
structure Report where
  bytes : Nat
  packets : Nat
  remainder : Nat
  syncErrors : Nat
  tei : Nat
  invalidPacketIndices : List Nat
  nullPacketIndices : List Nat
  duplicatePacketIndices : List Nat
  continuityErrorIndices : List Nat
  excludedCcIndices : List Nat
  excludedCcMismatches : List Nat
  deriving Repr, DecidableEq

def report (state : State) (bytes : Nat) : Report where
  bytes := bytes
  packets := state.packets
  remainder := bytes % 188
  syncErrors := state.syncErrors
  tei := state.tei
  invalidPacketIndices := state.invalidPacketIndices
  nullPacketIndices := state.nullPacketIndices
  duplicatePacketIndices := state.duplicatePacketIndices
  continuityErrorIndices := state.continuityErrorIndices
  excludedCcIndices := ((options.excludedCc ++ state.retuneExcludedCc).dedup).mergeSort
  excludedCcMismatches := state.excludedSeen

/-- `continuity_errors`. -/
def Report.continuityErrors (report : Report) : Nat := report.continuityErrorIndices.length

/-- The reads of `188 * 4096` bytes that a file is consumed in. -/
def readsOf (file : List UInt8) : List (List UInt8) :=
  (List.range ((file.length + 770047) / 770048)).map fun index =>
    (file.drop (770048 * index)).take 770048

/-- `inspect`. -/
def inspect (file : List UInt8) : Report :=
  report options ((readsOf file).foldl (scan options) ({}, [])).1 file.length

/-! ## Files and packets -/

theorem packetsOf_append (whole : first.length = 188 * count) :
    packetsOf (first ++ second) = packetsOf first ++ packetsOf second := by
  have lengths : (first ++ second).length / 188 = count + second.length / 188 := by
    rw [List.length_append, whole, Nat.mul_add_div (by decide)]
  rw [packetsOf, lengths, List.range_add, List.map_append, List.map_map]
  have half : first.length / 188 = count := by rw [whole, Nat.mul_div_cancel_left _ (by decide)]
  congr 1
  · rw [packetsOf, half]
    refine List.map_congr_left fun index member => ?_
    have bound := List.mem_range.mp member
    rw [List.drop_append_of_le_length (by omega), List.take_append_of_le_length]
    rw [List.length_drop]
    omega
  · refine List.map_congr_left fun index _ => ?_
    have past : 188 * (count + index) = first.length + 188 * index := by rw [whole, Nat.mul_add]
    simp only [Function.comp_apply, past, List.drop_append]
    rw [List.drop_eq_nil_of_le (by omega), Nat.add_sub_cancel_left, List.nil_append]

theorem packetsOf_short (short : data.length < 188) : packetsOf data = [] := by
  rw [packetsOf, Nat.div_eq_of_lt short]
  rfl

/-- What some data leaves pending. -/
def pendingOf (data : List UInt8) : List UInt8 := data.drop (data.length / 188 * 188)

theorem pendingOf_append (whole : first.length = 188 * count) :
    pendingOf (first ++ second) = pendingOf second := by
  have skipped : (first ++ second).length / 188 * 188 =
      first.length + second.length / 188 * 188 := by
    rw [List.length_append, whole, Nat.mul_add_div (by decide)]
    omega
  rw [pendingOf, skipped, List.drop_append, List.drop_eq_nil_of_le (by omega),
    Nat.add_sub_cancel_left, List.nil_append, pendingOf]

/-- Data is whole packets and what is pending, which is less than a packet. -/
theorem split_pending (data : List UInt8) :
    ∃ whole count, data = whole ++ pendingOf data ∧ whole.length = 188 * count ∧
      packetsOf data = packetsOf whole := by
  have split : data = data.take (data.length / 188 * 188) ++ pendingOf data :=
    (List.take_append_drop _ data).symm
  have length : (data.take (data.length / 188 * 188)).length = 188 * (data.length / 188) := by
    rw [List.length_take]
    omega
  refine ⟨_, _, split, length, ?_⟩
  have short : packetsOf (pendingOf data) = [] := by
    apply packetsOf_short
    rw [pendingOf, List.length_drop]
    omega
  have both := congrArg packetsOf split
  rw [packetsOf_append length, short, List.append_nil] at both
  exact both

/-- However a file is read, each of its packets is checked once. -/
theorem scan_reads (reads : List (List UInt8)) :
    reads.foldl (scan options) ({}, []) =
      ((packetsOf reads.flatten).foldl (check options) {}, pendingOf reads.flatten) := by
  induction reads using List.reverseRecOn with
  | nil => rfl
  | append_singleton reads chunk ih =>
    obtain ⟨whole, count, split, length, packets⟩ := split_pending reads.flatten
    have data : reads.flatten ++ chunk = whole ++ (pendingOf reads.flatten ++ chunk) := by
      rw [← List.append_assoc, ← split]
    rw [List.foldl_append, ih, List.foldl_cons, List.foldl_nil, List.flatten_append,
      List.flatten_singleton, data, packetsOf_append length, pendingOf_append length,
      List.foldl_append, packets]
    rfl

theorem readsOf_flatten (file : List UInt8) : (readsOf file).flatten = file := by
  have taken : ∀ count, ((List.range count).map fun index =>
      (file.drop (770048 * index)).take 770048).flatten = file.take (770048 * count) := by
    intro count
    induction count with
    | zero => rfl
    | succ count ih =>
      rw [List.range_succ, List.map_append, List.flatten_append, ih, List.map_singleton,
        List.flatten_singleton, Nat.mul_succ, List.take_add]
  rw [readsOf, taken, List.take_of_length_le (by omega)]

/-- `inspect` checks the packets of its file one after the other. -/
theorem inspect_eq (file : List UInt8) :
    inspect options file =
      report options ((packetsOf file).foldl (check options) {}) file.length := by
  rw [inspect, scan_reads, readsOf_flatten]

theorem packetsOf_flatten (packets : List (List UInt8))
    (whole : ∀ packet ∈ packets, packet.length = 188) : packetsOf packets.flatten = packets := by
  induction packets with
  | nil => rfl
  | cons packet rest ih =>
    have length := whole packet (by simp)
    rw [List.flatten_cons, packetsOf_append (show packet.length = 188 * 1 by omega),
      ih fun other member => whole other (by simp [member])]
    simp [packetsOf, length, List.take_of_length_le (Nat.le_of_eq length)]

end SianoUserland.TsCheck
