import Mathlib.Algebra.Group.Nat.Defs
import SianoUserland.PumpInvariant

/-! The pump of `output-writer.c` with its memory: two buffers of fixed size, lengths and offsets of
type `size_t`, and loops that have to end. A subtraction that would wrap, an access outside of a
buffer and a loop that goes on for longer than it is given are faults. -/
namespace SianoUserland.PumpMemory

/-- What a run must not meet. -/
inductive Fault where
  | wraps
  | outOfBounds
  | outOfFuel
  deriving Repr, DecidableEq

/-- A subtraction of type `size_t`. -/
def sub (left right : UInt64) : Except Fault UInt64 :=
  if right ≤ left then .ok (left - right) else .error .wraps

/-- An array of bytes. -/
structure Memory (size : Nat) where
  bytes : List UInt8
  whole : bytes.length = size

namespace Memory

variable {size : Nat}

/-- An array as `memset` leaves it. -/
def zero (size : Nat) : Memory size := ⟨List.replicate size 0, List.length_replicate⟩

def load (memory : Memory size) (offset : UInt64) : Except Fault UInt8 :=
  match memory.bytes[offset.toNat]? with
  | some byte => .ok byte
  | none => .error .outOfBounds

/-- The bytes that a copy or a write takes from an array. -/
def read (memory : Memory size) (offset count : UInt64) : Except Fault (List UInt8) :=
  if offset.toNat + count.toNat ≤ size then
    .ok ((memory.bytes.drop offset.toNat).take count.toNat)
  else .error .outOfBounds

/-- What a copy of `data` leaves in an array. -/
def write (memory : Memory size) (offset : UInt64) (data : List UInt8) :
    Except Fault (Memory size) :=
  if within : offset.toNat + data.length ≤ size then
    .ok {
      bytes := memory.bytes.take offset.toNat ++ data ++
        memory.bytes.drop (offset.toNat + data.length)
      whole := by
        have whole := memory.whole
        simp only [List.length_append, List.length_take, List.length_drop]
        omega }
  else .error .outOfBounds

theorem read_ok {memory : Memory size} (within : offset.toNat + count.toNat ≤ size) :
    memory.read offset count = .ok ((memory.bytes.drop offset.toNat).take count.toNat) :=
  if_pos within

theorem load_ok {memory : Memory size} (found : memory.bytes[offset.toNat]? = some byte) :
    memory.load offset = .ok byte := by
  rw [load, found]

/-- After a copy the array holds what was before the copied bytes, and then these. -/
theorem write_ok (memory : Memory size) (offset : UInt64) (data : List UInt8)
    (within : offset.toNat + data.length ≤ size) :
    ∃ after : Memory size, memory.write offset data = .ok after ∧
      after.bytes.take (offset.toNat + data.length) = memory.bytes.take offset.toNat ++ data := by
  have whole := memory.whole
  refine ⟨_, dif_pos within, ?_⟩
  apply List.take_left'
  rw [List.length_append, List.length_take]
  omega

theorem write_front (memory : Memory size) (data : List UInt8) (within : data.length ≤ size) :
    ∃ after : Memory size, memory.write 0 data = .ok after ∧
      after.bytes.take data.length = data := by
  obtain ⟨after, copied, front⟩ := write_ok memory 0 data (by rw [UInt64.toNat_zero]; omega)
  rw [UInt64.toNat_zero, Nat.zero_add, List.take_zero, List.nil_append] at front
  exact ⟨after, copied, front⟩

end Memory

/-- `struct siano_output_pump`, without the descriptor it writes to. -/
structure Pump where
  hold : Memory 188
  holdLen : UInt64 := 0
  scratch : Memory 16572
  scratchLen : UInt64 := 0
  sendOff : UInt64 := 0
  packetOff : UInt64 := 0
  packetResumeOff : UInt64 := 0
  writing : Bool := false
  busy : Bool := false
  packetSink : Bool := false

namespace Pump

/-- `siano_output_pump_init`. -/
def init : Pump := { hold := .zero 188, scratch := .zero 16572 }

/-- `siano_output_pump_init_sink`. -/
def initSink : Pump := { init with packetSink := true }

/-- `siano_output_pump_reset`. -/
def reset (pump : Pump) : Pump :=
  { pump with
    holdLen := 0, scratchLen := 0, sendOff := 0, packetOff := 0, packetResumeOff := 0
    writing := false, busy := false }

/-- `siano_output_pump_retune`. -/
def retune (pump : Pump) : Except Fault Pump :=
  if pump.writing = false ∨ pump.packetOff = 0 ∨ 188 ≤ pump.packetOff ∨
      pump.packetOff < pump.packetResumeOff then .ok pump.reset
  else do
    let remaining ← sub 188 pump.packetOff
    let dataOffset ← sub pump.packetOff pump.packetResumeOff
    let moved ← pump.scratch.read (pump.sendOff + dataOffset) remaining
    let scratch ← pump.scratch.write 0 moved
    return { pump with
      holdLen := 0, scratch := scratch, scratchLen := remaining, sendOff := 0
      packetResumeOff := pump.packetOff, writing := true, busy := true }

/-- `siano_output_pump_pending`. -/
def pending (pump : Pump) : Except Fault UInt64 :=
  if pump.busy ∧ pump.packetResumeOff ≠ 0 then do
    let left ← sub pump.scratchLen pump.sendOff
    let sent ← sub pump.packetOff pump.packetResumeOff
    sub left sent
  else if pump.busy then sub pump.scratchLen pump.sendOff
  else .ok pump.holdLen

/-- `siano_output_pump_feed`. -/
def feed (pump : Pump) (data : List UInt8) : Except Fault Pump := do
  let held ← pump.hold.read 0 pump.holdLen
  let scratch ← pump.scratch.write 0 held
  let scratch ← scratch.write pump.holdLen data
  return { pump with
    scratch := scratch, scratchLen := pump.holdLen + .ofNat data.length, holdLen := 0
    sendOff := 0, packetOff := 0, packetResumeOff := 0, writing := false, busy := true }

/-- The test of the resync loop, with `left` bytes behind `send_off`: a sync byte, confirmed by the
next one when two packets are there. -/
def inSync (pump : Pump) (left : UInt64) : Except Fault Bool := do
  let first ← pump.scratch.load pump.sendOff
  if first ≠ 0x47 then return false
  else if left < 376 then return true
  else
    let next ← pump.scratch.load (pump.sendOff + 188)
    return next == 0x47

/-- The resync loop. -/
def scan : Nat → Pump → Except Fault Pump
  | 0, _ => .error .outOfFuel
  | fuel + 1, pump => do
    let left ← sub pump.scratchLen pump.sendOff
    if left < 188 then return pump
    else if ← pump.inSync left then return pump
    else scan fuel { pump with sendOff := pump.sendOff + 1 }

/-- The rest of scratch moves to its front. -/
def compact (pump : Pump) : Except Fault Pump :=
  if pump.sendOff ≠ 0 then do
    let left ← sub pump.scratchLen pump.sendOff
    let moved ← pump.scratch.read pump.sendOff left
    let scratch ← pump.scratch.write 0 moved
    return { pump with scratch := scratch, scratchLen := left, sendOff := 0 }
  else .ok pump

/-- What follows the resync loop: a packet begins, or the rest is put aside. -/
def settle (pump : Pump) : Except Fault Pump := do
  let left ← sub pump.scratchLen pump.sendOff
  if 188 ≤ left then return { pump with writing := true, packetOff := 0 }
  else
    let pump ← pump.compact
    let kept ← pump.scratch.read 0 pump.scratchLen
    let hold ← pump.hold.write 0 kept
    return { pump with hold := hold, holdLen := pump.scratchLen, scratchLen := 0, busy := false }

/-- The pass of the loop that hands over a packet: the result, when the call returns with it. -/
def send (pump : Pump) (answer : Int) : Except Fault (Option Int × Pump) :=
  if pump.packetSink then do
    let _ ← pump.scratch.read pump.sendOff 188
    if answer ≠ 0 then return (some (if answer < 0 then answer else -Errno.io), pump)
    else
      return (none, { pump with sendOff := pump.sendOff + 188, packetOff := 0, writing := false })
  else do
    let request ← sub 188 pump.packetOff
    let dataOffset ← sub pump.packetOff pump.packetResumeOff
    let _ ← pump.scratch.read (pump.sendOff + dataOffset) request
    let (rc, written) := outputWrite request.toNat answer
    if rc < 0 then return (some rc, pump)
    else
      let packetOff := pump.packetOff + .ofNat written
      if rc = outputPending then return (some outputPending, { pump with packetOff := packetOff })
      else if pump.packetResumeOff ≠ 0 then
        return (some outputDone, { pump with
          scratchLen := 0, sendOff := 0, packetOff := 0, packetResumeOff := 0
          writing := false, busy := false })
      else
        return (none, { pump with sendOff := pump.sendOff + 188, packetOff := 0, writing := false })

/-- `siano_output_pump_step`, from the write or sink call of this number on; `answers` are their
results. -/
def step (answers : Nat → Int) : Nat → Nat → Pump → Except Fault (Int × Pump)
  | 0, _, _ => .error .outOfFuel
  | fuel + 1, call, pump =>
    if pump.busy = false then .ok (outputDone, pump)
    else if pump.writing then do
      match ← pump.send (answers call) with
      | (some rc, pump) => return (rc, pump)
      | (none, pump) => step answers fuel (call + 1) pump
    else do
      let pump ← pump.scan fuel
      let pump ← pump.settle
      step answers fuel call pump

/-! ## The pump behind the memory -/

/-- The pump that the valid parts of the buffers make up. -/
def contents (pump : Pump) : OutputPump UInt8 where
  hold := pump.hold.bytes.take pump.holdLen.toNat
  scratch := pump.scratch.bytes.take pump.scratchLen.toNat
  sendOff := pump.sendOff.toNat
  packetOff := pump.packetOff.toNat
  packetResumeOff := pump.packetResumeOff.toNat
  writing := pump.writing
  busy := pump.busy
  packetSink := pump.packetSink

/-- A pump whose lengths fit in its buffers, and which is fine otherwise. -/
structure Sound (pump : Pump) : Prop where
  hold_fits : pump.holdLen.toNat ≤ 188
  scratch_fits : pump.scratchLen.toNat ≤ 16572
  wf : pump.contents.Wf

variable {pump : Pump}

theorem length_hold (sound : Sound pump) : pump.contents.hold.length = pump.holdLen.toNat := by
  have fits := sound.hold_fits
  have whole := pump.hold.whole
  rw [contents, List.length_take]
  omega

theorem length_scratch (fits : pump.scratchLen.toNat ≤ 16572) :
    pump.contents.scratch.length = pump.scratchLen.toNat := by
  have whole := pump.scratch.whole
  rw [contents, List.length_take]
  omega

theorem sub_ok (left right : UInt64) (within : right.toNat ≤ left.toNat) :
    sub left right = .ok (left - right) ∧ (left - right).toNat = left.toNat - right.toNat :=
  ⟨if_pos within, UInt64.toNat_sub_of_le left right within⟩

theorem toNat_add {left right : UInt64} (small : left.toNat + right.toNat < 18446744073709551616) :
    (left + right).toNat = left.toNat + right.toNat := by
  rw [UInt64.toNat_add]
  exact Nat.mod_eq_of_lt small

theorem init_sound : Sound init := by
  refine ⟨by decide, by decide, ?_⟩
  exact OutputPump.init_wf

theorem initSink_sound : Sound initSink := by
  refine ⟨by decide, by decide, ?_⟩
  exact OutputPump.initSink_wf

theorem reset_contents (pump : Pump) : pump.reset.contents = pump.contents.reset := rfl

/-- A read within the valid part of scratch gives what the pump has there. -/
theorem read_scratch (fits : pump.scratchLen.toNat ≤ 16572)
    (within : offset.toNat + count.toNat ≤ pump.scratchLen.toNat) :
    pump.scratch.read offset count =
      .ok ((pump.contents.scratch.drop offset.toNat).take count.toNat) := by
  rw [Memory.read_ok (by omega), contents, List.drop_take, List.take_take,
    Nat.min_eq_left (by omega)]

/-- The unsent part of a packet is in the valid part of scratch. -/
theorem unsent_within (sound : Sound pump) (writing : pump.writing = true) :
    pump.sendOff.toNat + (pump.packetOff.toNat - pump.packetResumeOff.toNat) +
      (188 - pump.packetOff.toNat) ≤ pump.scratchLen.toNat := by
  have length := length_scratch sound.scratch_fits
  have unfinished : pump.packetOff.toNat < 188 := sound.wf.packetOff_lt
  have behind : pump.packetResumeOff.toNat ≤ pump.packetOff.toNat := sound.wf.resume_le
  by_cases resumed : pump.packetResumeOff.toNat = 0
  · have room := sound.wf.room writing resumed
    rw [length] at room
    change pump.sendOff.toNat + 188 ≤ _ at room
    omega
  · have remainder := sound.wf.resumed (Nat.pos_of_ne_zero resumed)
    rw [length] at remainder
    change _ = 188 - pump.packetResumeOff.toNat ∧ pump.sendOff.toNat = 0 at remainder
    omega

/-- What is computed before the unsent part of a packet is moved or written. -/
theorem read_unsent (sound : Sound pump) (writing : pump.writing = true) :
    ∃ remaining dataOffset, sub 188 pump.packetOff = .ok remaining ∧
      remaining.toNat = 188 - pump.packetOff.toNat ∧
      sub pump.packetOff pump.packetResumeOff = .ok dataOffset ∧
      pump.scratch.read (pump.sendOff + dataOffset) remaining = .ok pump.contents.unsent := by
  have within := unsent_within sound writing
  have fits := sound.scratch_fits
  have unfinished : pump.packetOff.toNat < 188 := sound.wf.packetOff_lt
  have behind : pump.packetResumeOff.toNat ≤ pump.packetOff.toNat := sound.wf.resume_le
  obtain ⟨remains, remaining⟩ := sub_ok 188 _ (Nat.le_of_lt unfinished)
  obtain ⟨sent, dataOffset⟩ := sub_ok _ _ behind
  have start : (pump.sendOff + (pump.packetOff - pump.packetResumeOff)).toNat =
      pump.sendOff.toNat + (pump.packetOff.toNat - pump.packetResumeOff.toNat) := by
    rw [toNat_add (by omega), dataOffset]
  have count : ((188 : UInt64) - pump.packetOff).toNat = 188 - pump.packetOff.toNat := remaining
  refine ⟨_, _, remains, count, sent, ?_⟩
  rw [read_scratch fits (by omega), start, count]
  rfl

theorem retune_ok (sound : Sound pump) :
    ∃ after, pump.retune = .ok after ∧ after.contents = pump.contents.retune ∧ Sound after := by
  have wf := OutputPump.retune_wf sound.wf
  have unfinished : pump.packetOff.toNat < 188 := sound.wf.packetOff_lt
  have behind : pump.packetResumeOff.toNat ≤ pump.packetOff.toNat := sound.wf.resume_le
  by_cases nothing : pump.writing = false ∨ pump.packetOff = 0
  · have reset : pump.contents.retune = pump.contents.reset :=
      OutputPump.retune_eq_reset (nothing.imp id fun zero => by rw [contents, zero]; rfl)
    have returns : pump.retune = .ok pump.reset :=
      if_pos (nothing.imp id Or.inl)
    rw [reset, ← reset_contents] at wf ⊢
    exact ⟨_, returns, rfl, Nat.zero_le _, Nat.zero_le _, wf⟩
  · simp only [not_or, Bool.not_eq_false] at nothing
    obtain ⟨writing, begun⟩ := nothing
    have goes : ¬ (pump.writing = false ∨ pump.packetOff = 0 ∨ 188 ≤ pump.packetOff ∨
        pump.packetOff < pump.packetResumeOff) := by
      rw [UInt64.le_iff_toNat_le, UInt64.lt_iff_toNat_lt]
      simp only [writing, begun, UInt64.reduceToNat]
      simp
      omega
    have kept : pump.contents.packetOff ≠ 0 := fun zero => begun (UInt64.toNat_inj.mp zero)
    have length := OutputPump.unsent_length sound.wf writing
    obtain ⟨remaining, dataOffset, remains, count, sent, moved⟩ := read_unsent sound writing
    obtain ⟨scratch, copied, front⟩ :=
      Memory.write_front pump.scratch pump.contents.unsent (by rw [length]; omega)
    rw [OutputPump.retune_eq sound.wf writing kept] at wf ⊢
    have valid : scratch.bytes.take remaining.toNat = pump.contents.unsent := by
      rw [length] at front
      rw [count]
      exact front
    have same : contents { pump with
        holdLen := 0, scratch := scratch, scratchLen := remaining, sendOff := 0
        packetResumeOff := pump.packetOff, writing := true, busy := true } = _ :=
      congrArg (fun scratch : List UInt8 => { pump.contents with
        hold := [], scratch := scratch, sendOff := 0
        packetResumeOff := pump.contents.packetOff, writing := true, busy := true }) valid
    refine ⟨_, ?_, same, Nat.zero_le _, by simp only; omega, same ▸ wf⟩
    rw [retune, if_neg goes, remains, sent]
    simp only [bind, Except.bind, moved, copied]
    rfl

theorem feed_ok (sound : Sound pump) (small : data.length ≤ 16384) :
    ∃ after, pump.feed data = .ok after ∧ after.contents = pump.contents.feed data ∧
      Sound after := by
  have wf := OutputPump.feed_wf sound.wf small
  have held := sound.wf.hold_le
  have length := length_hold sound
  rw [length] at held
  have read : pump.hold.read 0 pump.holdLen = .ok pump.contents.hold := by
    rw [Memory.read_ok (by rw [UInt64.toNat_zero]; omega), UInt64.toNat_zero, List.drop_zero]
    rfl
  obtain ⟨first, kept, front⟩ := Memory.write_front pump.scratch pump.contents.hold (by omega)
  obtain ⟨second, copied, whole⟩ := Memory.write_ok first pump.holdLen data (by omega)
  rw [length] at front
  rw [front] at whole
  have fed : (UInt64.ofNat data.length).toNat = data.length :=
    UInt64.toNat_ofNat_of_lt' (Nat.lt_of_le_of_lt small (by decide))
  have total : (pump.holdLen + .ofNat data.length).toNat = pump.holdLen.toNat + data.length := by
    rw [toNat_add (by omega), fed]
  have same : contents { pump with
      scratch := second, scratchLen := pump.holdLen + .ofNat data.length, holdLen := 0
      sendOff := 0, packetOff := 0, packetResumeOff := 0, writing := false, busy := true } =
        pump.contents.feed data := by
    rw [← total] at whole
    exact congrArg (fun scratch : List UInt8 => { pump.contents.feed data with
      scratch := scratch }) whole
  refine ⟨_, ?_, same, Nat.zero_le _, by simp only; omega, same ▸ wf⟩
  rw [feed, read]
  simp only [bind, Except.bind, kept, copied]
  rfl

theorem pending_ok (sound : Sound pump) : ∃ count, pump.pending = .ok count := by
  have ahead : pump.sendOff.toNat ≤ pump.scratchLen.toNat := by
    rw [← length_scratch sound.scratch_fits]
    exact sound.wf.sendOff_le
  have behind : pump.packetResumeOff.toNat ≤ pump.packetOff.toNat := sound.wf.resume_le
  obtain ⟨left, count⟩ := sub_ok _ _ ahead
  unfold pending
  split
  · rename_i resumed
    obtain ⟨sent, offset⟩ := sub_ok _ _ behind
    have begun : 0 < pump.packetResumeOff.toNat :=
      Nat.pos_of_ne_zero fun zero => resumed.2 (UInt64.toNat_inj.mp zero)
    have remainder := sound.wf.resumed begun
    rw [length_scratch sound.scratch_fits] at remainder
    have unfinished : pump.packetOff.toNat < 188 := sound.wf.packetOff_lt
    change _ = 188 - pump.packetResumeOff.toNat ∧ pump.sendOff.toNat = 0 at remainder
    obtain ⟨rest, -⟩ := sub_ok (pump.scratchLen - pump.sendOff)
      (pump.packetOff - pump.packetResumeOff) (by omega)
    rw [left, sent]
    exact ⟨_, rest⟩
  · split
    · exact ⟨_, left⟩
    · exact ⟨_, rfl⟩

/-! ## The loops -/

theorem skip_short (byte : β → UInt8) (short : rest.length < 188) :
    OutputPump.skip byte rest = 0 := by
  cases rest with
  | nil => rfl
  | cons first rest => rw [OutputPump.skip, if_neg fun passed => absurd passed.1 (by omega)]

theorem skip_synced (byte : β → UInt8) (synced : OutputPump.inSync byte rest = true) :
    OutputPump.skip byte rest = 0 := by
  cases rest with
  | nil => rfl
  | cons first rest => rw [OutputPump.skip, if_neg (by simp [synced])]

theorem skip_unsynced (byte : β → UInt8) (room : 188 ≤ rest.length)
    (unsynced : OutputPump.inSync byte rest = false) :
    OutputPump.skip byte rest = OutputPump.skip byte rest.tail + 1 := by
  cases rest with
  | nil => cases room
  | cons first rest => rw [OutputPump.skip, if_pos ⟨room, unsynced⟩, List.tail_cons]

theorem inSync_ok (fits : pump.scratchLen.toNat ≤ 16572)
    (room : pump.sendOff.toNat + 188 ≤ pump.scratchLen.toNat)
    (counted : left.toNat = pump.scratchLen.toNat - pump.sendOff.toNat) :
    pump.inSync left =
      .ok (OutputPump.inSync id (pump.contents.scratch.drop pump.sendOff.toNat)) := by
  have length := length_scratch fits
  have whole := pump.scratch.whole
  have loads : ∀ offset : UInt64, offset.toNat < pump.scratchLen.toNat →
      ∃ byte, pump.scratch.load offset = .ok byte ∧
        pump.contents.scratch[offset.toNat]? = some byte := by
    intro offset inside
    have found : pump.scratch.bytes[offset.toNat]? = some (pump.scratch.bytes[offset.toNat]) :=
      List.getElem?_eq_getElem (by omega)
    refine ⟨_, Memory.load_ok found, ?_⟩
    rw [contents, List.getElem?_take_of_lt inside, found]
  obtain ⟨first, load, here⟩ := loads pump.sendOff (by omega)
  simp only [inSync, load, OutputPump.inSync, List.getElem?_drop, Nat.add_zero, here,
    List.length_drop, length, Option.map_some, id_eq, ← counted]
  by_cases sync : first = 0x47
  · by_cases one : left < 376
    · have few : left.toNat < 376 := UInt64.lt_iff_toNat_lt.mp one
      simp [sync, one, few, bind, Except.bind, pure, Except.pure]
    · have many : ¬ left.toNat < 376 := fun few => one (UInt64.lt_iff_toNat_lt.mpr few)
      have start : (pump.sendOff + 188).toNat = pump.sendOff.toNat + 188 := toNat_add (by
        simp only [UInt64.reduceToNat]
        omega)
      obtain ⟨next, load, there⟩ := loads (pump.sendOff + 188) (by omega)
      rw [start] at there
      simp [sync, one, many, bind, Except.bind, pure, Except.pure, load, there]
  · simp [sync, bind, Except.bind, pure, Except.pure]

/-- The resync loop ends, and has then passed over what the scan passes over. -/
theorem scan_ok (fits : pump.scratchLen.toNat ≤ 16572)
    (ahead : pump.sendOff.toNat ≤ pump.scratchLen.toNat)
    (enough : pump.scratchLen.toNat - pump.sendOff.toNat < fuel) :
    ∃ sendOff, pump.scan fuel = .ok { pump with sendOff := sendOff } ∧
      sendOff.toNat = pump.sendOff.toNat +
        OutputPump.skip id (pump.contents.scratch.drop pump.sendOff.toNat) := by
  induction fuel generalizing pump with
  | zero => exact absurd enough (Nat.not_lt_zero _)
  | succ fuel ih =>
    have length : (pump.contents.scratch.drop pump.sendOff.toNat).length =
        pump.scratchLen.toNat - pump.sendOff.toNat := by
      rw [List.length_drop, length_scratch fits]
    obtain ⟨left, count⟩ := sub_ok _ _ ahead
    rw [scan, left]
    simp only [bind, Except.bind, pure, Except.pure]
    by_cases short : pump.scratchLen - pump.sendOff < 188
    · have few : pump.scratchLen.toNat - pump.sendOff.toNat < 188 := by
        rw [← count]
        exact UInt64.lt_iff_toNat_lt.mp short
      rw [if_pos short, skip_short id (by omega)]
      exact ⟨pump.sendOff, rfl, rfl⟩
    rw [if_neg short]
    have room : 188 ≤ pump.scratchLen.toNat - pump.sendOff.toNat := by
      rw [← count]
      exact Nat.not_lt.mp fun few => short (UInt64.lt_iff_toNat_lt.mpr few)
    rw [inSync_ok fits (by omega) count]
    dsimp only
    cases synced : OutputPump.inSync id (pump.contents.scratch.drop pump.sendOff.toNat) with
    | true =>
      rw [if_pos rfl, skip_synced id synced]
      exact ⟨pump.sendOff, rfl, rfl⟩
    | false =>
      rw [if_neg Bool.false_ne_true]
      have next : (pump.sendOff + 1).toNat = pump.sendOff.toNat + 1 := toNat_add (by
        simp only [UInt64.reduceToNat]
        omega)
      have passed := skip_unsynced id (by omega) synced
      rw [List.tail_drop] at passed
      obtain ⟨sendOff, scanned, total⟩ := @ih { pump with sendOff := pump.sendOff + 1 }
        fits (by simp only; omega) (by simp only; omega)
      refine ⟨sendOff, scanned, ?_⟩
      change _ = (pump.sendOff + 1).toNat +
        OutputPump.skip id (pump.contents.scratch.drop (pump.sendOff + 1).toNat) at total
      rw [total, passed, next]
      omega

theorem compact_ok (fits : pump.scratchLen.toNat ≤ 16572)
    (ahead : pump.sendOff.toNat ≤ pump.scratchLen.toNat) :
    ∃ scratch left, pump.compact =
        .ok { pump with scratch := scratch, scratchLen := left, sendOff := 0 } ∧
      left.toNat = pump.scratchLen.toNat - pump.sendOff.toNat ∧
      scratch.bytes.take left.toNat = pump.contents.scratch.drop pump.sendOff.toNat := by
  obtain ⟨rest, count⟩ := sub_ok _ _ ahead
  unfold compact
  by_cases moves : pump.sendOff = 0
  · have none : pump.sendOff.toNat = 0 := by rw [moves]; rfl
    rw [if_neg (by simpa using moves)]
    refine ⟨pump.scratch, pump.scratchLen, by rw [← moves], by omega, ?_⟩
    rw [none, List.drop_zero]
    rfl
  · rw [if_pos moves]
    have length : (pump.contents.scratch.drop pump.sendOff.toNat).length =
        (pump.scratchLen - pump.sendOff).toNat := by
      rw [List.length_drop, length_scratch fits, count]
    have read : pump.scratch.read pump.sendOff (pump.scratchLen - pump.sendOff) =
        .ok (pump.contents.scratch.drop pump.sendOff.toNat) := by
      rw [read_scratch fits (by omega), List.take_of_length_le (Nat.le_of_eq length)]
    obtain ⟨scratch, copied, front⟩ := Memory.write_front pump.scratch
      (pump.contents.scratch.drop pump.sendOff.toNat) (by omega)
    refine ⟨scratch, pump.scratchLen - pump.sendOff, ?_, count, by rw [← length]; exact front⟩
    rw [rest]
    simp only [bind, Except.bind, read, copied]
    rfl

/-- The pass that is not in the middle of a packet. -/
theorem seek_ok (sound : Sound pump) (idle : pump.writing = false) (busy : pump.busy = true)
    (enough : pump.scratchLen.toNat - pump.sendOff.toNat < fuel) :
    ∃ sought after, pump.scan fuel = .ok sought ∧ sought.settle = .ok after ∧
      after.contents = pump.contents.seek id ∧ Sound after := by
  have fits := sound.scratch_fits
  have length := length_scratch fits
  have ahead : pump.sendOff.toNat ≤ pump.scratchLen.toNat := by
    rw [← length]
    exact sound.wf.sendOff_le
  have wf : (pump.contents.seek id).Wf := OutputPump.seek_wf sound.wf idle busy
  obtain ⟨sendOff, scanned, total⟩ := scan_ok fits ahead enough
  have bound := OutputPump.skip_le id (pump.contents.scratch.drop pump.sendOff.toNat)
  rw [List.length_drop, length] at bound
  have further : sendOff.toNat ≤ pump.scratchLen.toNat := by omega
  obtain ⟨rest, count⟩ := sub_ok _ _ further
  have found : pump.contents.sendOff +
      OutputPump.skip id (pump.contents.scratch.drop pump.contents.sendOff) = sendOff.toNat :=
    total.symm
  refine ⟨{ pump with sendOff := sendOff }, ?_⟩
  rw [settle, rest]
  by_cases packet : 188 ≤ pump.scratchLen - sendOff
  · have fit : 188 ≤ pump.scratchLen.toNat - sendOff.toNat := by
      rw [← count]
      exact UInt64.le_iff_toNat_le.mp packet
    have begins : pump.contents.seek id =
        contents { pump with sendOff := sendOff, writing := true, packetOff := 0 } := by
      rw [OutputPump.seek, found, length, if_pos fit]
      rfl
    exact ⟨_, scanned, if_pos packet, begins.symm, sound.hold_fits, fits, begins ▸ wf⟩
  · have short : ¬ 188 ≤ pump.scratchLen.toNat - sendOff.toNat := by
      rw [← count]
      exact fun fit => packet (UInt64.le_iff_toNat_le.mpr fit)
    obtain ⟨scratch, left, compacted, remaining, moved⟩ :=
      @compact_ok { pump with sendOff := sendOff } fits further
    change left.toNat = pump.scratchLen.toNat - sendOff.toNat at remaining
    change _ = pump.contents.scratch.drop sendOff.toNat at moved
    have kept : scratch.read 0 left = .ok (pump.contents.scratch.drop sendOff.toNat) := by
      rw [Memory.read_ok (by rw [UInt64.toNat_zero]; omega), UInt64.toNat_zero, List.drop_zero,
        moved]
    have size : (pump.contents.scratch.drop sendOff.toNat).length = left.toNat := by
      rw [List.length_drop, length, remaining]
    obtain ⟨hold, copied, front⟩ :=
      Memory.write_front pump.hold (pump.contents.scratch.drop sendOff.toNat) (by omega)
    rw [size] at front
    have parks : pump.contents.seek id = contents { pump with
        hold := hold, holdLen := left, scratch := scratch, scratchLen := 0, sendOff := 0
        busy := false } := by
      rw [OutputPump.seek, found, length, if_neg short, ← front]
      rfl
    refine ⟨_, scanned, ?_, parks.symm, by simp only; omega, Nat.zero_le _, parks ▸ wf⟩
    simp only [bind, Except.bind, if_neg packet, compacted, kept, copied]
    rfl

/-- A write that is to be continued has left some of the request. -/
theorem written_lt (request : 0 < length) (more : (outputWrite length answer).1 = outputPending) :
    (outputWrite length answer).2 < length := by
  rw [outputWrite, if_neg (by omega), outputResult] at more ⊢
  split
  · exact request
  · rename_i counted
    rw [if_neg counted] at more
    split
    · simp only
      omega
    · rename_i finished
      rw [if_neg finished] at more
      exact absurd more (show ¬ outputDone = outputPending by decide)

theorem next_sendOff (sound : Sound pump)
    (room : pump.sendOff.toNat + 188 ≤ pump.scratchLen.toNat) :
    (pump.sendOff + 188).toNat = pump.sendOff.toNat + 188 := by
  have fits := sound.scratch_fits
  apply toNat_add
  simp only [UInt64.reduceToNat]
  omega

theorem send_sink_ok (sound : Sound pump) (writing : pump.writing = true)
    (mode : pump.packetSink = true) (answer : Int) :
    ∃ after, pump.send answer = .ok ((pump.contents.send answer).rc, after) ∧
      after.contents = (pump.contents.send answer).pump ∧ after.holdLen.toNat ≤ 188 ∧
      after.scratchLen.toNat ≤ 16572 := by
  have fits := sound.scratch_fits
  have within := unsent_within sound writing
  have whole : pump.packetOff.toNat = 0 := sound.wf.whole mode
  have sink : pump.contents.packetSink = true := mode
  have offers : pump.scratch.read pump.sendOff 188 = .ok _ :=
    read_scratch fits (by simp only [UInt64.reduceToNat]; omega)
  rw [send, if_pos mode, offers, OutputPump.send, if_pos sink]
  simp only [bind, Except.bind, pure, Except.pure]
  by_cases refused : answer ≠ 0
  · rw [if_pos refused, if_pos refused]
    exact ⟨_, rfl, rfl, sound.hold_fits, fits⟩
  · rw [if_neg refused, if_neg refused]
    refine ⟨_, rfl, ?_, sound.hold_fits, fits⟩
    simp only [contents, next_sendOff sound (by omega)]
    rfl

theorem send_descriptor_ok (sound : Sound pump) (writing : pump.writing = true)
    (mode : pump.packetSink = false) (answer : Int) :
    ∃ after, pump.send answer = .ok ((pump.contents.send answer).rc, after) ∧
      after.contents = (pump.contents.send answer).pump ∧ after.holdLen.toNat ≤ 188 ∧
      after.scratchLen.toNat ≤ 16572 := by
  have fits := sound.scratch_fits
  have unfinished : pump.packetOff.toNat < 188 := sound.wf.packetOff_lt
  have behind : pump.packetResumeOff.toNat ≤ pump.packetOff.toNat := sound.wf.resume_le
  have within := unsent_within sound writing
  have descriptor : ¬ pump.contents.packetSink = true := by simp [contents, mode]
  obtain ⟨request, dataOffset, requests, count, sent, unsent⟩ := read_unsent sound writing
  have same : 188 - pump.contents.packetOff = request.toNat := count.symm
  rw [send, if_neg (by simp [mode]), requests, sent, OutputPump.send, if_neg descriptor, same]
  simp only [bind, Except.bind, pure, Except.pure, unsent]
  by_cases failed : (outputWrite request.toNat answer).1 < 0
  · rw [if_pos failed, if_pos failed]
    exact ⟨_, rfl, rfl, sound.hold_fits, fits⟩
  rw [if_neg failed, if_neg failed]
  by_cases more : (outputWrite request.toNat answer).1 = outputPending
  · have left := written_lt (by omega) more
    have total : (pump.packetOff + .ofNat (outputWrite request.toNat answer).2).toNat =
        pump.packetOff.toNat + (outputWrite request.toNat answer).2 := by
      have small : (UInt64.ofNat (outputWrite request.toNat answer).2).toNat =
          (outputWrite request.toNat answer).2 := UInt64.toNat_ofNat_of_lt' (by
        have big : 188 < UInt64.size := by decide
        omega)
      rw [toNat_add (by omega), small]
    rw [if_pos more, if_pos more]
    refine ⟨_, rfl, ?_, sound.hold_fits, fits⟩
    simp only [contents, total]
  rw [if_neg more, if_neg more]
  by_cases resumed : pump.packetResumeOff = 0
  · have zero : pump.packetResumeOff.toNat = 0 := by rw [resumed]; rfl
    have fresh : ¬ pump.contents.packetResumeOff ≠ 0 := fun other => other zero
    rw [if_neg (by simpa using resumed), if_neg fresh]
    refine ⟨_, rfl, ?_, sound.hold_fits, fits⟩
    simp only [contents, next_sendOff sound (by omega)]
    rfl
  · have begun : pump.contents.packetResumeOff ≠ 0 := fun zero =>
      resumed (UInt64.toNat_inj.mp zero)
    rw [if_pos resumed, if_pos begun]
    exact ⟨_, rfl, rfl, sound.hold_fits, Nat.zero_le _⟩

/-- The pass that hands over a packet. -/
theorem send_ok (sound : Sound pump) (writing : pump.writing = true) (answer : Int) :
    ∃ after, pump.send answer = .ok ((pump.contents.send answer).rc, after) ∧
      after.contents = (pump.contents.send answer).pump ∧ Sound after := by
  have returns : ∃ after, pump.send answer = .ok ((pump.contents.send answer).rc, after) ∧
      after.contents = (pump.contents.send answer).pump ∧ after.holdLen.toNat ≤ 188 ∧
      after.scratchLen.toNat ≤ 16572 := by
    cases mode : pump.packetSink with
    | true => exact send_sink_ok sound writing mode answer
    | false => exact send_descriptor_ok sound writing mode answer
  obtain ⟨after, returns, same, hold, scratch⟩ := returns
  exact ⟨after, returns, same, hold, scratch, same ▸ OutputPump.send_wf sound.wf writing answer⟩

section passes

variable {pump : OutputPump β}

/-- How many passes of the loop are left at most: the bytes ahead count twice, so that a packet
handed over pays for the scan that follows. -/
def passes (pump : OutputPump β) : Nat :=
  if pump.busy then
    2 * (pump.scratch.length - pump.sendOff) + if pump.writing then 1 else 2
  else 0

theorem passes_writing (busy : pump.busy = true) (writing : pump.writing = true) :
    passes pump = 2 * (pump.scratch.length - pump.sendOff) + 1 := by
  rw [passes, if_pos busy, if_pos writing]

theorem passes_scanning (busy : pump.busy = true) (idle : pump.writing = false) :
    passes pump = 2 * (pump.scratch.length - pump.sendOff) + 2 := by
  rw [passes, if_pos busy, if_neg (by simp [idle])]

theorem passes_le (wf : pump.Wf) : passes pump ≤ 33146 := by
  have scratch := wf.scratch_le
  unfold passes
  split
  · split <;> omega
  · exact Nat.zero_le _

theorem passes_send (wf : pump.Wf) (writing : pump.writing = true)
    (goes : (pump.send answer).rc = none) : passes (pump.send answer).pump < passes pump := by
  have busy := wf.busy writing
  have behind := wf.resume_le
  have next : pump.packetResumeOff = 0 → (pump.send answer).pump =
      { pump with sendOff := pump.sendOff + 188, packetOff := 0, writing := false } →
      passes (pump.send answer).pump < passes pump := by
    intro fresh sent
    have room := wf.room writing fresh
    rw [sent, passes_writing busy writing, passes, if_pos busy, if_neg Bool.false_ne_true]
    simp only
    omega
  cases mode : pump.packetSink with
  | true =>
    have whole := wf.whole mode
    rcases OutputPump.send_sink mode answer with ⟨rc, _, _, sent⟩ | ⟨_, sent⟩
    · rw [sent] at goes
      cases goes
    · exact next (by omega) (by rw [sent])
  | false =>
    rcases OutputPump.send_cases mode wf.packetOff_lt answer with
      ⟨rc, count, few, sent⟩ | ⟨resumed, sent⟩ | ⟨fresh, sent⟩
    · rw [sent] at goes
      cases goes
    · rw [sent] at goes
      cases goes
    · exact next fresh (by rw [sent])

theorem passes_seek (byte : β → UInt8) (wf : pump.Wf) (idle : pump.writing = false)
    (busy : pump.busy = true) : passes (pump.seek byte) < passes pump := by
  rw [passes_scanning busy idle]
  obtain ⟨found, ahead, inside, ⟨fits, _, sought⟩ | ⟨short, sought⟩⟩ :=
    OutputPump.seek_cases byte wf.sendOff_le
  · rw [sought, passes, if_pos busy, if_pos rfl]
    simp only
    omega
  · rw [sought]
    exact Nat.succ_pos _

theorem prepare_seek (byte : β → UInt8) (pump : OutputPump β) :
    (pump.seek byte).prepare byte = pump.seek byte := by
  unfold OutputPump.prepare OutputPump.seek
  simp only
  split <;> simp

/-- A call that begins with a scan goes on as from where the scan ended. -/
theorem step_seek (busy : pump.busy = true) (idle : pump.writing = false)
    (answers : List Int) : (pump.seek byte).step byte answers = pump.step byte answers := by
  have ready : pump.prepare byte = pump.seek byte := if_pos ⟨busy, idle⟩
  cases answers with
  | nil => simp only [OutputPump.step, prepare_seek, ready]
  | cons answer answers => simp only [OutputPump.step, prepare_seek, ready]

end passes

/-- A call meets no fault and ends, and what it does is what the call on the contents does. -/
theorem step_ok (sound : Sound pump) (answers : Nat → Int) (call : Nat)
    (enough : passes pump.contents < fuel) :
    ∃ rc after used, pump.step answers fuel call = .ok (rc, after) ∧ Sound after ∧
      (pump.contents.step id used).rc = some rc ∧
      (pump.contents.step id used).pump = after.contents := by
  induction fuel generalizing pump call with
  | zero => exact absurd enough (Nat.not_lt_zero _)
  | succ fuel ih =>
    by_cases parked : pump.busy = false
    · have ready : pump.contents.prepare id = pump.contents := if_neg (by simp [contents, parked])
      have still : ¬ pump.contents.busy = true := by simp [contents, parked]
      refine ⟨outputDone, pump, [], if_pos parked, sound, ?_⟩
      simp only [OutputPump.step, ready, if_neg still, true_and]
    have busy : pump.busy = true := by simpa using parked
    by_cases writing : pump.writing = true
    · obtain ⟨after, sent, same, kept⟩ := send_ok sound writing (answers call)
      have ready : pump.contents.prepare id = pump.contents := if_neg (by simp [contents, writing])
      have still : pump.contents.busy = true := busy
      rw [step, if_neg parked, if_pos writing, sent]
      cases returned : (pump.contents.send (answers call)).rc with
      | some rc =>
        refine ⟨rc, after, [answers call], rfl, kept, ?_⟩
        simp only [OutputPump.step, ready, if_pos still, returned, same, true_and]
      | none =>
        have fewer := passes_send sound.wf writing returned
        rw [← same] at fewer
        obtain ⟨rc, final, used, steps, fine, result, left⟩ := ih kept (call + 1) (by omega)
        refine ⟨rc, final, answers call :: used, steps, fine, ?_⟩
        simp only [OutputPump.step, ready, if_pos still, returned, ← same]
        exact ⟨result, left⟩
    · have idle : pump.writing = false := by simpa using writing
      have length := length_scratch sound.scratch_fits
      have fewer := passes_seek id sound.wf idle busy
      have ahead : passes pump.contents = 2 * (_ - pump.sendOff.toNat) + 2 :=
        passes_scanning busy idle
      rw [length] at ahead
      have scans : pump.scratchLen.toNat - pump.sendOff.toNat < fuel := by omega
      obtain ⟨sought, after, scanned, settled, same, kept⟩ := seek_ok sound idle busy scans
      rw [← same] at fewer
      obtain ⟨rc, final, used, steps, fine, result, left⟩ := ih kept call (by omega)
      rw [same, step_seek busy idle] at result left
      refine ⟨rc, final, used, ?_, fine, result, left⟩
      rw [step, if_neg parked, if_neg writing, scanned]
      simp only [bind, Except.bind, settled, steps]

/-! A loop that has ended does not depend on how long it was allowed to go on. -/

theorem scan_succ (scanned : pump.scan fuel = .ok after) : pump.scan (fuel + 1) = .ok after := by
  induction fuel generalizing pump with
  | zero => cases scanned
  | succ fuel ih =>
    rw [scan] at scanned ⊢
    cases left : sub pump.scratchLen pump.sendOff with
    | error fault => rw [left] at scanned; cases scanned
    | ok left' =>
      simp only [left, bind, Except.bind] at scanned ⊢
      by_cases short : left' < 188
      · rw [if_pos short] at scanned ⊢
        exact scanned
      rw [if_neg short] at scanned ⊢
      cases synced : pump.inSync left' with
      | error fault => rw [synced] at scanned; cases scanned
      | ok synced' =>
        cases synced' with
        | true => simpa only [synced, if_true] using scanned
        | false =>
          simp only [synced, Bool.false_eq_true, if_false] at scanned ⊢
          exact ih scanned

theorem step_succ (stepped : pump.step answers fuel call = .ok result) :
    pump.step answers (fuel + 1) call = .ok result := by
  induction fuel generalizing pump call with
  | zero => cases stepped
  | succ fuel ih =>
    rw [step] at stepped ⊢
    by_cases parked : pump.busy = false
    · rw [if_pos parked] at stepped ⊢
      exact stepped
    rw [if_neg parked] at stepped ⊢
    by_cases writing : pump.writing = true
    · rw [if_pos writing] at stepped ⊢
      cases sent : pump.send (answers call) with
      | error fault => rw [sent] at stepped; cases stepped
      | ok outcome =>
        obtain ⟨rc, after⟩ := outcome
        cases rc with
        | some rc => simpa only [sent, bind, Except.bind] using stepped
        | none =>
          simp only [sent, bind, Except.bind] at stepped ⊢
          exact ih stepped
    · rw [if_neg writing] at stepped ⊢
      cases scanned : pump.scan fuel with
      | error fault => rw [scanned] at stepped; cases stepped
      | ok sought =>
        rw [scan_succ scanned]
        cases settled : sought.settle with
        | error fault => simp only [scanned, bind, Except.bind, settled] at stepped; cases stepped
        | ok after =>
          simp only [scanned, bind, Except.bind, settled] at stepped ⊢
          exact ih stepped

theorem step_mono (enough : fuel ≤ more) (stepped : pump.step answers fuel call = .ok result) :
    pump.step answers more call = .ok result := by
  induction enough with
  | refl => exact stepped
  | step _ ih => exact step_succ ih

/-! ## Every pump -/

/-- The pumps that the calls lead to, the writes and the sink having answered anything. -/
inductive Reachable : Pump → Prop
  | init : Reachable init
  | initSink : Reachable initSink
  | feed : Reachable before → before.busy = false → data.length ≤ 16384 →
    before.feed data = .ok after → Reachable after
  | step : Reachable before → before.step answers fuel 0 = .ok (rc, after) → Reachable after
  | retune : Reachable before → before.retune = .ok after → Reachable after

/-- An `Except` that has returned returned one thing. -/
theorem ok_inj {left right : α} (one : run = Except.ok left)
    (other : run = (Except.ok right : Except Fault α)) : left = right :=
  Except.ok.inj (one.symm.trans other)

theorem Reachable.sound (reachable : Reachable pump) : Sound pump := by
  induction reachable with
  | init => exact init_sound
  | initSink => exact initSink_sound
  | feed _ _ small fed sound =>
    obtain ⟨after, returned, -, kept⟩ := feed_ok sound small
    exact ok_inj returned fed ▸ kept
  | @step before answers fuel rc after _ stepped sound =>
    have enough : passes before.contents < max fuel 33147 :=
      Nat.lt_of_le_of_lt (passes_le sound.wf) (Nat.lt_of_lt_of_le (by decide) (Nat.le_max_right ..))
    obtain ⟨rc, final, -, returned, kept, -⟩ := step_ok sound answers 0 enough
    obtain ⟨-, rfl⟩ := Prod.mk.inj (ok_inj returned (step_mono (Nat.le_max_left ..) stepped))
    exact kept
  | retune _ returned sound =>
    obtain ⟨after, tuned, -, kept⟩ := retune_ok sound
    exact ok_inj tuned returned ▸ kept

/-- The fields of a pump between two calls. -/
structure Bounded (pump : Pump) : Prop where
  hold_len : pump.holdLen.toNat ≤ 187
  scratch_len : pump.scratchLen.toNat ≤ 16384 + 188
  send_off : pump.sendOff.toNat ≤ pump.scratchLen.toNat
  packet_resume_off : pump.packetResumeOff.toNat ≤ pump.packetOff.toNat
  packet_off : pump.packetOff.toNat < 188
  packet : pump.writing = true → pump.packetResumeOff = 0 →
    pump.sendOff.toNat + 188 ≤ pump.scratchLen.toNat
  remainder : pump.packetResumeOff ≠ 0 →
    pump.scratchLen.toNat = 188 - pump.packetResumeOff.toNat ∧ pump.sendOff = 0

theorem Sound.bounded (sound : Sound pump) : Bounded pump := by
  have length := length_scratch sound.scratch_fits
  have wf := sound.wf
  refine ⟨length_hold sound ▸ wf.hold_le, length ▸ wf.scratch_le, length ▸ wf.sendOff_le,
    wf.resume_le, wf.packetOff_lt, fun writing fresh => ?_, fun resumed => ?_⟩
  · rw [← length]
    exact wf.room writing (by rw [contents, fresh]; rfl)
  · obtain ⟨scratch, start⟩ :=
      wf.resumed (Nat.pos_of_ne_zero fun zero => resumed (UInt64.toNat_inj.mp zero))
    rw [length] at scratch
    exact ⟨scratch, UInt64.toNat_inj.mp start⟩

/-- **No call on a pump leaves its memory or goes on forever.** The fields of every pump keep within
their bounds, so that no subtraction of a call on it wraps and no access is outside of a buffer, and
a step returns, with the same result however long it is allowed to go on. -/
theorem pump_memory_safe (reachable : Reachable pump) :
    Bounded pump ∧
    (∃ count, pump.pending = .ok count) ∧
    (∃ after, pump.retune = .ok after) ∧
    (∀ data, pump.busy = false → data.length ≤ 16384 → ∃ after, pump.feed data = .ok after) ∧
    ∀ answers, ∃ rc after, ∀ fuel, 33147 ≤ fuel → pump.step answers fuel 0 = .ok (rc, after) := by
  have sound := reachable.sound
  refine ⟨sound.bounded, pending_ok sound, ?_, fun data _ small => ?_, fun answers => ?_⟩
  · obtain ⟨after, returned, -⟩ := retune_ok sound
    exact ⟨after, returned⟩
  · obtain ⟨after, returned, -⟩ := feed_ok sound small
    exact ⟨after, returned⟩
  · obtain ⟨rc, after, -, returned, -⟩ :=
      step_ok sound answers 0 (Nat.lt_succ_of_le (passes_le sound.wf))
    exact ⟨rc, after, fun fuel enough => step_mono enough returned⟩

/-- Two packets and the beginning of a third. -/
def fedBytes : List UInt8 :=
  (List.range 400).map fun index => if index % 188 = 0 then 0x47 else .ofNat index

/-- The first packet is cut short by the descriptor, a retune keeps its rest, and the descriptor
takes half of that. -/
def cutPump : Except Fault (Int × Pump) := do
  let pump ← init.feed fedBytes
  let (_, pump) ← pump.step (fun _ => 100) 33147 0
  let pump ← pump.retune
  pump.step (fun _ => 44) 33147 0

theorem pump_memory_safe_cut : ∃ after : Pump, cutPump = .ok (outputPending, after) ∧
    (after.packetResumeOff = 100 ∧ after.packetOff = 144 ∧ after.scratchLen = 88) ∧
    Bounded after ∧
    (∃ count, after.pending = .ok count) ∧
    (∃ later, after.retune = .ok later) ∧
    (∀ data, after.busy = false → data.length ≤ 16384 → ∃ later, after.feed data = .ok later) ∧
    ∀ answers, ∃ rc later, ∀ fuel, 33147 ≤ fuel →
      after.step answers fuel 0 = .ok (rc, later) := by
  have small : fedBytes.length ≤ 16384 := by decide +kernel
  have shape : cutPump.toOption.map (fun (rc, pump) =>
      (rc, pump.packetResumeOff, pump.packetOff, pump.scratchLen)) =
        some (outputPending, 100, 144, 88) := by decide +kernel
  obtain ⟨fed, feeding⟩ := (pump_memory_safe .init).2.2.2.1 fedBytes rfl small
  have reached := Reachable.feed .init rfl small feeding
  obtain ⟨rc, cut, cutting⟩ := (pump_memory_safe reached).2.2.2.2 fun _ => 100
  have reached := Reachable.step reached (cutting 33147 (Nat.le_refl _))
  obtain ⟨tuned, tuning⟩ := (pump_memory_safe reached).2.2.1
  have reached := Reachable.retune reached tuning
  obtain ⟨result, after, writing⟩ := (pump_memory_safe reached).2.2.2.2 fun _ => 44
  have returned : cutPump = .ok (result, after) := by
    simp only [cutPump, feeding, cutting 33147 (Nat.le_refl _), tuning,
      writing 33147 (Nat.le_refl _), bind, Except.bind]
  rw [returned] at shape
  obtain ⟨pending, fields⟩ := Prod.mk.inj (Option.some.inj shape)
  obtain ⟨resume, fields⟩ := Prod.mk.inj fields
  exact ⟨after, by rw [returned, pending], ⟨resume, Prod.mk.inj fields⟩,
    pump_memory_safe (.step reached (writing 33147 (Nat.le_refl _)))⟩

end Pump
end SianoUserland.PumpMemory
