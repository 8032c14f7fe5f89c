import SianoUserland.Errno

/-! `output-writer.c`: the resumable transport-stream writer. A pump holds the
valid part of its two buffers as lists, so `hold_len` and `scratch_len` are their
lengths. Bytes have an arbitrary type with a value, since the pump looks at
nothing but the sync byte: a run over labelled bytes is the same run with the
origin of every byte attached. -/
namespace SianoUserland

/-- `struct siano_output_pump`, without the descriptor it writes to. -/
structure OutputPump (β : Type) where
  hold : List β := []
  scratch : List β := []
  sendOff : Nat := 0
  packetOff : Nat := 0
  /-- Prefix already emitted before the current packet remainder in scratch. -/
  packetResumeOff : Nat := 0
  writing : Bool := false
  busy : Bool := false
  /-- A packet sink was given, `siano_output_pump_init_sink`. -/
  packetSink : Bool := false
  deriving Repr, DecidableEq

/-- `SIANO_OUTPUT_DONE`: all requested bytes were written. -/
abbrev outputDone : Int := 0
/-- `SIANO_OUTPUT_PENDING`: the descriptor is not ready for more. -/
abbrev outputPending : Int := 1

/-- `siano_output_result`: the result code and `*written` for a write of
`length` bytes that answered `count`, a byte count or a negative errno. -/
def outputResult (length : Nat) (count : Int) : Int × Nat :=
  if count < 0 then
    (if count = -Errno.again ∨ count = -Errno.intr then outputPending else count, 0)
  else if count = 0 ∨ count < length then (outputPending, count.toNat)
  else (outputDone, count.toNat)

/-- `siano_output_write`. -/
def outputWrite (length : Nat) (count : Int) : Int × Nat :=
  if length = 0 then (outputDone, 0) else outputResult length count

namespace OutputPump

/-- `siano_output_pump_init`. -/
def init : OutputPump β := {}

/-- `siano_output_pump_init_sink`. -/
def initSink : OutputPump β := { packetSink := true }

/-- `siano_output_pump_reset`. -/
def reset (pump : OutputPump β) : OutputPump β :=
  { pump with
    hold := [], scratch := [], sendOff := 0, packetOff := 0, packetResumeOff := 0,
    writing := false, busy := false }

/-- `siano_output_pump_retune`: everything is dropped except the remainder of a
packet whose beginning has already been written. -/
def retune (pump : OutputPump β) : OutputPump β :=
  if pump.writing = false ∨ pump.packetOff = 0 ∨ 188 ≤ pump.packetOff ∨
      pump.packetOff < pump.packetResumeOff then pump.reset
  else
    let remaining := 188 - pump.packetOff
    let dataOffset := pump.packetOff - pump.packetResumeOff
    { pump with
      hold := [], scratch := (pump.scratch.drop (pump.sendOff + dataOffset)).take remaining,
      sendOff := 0, packetResumeOff := pump.packetOff, writing := true, busy := true }

/-- `siano_output_pump_pending`. -/
def pending (pump : OutputPump β) : Nat :=
  if pump.busy ∧ pump.packetResumeOff ≠ 0 then
    pump.scratch.length - pump.sendOff - (pump.packetOff - pump.packetResumeOff)
  else if pump.busy then pump.scratch.length - pump.sendOff
  else pump.hold.length

/-- `siano_output_pump_feed`. -/
def feed (pump : OutputPump β) (data : List β) : OutputPump β :=
  { pump with
    scratch := pump.hold ++ data, hold := [], sendOff := 0, packetOff := 0,
    packetResumeOff := 0, writing := false, busy := true }

/-- The test of the resync scan: a sync byte, confirmed by the next one when
two whole packets are there to look at. -/
def inSync (byte : β → UInt8) (rest : List β) : Bool :=
  rest[0]?.map byte == some 0x47 &&
    (rest.length < 376 || rest[188]?.map byte == some 0x47)

/-- The resync scan: how many bytes it passes over. -/
def skip (byte : β → UInt8) : List β → Nat
  | [] => 0
  | first :: rest =>
    if 188 ≤ (first :: rest).length ∧ inSync byte (first :: rest) = false then
      skip byte rest + 1
    else 0

/-- The pass of the loop that is not in the middle of a packet: resync, then
begin the packet found, or put the rest aside for the next chunk. -/
def seek (byte : β → UInt8) (pump : OutputPump β) : OutputPump β :=
  let sendOff := pump.sendOff + skip byte (pump.scratch.drop pump.sendOff)
  if 188 ≤ pump.scratch.length - sendOff then
    { pump with sendOff := sendOff, writing := true, packetOff := 0 }
  else
    { pump with
      hold := pump.scratch.drop sendOff, scratch := [], sendOff := 0, busy := false }

/-- The bytes of the current packet that are not written yet. -/
def unsent (pump : OutputPump β) : List β :=
  (pump.scratch.drop (pump.sendOff + (pump.packetOff - pump.packetResumeOff))).take
    (188 - pump.packetOff)

/-- What a call, or one pass of it, did: the result if it returned, the pump, the
bytes the descriptor took and the packets offered to the sink with its answers. -/
structure Outcome (β : Type) where
  rc : Option Int
  pump : OutputPump β
  written : List β := []
  offered : List (List β × Int) := []
  deriving Repr, DecidableEq

/-- The pass of the loop that hands over a packet; `answer` is what the write or
the sink returns. -/
def send (pump : OutputPump β) (answer : Int) : Outcome β :=
  if pump.packetSink then
    let packet := (pump.scratch.drop pump.sendOff).take 188
    if answer ≠ 0 then
      { rc := some (if answer < 0 then answer else -Errno.io), pump := pump,
        offered := [(packet, answer)] }
    else
      { rc := none, offered := [(packet, answer)],
        pump := { pump with sendOff := pump.sendOff + 188, packetOff := 0, writing := false } }
  else
    let (rc, written) := outputWrite (188 - pump.packetOff) answer
    if rc < 0 then { rc := some rc, pump := pump }
    else
      let bytes := pump.unsent.take written
      let packetOff := pump.packetOff + written
      if rc = outputPending then
        { rc := some outputPending, pump := { pump with packetOff := packetOff }, written := bytes }
      else if pump.packetResumeOff ≠ 0 then
        { rc := some outputDone, written := bytes,
          pump := { pump with
            scratch := [], sendOff := 0, packetOff := 0, packetResumeOff := 0,
            writing := false, busy := false } }
      else
        { rc := none, written := bytes,
          pump := { pump with sendOff := pump.sendOff + 188, packetOff := 0, writing := false } }

/-- The pump once the loop has decided whether there is a packet to hand over. -/
def prepare (byte : β → UInt8) (pump : OutputPump β) : OutputPump β :=
  if pump.busy ∧ pump.writing = false then pump.seek byte else pump

/-- `siano_output_pump_step`: `answers` are the results of the writes (or sink
calls) the call makes, in order; past the listed ones the answer is `-EAGAIN`. -/
def step (byte : β → UInt8) (pump : OutputPump β) : List Int → Outcome β
  | [] =>
    let ready := pump.prepare byte
    if ready.busy then ready.send (-Errno.again) else { rc := some outputDone, pump := ready }
  | answer :: rest =>
    let ready := pump.prepare byte
    if ready.busy then
      let sent := ready.send answer
      match sent.rc with
      | some _ => sent
      | none =>
        let later := sent.pump.step byte rest
        { later with
          written := sent.written ++ later.written, offered := sent.offered ++ later.offered }
    else { rc := some outputDone, pump := ready }

variable {byte : β → UInt8} {pump : OutputPump β}

theorem skip_le (byte : β → UInt8) (rest : List β) : skip byte rest ≤ rest.length := by
  induction rest with
  | nil => simp [skip]
  | cons first rest ih =>
    unfold skip
    split
    · simpa using ih
    · exact Nat.zero_le _

/-- The scan only stops in front of a packet, or where no packet fits. -/
theorem skip_stops (byte : β → UInt8) (rest : List β) (fits : 188 ≤ rest.length - skip byte rest) :
    inSync byte (rest.drop (skip byte rest)) = true := by
  induction rest with
  | nil => simp [skip] at fits
  | cons first rest ih =>
    unfold skip at fits ⊢
    split
    · rename_i passed
      rw [if_pos passed] at fits
      simp only [List.length_cons, Nat.add_sub_add_right] at fits
      simpa using ih fits
    · rename_i stopped
      rw [if_neg stopped] at fits
      simpa using fun unsynced => stopped ⟨fits, unsynced⟩

theorem inSync_head (synced : inSync byte rest = true) : rest[0]?.map byte = some 0x47 := by
  simp only [inSync, Bool.and_eq_true, beq_iff_eq] at synced
  exact synced.1

/-- Seeking either stands in front of a synchronised packet that is wholly in
scratch, or has moved the rest, too short for a packet, to hold. -/
theorem seek_cases (byte : β → UInt8) (within : pump.sendOff ≤ pump.scratch.length) :
    ∃ sendOff, pump.sendOff ≤ sendOff ∧ sendOff ≤ pump.scratch.length ∧
      ((sendOff + 188 ≤ pump.scratch.length ∧
          pump.scratch[sendOff]?.map byte = some 0x47 ∧
          pump.seek byte = { pump with sendOff := sendOff, writing := true, packetOff := 0 }) ∨
        (pump.scratch.length < sendOff + 188 ∧
          pump.seek byte = { pump with
            hold := pump.scratch.drop sendOff, scratch := [], sendOff := 0, busy := false })) := by
  have bound := skip_le byte (pump.scratch.drop pump.sendOff)
  rw [List.length_drop] at bound
  refine ⟨pump.sendOff + skip byte (pump.scratch.drop pump.sendOff), by omega, by omega, ?_⟩
  by_cases fits : 188 ≤ pump.scratch.length -
      (pump.sendOff + skip byte (pump.scratch.drop pump.sendOff))
  · have synced := inSync_head (skip_stops byte (pump.scratch.drop pump.sendOff)
      (by rw [List.length_drop]; omega))
    exact Or.inl ⟨by omega, by simpa using synced, by simp [seek, fits]⟩
  · exact Or.inr ⟨by omega, by simp [seek, fits]⟩

theorem unsent_length_le (pump : OutputPump β) : pump.unsent.length ≤ 188 - pump.packetOff := by
  rw [unsent, List.length_take]
  exact Nat.min_le_left ..

/-- Handing a packet to the descriptor either stops part of the way, or completes
a packet left over by a retune, or completes a packet of scratch. -/
theorem send_cases (descriptor : pump.packetSink = false) (unfinished : pump.packetOff < 188)
    (answer : Int) :
    (∃ rc count, count < 188 - pump.packetOff ∧
      pump.send answer =
        { rc := some rc, written := pump.unsent.take count,
          pump := { pump with packetOff := pump.packetOff + count } }) ∨
    (pump.packetResumeOff ≠ 0 ∧
      pump.send answer =
        { rc := some outputDone, written := pump.unsent,
          pump := { pump with
            scratch := [], sendOff := 0, packetOff := 0, packetResumeOff := 0,
            writing := false, busy := false } }) ∨
    (pump.packetResumeOff = 0 ∧
      pump.send answer =
        { rc := none, written := pump.unsent,
          pump := { pump with
            sendOff := pump.sendOff + 188, packetOff := 0, writing := false } }) := by
  have all : ∀ count, 188 - pump.packetOff ≤ count → pump.unsent.take count = pump.unsent :=
    fun count enough => List.take_of_length_le (Nat.le_trans (unsent_length_le pump) enough)
  have request : 188 - pump.packetOff ≠ 0 := by omega
  obtain ⟨hold, scratch, sendOff, packetOff, resumeOff, writing, busy, packetSink⟩ := pump
  simp only at descriptor request
  subst descriptor
  by_cases failed : answer < 0
  · refine Or.inl ⟨(outputResult (188 - packetOff) answer).1, 0, by simp only; omega, ?_⟩
    by_cases retry : answer = -Errno.again ∨ answer = -Errno.intr
    · simp [send, outputWrite, request, outputResult, failed, retry, outputPending]
    · simp [send, outputWrite, request, outputResult, failed, retry]
  by_cases short : answer = 0 ∨ answer < ((188 - packetOff : Nat) : Int)
  · refine Or.inl ⟨outputPending, answer.toNat, by simp only; omega, ?_⟩
    simp [send, outputWrite, request, outputResult, failed, short, outputPending]
  have taken := all answer.toNat (by simp only; omega)
  by_cases resumed : resumeOff = 0
  · subst resumed
    refine Or.inr (Or.inr ⟨rfl, ?_⟩)
    simp [send, outputWrite, request, outputResult, failed, short, taken, outputDone,
      outputPending]
  · refine Or.inr (Or.inl ⟨resumed, ?_⟩)
    simp [send, outputWrite, request, outputResult, failed, short, taken, resumed, outputDone,
      outputPending]

/-! No call changes the mode of a pump. -/

@[simp] theorem feed_packetSink (data : List β) :
    (pump.feed data).packetSink = pump.packetSink := rfl

@[simp] theorem retune_packetSink : pump.retune.packetSink = pump.packetSink := by
  unfold retune
  split <;> rfl

@[simp] theorem prepare_packetSink : (pump.prepare byte).packetSink = pump.packetSink := by
  unfold prepare seek
  split
  · simp only
    split <;> rfl
  · rfl

@[simp] theorem send_packetSink (answer : Int) :
    (pump.send answer).pump.packetSink = pump.packetSink := by
  unfold send
  split
  · simp only
    split <;> rfl
  · simp only
    split
    · rfl
    split
    · rfl
    split <;> rfl

/-- A pump that is still busy after preparing stands in front of a packet. -/
theorem prepare_writing (busy : (pump.prepare byte).busy = true) :
    (pump.prepare byte).writing = true := by
  unfold prepare at busy ⊢
  by_cases scanning : pump.busy = true ∧ pump.writing = false
  · rw [if_pos scanning] at busy ⊢
    by_cases fits : 188 ≤ pump.scratch.length -
        (pump.sendOff + skip byte (pump.scratch.drop pump.sendOff))
    · simp [seek, fits]
    · simp [seek, fits] at busy
  · rw [if_neg scanning] at busy ⊢
    simpa [busy] using scanning

/-- The rule for a whole call. A property of the pump, of the bytes written and of
the packets offered that survives preparing and survives one handover, whatever
its answer, survives the call. -/
theorem step_rule (byte : β → UInt8) (Inv : OutputPump β → List β → List (List β × Int) → Prop)
    (prepares : ∀ pump written offered, Inv pump written offered →
      Inv (pump.prepare byte) written offered)
    (sends : ∀ pump written offered answer, Inv pump written offered → pump.busy = true →
      pump.writing = true → Inv (pump.send answer).pump (written ++ (pump.send answer).written)
        (offered ++ (pump.send answer).offered))
    (answers : List Int) (written : List β) (offered : List (List β × Int))
    (start : Inv pump written offered) :
    Inv (pump.step byte answers).pump (written ++ (pump.step byte answers).written)
      (offered ++ (pump.step byte answers).offered) := by
  induction answers generalizing pump written offered with
  | nil =>
    have ready := prepares _ _ _ start
    by_cases busy : (pump.prepare byte).busy = true
    · simpa [step, busy] using sends _ _ _ (-Errno.again) ready busy (prepare_writing busy)
    · simpa [step, busy] using ready
  | cons answer rest ih =>
    have ready := prepares _ _ _ start
    by_cases busy : (pump.prepare byte).busy = true
    · have sent := sends _ _ _ answer ready busy (prepare_writing busy)
      simp only [step, busy, ↓reduceIte]
      split
      · exact sent
      · simpa only [List.append_assoc] using ih _ _ sent
    · simpa [step, busy] using ready

@[simp] theorem step_packetSink (answers : List Int) :
    (pump.step byte answers).pump.packetSink = pump.packetSink := by
  apply step_rule byte (fun other _ _ => other.packetSink = pump.packetSink) _ _ answers [] [] rfl
  · intro other _ _ same
    simpa using same
  · intro other _ _ answer same _ _
    simpa using same

/-- A sink that takes every packet lets the call return: `fuel` answers are enough
for the bytes that are left. -/
theorem step_accepting (fuel : Nat) (sink : pump.packetSink = true) (idle : pump.writing = false)
    (within : pump.sendOff ≤ pump.scratch.length)
    (enough : pump.scratch.length < pump.sendOff + 188 * (fuel + 1)) :
    (pump.step byte (List.replicate fuel 0)).rc = some outputDone := by
  induction fuel generalizing pump with
  | zero =>
    have settled : (pump.prepare byte).busy = false := by
      unfold prepare
      split
      · obtain ⟨sendOff, _, _, ⟨fits, _⟩ | ⟨_, sought⟩⟩ := seek_cases byte within
        · omega
        · rw [sought]
      · rename_i parked
        simpa [idle] using parked
    simp [step, settled]
  | succ fuel ih =>
    rw [List.replicate_succ]
    by_cases busy : (pump.prepare byte).busy = true
    · have scanning : pump.busy = true ∧ pump.writing = false := by
        refine ⟨?_, idle⟩
        unfold prepare at busy
        split at busy
        · rename_i scanning
          exact scanning.1
        · exact busy
      obtain ⟨sendOff, later, _, ⟨fits, _, sought⟩ | ⟨_, sought⟩⟩ := seek_cases byte within
      · have ready : pump.prepare byte =
            { pump with sendOff := sendOff, writing := true, packetOff := 0 } := by
          rw [prepare, if_pos scanning, sought]
        have passed : (step byte
            { pump with sendOff := sendOff + 188, packetOff := 0, writing := false }
            (List.replicate fuel 0)).rc = some outputDone :=
          ih sink rfl fits (by simp only; omega)
        simpa [step, ready, scanning.1, send, sink] using passed
      · rw [prepare, if_pos scanning, sought] at busy
        cases busy
    · simp [step, busy]

end OutputPump
end SianoUserland
