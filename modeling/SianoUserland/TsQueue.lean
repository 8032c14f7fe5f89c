import SianoUserland.Errno
import SianoUserland.Lib.Ring

/-! `struct ts_queue` of `siano-device.c` and the policies of `queue-policy.c`.
Every operation here is one critical section of the queue mutex. A pop is its
section after the wait: the wait releases the mutex and may time out at any
moment, so other operations run before the decision and any state may meet it. -/
namespace SianoUserland

/-- `UINT64_MAX`. -/
abbrev uint64Max : UInt64 := 0xffffffffffffffff

/-- `struct ts_chunk`. The label is a ghost: it names where the bytes came from,
and its type being arbitrary no operation can look at it. -/
structure TsChunk (σ : Type) where
  source : σ
  data : List UInt8
  deriving Repr, DecidableEq

instance [Inhabited σ] : Inhabited (TsChunk σ) := ⟨⟨default, []⟩⟩

/-- The flags and counters of `struct ts_queue`. -/
structure Gates where
  drops : UInt64 := 0
  closed : Bool := false
  failOnDrop : Bool := false
  overflowed : Bool := false
  discarding : Bool := false
  epoch : UInt64 := 0
  captureEnabled : Bool
  captureGeneration : UInt64 := 0
  deriving Repr, DecidableEq

/-- `struct ts_queue`: the ring of chunks and its gates. -/
structure TsQueue (σ : Type) extends Gates where
  chunks : Nat → TsChunk σ
  head : Nat := 0
  tail : Nat := 0
  count : Nat := 0

namespace Gates

/-- `siano_queue_note_drop`. -/
def noteDrop (gates : Gates) : Gates :=
  if gates.failOnDrop then { gates with closed := true, overflowed := true } else gates

/-- `siano_queue_overflow_result`. -/
def overflowResult (overflowed : Bool) : Int := if overflowed then -Errno.nobufs else 0

/-- `siano_queue_retune_begin`. -/
def retuneBegin (gates : Gates) : Gates :=
  { gates with epoch := gates.epoch + 1, discarding := true }

/-- `siano_queue_epoch_accepts`. -/
def epochAccepts (gates : Gates) (transferEpoch : UInt64) : Bool :=
  !gates.discarding && transferEpoch == gates.epoch

/-- The epoch part of `siano_queue_retune_finish`, done whatever the tune returned. -/
def retuneFinish (gates : Gates) : Gates :=
  { gates with epoch := gates.epoch + 1, discarding := false }

/-- The gates of `ts_enqueue_generation`: a chunk that does not pass them is
ignored without a trace. -/
def accepts (gates : Gates) (transferEpoch captureGeneration : UInt64) : Bool :=
  gates.captureEnabled && gates.captureGeneration == captureGeneration &&
    gates.epochAccepts transferEpoch && !gates.closed

end Gates

namespace TsQueue
variable {σ : Type}

/-- The queue of `init_device_state_capture`. -/
def init [Inhabited σ] (captureEnabled : Bool) : TsQueue σ :=
  { captureEnabled := captureEnabled, chunks := fun _ => default }

/-- The assignments that empty the ring, wherever its indices stood. -/
def clear (queue : TsQueue σ) : TsQueue σ := { queue with head := 0, tail := 0, count := 0 }

/-- `ts_queue_close`. -/
def close (queue : TsQueue σ) : TsQueue σ := { queue with closed := true }

/-- `ts_queue_set_fail_on_drop`. -/
def setFailOnDrop (queue : TsQueue σ) (enabled : Bool) : TsQueue σ :=
  { queue with failOnDrop := enabled }

/-- `ts_queue_retune_begin`. -/
def retuneBegin (queue : TsQueue σ) : TsQueue σ :=
  { queue with toGates := queue.toGates.retuneBegin }

/-- `ts_queue_retune_finish`: whether the tune succeeded, and the queue. The
caller's `hold_len` is cleared with the ring. -/
def retuneFinish (queue : TsQueue σ) (tuneResult : Int) : Bool × TsQueue σ :=
  let succeeded := tuneResult = 0
  let cleared := if succeeded then queue.clear else queue
  (succeeded, { cleared with toGates := cleared.toGates.retuneFinish })

/-- `ts_queue_transfer_state`: what a transfer records before it is submitted. -/
def transferState (queue : TsQueue σ) : UInt64 × UInt64 := (queue.epoch, queue.captureGeneration)

/-- `ts_enqueue_generation`. -/
def enqueueGeneration (queue : TsQueue σ) (transferEpoch captureGeneration : UInt64)
    (chunk : TsChunk σ) : TsQueue σ :=
  if queue.accepts transferEpoch captureGeneration = false then queue
  else if queue.count = 256 then
    { queue with toGates := { queue.toGates with drops := queue.drops + 1 }.noteDrop }
  else
    { queue with
      chunks := Function.update queue.chunks queue.tail { chunk with data := chunk.data.take 16384 }
      tail := (queue.tail + 1) % 256
      count := queue.count + 1 }

/-- The end shared by both pops: the first chunk, if there is one. -/
def take (queue : TsQueue σ) : Except Int (TsChunk σ) × TsQueue σ :=
  if queue.count ≠ 0 then
    (.ok (queue.chunks queue.head),
      { queue with head := (queue.head + 1) % 256, count := queue.count - 1 })
  else (.error (-Errno.again), queue)

/-- `ts_pop`. -/
def pop (queue : TsQueue σ) : Except Int (TsChunk σ) × TsQueue σ :=
  if queue.overflowed then (.error (Gates.overflowResult queue.overflowed), queue)
  else queue.take

/-- `ts_pop_capture`. -/
def popCapture (queue : TsQueue σ) (generation : UInt64) : Except Int (TsChunk σ) × TsQueue σ :=
  if queue.overflowed then (.error (Gates.overflowResult queue.overflowed), queue)
  else if queue.captureEnabled = false ∨ queue.captureGeneration ≠ generation then
    (.error (-Errno.canceled), queue)
  else queue.take

/-- `ts_queue_capture_start`. -/
def captureStart (queue : TsQueue σ) : Except Int UInt64 × TsQueue σ :=
  if queue.closed ∨ queue.overflowed then (.error (-Errno.shutdown), queue)
  else if queue.captureEnabled then (.error (-Errno.already), queue)
  else if queue.captureGeneration = uint64Max then (.error (-Errno.overflow), queue)
  else
    let generation := queue.captureGeneration + 1
    (.ok generation,
      { queue.clear with captureGeneration := generation, captureEnabled := true })

/-- `ts_queue_capture_stop`. -/
def captureStop (queue : TsQueue σ) : TsQueue σ :=
  if queue.captureEnabled then
    { queue.clear with
      captureEnabled := false
      captureGeneration :=
        if queue.captureGeneration ≠ uint64Max then queue.captureGeneration + 1
        else queue.captureGeneration }
  else queue

theorem retuneFinish_succeeded (queue : TsQueue σ) : queue.retuneFinish 0 =
    (true, { queue.clear with toGates := queue.toGates.retuneFinish }) := rfl

theorem retuneFinish_failed (queue : TsQueue σ) (failed : tuneResult ≠ 0) :
    queue.retuneFinish tuneResult =
      (false, { queue with toGates := queue.toGates.retuneFinish }) := by
  simp [retuneFinish, failed]

/-- A capture start is refused and changes nothing, or it opens a new generation. -/
theorem captureStart_cases (queue : TsQueue σ) :
    (∃ rc, queue.captureStart = (.error rc, queue)) ∨
    (¬ (queue.closed ∨ queue.overflowed) ∧ queue.captureEnabled = false ∧
      queue.captureGeneration ≠ uint64Max ∧
      queue.captureStart = (.ok (queue.captureGeneration + 1),
        { queue.clear with
          captureGeneration := queue.captureGeneration + 1
          captureEnabled := true })) := by
  by_cases ended : queue.closed ∨ queue.overflowed
  · exact Or.inl ⟨_, if_pos ended⟩
  by_cases enabled : queue.captureEnabled = true
  · exact Or.inl ⟨_, (if_neg ended).trans (if_pos enabled)⟩
  by_cases saturated : queue.captureGeneration = uint64Max
  · exact Or.inl ⟨_, (if_neg ended).trans ((if_neg enabled).trans (if_pos saturated))⟩
  · exact Or.inr ⟨ended, by simpa using enabled, saturated,
      (if_neg ended).trans ((if_neg enabled).trans (if_neg saturated))⟩

/-- The chunks in the ring, the next one to be popped first. -/
def contents (queue : TsQueue σ) : List (TsChunk σ) :=
  Ring.contents 256 queue.chunks queue.head queue.count

/-- The indices of the ring are in range and agree with its count. -/
def Indexed (queue : TsQueue σ) : Prop := Ring.Indexed 256 queue.head queue.tail queue.count

/-- The indices of an empty ring that starts at its first slot. -/
theorem indexed_zero : Ring.Indexed 256 0 0 0 := Ring.indexed_empty (by decide)

end TsQueue
end SianoUserland
