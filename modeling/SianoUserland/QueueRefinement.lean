import SianoUserland.Lib.Simulation
import SianoUserland.TsQueue

/-! The ring of `siano-device.c` is a bounded queue with exact accounting. The
abstract queue is a list of chunks with a ledger of everything it ever took in;
the ring answers every sequence of operations exactly as that queue does. -/
namespace SianoUserland.QueueRefinement
open Simulation

variable {σ : Type}

/-- What the queue is for: the chunks waiting, at most 256, with the gates and a
ledger. Nothing here knows about slots and indices. -/
structure Fifo (σ : Type) where
  gates : Gates
  items : List (TsChunk σ) := []
  /-- Every chunk ever appended, in order. -/
  accepted : List (TsChunk σ) := []
  popped : Nat := 0
  /-- How many chunks were dropped by emptying the queue. -/
  cleared : Nat := 0

namespace Fifo

/-- Emptying the queue. -/
def clear (fifo : Fifo σ) : Fifo σ :=
  { fifo with items := [], cleared := fifo.cleared + fifo.items.length }

/-- A chunk that passes the gates is appended; a full queue counts it as a drop
instead, and fails when it was told to. -/
def offer (fifo : Fifo σ) (epoch generation : UInt64) (chunk : TsChunk σ) : Fifo σ :=
  let kept : TsChunk σ := { chunk with data := chunk.data.take 16384 }
  if fifo.gates.accepts epoch generation then
    if fifo.items.length = 256 then
      { fifo with gates := { fifo.gates with
          drops := fifo.gates.drops + 1
          closed := fifo.gates.closed || fifo.gates.failOnDrop
          overflowed := fifo.gates.overflowed || fifo.gates.failOnDrop } }
    else { fifo with items := fifo.items ++ [kept], accepted := fifo.accepted ++ [kept] }
  else fifo

/-- The first chunk leaves, if there is one. -/
def take (fifo : Fifo σ) : Except Int (TsChunk σ) × Fifo σ :=
  match fifo.items with
  | [] => (.error (-Errno.again), fifo)
  | first :: rest => (.ok first, { fifo with items := rest, popped := fifo.popped + 1 })

def pop (fifo : Fifo σ) : Except Int (TsChunk σ) × Fifo σ :=
  if fifo.gates.overflowed then (.error (-Errno.nobufs), fifo) else fifo.take

def popCapture (fifo : Fifo σ) (generation : UInt64) : Except Int (TsChunk σ) × Fifo σ :=
  if fifo.gates.overflowed then (.error (-Errno.nobufs), fifo)
  else if fifo.gates.captureEnabled ∧ fifo.gates.captureGeneration = generation then fifo.take
  else (.error (-Errno.canceled), fifo)

def retuneFinish (fifo : Fifo σ) (tuneResult : Int) : Bool × Fifo σ :=
  let kept := if tuneResult = 0 then fifo.clear else fifo
  (tuneResult = 0, { kept with gates := kept.gates.retuneFinish })

def captureStart (fifo : Fifo σ) : Except Int UInt64 × Fifo σ :=
  if fifo.gates.closed ∨ fifo.gates.overflowed then (.error (-Errno.shutdown), fifo)
  else if fifo.gates.captureEnabled then (.error (-Errno.already), fifo)
  else if fifo.gates.captureGeneration = uint64Max then (.error (-Errno.overflow), fifo)
  else
    let generation := fifo.gates.captureGeneration + 1
    (.ok generation, { fifo.clear with
      gates := { fifo.gates with captureGeneration := generation, captureEnabled := true } })

def captureStop (fifo : Fifo σ) : Fifo σ :=
  if fifo.gates.captureEnabled then
    { fifo.clear with gates := { fifo.gates with
        captureEnabled := false
        captureGeneration := if fifo.gates.captureGeneration = uint64Max then uint64Max
          else fifo.gates.captureGeneration + 1 } }
  else fifo

end Fifo

/-- The operations that share the queue. -/
inductive Operation (σ : Type) where
  | enqueueGeneration (epoch generation : UInt64) (chunk : TsChunk σ)
  | pop
  | popCapture (generation : UInt64)
  | retuneBegin
  | retuneFinish (tuneResult : Int)
  | captureStart
  | captureStop
  | close
  | setFailOnDrop (enabled : Bool)

/-- What an operation tells its caller. -/
inductive Reply (σ : Type) where
  | none
  | chunk (result : Except Int (TsChunk σ))
  | finished (succeeded : Bool)
  | started (result : Except Int UInt64)

/-- One operation on the ring. -/
def perform (queue : TsQueue σ) : Operation σ → Reply σ × TsQueue σ
  | .enqueueGeneration epoch generation chunk =>
    (.none, queue.enqueueGeneration epoch generation chunk)
  | .pop => let (result, after) := queue.pop; (.chunk result, after)
  | .popCapture generation =>
    let (result, after) := queue.popCapture generation; (.chunk result, after)
  | .retuneBegin => (.none, queue.retuneBegin)
  | .retuneFinish tuneResult =>
    let (succeeded, after) := queue.retuneFinish tuneResult; (.finished succeeded, after)
  | .captureStart => let (result, after) := queue.captureStart; (.started result, after)
  | .captureStop => (.none, queue.captureStop)
  | .close => (.none, queue.close)
  | .setFailOnDrop enabled => (.none, queue.setFailOnDrop enabled)

/-- The same operation on the abstract queue. -/
def Fifo.perform (fifo : Fifo σ) : Operation σ → Reply σ × Fifo σ
  | .enqueueGeneration epoch generation chunk => (.none, fifo.offer epoch generation chunk)
  | .pop => let (result, after) := fifo.pop; (.chunk result, after)
  | .popCapture generation =>
    let (result, after) := fifo.popCapture generation; (.chunk result, after)
  | .retuneBegin => (.none, { fifo with gates := fifo.gates.retuneBegin })
  | .retuneFinish tuneResult =>
    let (succeeded, after) := fifo.retuneFinish tuneResult; (.finished succeeded, after)
  | .captureStart => let (result, after) := fifo.captureStart; (.started result, after)
  | .captureStop => (.none, fifo.captureStop)
  | .close => (.none, { fifo with gates := { fifo.gates with closed := true } })
  | .setFailOnDrop enabled =>
    (.none, { fifo with gates := { fifo.gates with failOnDrop := enabled } })

/-- The ring stands for the abstract queue. -/
structure Refines (queue : TsQueue σ) (fifo : Fifo σ) : Prop where
  indexed : queue.Indexed
  items : queue.contents = fifo.items
  gates : queue.toGates = fifo.gates

/-- The ledger balances: what waits is what was accepted and has neither been
popped nor cleared, in the order of acceptance. -/
structure Balanced (fifo : Fifo σ) : Prop where
  waiting : fifo.items = fifo.accepted.drop (fifo.popped + fifo.cleared)
  total : fifo.accepted.length = fifo.popped + fifo.cleared + fifo.items.length

variable {queue : TsQueue σ} {fifo : Fifo σ}

/-- Changing the gates alike on both sides moves no chunk. -/
theorem refines_gates (related : Refines queue fifo) (gates : Gates) :
    Refines { queue with toGates := gates } { fifo with gates := gates } :=
  ⟨related.indexed, related.items, rfl⟩

/-- Setting all three indices to zero empties the queue from any position. -/
theorem refines_clear (related : Refines queue fifo) : Refines queue.clear fifo.clear :=
  ⟨TsQueue.indexed_zero, rfl, related.gates⟩

theorem count_eq_length (related : Refines queue fifo) : queue.count = fifo.items.length := by
  rw [← related.items, TsQueue.contents, Ring.length_contents]

private theorem noteDrop_eq (gates : Gates) :
    gates.noteDrop = { gates with
      closed := gates.closed || gates.failOnDrop
      overflowed := gates.overflowed || gates.failOnDrop } := by
  obtain ⟨drops, closed, failOnDrop, overflowed⟩ := gates
  cases failOnDrop <;> simp [Gates.noteDrop]

theorem refines_enqueue (related : Refines queue fifo) (epoch generation : UInt64)
    (chunk : TsChunk σ) :
    Refines (queue.enqueueGeneration epoch generation chunk)
      (fifo.offer epoch generation chunk) := by
  unfold TsQueue.enqueueGeneration Fifo.offer
  rw [← related.gates, ← count_eq_length related]
  cases passes : queue.accepts epoch generation with
  | false => simpa using related
  | true =>
    by_cases full : queue.count = 256
    · simp only [full, noteDrop_eq, Bool.true_eq_false, ↓reduceIte]
      exact ⟨full ▸ related.indexed, full ▸ related.items, rfl⟩
    · have space : queue.count < 256 := Nat.lt_of_le_of_ne related.indexed.count_le full
      have pushed := Ring.contents_push queue.chunks related.indexed space
        { chunk with data := chunk.data.take 16384 }
      simp only [full, Bool.true_eq_false, ↓reduceIte]
      refine ⟨Ring.indexed_push related.indexed space, pushed.trans ?_, rfl⟩
      exact congrArg (· ++ _) related.items

theorem refines_take (related : Refines queue fifo) :
    queue.take.1 = fifo.take.1 ∧ Refines queue.take.2 fifo.take.2 := by
  have count := count_eq_length related
  have items := related.items
  unfold TsQueue.take Fifo.take
  cases waiting : fifo.items with
  | nil =>
    have empty : queue.count = 0 := by simp [count, waiting]
    simp only [empty, ne_eq, not_true_eq_false, ↓reduceIte, true_and]
    exact related
  | cons first rest =>
    obtain ⟨left, filled⟩ : ∃ left, queue.count = left + 1 :=
      ⟨rest.length, by simp [count, waiting]⟩
    have indexed : Ring.Indexed 256 queue.head queue.tail (left + 1) := filled ▸ related.indexed
    rw [TsQueue.contents, filled, Ring.contents, waiting, List.cons.injEq] at items
    simp only [filled, ne_eq, Nat.add_eq_zero_iff, Nat.one_ne_zero, and_false, not_false_eq_true,
      ↓reduceIte, Nat.add_sub_cancel]
    exact ⟨by rw [items.1], Ring.indexed_pop indexed, items.2, related.gates⟩

theorem refines_pop (related : Refines queue fifo) :
    queue.pop.1 = fifo.pop.1 ∧ Refines queue.pop.2 fifo.pop.2 := by
  unfold TsQueue.pop Fifo.pop
  rw [related.gates]
  cases fifo.gates.overflowed with
  | true => exact ⟨rfl, related⟩
  | false => exact refines_take related

theorem refines_popCapture (related : Refines queue fifo) (generation : UInt64) :
    (queue.popCapture generation).1 = (fifo.popCapture generation).1 ∧
      Refines (queue.popCapture generation).2 (fifo.popCapture generation).2 := by
  unfold TsQueue.popCapture Fifo.popCapture
  rw [related.gates]
  cases fifo.gates.overflowed with
  | true => exact ⟨rfl, related⟩
  | false =>
    by_cases current : fifo.gates.captureEnabled = true ∧ fifo.gates.captureGeneration = generation
    · simpa [current] using refines_take related
    · have other : fifo.gates.captureEnabled = false ∨
          fifo.gates.captureGeneration ≠ generation := by
        simpa [Classical.or_iff_not_imp_left] using current
      simpa [current, other] using related

theorem refines_retuneFinish (related : Refines queue fifo) (tuneResult : Int) :
    (queue.retuneFinish tuneResult).1 = (fifo.retuneFinish tuneResult).1 ∧
      Refines (queue.retuneFinish tuneResult).2 (fifo.retuneFinish tuneResult).2 := by
  refine ⟨rfl, ?_⟩
  unfold TsQueue.retuneFinish Fifo.retuneFinish
  by_cases succeeded : tuneResult = 0
  · simp only [succeeded, ↓reduceIte]
    have cleared := refines_clear related
    rw [cleared.gates]
    exact refines_gates cleared _
  · simp only [succeeded, ↓reduceIte]
    rw [related.gates]
    exact refines_gates related _

theorem refines_captureStart (related : Refines queue fifo) :
    queue.captureStart.1 = fifo.captureStart.1 ∧
      Refines queue.captureStart.2 fifo.captureStart.2 := by
  unfold TsQueue.captureStart Fifo.captureStart
  rw [related.gates]
  split
  · exact ⟨rfl, related⟩
  split
  · exact ⟨rfl, related⟩
  split
  · exact ⟨rfl, related⟩
  · refine ⟨rfl, ?_⟩
    have cleared := refines_clear related
    exact ⟨cleared.indexed, cleared.items, by simp [TsQueue.clear, related.gates]⟩

theorem refines_captureStop (related : Refines queue fifo) :
    Refines queue.captureStop fifo.captureStop := by
  unfold TsQueue.captureStop Fifo.captureStop
  rw [related.gates]
  split
  · have cleared := refines_clear related
    refine ⟨cleared.indexed, cleared.items, ?_⟩
    by_cases last : fifo.gates.captureGeneration = uint64Max
    · simp [TsQueue.clear, related.gates, last]
    · simp [TsQueue.clear, related.gates, last]
  · exact related

/-- Every operation answers alike on related queues and keeps them related. -/
theorem perform_simulates (queue : TsQueue σ) (fifo : Fifo σ) (operation : Operation σ)
    (related : Refines queue fifo) :
    (perform queue operation).1 = (fifo.perform operation).1 ∧
      Refines (perform queue operation).2 (fifo.perform operation).2 := by
  cases operation with
  | enqueueGeneration epoch generation chunk =>
    exact ⟨rfl, refines_enqueue related epoch generation chunk⟩
  | pop =>
    obtain ⟨same, after⟩ := refines_pop related
    exact ⟨congrArg Reply.chunk same, after⟩
  | popCapture generation =>
    obtain ⟨same, after⟩ := refines_popCapture related generation
    exact ⟨congrArg Reply.chunk same, after⟩
  | retuneBegin =>
    have moved := refines_gates related fifo.gates.retuneBegin
    exact ⟨rfl, ⟨moved.indexed, moved.items, by simp [perform, TsQueue.retuneBegin, related.gates,
      Fifo.perform]⟩⟩
  | retuneFinish tuneResult =>
    obtain ⟨same, after⟩ := refines_retuneFinish related tuneResult
    exact ⟨congrArg Reply.finished same, after⟩
  | captureStart =>
    obtain ⟨same, after⟩ := refines_captureStart related
    exact ⟨congrArg Reply.started same, after⟩
  | captureStop => exact ⟨rfl, refines_captureStop related⟩
  | close =>
    exact ⟨rfl, related.indexed, related.items, by simp [perform, TsQueue.close, related.gates,
      Fifo.perform]⟩
  | setFailOnDrop enabled =>
    exact ⟨rfl, related.indexed, related.items, by simp [perform, TsQueue.setFailOnDrop,
      related.gates, Fifo.perform]⟩

/-! ## The ring read through its queue -/

/-- A well-indexed ring stands for the queue of its own contents. -/
theorem refines_self (indexed : queue.Indexed) :
    Refines queue { gates := queue.toGates, items := queue.contents } :=
  ⟨indexed, rfl, rfl⟩

/-- The only chunk an enqueue can add is the one offered, and only past the gates. -/
theorem mem_enqueue (indexed : queue.Indexed)
    (member : waiting ∈ (queue.enqueueGeneration epoch generation chunk).contents) :
    waiting ∈ queue.contents ∨
      (queue.accepts epoch generation = true ∧
        waiting = { chunk with data := chunk.data.take 16384 }) := by
  rw [(refines_enqueue (refines_self indexed) epoch generation chunk).items] at member
  unfold Fifo.offer at member
  split at member
  · rename_i passes
    split at member
    · exact Or.inl member
    · rcases List.mem_append.mp member with old | new
      · exact Or.inl old
      · rw [List.mem_singleton.mp new]
        exact Or.inr ⟨passes, rfl⟩
  · exact Or.inl member

theorem enqueue_indexed (indexed : queue.Indexed) :
    (queue.enqueueGeneration epoch generation chunk).Indexed :=
  (refines_enqueue (refines_self indexed) epoch generation chunk).indexed

/-- A pop that succeeds takes the first chunk and leaves the rest. -/
theorem take_ok (indexed : queue.Indexed) (taken : queue.take = (.ok chunk, after)) :
    queue.contents = chunk :: after.contents ∧ after.Indexed ∧ after.toGates = queue.toGates := by
  obtain ⟨answer, related⟩ := refines_take (refines_self indexed)
  rw [taken] at answer related
  unfold Fifo.take at answer related
  cases waiting : queue.contents with
  | nil => simp [waiting] at answer
  | cons first rest =>
    simp only [waiting, Except.ok.injEq] at answer related
    exact ⟨by rw [answer, related.items], related.indexed, related.gates⟩

theorem take_error (taken : queue.take = (.error rc, after)) :
    rc = -Errno.again ∧ queue.count = 0 ∧ after = queue := by
  unfold TsQueue.take at taken
  split at taken
  · cases taken
  · rename_i empty
    cases taken
    exact ⟨rfl, by omega, rfl⟩

theorem pop_ok (indexed : queue.Indexed) (popped : queue.pop = (.ok chunk, after)) :
    queue.contents = chunk :: after.contents ∧ after.Indexed ∧ after.toGates = queue.toGates := by
  unfold TsQueue.pop at popped
  split at popped
  · cases popped
  · exact take_ok indexed popped

theorem pop_error (popped : queue.pop = (.error rc, after)) : after = queue := by
  unfold TsQueue.pop at popped
  split at popped
  · cases popped
    rfl
  · exact (take_error popped).2.2

/-- A capture pop only succeeds for the generation that is enabled. -/
theorem popCapture_ok (indexed : queue.Indexed)
    (popped : queue.popCapture generation = (.ok chunk, after)) :
    queue.captureEnabled = true ∧ queue.captureGeneration = generation ∧
      queue.contents = chunk :: after.contents ∧ after.Indexed ∧ after.toGates = queue.toGates := by
  unfold TsQueue.popCapture at popped
  split at popped
  · cases popped
  split at popped
  · cases popped
  · rename_i current
    simp only [not_or, Bool.not_eq_false, ne_eq, Decidable.not_not] at current
    exact ⟨current.1, current.2, take_ok indexed popped⟩

theorem popCapture_error (popped : queue.popCapture generation = (.error rc, after)) :
    after = queue := by
  unfold TsQueue.popCapture at popped
  split at popped
  · cases popped
    rfl
  split at popped
  · cases popped
    rfl
  · exact (take_error popped).2.2

/-- A capture start that fails changes nothing. -/
theorem captureStart_error (started : queue.captureStart = (.error rc, changed)) :
    changed = queue := by
  rcases TsQueue.captureStart_cases queue with ⟨_, refused⟩ | ⟨_, _, _, accepted⟩
  · rw [refused] at started
    cases started
    rfl
  · rw [accepted] at started
    cases started

/-- The ledger balances after every operation on the abstract queue. -/
theorem perform_balanced (fifo : Fifo σ) (operation : Operation σ) (balanced : Balanced fifo) :
    Balanced (fifo.perform operation).2 := by
  obtain ⟨waiting, total⟩ := balanced
  have cleared : Balanced fifo.clear := by
    refine ⟨?_, by simp only [Fifo.clear, List.length_nil]; omega⟩
    simp only [Fifo.clear]
    rw [List.drop_eq_nil_of_le (by omega)]
  have taken : Balanced fifo.take.2 := by
    unfold Fifo.take
    cases items : fifo.items with
    | nil => exact ⟨waiting, total⟩
    | cons first rest =>
      rw [items, List.length_cons] at total
      refine ⟨?_, by simp only; omega⟩
      rw [items] at waiting
      have advanced := congrArg (List.drop 1) waiting
      simpa [Nat.add_right_comm] using advanced
  cases operation with
  | enqueueGeneration epoch generation chunk =>
    simp only [Fifo.perform, Fifo.offer]
    split
    · split
      · exact ⟨waiting, total⟩
      · refine ⟨?_, by simp only [List.length_append]; omega⟩
        simp only
        rw [List.drop_append_of_le_length (by omega), ← waiting]
    · exact ⟨waiting, total⟩
  | pop =>
    simp only [Fifo.perform, Fifo.pop]
    split
    · exact ⟨waiting, total⟩
    · exact taken
  | popCapture generation =>
    simp only [Fifo.perform, Fifo.popCapture]
    split
    · exact ⟨waiting, total⟩
    split
    · exact taken
    · exact ⟨waiting, total⟩
  | retuneFinish tuneResult =>
    simp only [Fifo.perform, Fifo.retuneFinish]
    split
    · exact ⟨cleared.waiting, cleared.total⟩
    · exact ⟨waiting, total⟩
  | captureStart =>
    simp only [Fifo.perform, Fifo.captureStart]
    split
    · exact ⟨waiting, total⟩
    split
    · exact ⟨waiting, total⟩
    split
    · exact ⟨waiting, total⟩
    · exact ⟨cleared.waiting, cleared.total⟩
  | captureStop =>
    simp only [Fifo.perform, Fifo.captureStop]
    split
    · exact ⟨cleared.waiting, cleared.total⟩
    · exact ⟨waiting, total⟩
  | retuneBegin => exact ⟨waiting, total⟩
  | close => exact ⟨waiting, total⟩
  | setFailOnDrop enabled => exact ⟨waiting, total⟩

/-- **The ring is a bounded queue.** Whatever is done to it from its initial
state, it answers as the abstract queue answers, its indices stay in range, its
slots hold the chunks that wait there, and the ledger of that queue balances. -/
theorem ts_queue_refines_fifo [Inhabited σ] (captureEnabled : Bool)
    (operations : List (Operation σ)) :
    let ring := exec perform (TsQueue.init (σ := σ) captureEnabled) operations
    let fifo := exec Fifo.perform { gates := { captureEnabled := captureEnabled } } operations
    ring.1 = fifo.1 ∧ Refines ring.2 fifo.2 ∧ Balanced fifo.2 ∧
      fifo.2.accepted.length = fifo.2.popped + fifo.2.cleared + ring.2.count := by
  have start : Refines (TsQueue.init (σ := σ) captureEnabled)
      { gates := { captureEnabled := captureEnabled } } :=
    ⟨TsQueue.indexed_zero, rfl, rfl⟩
  obtain ⟨answers, related⟩ := exec_simulates Refines perform_simulates start operations
  have balanced : Balanced (exec Fifo.perform
      ({ gates := { captureEnabled := captureEnabled } } : Fifo σ) operations).2 :=
    exec_keeps Balanced perform_balanced ⟨rfl, rfl⟩ operations
  exact ⟨answers, related, balanced, by rw [count_eq_length related]; exact balanced.total⟩

end SianoUserland.QueueRefinement
