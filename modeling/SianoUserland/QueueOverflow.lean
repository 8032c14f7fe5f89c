import SianoUserland.QueueRefinement

/-! `--fail-on-drop`: a queue told from the start to fail on its first drop. Its
consumer sees the beginning of what passed the gates and then an error, never
what came after a hole. -/
namespace SianoUserland.QueueOverflow
open Simulation QueueRefinement

variable {σ : Type} {queue : TsQueue σ}

/-- The operations of a session that is neither retuned nor restarted. A capture
may start in it, but none is stopped, and nothing takes back `--fail-on-drop`. -/
def Steady : Operation σ → Prop
  | .enqueueGeneration .. | .pop | .popCapture _ | .captureStart | .close => True
  | .setFailOnDrop enabled => enabled = true
  | .retuneBegin | .retuneFinish _ | .captureStop => False

/-- The chunk an operation brings past the gates, as the queue would keep it. -/
def passing (queue : TsQueue σ) : Operation σ → List (TsChunk σ)
  | .enqueueGeneration epoch generation chunk =>
    if queue.accepts epoch generation then [{ chunk with data := chunk.data.take 16384 }] else []
  | _ => []

/-- The chunks that pass the gates while `operations` are performed. -/
def passed (queue : TsQueue σ) : List (Operation σ) → List (TsChunk σ)
  | [] => []
  | operation :: rest => passing queue operation ++ passed (perform queue operation).2 rest

/-- The chunk a reply hands to the consumer. -/
def handed : Reply σ → List (TsChunk σ)
  | .chunk (.ok chunk) => [chunk]
  | _ => []

/-- The chunks a list of replies handed to the consumer. -/
def delivered (replies : List (Reply σ)) : List (TsChunk σ) := replies.flatMap handed

/-- The queue has dropped once and given up. -/
structure Halted (queue : TsQueue σ) : Prop where
  drops : queue.drops = 1
  overflowed : queue.overflowed = true
  closed : queue.closed = true

/-! ## After the first drop -/

theorem enqueue_halted (halted : Halted queue) (epoch generation : UInt64) (chunk : TsChunk σ) :
    queue.enqueueGeneration epoch generation chunk = queue := by
  simp [TsQueue.enqueueGeneration, Gates.accepts, halted.closed]

theorem pop_halted (halted : Halted queue) : queue.pop = (.error (-Errno.nobufs), queue) := by
  simp [TsQueue.pop, halted.overflowed, Gates.overflowResult]

theorem popCapture_halted (halted : Halted queue) (generation : UInt64) :
    queue.popCapture generation = (.error (-Errno.nobufs), queue) := by
  simp [TsQueue.popCapture, halted.overflowed, Gates.overflowResult]

theorem captureStart_halted (halted : Halted queue) :
    queue.captureStart = (.error (-Errno.shutdown), queue) := by
  simp [TsQueue.captureStart, halted.closed]

/-- No operation brings a halted queue back, a retune or a new capture included. -/
theorem perform_halted (queue : TsQueue σ) (operation : Operation σ) (halted : Halted queue) :
    Halted (perform queue operation).2 := by
  cases operation with
  | enqueueGeneration epoch generation chunk =>
    simpa [perform, enqueue_halted halted] using halted
  | pop => simpa [perform, pop_halted halted] using halted
  | popCapture generation => simpa [perform, popCapture_halted halted] using halted
  | captureStart => simpa [perform, captureStart_halted halted] using halted
  | retuneBegin => exact ⟨halted.drops, halted.overflowed, halted.closed⟩
  | retuneFinish tuneResult =>
    simp only [perform, TsQueue.retuneFinish]
    split
    · exact ⟨halted.drops, halted.overflowed, halted.closed⟩
    · exact ⟨halted.drops, halted.overflowed, halted.closed⟩
  | captureStop =>
    simp only [perform, TsQueue.captureStop]
    split
    · exact ⟨halted.drops, halted.overflowed, halted.closed⟩
    · exact halted
  | close => exact ⟨halted.drops, halted.overflowed, rfl⟩
  | setFailOnDrop enabled => exact ⟨halted.drops, halted.overflowed, halted.closed⟩

theorem handed_halted (operation : Operation σ) (halted : Halted queue) :
    handed (perform queue operation).1 = [] := by
  cases operation with
  | pop => simp [perform, pop_halted halted, handed]
  | popCapture generation => simp [perform, popCapture_halted halted, handed]
  | _ => rfl

/-! ## Up to the first drop -/

/-- Everything that passed the gates was delivered or is waiting, in that order,
except what a halted queue refused at its end. -/
structure Accounted (queue : TsQueue σ) (before after : List (TsChunk σ)) : Prop where
  indexed : queue.Indexed
  failing : queue.failOnDrop = true
  /-- Nothing waits before the capture starts, so starting it loses nothing. -/
  idle : queue.captureEnabled = false → queue.contents = []
  account : (queue.drops = 0 ∧ queue.overflowed = false ∧ after = before ++ queue.contents) ∨
    (Halted queue ∧ before ++ queue.contents <+: after)

variable {before after : List (TsChunk σ)}

theorem accounted_begins (accounted : Accounted queue before after) : before <+: after := by
  rcases accounted.account with ⟨-, -, exactly⟩ | ⟨-, beginning⟩
  · exact ⟨queue.contents, exactly.symm⟩
  · exact (List.prefix_append before queue.contents).trans beginning

/-- Gates that leave the accounting alone. -/
theorem accounted_gates (accounted : Accounted queue before after) (gates : Gates)
    (failing : gates.failOnDrop = true) (enabled : gates.captureEnabled = queue.captureEnabled)
    (drops : gates.drops = queue.drops) (overflowed : gates.overflowed = queue.overflowed)
    (closed : queue.closed = true → gates.closed = true) :
    Accounted { queue with toGates := gates } before after := by
  refine ⟨accounted.indexed, failing, fun disabled => accounted.idle (enabled ▸ disabled), ?_⟩
  rcases accounted.account with ⟨none, whole, exactly⟩ | ⟨halted, beginning⟩
  · exact Or.inl ⟨drops.trans none, overflowed.trans whole, exactly⟩
  · exact Or.inr ⟨⟨drops.trans halted.drops, overflowed.trans halted.overflowed,
      closed halted.closed⟩, beginning⟩

/-- A chunk that leaves the ring moves from what waits to what was delivered. -/
theorem accounted_taken (accounted : Accounted queue before after)
    (running : queue.overflowed = false) (first : queue.contents = chunk :: rest.contents)
    (indexed : rest.Indexed) (gates : rest.toGates = queue.toGates) :
    Accounted rest (before ++ [chunk]) after := by
  have enabled : queue.captureEnabled = true := by
    cases state : queue.captureEnabled with
    | true => rfl
    | false => simp [accounted.idle state] at first
  refine ⟨indexed, gates ▸ accounted.failing, fun disabled => ?_, ?_⟩
  · rw [gates, enabled] at disabled
    cases disabled
  rcases accounted.account with ⟨none, whole, exactly⟩ | ⟨halted, -⟩
  · refine Or.inl ⟨gates ▸ none, gates ▸ whole, ?_⟩
    rw [exactly, first, List.append_assoc, List.singleton_append]
  · rw [halted.overflowed] at running
    cases running

theorem accounted_take (accounted : Accounted queue before after)
    (running : queue.overflowed = false) :
    Accounted queue.take.2 (before ++ handed (.chunk queue.take.1)) after := by
  match taken : queue.take with
  | (.ok chunk, rest) =>
    obtain ⟨first, indexed, gates⟩ := take_ok accounted.indexed taken
    exact accounted_taken accounted running first indexed gates
  | (.error rc, rest) =>
    obtain ⟨-, -, rfl⟩ := take_error taken
    simpa [handed] using accounted

theorem accounted_pop (accounted : Accounted queue before after) :
    Accounted queue.pop.2 (before ++ handed (.chunk queue.pop.1)) after := by
  unfold TsQueue.pop
  cases state : queue.overflowed with
  | true => simpa [handed] using accounted
  | false => simpa using accounted_take accounted state

theorem accounted_popCapture (accounted : Accounted queue before after) (generation : UInt64) :
    Accounted (queue.popCapture generation).2
      (before ++ handed (.chunk (queue.popCapture generation).1)) after := by
  unfold TsQueue.popCapture
  cases state : queue.overflowed with
  | true => simpa [handed] using accounted
  | false =>
    simp only [Bool.false_eq_true, ↓reduceIte]
    split
    · simpa [handed] using accounted
    · exact accounted_take accounted state

/-- A capture can only start on a ring that nothing was ever put into. -/
theorem accounted_captureStart (accounted : Accounted queue before after) :
    Accounted queue.captureStart.2 before after := by
  rcases TsQueue.captureStart_cases queue with ⟨_, refused⟩ | ⟨opened, disabled, _, accepted⟩
  · rw [refused]
    exact accounted
  · rw [accepted]
    have waiting := accounted.idle disabled
    refine ⟨TsQueue.indexed_zero, accounted.failing, fun _ => rfl, ?_⟩
    rcases accounted.account with ⟨none, whole, exactly⟩ | ⟨halted, -⟩
    · exact Or.inl ⟨none, whole, by rw [exactly, waiting]; rfl⟩
    · exact absurd (Or.inl halted.closed) opened

/-- A chunk that passes the gates is appended, or it is the one that halts the queue. -/
theorem accounted_enqueue (accounted : Accounted queue before after) (epoch generation : UInt64)
    (chunk : TsChunk σ) :
    Accounted (queue.enqueueGeneration epoch generation chunk) before
      (after ++ passing queue (.enqueueGeneration epoch generation chunk)) := by
  have related := refines_enqueue (refines_self accounted.indexed) epoch generation chunk
  have waits : queue.count = queue.contents.length :=
    count_eq_length (refines_self accounted.indexed)
  cases passes : queue.accepts epoch generation with
  | false => simpa [passing, passes, TsQueue.enqueueGeneration] using accounted
  | true =>
    have unlocked : queue.closed = false ∧ queue.captureEnabled = true := by
      simp only [Gates.accepts, Bool.and_eq_true, Bool.not_eq_eq_eq_not, Bool.not_true] at passes
      exact ⟨passes.2, passes.1.1.1⟩
    rcases accounted.account with ⟨none, whole, exactly⟩ | ⟨halted, -⟩
    · have items := related.items
      have gates := related.gates
      simp only [Fifo.offer, passes, ↓reduceIte, ← waits] at items gates
      by_cases full : queue.count = 256
      · simp only [full, ↓reduceIte, accounted.failing, Bool.or_true, none] at items gates
        refine ⟨related.indexed, by rw [gates], fun disabled => ?_, Or.inr ⟨⟨?_, ?_, ?_⟩, ?_⟩⟩
        · simp [gates, unlocked.2] at disabled
        · rw [gates]
          rfl
        · rw [gates]
        · rw [gates]
        · rw [items, ← exactly]
          exact List.prefix_append _ _
      · simp only [full, ↓reduceIte] at items gates
        refine ⟨related.indexed, by rw [gates]; exact accounted.failing, fun disabled => ?_,
          Or.inl ⟨by rw [gates]; exact none, by rw [gates]; exact whole, ?_⟩⟩
        · simp [gates, unlocked.2] at disabled
        · rw [items, exactly, List.append_assoc]
          simp [passing, passes]
    · rw [halted.closed] at unlocked
      exact absurd unlocked.1 (by decide)

theorem perform_accounted (steady : Steady operation) (accounted : Accounted queue before after) :
    Accounted (perform queue operation).2 (before ++ handed (perform queue operation).1)
      (after ++ passing queue operation) := by
  cases operation with
  | enqueueGeneration epoch generation chunk =>
    simpa [perform, handed] using accounted_enqueue accounted epoch generation chunk
  | pop => simpa [perform, passing] using accounted_pop accounted
  | popCapture generation =>
    simpa [perform, passing] using accounted_popCapture accounted generation
  | captureStart => simpa [perform, passing, handed] using accounted_captureStart accounted
  | close =>
    simpa [perform, passing, handed, TsQueue.close] using
      accounted_gates accounted { queue.toGates with closed := true } accounted.failing rfl rfl rfl
        (fun _ => rfl)
  | setFailOnDrop enabled =>
    cases steady
    simpa [perform, passing, handed, TsQueue.setFailOnDrop] using
      accounted_gates accounted { queue.toGates with failOnDrop := true } rfl rfl rfl rfl id
  | retuneBegin => exact steady.elim
  | retuneFinish tuneResult => exact steady.elim
  | captureStop => exact steady.elim

/-- The accounting over a whole session, by induction on its operations. -/
theorem exec_accounted (operations : List (Operation σ))
    (steady : ∀ operation ∈ operations, Steady operation)
    (accounted : Accounted queue before after) :
    Accounted (exec perform queue operations).2
      (before ++ delivered (exec perform queue operations).1)
      (after ++ passed queue operations) := by
  induction operations generalizing queue before after with
  | nil => simpa [exec, delivered, passed] using accounted
  | cons operation rest ih =>
    have head := perform_accounted (steady operation (by simp)) accounted
    have tail := ih (fun later member => steady later (by simp [member])) head
    simpa [exec, delivered, passed, List.append_assoc] using tail

/-- The queue of a receiver started with `--fail-on-drop`. -/
def failingQueue [Inhabited σ] (captureEnabled : Bool) : TsQueue σ :=
  (TsQueue.init captureEnabled).setFailOnDrop true

theorem failingQueue_accounted [Inhabited σ] (captureEnabled : Bool) :
    Accounted (failingQueue (σ := σ) captureEnabled) [] [] :=
  ⟨TsQueue.indexed_zero, rfl, fun _ => rfl, Or.inl ⟨rfl, rfl, rfl⟩⟩

/-- What a halted queue answers, whatever it is asked. -/
structure Refuses (queue : TsQueue σ) : Prop where
  pop : queue.pop = (.error (-Errno.nobufs), queue)
  popCapture : ∀ generation, queue.popCapture generation = (.error (-Errno.nobufs), queue)
  enqueue : ∀ epoch generation chunk, queue.enqueueGeneration epoch generation chunk = queue
  captureStart : queue.captureStart = (.error (-Errno.shutdown), queue)

theorem refuses_halted (halted : Halted queue) : Refuses queue :=
  ⟨pop_halted halted, popCapture_halted halted, enqueue_halted halted, captureStart_halted halted⟩

theorem delivered_halted (operations : List (Operation σ)) (halted : Halted queue) :
    delivered (exec perform queue operations).1 = [] := by
  induction operations generalizing queue with
  | nil => rfl
  | cons operation rest ih =>
    have tail := ih (perform_halted queue operation halted)
    simpa [exec, delivered, handed_halted operation halted] using tail

/-- **Nothing is emitted past a hole.** In a session without retune and restart
the consumer receives a prefix of what passed the gates. Once a chunk was dropped
the queue stays overflowed and closed with exactly that drop, whatever is done to
it later, and every pop, enqueue and capture start is refused. -/
theorem fail_on_drop_stops_at_hole [Inhabited σ] (captureEnabled : Bool)
    (operations : List (Operation σ)) (steady : ∀ operation ∈ operations, Steady operation) :
    let session := exec perform (failingQueue (σ := σ) captureEnabled) operations
    delivered session.1 <+: passed (failingQueue captureEnabled) operations ∧
      (session.2.drops ≠ 0 → ∀ later, let ended := exec perform session.2 later
        Halted ended.2 ∧ Refuses ended.2 ∧ delivered ended.1 = []) := by
  have accounted := exec_accounted operations steady (failingQueue_accounted captureEnabled)
  refine ⟨by simpa using accounted_begins accounted, fun dropped later => ?_⟩
  have halted : Halted (exec perform (failingQueue (σ := σ) captureEnabled) operations).2 := by
    rcases accounted.account with ⟨none, -⟩ | ⟨halted, -⟩
    · exact absurd none dropped
    · exact halted
  have ended := exec_keeps Halted perform_halted halted later
  exact ⟨ended, refuses_halted ended, delivered_halted later halted⟩

/-- 257 chunks without a pop between them: the last one halts the queue. -/
theorem fail_on_drop_stops_full_ring :
    let operations := List.replicate 257 (Operation.enqueueGeneration 0 0 ⟨(), [0x47]⟩)
    let session := exec perform (failingQueue true) operations
    session.2.drops = 1 ∧ Halted (exec perform session.2 [.captureStop, .captureStart]).2 := by
  intro operations session
  have dropped : session.2.drops = 1 := by decide +kernel
  have steady : ∀ operation ∈ operations, Steady operation := by
    intro operation member
    rw [List.eq_of_mem_replicate member]
    trivial
  have outcome := fail_on_drop_stops_at_hole true operations steady
  exact ⟨dropped, (outcome.2 (by rw [dropped]; decide) _).1⟩

end SianoUserland.QueueOverflow
