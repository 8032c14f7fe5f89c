import SianoUserland.Clock
import SianoUserland.Protocol
import SianoUserland.QueueRefinement

/-! `tune_internal` of `siano-device.c` and what it does to the queue while it waits
for a lock. What the device, the clocks and the other threads do meanwhile is its
input: one `Look` for every time around the loop. -/
namespace SianoUserland
open Protocol QueueRefinement

/-- What the USB threads may do to the queue meanwhile. -/
inductive UsbEvent (σ : Type) where
  | enqueue (epoch generation : UInt64) (chunk : TsChunk σ)
  | close

def UsbEvent.apply (queue : TsQueue σ) : UsbEvent σ → TsQueue σ
  | .enqueue epoch generation chunk => queue.enqueueGeneration epoch generation chunk
  | .close => queue.close

def UsbEvent.applyAll (queue : TsQueue σ) (events : List (UsbEvent σ)) : TsQueue σ :=
  events.foldl UsbEvent.apply queue

/-- What `tune_internal` finds on one pass of its loop. -/
structure Look (σ : Type) where
  /-- What arrived since the pass before. -/
  arrived : List (UsbEvent σ) := []
  stopRequested : Bool := false
  locked : Bool := false
  now : Timespec
  /-- What arrives before each of the pops. -/
  between : Nat → List (UsbEvent σ) := fun _ => []
  /-- The reading of `tune_remaining_ms` before the pass waits. -/
  waiting : Timespec

/-- What a whole call of `tune_internal` finds. -/
structure TuneRun (σ : Type) where
  begun : Timespec
  /-- What arrives while the request is out, and what comes of it. -/
  arrived : List (UsbEvent σ) := []
  exchange : List UInt8 → Int
  answered : Timespec
  looks : List (Look σ)

/-- The pops of one pass: at most `left` of them, up to the first that fails. -/
def discard (between : Nat → List (UsbEvent σ)) : Nat → TsQueue σ → TsQueue σ
  | 0, queue => queue
  | left + 1, queue =>
    match (UsbEvent.applyAll queue (between (31 - left))).pop with
    | (.ok _, after) => discard between left after
    | (.error _, after) => after

/-- The loop of `tune_internal`. There is no result while it is still waiting. -/
def lockWait (wholeDeadline : Bool) (deadline : Timespec) :
    List (Look σ) → TsQueue σ → Option (Int × TsQueue σ)
  | [], _ => none
  | look :: rest, queue =>
    let queue := UsbEvent.applyAll queue look.arrived
    let expired := Timespec.expired look.now deadline
    if look.stopRequested then some (-Errno.timedout, queue)
    else if wholeDeadline ∧ expired then some (-Errno.timedout, queue)
    else if look.locked then some (0, queue)
    else if expired then some (-Errno.timedout, queue)
    else
      let drained := discard look.between 32 queue
      let remainingMs := if wholeDeadline then Timespec.remainingMs look.waiting deadline else 100
      if min remainingMs 100 = 0 then some (-Errno.timedout, drained)
      else lockWait wholeDeadline deadline rest drained

/-- `tune_internal`: its result and the queue it leaves. -/
def tuneInternal (frequency : UInt32) (timeoutMs : Nat) (wholeDeadline : Bool)
    (run : TuneRun σ) (queue : TsQueue σ) : Option (Int × TsQueue σ) :=
  if wholeDeadline ∧ timeoutMs = 0 then some (-Errno.timedout, queue)
  else
    let queue := UsbEvent.applyAll queue run.arrived
    let response := run.exchange (tuneRequest frequency)
    if response < 0 then some (response, queue)
    else
      let reading := if wholeDeadline then run.begun else run.answered
      lockWait wholeDeadline (reading.addMs timeoutMs) run.looks queue

/-- `tune`, with `LOCK_TIMEOUT_MS` after the response. -/
def tune (frequency : UInt32) (run : TuneRun σ) (queue : TsQueue σ) : Option (Int × TsQueue σ) :=
  tuneInternal frequency 10000 false run queue

variable {queue after : TsQueue σ}

/-- While a retune is going on, nothing the USB threads do changes what waits. -/
theorem applyAll_discarding (events : List (UsbEvent σ)) (discarding : queue.discarding = true) :
    ∃ closed, UsbEvent.applyAll queue events = { queue with closed := closed } := by
  induction events generalizing queue with
  | nil => exact ⟨queue.closed, rfl⟩
  | cons event rest ih =>
    have first : ∃ closed, UsbEvent.apply queue event = { queue with closed := closed } := by
      cases event with
      | enqueue epoch generation chunk =>
        have shut : queue.accepts epoch generation = false := by
          simp [Gates.accepts, Gates.epochAccepts, discarding]
        refine ⟨queue.closed, ?_⟩
        simp only [UsbEvent.apply, TsQueue.enqueueGeneration, shut, ↓reduceIte]
      | close => exact ⟨true, rfl⟩
    obtain ⟨closed, same⟩ := first
    have still : ({ queue with closed := closed } : TsQueue σ).discarding = true := discarding
    obtain ⟨final, all⟩ := ih still
    refine ⟨final, ?_⟩
    rw [UsbEvent.applyAll, List.foldl_cons, same]
    exact all

/-- `after` is what is left of `queue` when `taken` chunks have been popped during a
retune. -/
structure Drained (taken : Nat) (queue after : TsQueue σ) : Prop where
  indexed : after.Indexed
  contents : after.contents = queue.contents.drop taken
  overflowed : after.overflowed = queue.overflowed
  discarding : after.discarding = true
  epoch : after.epoch = queue.epoch
  blocked : queue.overflowed = true → taken = 0

theorem drained_trans {first second : Nat} {middle : TsQueue σ}
    (before : Drained first queue middle)
    (later : Drained second middle after) : Drained (first + second) queue after := by
  refine ⟨later.indexed, ?_, later.overflowed.trans before.overflowed, later.discarding,
    later.epoch.trans before.epoch, ?_⟩
  · rw [later.contents, before.contents, List.drop_drop]
  · intro overflowed
    rw [before.blocked overflowed, later.blocked (before.overflowed.trans overflowed)]

theorem drained_events (indexed : queue.Indexed) (discarding : queue.discarding = true)
    (events : List (UsbEvent σ)) : Drained 0 queue (UsbEvent.applyAll queue events) := by
  obtain ⟨closed, same⟩ := applyAll_discarding events discarding
  rw [same]
  exact ⟨indexed, rfl, rfl, discarding, rfl, fun _ => rfl⟩

/-- A pop takes one chunk, unless the queue has overflowed or is empty. -/
theorem drained_pop (indexed : queue.Indexed) (discarding : queue.discarding = true)
    (popped : queue.pop = (result, after)) :
    ∃ taken, Drained taken queue after ∧
      (queue.overflowed = false → queue.contents ≠ [] → 1 ≤ taken) := by
  cases result with
  | ok chunk =>
    obtain ⟨shape, kept, gates⟩ := pop_ok indexed popped
    refine ⟨1, ⟨kept, by rw [shape]; rfl, by rw [gates], by rw [gates]; exact discarding,
      by rw [gates], ?_⟩, fun _ _ => Nat.le_refl _⟩
    intro overflowed
    simp [TsQueue.pop, overflowed] at popped
  | error rc =>
    have same := pop_error popped
    subst same
    refine ⟨0, ⟨indexed, rfl, rfl, discarding, rfl, fun _ => rfl⟩, ?_⟩
    intro intact waiting
    simp only [TsQueue.pop, intact, Bool.false_eq_true, ↓reduceIte] at popped
    obtain ⟨_, empty, _⟩ := take_error popped
    have none : after.contents.length = 0 := by
      rw [TsQueue.contents, Ring.length_contents, empty]
    exact absurd (List.eq_nil_of_length_eq_zero none) waiting

theorem drained_discard (between : Nat → List (UsbEvent σ)) (left : Nat) (indexed : queue.Indexed)
    (discarding : queue.discarding = true) :
    ∃ taken, Drained taken queue (discard between left queue) ∧
      (0 < left → queue.overflowed = false → queue.contents ≠ [] → 1 ≤ taken) := by
  induction left generalizing queue with
  | zero =>
    exact ⟨0, ⟨indexed, rfl, rfl, discarding, rfl, fun _ => rfl⟩,
      fun impossible => by cases impossible⟩
  | succ left ih =>
    have arrived := drained_events indexed discarding (between (31 - left))
    rcases popped : (UsbEvent.applyAll queue (between (31 - left))).pop with ⟨result, after⟩
    obtain ⟨first, took, some⟩ := drained_pop arrived.indexed arrived.discarding popped
    have step := drained_trans arrived took
    rw [Nat.zero_add] at step
    have progress : queue.overflowed = false → queue.contents ≠ [] → 1 ≤ first := by
      intro intact waiting
      exact some (arrived.overflowed.trans intact) (by rw [arrived.contents]; exact waiting)
    cases result with
    | error rc =>
      simp only [discard, popped]
      exact ⟨first, step, fun _ => progress⟩
    | ok chunk =>
      obtain ⟨rest, drained, _⟩ := ih took.indexed took.discarding
      simp only [discard, popped]
      refine ⟨first + rest, drained_trans step drained, ?_⟩
      intro _ intact waiting
      exact Nat.le_add_right_of_le (progress intact waiting)

/-- The first look ends the wait before anything is discarded. -/
def Look.ends (look : Look σ) (deadline : Timespec) : Bool :=
  look.stopRequested || Timespec.expired look.now deadline

theorem drained_lockWait (indexed : queue.Indexed) (discarding : queue.discarding = true)
    (waited : lockWait wholeDeadline deadline looks queue = some (rc, after)) :
    ∃ taken, Drained taken queue after ∧ (rc < 0 → queue.overflowed = false →
      queue.contents ≠ [] → (looks.head?.any (·.ends deadline) = true ↔ taken = 0)) := by
  induction looks generalizing queue with
  | nil => cases waited
  | cons look rest ih =>
    have arrived := drained_events indexed discarding look.arrived
    simp only [lockWait] at waited
    split at waited
    · rename_i stop
      cases waited
      exact ⟨0, arrived, fun _ _ _ => by simp [Look.ends, stop]⟩
    split at waited
    · rename_i whole
      cases waited
      exact ⟨0, arrived, fun _ _ _ => by simp [Look.ends, whole.2]⟩
    split at waited
    · cases waited
      exact ⟨0, arrived, fun impossible => by cases impossible⟩
    split at waited
    · rename_i expired
      cases waited
      exact ⟨0, arrived, fun _ _ _ => by simp [Look.ends, expired]⟩
    rename_i running _ _ unexpired
    obtain ⟨first, discarded, some⟩ :=
      drained_discard look.between 32 arrived.indexed arrived.discarding
    have step := drained_trans arrived discarded
    rw [Nat.zero_add] at step
    have goesOn : look.ends deadline = false := by simp [Look.ends, running, unexpired]
    have progress : queue.overflowed = false → queue.contents ≠ [] → 1 ≤ first := by
      intro intact waiting
      exact some (by decide) (arrived.overflowed.trans intact)
        (by rw [arrived.contents]; exact waiting)
    generalize min (if wholeDeadline = true then look.waiting.remainingMs deadline else 100) 100 =
      waitMs at waited
    split at waited
    · cases waited
      refine ⟨first, step, ?_⟩
      intro _ intact waiting
      have took := progress intact waiting
      simp only [List.head?_cons, Option.any_some, goesOn, Bool.false_eq_true, false_iff]
      omega
    · obtain ⟨later, drained, _⟩ := ih discarded.indexed discarded.discarding waited
      refine ⟨first + later, drained_trans step drained, ?_⟩
      intro _ intact waiting
      have took := progress intact waiting
      simp only [List.head?_cons, Option.any_some, goesOn, Bool.false_eq_true, false_iff]
      omega

end SianoUserland
