import SianoUserland.ControlParse
import SianoUserland.RetuneIsolation
import SianoUserland.Tune

/-! `handle_control_line` of `siano-ts.c`: a control command that retunes. A failed
tune is meant to retain the queue and the pump; the lock wait of `tune_internal`
pops from the same queue. -/
namespace SianoUserland
open Protocol QueueRefinement RetuneIsolation

/-- The state a control command works on. -/
structure Control (σ β : Type) where
  queue : TsQueue σ
  pump : OutputPump β
  pidFiltersAdded : Bool := false
  quit : Bool := false

/-- The part of `handle_control_line` that tunes. `configured` is what
`configure_pid_filters` returns, if it is called. -/
def tuneTo (frequency : UInt32) (run : TuneRun σ) (configured : Int) (control : Control σ β) :
    Option (Int × Control σ β) :=
  (tune frequency run control.queue.retuneBegin).map fun (rc, queue) =>
    let (_, queue, pump) := streamRetuneFinish queue control.pump rc
    let control := { control with queue := queue, pump := pump }
    if rc < 0 then (0, control)
    else if control.pidFiltersAdded then (0, control)
    else if configured < 0 then (configured, control)
    else (0, { control with pidFiltersAdded := true })

/-- `handle_control_line`, once its line is parsed. -/
def handleControlLine (command : ControlCommand) (run : TuneRun σ) (configured : Int)
    (control : Control σ β) : Option (Int × Control σ β) :=
  match command with
  | .empty => some (0, control)
  | .invalid => some (0, control)
  | .quit => some (0, { control with quit := true })
  | .channel value =>
    match channelFrequency value with
    | .error _ => some (0, control)
    | .ok frequency => tuneTo frequency run configured control
  | .tune value => tuneTo value run configured control

/-- The frequency a command tunes to. -/
def ControlCommand.frequency? : ControlCommand → Option UInt32
  | .channel value => (channelFrequency value).toOption
  | .tune value => some value
  | _ => none

theorem handle_tunes (run : TuneRun σ) (configured : Int) (control : Control σ β)
    (named : command.frequency? = some frequency) :
    handleControlLine command run configured control =
      tuneTo frequency run configured control := by
  cases command with
  | empty | invalid | quit => cases named
  | tune value =>
    cases named
    rfl
  | channel value =>
    simp only [ControlCommand.frequency?] at named
    cases found : channelFrequency value with
    | error rc =>
      rw [found] at named
      cases named
    | ok other =>
      rw [found] at named
      cases named
      simp only [handleControlLine, found]

end SianoUserland

namespace SianoUserland.FailedTune
open Protocol QueueRefinement RetuneIsolation

/-- The stream is as it was: the chunks that waited still wait, the pump has not
moved, and a transfer submitted from now on is accepted again. -/
def Retained (before after : Control σ β) : Prop :=
  after.queue.contents = before.queue.contents ∧ after.pump = before.pump ∧
    after.queue.epochAccepts after.queue.transferState.1 = true

/-- Nothing is discarded while the tune fails: there is nothing to discard, or the
request itself fails, or the wait ends at its first look. -/
def Undisturbed (frequency : UInt32) (run : TuneRun σ) (queue : TsQueue σ) : Prop :=
  queue.contents = [] ∨ queue.overflowed = true ∨ run.exchange (tuneRequest frequency) < 0 ∨
    run.looks.head?.any (·.ends (run.answered.addMs 10000)) = true

variable {queue after : TsQueue σ}

private theorem drop_eq_self (waiting : items ≠ []) :
    List.drop taken items = items ↔ taken = 0 := by
  constructor
  · intro same
    have lengths := congrArg List.length same
    have some := List.length_pos_iff.mpr waiting
    rw [List.length_drop] at lengths
    omega
  · rintro rfl
    rfl

/-- What a failed tune leaves of the queue. -/
theorem drained_tune (indexed : queue.Indexed)
    (tuned : tune frequency run queue.retuneBegin = some (rc, after)) (failed : rc < 0) :
    ∃ taken, Drained taken queue.retuneBegin after ∧
      (queue.contents.drop taken = queue.contents ↔ Undisturbed frequency run queue) := by
  have reset : queue.retuneBegin.Indexed := indexed
  have begun := drained_events reset rfl run.arrived
  simp only [tune, tuneInternal, Bool.false_eq_true, false_and, ↓reduceIte] at tuned
  split at tuned
  · rename_i refused
    cases tuned
    exact ⟨0, begun, by simp [Undisturbed, refused]⟩
  · rename_i answered
    obtain ⟨taken, drained, stayed⟩ := drained_lockWait begun.indexed begun.discarding tuned
    have whole := drained_trans begun drained
    rw [Nat.zero_add] at whole
    refine ⟨taken, whole, ?_⟩
    by_cases waiting : queue.contents = []
    · simp [Undisturbed, waiting]
    cases overflowed : queue.overflowed with
    | true => simp [Undisturbed, overflowed, whole.blocked overflowed]
    | false =>
      have looked := stayed failed (begun.overflowed.trans overflowed)
        (by rw [begun.contents]; exact waiting)
      rw [drop_eq_self waiting, ← looked]
      simp [Undisturbed, waiting, overflowed, answered]

/-- **When a failed tune retains the stream.** A control command whose tune fails
leaves the queue and the pump as they were exactly when the lock wait had nothing to
discard or never got to discarding. -/
theorem failed_tune_retains_iff (control : Control σ β) (indexed : control.queue.Indexed)
    (configured : Int) (named : command.frequency? = some frequency)
    (tuned : tune frequency run control.queue.retuneBegin = some (rc, queue)) (failed : rc < 0) :
    (∃ after, handleControlLine command run configured control = some (0, after) ∧
      Retained control after) ↔ Undisturbed frequency run control.queue := by
  obtain ⟨taken, drained, undisturbed⟩ := drained_tune indexed tuned failed
  have unsuccessful : rc ≠ 0 := by omega
  have handled : handleControlLine command run configured control =
      some (0, { control with
        queue := { queue with toGates := queue.toGates.retuneFinish } }) := by
    rw [handle_tunes run configured control named, tuneTo, tuned]
    simp [streamRetuneFinish, TsQueue.retuneFinish_failed _ unsuccessful, failed]
  rw [handled, ← undisturbed]
  constructor
  · rintro ⟨after, same, contents, _⟩
    cases same
    exact drained.contents.symm.trans contents
  · intro kept
    refine ⟨_, rfl, drained.contents.trans kept, rfl, ?_⟩
    simp [Gates.epochAccepts, Gates.retuneFinish, TsQueue.transferState]

/-- A chunk waits, the device answers, and the lock wait passes once before its
deadline is over. -/
def lockTimeout : TuneRun Nat where
  begun := ⟨0, 0, by decide⟩
  exchange := fun _ => 0
  answered := ⟨0, 0, by decide⟩
  looks := [{ now := ⟨1, 0, by decide⟩, waiting := ⟨1, 0, by decide⟩ },
    { now := ⟨10, 0, by decide⟩, waiting := ⟨10, 0, by decide⟩ }]

def oneWaiting : Control Nat UInt8 where
  queue := (TsQueue.init true).enqueueGeneration 0 0 ⟨0, [0x47]⟩
  pump := .init

/-- The failed tune has popped the chunk that waited. -/
theorem failed_tune_loses_chunk :
    (tune 473142857 lockTimeout oneWaiting.queue.retuneBegin).map Prod.fst =
        some (-Errno.timedout) ∧
      oneWaiting.queue.contents = [⟨0, [0x47]⟩] ∧
      (handleControlLine (.channel 13) lockTimeout 0 oneWaiting).map
        (fun (rc, after) => (rc, after.queue.contents)) = some (0, []) := by
  decide +kernel

/-- The same queue keeps its chunk when the request itself fails. -/
theorem failed_tune_retains_refused :
    ∃ after, handleControlLine (.channel 13) { lockTimeout with exchange := fun _ => -Errno.io } 0
        oneWaiting = some (0, after) ∧ Retained oneWaiting after := by
  have tuned : (tune 473142857 { lockTimeout with exchange := fun _ => -Errno.io }
      oneWaiting.queue.retuneBegin).map Prod.fst = some (-Errno.io) := by decide +kernel
  obtain ⟨⟨rc, queue⟩, tuned, rfl⟩ := Option.map_eq_some_iff.mp tuned
  exact (failed_tune_retains_iff oneWaiting (enqueue_indexed TsQueue.indexed_zero) 0
    (by decide) tuned (by decide)).mpr (Or.inr (Or.inr (Or.inl (by decide))))

end SianoUserland.FailedTune
