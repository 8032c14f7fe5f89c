import SianoUserland.Lib.Pool
import SianoUserland.TransferThreads

/-! The invariant of the threads that share `state.mutex`, and what each kind of
step has to do to keep it: taking the mutex, submitting, counting, giving the mutex
back, the locked decrement, setting `stopping`, cancelling and freeing. -/
namespace SianoUserland.TransferInvariant
open Transition TransferThreads

/-- A callback that has not done its locked decrement yet. -/
def owes : Thread → Nat
  | .callback _ _ .entered => 1
  | _ => 0

/-- A submission that its submitter has not counted yet. -/
def credit : Thread → Nat
  | .start (.submit _ .counting) => 1
  | .callback _ _ (.submit .counting) => 1
  | _ => 0

/-- A thread in the middle of a critical section. -/
def holds : Thread → Bool
  | .start (.submit _ _) => true
  | .callback _ _ (.submit _) => true
  | _ => false

/-- The submitted transfers whose callback has not done its locked decrement. -/
def outstanding (device : Device) : Nat :=
  device.flying.length + (device.threads.map owes).sum

/-- Nothing is outstanding and nothing can be submitted any more. -/
def Quiet (device : Device) : Prop := device.state.stopping = true ∧ outstanding device = 0

/-- The call of `cancel_transfers` a thread is in, or is about to make. -/
def cancel? : Thread → Option Cancel
  | .callback _ _ (.fail .close) | .event (.fail .close) => some .copy
  | .callback _ _ (.fail (.cancel position)) => some position
  | .event (.fail (.cancel position)) => some position
  | .stop (.cancel position) => some position
  | _ => none

/-- What is flying will be cancelled by this call, or has been. -/
def Covers (device : Device) : Cancel → Prop
  | .copy => True
  | .each slots =>
    ∀ submission ∈ device.flying, submission.slot ∈ slots ∨ submission ∈ device.cancelled

def Sweeping (device : Device) (thread : Thread) : Prop :=
  ∃ position, cancel? thread = some position ∧ Covers device position

/-- What is known of the device from where a thread stands. -/
def Placed (device : Device) : Thread → Prop
  | .start (.allocate _) => device.eventThreadStarted = true
  | .start (.lock index) => device.eventThreadStarted = true ∧ index < device.maxUrbs
  | .start (.submit index _) => device.eventThreadStarted = true ∧ index < device.maxUrbs ∧
      (device.state.stopping = false → device.transfers index = true)
  | .callback slot _ _ => device.eventThreadStarted = true ∧ slot < device.maxUrbs ∧
      (device.state.stopping = false → device.transfers slot = true)
  | .event .exited | .stop .free | .stop .returned => Quiet device
  | .stop (.cancel _) | .stop .join => device.state.stopping = true
  | _ => True

/-- The call that set `stopping` is on its way to cancel everything, or has. -/
structure Sweep (device : Device) : Prop where
  stopping : device.stopper ≠ none → device.state.stopping = true
  done : device.swept = true → ∀ submission ∈ device.flying, submission ∈ device.cancelled
  stopped : device.swept = true → device.state.stopping = true
  pending : device.swept = false → ∀ who flying, device.stopper = some (who, flying) →
    ∃ thread, device.threads[who]? = some thread ∧ Sweeping device thread

structure Sound (device : Device) : Prop where
  balance : device.activeTransfers + (device.threads.map credit).sum = outstanding device
  holder : ∀ index thread, device.threads[index]? = some thread → holds thread = true →
    device.owner = some index ∧ device.state.stopping = false
  tabled : ∀ submission ∈ device.flying,
    submission.slot < device.maxUrbs ∧ device.transfers submission.slot = true
  placed : ∀ thread ∈ device.threads, Placed device thread
  unstarted : device.eventThreadStarted = false → outstanding device = 0
  freed : device.freed = true → Quiet device
  sweep : Sweep device

/-- How the device may change under the feet of the other threads. -/
structure Later (device after : Device) : Prop where
  maxUrbs : after.maxUrbs = device.maxUrbs
  started : device.eventThreadStarted = true → after.eventThreadStarted = true
  stopping : device.state.stopping = true → after.state.stopping = true
  transfers : after.state.stopping = false →
    ∀ slot, device.transfers slot = true → after.transfers slot = true
  cancelled : device.cancelled ⊆ after.cancelled
  flying : device.state.stopping = true → after.flying ⊆ device.flying
  outstanding : device.state.stopping = true → outstanding after ≤ outstanding device

variable {device after : Device} {thread old new : Thread} {index : Nat}

theorem quiet_later (quiet : Quiet device) (later : Later device after) : Quiet after :=
  ⟨later.stopping quiet.1,
    Nat.le_zero.mp (quiet.2 ▸ later.outstanding quiet.1)⟩

private theorem going (later : Later device after) (stopping : after.state.stopping = false) :
    device.state.stopping = false := by
  cases before : device.state.stopping with
  | false => rfl
  | true => exact (later.stopping before).symm.trans stopping

theorem placed_later (placed : Placed device thread) (later : Later device after) :
    Placed after thread := by
  have table : ∀ slot, (device.state.stopping = false → device.transfers slot = true) →
      after.state.stopping = false → after.transfers slot = true := fun slot set running =>
    later.transfers running slot (set (going later running))
  cases thread with
  | start position =>
    cases position with
    | allocate index => exact later.started placed
    | lock index => exact ⟨later.started placed.1, later.maxUrbs ▸ placed.2⟩
    | submit index position =>
      exact ⟨later.started placed.1, later.maxUrbs ▸ placed.2.1, table index placed.2.2⟩
    | create | created | returned rc => trivial
  | callback slot status position =>
    exact ⟨later.started placed.1, later.maxUrbs ▸ placed.2.1, table slot placed.2.2⟩
  | event position =>
    cases position with
    | exited => exact quiet_later placed later
    | check | handle | fail position => trivial
  | stop position =>
    cases position with
    | free | returned => exact quiet_later placed later
    | cancel position => exact later.stopping placed
    | join => exact later.stopping placed
    | state => trivial

theorem sweeping_later (sweeping : Sweeping device thread)
    (stopping : device.state.stopping = true) (later : Later device after) :
    Sweeping after thread := by
  obtain ⟨position, found, covers⟩ := sweeping
  refine ⟨position, found, ?_⟩
  cases position with
  | copy => trivial
  | each slots =>
    intro submission member
    rcases covers submission (later.flying stopping member) with left | handed
    · exact Or.inl left
    · exact Or.inr (later.cancelled handed)

/-- The obligations of a step that moves one thread from `old` to `new`. -/
structure Step (device after : Device) (index : Nat) (old new : Thread) : Prop where
  later : Later device after
  balance : after.activeTransfers + credit new + (device.flying.length + owes old) =
    device.activeTransfers + credit old + (after.flying.length + owes new)
  owner : (after.owner = device.owner ∧ after.state.stopping = device.state.stopping) ∨
    device.owner = none ∨ device.owner = some index
  holder : holds new = true → after.owner = some index ∧ after.state.stopping = false
  tabled : ∀ submission ∈ after.flying,
    submission.slot < after.maxUrbs ∧ after.transfers submission.slot = true
  placed : Placed after new
  unstarted : after.eventThreadStarted = false → device.eventThreadStarted = false ∧
    after.flying.length + owes new ≤ device.flying.length + owes old
  freed : after.freed = true → Quiet after
  sweep : Sweep after

theorem sound_step (sound : Sound device) (found : device.threads[index]? = some old)
    (moved : after.threads = device.threads.set index new)
    (step : Step device after index old new) :
    Sound after := by
  have credits := Pool.sum_map_set credit new found
  have debts := Pool.sum_map_set owes new found
  have balance := sound.balance
  have delta := step.balance
  rw [← moved] at credits debts
  simp only [outstanding] at balance
  refine ⟨by simp only [outstanding]; omega, ?_, step.tabled, ?_, ?_, step.freed, step.sweep⟩
  · intro other thread there held
    rw [moved] at there
    rcases Pool.getElem?_set_cases there with ⟨rfl, rfl⟩ | ⟨different, before⟩
    · exact step.holder held
    · obtain ⟨owned, running⟩ := sound.holder other thread before held
      rcases step.owner with ⟨same, state⟩ | free | mine
      · exact ⟨same.trans owned, state.trans running⟩
      · simp [free] at owned
      · rw [mine, Option.some.injEq] at owned
        exact absurd owned.symm different
  · intro thread member
    rw [moved] at member
    rcases List.mem_or_eq_of_mem_set member with before | rfl
    · exact placed_later (sound.placed thread before) step.later
    · exact step.placed
  · intro fresh
    obtain ⟨before, fewer⟩ := step.unstarted fresh
    have none := sound.unstarted before
    simp only [outstanding] at none ⊢
    omega

/-- The sweep goes on while nobody but the sweeping thread moves in it. -/
theorem sweep_step (sound : Sound device) (found : device.threads[index]? = some old)
    (moved : after.threads = device.threads.set index new) (later : Later device after)
    (stopper : after.stopper = device.stopper) (swept : after.swept = device.swept)
    (sweeping : Sweeping device old → Sweeping after new) : Sweep after := by
  have sweep := sound.sweep
  refine ⟨?_, ?_, ?_, ?_⟩
  · intro set
    rw [stopper] at set
    exact later.stopping (sweep.stopping set)
  · intro finished submission member
    rw [swept] at finished
    exact later.cancelled (sweep.done finished submission
      (later.flying (sweep.stopped finished) member))
  · intro finished
    rw [swept] at finished
    exact later.stopping (sweep.stopped finished)
  · intro unfinished who flying set
    rw [swept] at unfinished
    rw [stopper] at set
    have stopping := sweep.stopping (by simp [set])
    obtain ⟨thread, there, active⟩ := sweep.pending unfinished who flying set
    by_cases mine : who = index
    · rw [mine, found, Option.some.injEq] at there
      refine ⟨new, ?_, sweeping (there ▸ active)⟩
      rw [moved, mine]
      exact Pool.getElem?_set_self found
    · refine ⟨thread, ?_, sweeping_later active stopping later⟩
      rw [moved, List.getElem?_set_ne (Ne.symm mine)]
      exact there

/-- While the mutex is free, every submission has been counted. -/
theorem credits_zero (sound : Sound device) (free : device.owner = none) :
    (device.threads.map credit).sum = 0 := by
  apply List.sum_eq_zero
  intro _ counted
  obtain ⟨thread, member, rfl⟩ := List.mem_map.mp counted
  obtain ⟨index, there⟩ := List.getElem?_of_mem member
  have loose : holds thread ≠ true := fun held => by
    have owned := (sound.holder index thread there held).1
    simp [free] at owned
  unfold credit
  split
  · exact absurd rfl loose
  · exact absurd rfl loose
  · rfl

/-- A thread that is neither in a critical section nor owes a decrement. -/
structure Plain (thread : Thread) : Prop where
  owes : owes thread = 0
  credit : credit thread = 0
  holds : holds thread = false

theorem plain_loose (plain : Plain thread) : holds thread ≠ true := by
  rw [plain.holds]
  exact Bool.false_ne_true

private theorem outstanding_set (found : device.threads[index]? = some old)
    (moved : after.threads = device.threads.set index new) (flying : after.flying = device.flying)
    (fewer : owes new ≤ owes old) : outstanding after ≤ outstanding device := by
  have debts := Pool.sum_map_set owes new found
  simp only [outstanding, moved, flying]
  omega

/-- A step outside critical sections that leaves the transfers alone. -/
theorem plain_step (sound : Sound device) (later : Later device after)
    (before : Plain old) (plain : Plain new)
    (count : after.activeTransfers = device.activeTransfers)
    (flying : after.flying = device.flying) (table : after.transfers = device.transfers)
    (freed : after.freed = device.freed)
    (started : after.eventThreadStarted = false → device.eventThreadStarted = false)
    (owner : (after.owner = device.owner ∧ after.state.stopping = device.state.stopping) ∨
      device.owner = none ∨ device.owner = some index)
    (placed : Placed after new) (sweep : Sweep after) : Step device after index old new := by
  refine ⟨later, ?_, owner, fun held => absurd held (plain_loose plain), ?_, placed, ?_, ?_, sweep⟩
  · rw [count, flying, before.owes, before.credit, plain.owes, plain.credit]
  · rw [flying, table, later.maxUrbs]
    exact sound.tabled
  · intro fresh
    rw [flying, before.owes, plain.owes]
    exact ⟨started fresh, Nat.le_refl _⟩
  · intro now
    rw [freed] at now
    exact quiet_later (sound.freed now) later

/-- A step outside critical sections that may note cancellations or close the queue. -/
theorem plain_sound (closed : Bool) {cancelled : List Submission} (sound : Sound device)
    (found : device.threads[index]? = some old) (grows : device.cancelled ⊆ cancelled)
    (before : Plain old) (plain : Plain new) (placed : Placed device new)
    (sweeping : Sweeping device old → Sweeping { device with cancelled := cancelled } new) :
    Sound { device with
      threads := device.threads.set index new, closed := closed, cancelled := cancelled } := by
  have later : Later device { device with
      threads := device.threads.set index new, closed := closed, cancelled := cancelled } :=
    ⟨rfl, id, id, fun _ _ => id, grows, fun _ => List.Subset.refl _,
      fun _ => outstanding_set found rfl rfl (by rw [plain.owes]; exact Nat.zero_le _)⟩
  apply sound_step sound found rfl
  apply plain_step sound later before plain rfl rfl rfl rfl id (Or.inl ⟨rfl, rfl⟩)
  · exact placed_later placed later
  · exact sweep_step sound found rfl later rfl rfl sweeping

/-- Nothing happens but that the thread goes on. -/
theorem move_sound (sound : Sound device) (found : device.threads[index]? = some old)
    (before : Plain old) (plain : Plain new) (placed : Placed device new)
    (sweeping : Sweeping device old → Sweeping device new) :
    Sound { device with threads := device.threads.set index new } :=
  plain_sound device.closed sound found (List.Subset.refl _) before plain placed sweeping

theorem unswept_of_none (none : cancel? thread = none) : ¬Sweeping device thread := by
  rintro ⟨position, here, _⟩
  rw [none] at here
  cases here

/-- The same for a thread outside `cancel_transfers`. -/
theorem pass_sound (sound : Sound device) (found : device.threads[index]? = some old)
    (before : Plain old) (plain : Plain new) (outside : cancel? old = none)
    (placed : Placed device new) :
    Sound { device with threads := device.threads.set index new } :=
  move_sound sound found before plain placed
    fun sweeping => absurd sweeping (unswept_of_none outside)

/-- A thread takes the mutex, with its slot of the table filled. -/
theorem acquire_sound (new : Thread) (transfers : Nat → Bool) (sound : Sound device)
    (found : device.threads[index]? = some old) (free : device.owner = none)
    (running : device.state.stopping = false)
    (table : ∀ slot, device.transfers slot = true → transfers slot = true)
    (before : Plain old) (owed : owes new = 0) (counted : credit new = 0)
    (placed : Placed { device with
      threads := device.threads.set index new, owner := some index, transfers := transfers } new)
    (unswept : ¬Sweeping device old) :
    Sound { device with
      threads := device.threads.set index new, owner := some index, transfers := transfers } := by
  have later : Later device { device with
      threads := device.threads.set index new, owner := some index, transfers := transfers } :=
    ⟨rfl, id, id, fun _ => table, List.Subset.refl _, fun _ => List.Subset.refl _,
      fun stopping => by simp [running] at stopping⟩
  apply sound_step sound found rfl
  refine ⟨later, ?_, Or.inr (Or.inl free), fun _ => ⟨rfl, running⟩, ?_, placed, ?_, ?_, ?_⟩
  · rw [before.owes, before.credit, owed, counted]
  · intro submission member
    obtain ⟨small, set⟩ := sound.tabled submission member
    exact ⟨small, table _ set⟩
  · intro fresh
    rw [before.owes, owed]
    exact ⟨fresh, Nat.le_refl _⟩
  · exact fun freed => quiet_later (sound.freed freed) later
  · exact sweep_step sound found rfl later rfl rfl fun sweeping => absurd sweeping unswept

/-- A step inside a critical section, with what libusb accepted in it. -/
theorem inside_sound (new : Thread) (extra : List Submission) (submissions : Nat)
    (sound : Sound device) (found : device.threads[index]? = some old) (held : holds old = true)
    (owed : owes old = 0 ∧ owes new = 0) (counted : credit new = credit old + extra.length)
    (started : device.eventThreadStarted = true)
    (tabled : ∀ submission ∈ extra, submission.slot < device.maxUrbs ∧
      (device.state.stopping = false → device.transfers submission.slot = true))
    (placed : ∀ after : Device, after.eventThreadStarted = device.eventThreadStarted →
      after.maxUrbs = device.maxUrbs → after.state = device.state →
        after.transfers = device.transfers → Placed after new)
    (unswept : ¬Sweeping device old) :
    Sound { device with
      threads := device.threads.set index new
      flying := device.flying ++ extra, submissions := submissions } := by
  obtain ⟨mine, running⟩ := sound.holder index old found held
  have later : Later device { device with
      threads := device.threads.set index new
      flying := device.flying ++ extra, submissions := submissions } :=
    ⟨rfl, id, id, fun _ _ => id, List.Subset.refl _, fun stopping => by simp [running] at stopping,
      fun stopping => by simp [running] at stopping⟩
  apply sound_step sound found rfl
  refine ⟨later, ?_, Or.inr (Or.inr mine), fun _ => ⟨mine, running⟩, ?_, placed _ rfl rfl rfl rfl,
    ?_, ?_, ?_⟩
  · simp only [owed, counted, List.length_append]
    omega
  · intro submission member
    rcases List.mem_append.mp member with before | now
    · exact sound.tabled submission before
    · exact ⟨(tabled submission now).1, (tabled submission now).2 running⟩
  · intro fresh
    rw [started] at fresh
    cases fresh
  · exact fun freed => quiet_later (sound.freed freed) later
  · exact sweep_step sound found rfl later rfl rfl fun sweeping => absurd sweeping unswept

/-- The end of a critical section, which counts the submission if there was one. -/
theorem release_sound (new : Thread) (sound : Sound device)
    (found : device.threads[index]? = some old)
    (held : holds old = true) (owed : owes old = 0) (plain : Plain new)
    (placed : Placed device new) (unswept : ¬Sweeping device old) :
    Sound { device with
      threads := device.threads.set index new, owner := none
      activeTransfers := device.activeTransfers + credit old } := by
  obtain ⟨mine, running⟩ := sound.holder index old found held
  have later : Later device { device with
      threads := device.threads.set index new, owner := none
      activeTransfers := device.activeTransfers + credit old } :=
    ⟨rfl, id, id, fun _ _ => id, List.Subset.refl _, fun _ => List.Subset.refl _,
      fun stopping => by simp [running] at stopping⟩
  apply sound_step sound found rfl
  refine ⟨later, ?_, Or.inr (Or.inr mine), ?_, sound.tabled, placed_later placed later, ?_, ?_, ?_⟩
  · simp only [owed, plain.owes, plain.credit]
    omega
  · exact fun still => absurd still (plain_loose plain)
  · intro fresh
    rw [owed, plain.owes]
    exact ⟨fresh, Nat.le_refl _⟩
  · exact fun freed => quiet_later (sound.freed freed) later
  · exact sweep_step sound found rfl later rfl rfl fun sweeping => absurd sweeping unswept

/-- The locked decrement of a callback. The counter cannot be zero there, since
the callback itself is still counted. -/
theorem decrement_sound (new : Thread) (sound : Sound device)
    (found : device.threads[index]? = some old) (free : device.owner = none)
    (owed : owes old = 1) (counted : credit old = 0) (plain : Plain new)
    (placed : Placed device new) (unswept : ¬Sweeping device old) :
    Sound { device with
      threads := device.threads.set index new
      activeTransfers := device.activeTransfers - 1 } := by
  have credits := credits_zero sound free
  have debts := Pool.sum_map_set owes new found
  have balance := sound.balance
  rw [credits, outstanding] at balance
  rw [owed, plain.owes] at debts
  have later : Later device { device with
      threads := device.threads.set index new
      activeTransfers := device.activeTransfers - 1 } :=
    ⟨rfl, id, id, fun _ _ => id, List.Subset.refl _, fun _ => List.Subset.refl _,
      fun _ => outstanding_set found rfl rfl (by rw [plain.owes]; exact Nat.zero_le _)⟩
  apply sound_step sound found rfl
  refine ⟨later, ?_, Or.inl ⟨rfl, rfl⟩, ?_, sound.tabled, placed_later placed later, ?_, ?_, ?_⟩
  · simp only [owed, counted, plain.owes, plain.credit]
    omega
  · exact fun held => absurd held (plain_loose plain)
  · intro fresh
    rw [owed, plain.owes]
    exact ⟨fresh, Nat.add_le_add_left (Nat.zero_le _) _⟩
  · exact fun freed => quiet_later (sound.freed freed) later
  · exact sweep_step sound found rfl later rfl rfl fun sweeping => absurd sweeping unswept

/-- `stopping` is set, by a call that goes on to cancel if it was the first. -/
theorem setState_sound (new : Thread) {state : StreamState} (sound : Sound device)
    (found : device.threads[index]? = some old) (free : device.owner = none)
    (stopping : state.stopping = true) (before : Plain old) (plain : Plain new)
    (placed : Later device
        { device.setState index state with threads := device.threads.set index new } →
      Placed { device.setState index state with threads := device.threads.set index new } new)
    (unswept : ¬Sweeping device old) (cancels : cancel? new = some .copy) :
    Sound { device.setState index state with threads := device.threads.set index new } := by
  have later : Later device
      { device.setState index state with threads := device.threads.set index new } :=
    ⟨rfl, id, fun _ => stopping, fun _ _ => id, List.Subset.refl _, fun _ => List.Subset.refl _,
      fun _ => outstanding_set found rfl rfl (by rw [plain.owes]; exact Nat.zero_le _)⟩
  apply sound_step sound found rfl
  apply plain_step sound later before plain rfl rfl rfl rfl id (Or.inr (Or.inl free))
  · exact placed later
  · cases already : device.state.stopping with
    | true =>
      exact sweep_step sound found rfl later (by simp [Device.setState, already]) rfl
        fun sweeping => absurd sweeping unswept
    | false =>
      have unfinished : device.swept = false := by
        cases swept : device.swept with
        | false => rfl
        | true => exact absurd (sound.sweep.stopped swept) (by simp [already])
      refine ⟨fun _ => stopping, ?_, ?_, ?_⟩
      · intro finished
        exact absurd finished (by simp [Device.setState, unfinished])
      · exact fun _ => stopping
      · intro _ who flying set
        simp only [Device.setState, already, Bool.false_eq_true, ↓reduceIte, Option.some.injEq,
          Prod.mk.injEq] at set
        exact ⟨new, set.1 ▸ Pool.getElem?_set_self found, .copy, cancels, trivial⟩

/-- A thread is added, perhaps for a submission that is no longer flying. -/
theorem append_sound (thread : Thread) {flying : List Submission} (sound : Sound device)
    (fewer : flying ⊆ device.flying) (debts : flying.length + owes thread = device.flying.length)
    (counted : credit thread = 0) (loose : holds thread = false) (placed : Placed device thread) :
    Sound { device with flying := flying, threads := device.threads ++ [thread] } := by
  have same : outstanding { device with flying := flying, threads := device.threads ++ [thread] } =
      outstanding device := by
    simp only [outstanding, List.map_append, List.map_cons, List.map_nil, List.sum_append,
      List.sum_singleton]
    omega
  have later : Later device
      { device with flying := flying, threads := device.threads ++ [thread] } :=
    ⟨rfl, id, id, fun _ _ => id, List.Subset.refl _, fun _ => fewer, fun _ => Nat.le_of_eq same⟩
  refine ⟨?_, ?_, ?_, ?_, ?_, ?_, ?_⟩
  · rw [same]
    simpa [counted] using sound.balance
  · intro index other there held
    rw [List.getElem?_append] at there
    split at there
    · exact sound.holder index other there held
    · rw [List.getElem?_singleton] at there
      split at there
      · cases there
        rw [loose] at held
        cases held
      · cases there
  · exact fun submission member => sound.tabled submission (fewer member)
  · intro other member
    rcases List.mem_append.mp member with before | now
    · exact placed_later (sound.placed other before) later
    · rw [List.mem_singleton.mp now]
      exact placed_later placed later
  · exact fun fresh => same.trans (sound.unstarted fresh)
  · exact fun freed => quiet_later (sound.freed freed) later
  · obtain ⟨stopping, done, stopped, pending⟩ := sound.sweep
    refine ⟨stopping, fun swept submission member => done swept submission (fewer member),
      stopped, ?_⟩
    intro unfinished who before set
    simp only at set
    obtain ⟨sweeper, there, sweeping⟩ := pending unfinished who before set
    refine ⟨sweeper, ?_, sweeping_later sweeping (stopping (by simp [set])) later⟩
    have inside : who < device.threads.length := (List.getElem?_eq_some_iff.mp there).1
    rw [List.getElem?_append_left inside]
    exact there

/-- `start_streaming` notes that its event thread runs. -/
theorem started_sound (new : Thread) (sound : Sound device)
    (found : device.threads[index]? = some old)
    (before : Plain old) (plain : Plain new) (placed : Placed { device with
      threads := device.threads.set index new, eventThreadStarted := true } new)
    (unswept : ¬Sweeping device old) :
    Sound { device with threads := device.threads.set index new, eventThreadStarted := true } := by
  have later : Later device
      { device with threads := device.threads.set index new, eventThreadStarted := true } :=
    ⟨rfl, fun _ => rfl, id, fun _ _ => id, List.Subset.refl _, fun _ => List.Subset.refl _,
      fun _ => outstanding_set found rfl rfl (by rw [plain.owes]; exact Nat.zero_le _)⟩
  apply sound_step sound found rfl
  apply plain_step sound later before plain rfl rfl rfl rfl nofun (Or.inl ⟨rfl, rfl⟩)
  · exact placed
  · exact sweep_step sound found rfl later rfl rfl fun sweeping => absurd sweeping unswept

/-- The last step of `cancel_transfers`. -/
theorem swept_sound (sound : Sound device) (found : device.threads[index]? = some old)
    (before : Plain old) (plain : Plain new) (placed : Placed device new)
    (finished : cancel? old = some (.each [])) :
    Sound { device with
      threads := device.threads.set index new
      swept := device.swept || device.stopper.any (·.1 = index) } := by
  have later : Later device { device with
      threads := device.threads.set index new
      swept := device.swept || device.stopper.any (·.1 = index) } :=
    ⟨rfl, id, id, fun _ _ => id, List.Subset.refl _, fun _ => List.Subset.refl _,
      fun _ => outstanding_set found rfl rfl (by rw [plain.owes]; exact Nat.zero_le _)⟩
  apply sound_step sound found rfl
  apply plain_step sound later before plain rfl rfl rfl rfl id (Or.inl ⟨rfl, rfl⟩)
  · exact placed_later placed later
  · obtain ⟨stopping, done, stopped, pending⟩ := sound.sweep
    refine ⟨stopping, ?_, ?_, ?_⟩
    · intro swept submission member
      cases earlier : device.swept with
      | true => exact done earlier submission member
      | false =>
        simp only [earlier, Bool.false_or, Option.any_eq_true, decide_eq_true_eq] at swept
        obtain ⟨⟨who, flying⟩, set, rfl⟩ := swept
        obtain ⟨sweeper, there, position, mine, covers⟩ := pending earlier _ flying set
        rw [found, Option.some.injEq] at there
        rw [← there, finished, Option.some.injEq] at mine
        rw [← mine] at covers
        simpa using covers submission member
    · intro swept
      cases earlier : device.swept with
      | true => exact stopped earlier
      | false =>
        simp only [earlier, Bool.false_or, Option.any_eq_true] at swept
        obtain ⟨_, set, _⟩ := swept
        exact stopping (by simp [set])
    · intro unfinished who flying set
      simp only [Bool.or_eq_false_iff] at unfinished
      simp only at set
      have other : who ≠ index := by
        intro mine
        simp [set, mine] at unfinished
      obtain ⟨sweeper, there, sweeping⟩ := pending unfinished.1 who flying set
      refine ⟨sweeper, ?_, sweeping_later sweeping (stopping (by simp [set])) later⟩
      simp only [List.getElem?_set_ne (Ne.symm other)]
      exact there

/-- `stop_streaming` frees the transfers, which it does when nothing is flying. -/
theorem free_sound (sound : Sound device) (found : device.threads[index]? = some (.stop .free)) :
    Sound { device with
      threads := device.threads.set index (.stop .returned)
      transfers := fun _ => false, freed := true } := by
  have quiet : Quiet device := sound.placed _ (List.mem_of_getElem? found)
  have none : device.flying = [] := by
    have zero := quiet.2
    simp only [outstanding] at zero
    exact List.eq_nil_of_length_eq_zero (by omega)
  have later : Later device { device with
      threads := device.threads.set index (.stop .returned)
      transfers := fun _ => false, freed := true } := by
    refine ⟨rfl, id, id, ?_, List.Subset.refl _, fun _ => List.Subset.refl _,
      fun _ => outstanding_set found rfl rfl (Nat.le_refl _)⟩
    intro running
    simp [quiet.1] at running
  apply sound_step sound found rfl
  refine ⟨later, rfl, Or.inl ⟨rfl, rfl⟩, ?_, ?_, quiet_later quiet later, ?_, ?_, ?_⟩
  · intro held
    cases held
  · intro submission member
    simp [none] at member
  · exact fun fresh => ⟨fresh, Nat.le_refl _⟩
  · exact fun _ => quiet_later quiet later
  · refine sweep_step sound found rfl later rfl rfl ?_
    rintro ⟨position, none, _⟩
    cases none

end SianoUserland.TransferInvariant
