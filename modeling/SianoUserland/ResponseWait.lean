import SianoUserland.Clock

/-! `wait_response_until` of `siano-device.c` under the deadline of
`tune_with_timeout`. The deadline is a reading of `CLOCK_MONOTONIC`; the wait
measures it against the clock of its condition variable, which is
`CLOCK_REALTIME` on some platforms. -/
namespace SianoUserland.ResponseWait

/-- What the loop of `wait_response_until` tests. -/
structure Seen where
  /-- `response_count[type]`. -/
  count : Nat
  stopRequested : Bool := false
  /-- `siano_stream_state_error`. -/
  error : Int := 0
  deriving Repr, DecidableEq

/-- A return of `pthread_cond_timedwait`. -/
structure Wake where
  instant : Int
  timedOut : Bool
  seen : Seen
  deriving Repr, DecidableEq

/-- What one call of `wait_response_until` finds, and when. -/
structure Wait where
  /-- The first `deadline_remaining_ms`. -/
  checked : Int
  /-- `cond_deadline_from_now`. -/
  armed : Int
  seen : Seen
  wakes : List Wake := []
  /-- The last `deadline_remaining_ms`. -/
  final : Int

/-- The loop: what it saw last, and whether it was timed out. -/
def waitLoop (seen : Seen) : List Wake → Option (Seen × Bool)
  | [] =>
    if seen.count = 0 ∧ seen.stopRequested = false ∧ seen.error = 0 then none
    else some (seen, false)
  | wake :: rest =>
    if seen.count = 0 ∧ seen.stopRequested = false ∧ seen.error = 0 then
      if wake.timedOut then some (wake.seen, true) else waitLoop wake.seen rest
    else some (seen, false)

/-- `wait_response_until`: its result and the count it leaves. -/
def waitResponseUntil (condClock : ClockId) (clocks : Clocks) (deadline : Timespec) (wait : Wait) :
    Option (Int × Nat) :=
  if Timespec.remainingMs (clocks.read wait.checked condClock) deadline = 0 then
    some (-Errno.timedout, wait.seen.count)
  else
    (waitLoop wait.seen wait.wakes).map fun (seen, timedOut) =>
      if seen.count ≠ 0 ∧ Timespec.remainingMs (clocks.read wait.final condClock) deadline ≠ 0 then
        (0, seen.count - 1)
      else if seen.count ≠ 0 then (-Errno.timedout, seen.count)
      else if seen.stopRequested then (-Errno.intr, seen.count)
      else if seen.error < 0 then (seen.error, seen.count)
      else if timedOut then (-Errno.timedout, seen.count)
      else (-Errno.io, seen.count)

/-- When the call returned: at its first check, or at its last. -/
def returnedAt (condClock : ClockId) (clocks : Clocks) (deadline : Timespec) (wait : Wait) : Int :=
  if Timespec.remainingMs (clocks.read wait.checked condClock) deadline = 0 then wait.checked
  else wait.final

/-- The deadline of `tune_internal` for a call that begins at `begun`. -/
def tuneDeadline (clocks : Clocks) (begun : Int) (timeoutMs : Nat) : Timespec :=
  (clocks.read begun .monotonic).addMs timeoutMs

/-- What clocks and condition variables promise. Instants do not run backwards, and a
wait is timed out only once its clock has reached the time it was armed for. -/
structure Proper (condClock : ClockId) (clocks : Clocks) (deadline : Timespec) (begun : Int)
    (wait : Wait) : Prop where
  begun : begun ≤ wait.checked
  armed : wait.checked ≤ wait.armed
  wakes : ∀ wake ∈ wait.wakes, wait.armed ≤ wake.instant ∧ wake.instant ≤ wait.final
  final : wait.armed ≤ wait.final
  timedOut : ∀ wake ∈ wait.wakes, wake.timedOut = true →
    ((clocks.read wait.armed condClock).addMs
      (Timespec.remainingMs (clocks.read wait.checked condClock) deadline)).nanos ≤
        (clocks.read wake.instant condClock).nanos

/-- Neither a stop request nor a stream error interferes. -/
def Undisturbed (wait : Wait) : Prop :=
  (wait.seen.stopRequested = false ∧ wait.seen.error = 0) ∧
    ∀ wake ∈ wait.wakes, wake.seen.stopRequested = false ∧ wake.seen.error = 0

/-- The wait goes by the interval that was asked for, measured on the clock its
deadline was read from. A response that is there by the last check, with a
millisecond left at both checks, is consumed; and the wait times out only when less
than a millisecond is left. -/
structure KeepsTime (condClock : ClockId) (clocks : Clocks) (timeoutMs : Nat) : Prop where
  answered : ∀ begun wait,
    Proper condClock clocks (tuneDeadline clocks begun timeoutMs) begun wait →
    Undisturbed wait → ∀ seen timedOut, waitLoop wait.seen wait.wakes = some (seen, timedOut) →
      seen.count ≠ 0 →
      1000000 ≤ (tuneDeadline clocks begun timeoutMs).nanos - wait.checked →
      1000000 ≤ (tuneDeadline clocks begun timeoutMs).nanos - wait.final →
        waitResponseUntil condClock clocks (tuneDeadline clocks begun timeoutMs) wait =
          some (0, seen.count - 1)
  timesOut : ∀ begun wait,
    Proper condClock clocks (tuneDeadline clocks begun timeoutMs) begun wait →
    Undisturbed wait → ∀ count,
      waitResponseUntil condClock clocks (tuneDeadline clocks begun timeoutMs) wait =
        some (-Errno.timedout, count) →
      (tuneDeadline clocks begun timeoutMs).nanos -
        returnedAt condClock clocks (tuneDeadline clocks begun timeoutMs) wait < 1000000

/-- How far a clock is ahead of the one the deadline was read from. -/
def lead (clocks : Clocks) : ClockId → Int
  | .monotonic => 0
  | .realtime => clocks.offset

variable {condClock : ClockId} {clocks : Clocks} {deadline : Timespec} {begun : Int} {wait : Wait}
  {timeoutMs : Nat}

theorem nanos_read (clocks : Clocks) (instant : Int) (id : ClockId) :
    (clocks.read instant id).nanos = instant + lead clocks id := by
  cases id with
  | monotonic => simp [Clocks.read, lead, Timespec.nanos_ofNanos]
  | realtime => simp [Clocks.read, lead, Timespec.nanos_ofNanos]

theorem nanos_tuneDeadline (clocks : Clocks) (begun : Int) (timeoutMs : Nat) :
    (tuneDeadline clocks begun timeoutMs).nanos = begun + timeoutMs * 1000000 := by
  rw [tuneDeadline, Timespec.nanos_addMs, nanos_read]
  simp [lead]

/-- A check finds no time left exactly when its clock is within a millisecond of the
deadline, or past it. -/
theorem remainingMs_read (instant : Int) :
    Timespec.remainingMs (clocks.read instant condClock) deadline = 0 ↔
      deadline.nanos - instant < 1000000 + lead clocks condClock := by
  rw [Timespec.remainingMs_eq_zero, nanos_read]
  omega

theorem waitLoop_timedOut (waited : waitLoop seen wakes = some (last, true)) :
    ∃ wake ∈ wakes, wake.timedOut = true := by
  induction wakes generalizing seen with
  | nil =>
    simp only [waitLoop] at waited
    split at waited
    · cases waited
    · cases waited
  | cons wake rest ih =>
    simp only [waitLoop] at waited
    split at waited
    · split at waited
      · rename_i timedOut
        exact ⟨wake, List.mem_cons_self, timedOut⟩
      · obtain ⟨later, member, timedOut⟩ := ih waited
        exact ⟨later, List.mem_cons_of_mem _ member, timedOut⟩
    · cases waited

theorem waitLoop_undisturbed
    (first : seen.stopRequested = false ∧ seen.error = 0)
    (others : ∀ wake ∈ wakes, wake.seen.stopRequested = false ∧ wake.seen.error = 0)
    (waited : waitLoop seen wakes = some (last, timedOut)) :
    last.stopRequested = false ∧ last.error = 0 := by
  induction wakes generalizing seen with
  | nil =>
    simp only [waitLoop] at waited
    split at waited
    · cases waited
    · cases waited
      exact first
  | cons wake rest ih =>
    simp only [waitLoop] at waited
    split at waited
    · split at waited
      · cases waited
        exact others wake List.mem_cons_self
      · exact ih (others wake List.mem_cons_self)
          (fun later member => others later (List.mem_cons_of_mem _ member)) waited
    · cases waited
      exact first

/-- A wait that was timed out has used up its interval, unless its clock is ahead. -/
theorem timedOut_late (proper : Proper condClock clocks deadline begun wait)
    (interval : deadline.nanos = begun + timeoutMs * 1000000) (fits : timeoutMs < 4294967296)
    (behind : lead clocks condClock ≤ 0)
    (left : Timespec.remainingMs (clocks.read wait.checked condClock) deadline ≠ 0)
    (waited : waitLoop wait.seen wait.wakes = some (last, true)) :
    deadline.nanos - wait.final < 1000000 := by
  obtain ⟨wake, member, timedOut⟩ := waitLoop_timedOut waited
  obtain ⟨_, before⟩ := proper.wakes wake member
  have reached := proper.timedOut wake member timedOut
  rw [Timespec.nanos_addMs, nanos_read, nanos_read] at reached
  have begins := proper.begun
  have arms := proper.armed
  rcases Timespec.remainingMs_bounds left with clamped | whole
  · rw [clamped] at reached
    omega
  · rw [nanos_read] at whole
    omega

theorem keepsTime_of_behind (fits : timeoutMs < 4294967296) (behind : lead clocks condClock ≤ 0) :
    KeepsTime condClock clocks timeoutMs := by
  refine ⟨?_, ?_⟩
  · intro begun wait _ _ seen timedOut waited counted atFirst atLast
    have first : Timespec.remainingMs (clocks.read wait.checked condClock)
        (tuneDeadline clocks begun timeoutMs) ≠ 0 := by
      rw [ne_eq, remainingMs_read]
      omega
    have last : Timespec.remainingMs (clocks.read wait.final condClock)
        (tuneDeadline clocks begun timeoutMs) ≠ 0 := by
      rw [ne_eq, remainingMs_read]
      omega
    rw [waitResponseUntil, if_neg first, waited]
    simp [counted, last]
  · intro begun wait proper undisturbed count returned
    unfold waitResponseUntil at returned
    unfold returnedAt
    split at returned
    · rename_i none
      rw [if_pos none]
      rw [remainingMs_read] at none
      omega
    · rename_i some
      rw [if_neg some]
      obtain ⟨⟨last, timedOut⟩, waited, result⟩ := Option.map_eq_some_iff.mp returned
      obtain ⟨going, intact⟩ := waitLoop_undisturbed undisturbed.1 undisturbed.2 waited
      simp only [going, intact, Bool.false_eq_true, Int.lt_irrefl, ↓reduceIte] at result
      split at result
      · cases result
      split at result
      · rename_i late counted
        have none : Timespec.remainingMs (clocks.read wait.final condClock)
            (tuneDeadline clocks begun timeoutMs) = 0 :=
          Decidable.byContradiction fun some => late ⟨counted, some⟩
        rw [remainingMs_read] at none
        omega
      split at result
      · rename_i expired
        rw [expired] at waited
        exact timedOut_late proper (nanos_tuneDeadline clocks begun timeoutMs) fits behind some
          waited
      · cases result

/-- A clock that is ahead ends a wait that has a whole millisecond left. -/
theorem behind_of_keepsTime (asked : 1 ≤ timeoutMs) (keeps : KeepsTime condClock clocks timeoutMs) :
    lead clocks condClock ≤ 0 := by
  apply Int.not_lt.mp
  intro ahead
  let instant : Int := (timeoutMs - 1) * 1000000
  let wait : Wait :=
    { checked := instant, armed := instant, seen := { count := 1 }, final := instant }
  have deadline := nanos_tuneDeadline clocks 0 timeoutMs
  have proper : Proper condClock clocks (tuneDeadline clocks 0 timeoutMs) 0 wait := by
    refine ⟨?_, Int.le_refl _, ?_, Int.le_refl _, ?_⟩
    · simp only [wait, instant]
      omega
    · simp [wait]
    · simp [wait]
  have none : Timespec.remainingMs (clocks.read wait.checked condClock)
      (tuneDeadline clocks 0 timeoutMs) = 0 := by
    rw [remainingMs_read]
    simp only [wait, instant]
    omega
  have early := keeps.timesOut 0 wait proper ⟨⟨rfl, rfl⟩, by simp [wait]⟩ 1
    (by rw [waitResponseUntil, if_pos none])
  rw [returnedAt, if_pos none] at early
  simp only [wait, instant] at early
  omega

/-- **When the wait keeps the time of its deadline.** For every timeout, a tune's wait
for its response goes by the interval that was asked for exactly when the clock of
the condition variable is the one of the deadline, or is not ahead of it. -/
theorem wait_keeps_time_iff (condClock : ClockId) (clocks : Clocks) (timeoutMs : Nat)
    (asked : 1 ≤ timeoutMs) (fits : timeoutMs < 4294967296) :
    KeepsTime condClock clocks timeoutMs ↔ condClock = .monotonic ∨ clocks.offset ≤ 0 := by
  have behind : lead clocks condClock ≤ 0 ↔ condClock = .monotonic ∨ clocks.offset ≤ 0 := by
    cases condClock with
    | monotonic => simp [lead]
    | realtime => simp [lead]
  rw [← behind]
  exact ⟨behind_of_keepsTime asked, keepsTime_of_behind fits⟩

/-- On Linux a wait that has its response is kept by the interval it was given. -/
theorem wait_keeps_time_monotonic :
    waitResponseUntil .monotonic ⟨1700000000000000000⟩
        (tuneDeadline ⟨1700000000000000000⟩ 0 10000)
        { checked := 0, armed := 0, seen := { count := 1 }, final := 0 } = some (0, 0) := by
  have keeps := (wait_keeps_time_iff .monotonic ⟨1700000000000000000⟩ 10000 (by decide)
    (by decide)).mpr (Or.inl rfl)
  exact keeps.answered 0 { checked := 0, armed := 0, seen := { count := 1 }, final := 0 }
    ⟨by decide, by decide, by simp, by decide, by simp⟩ ⟨⟨rfl, rfl⟩, by simp⟩ _ _ rfl (by decide)
    (by decide) (by decide)

/-- With the condition variable on a `CLOCK_REALTIME` of November 2023, a tune with ten
seconds left and its response counted is timed out at once. -/
theorem realtime_wait_gives_up :
    waitResponseUntil .realtime ⟨1700000000000000000⟩
        (tuneDeadline ⟨1700000000000000000⟩ 0 10000)
        { checked := 0, armed := 0, seen := { count := 1 }, final := 0 } =
          some (-Errno.timedout, 1) ∧
      Proper .realtime ⟨1700000000000000000⟩ (tuneDeadline ⟨1700000000000000000⟩ 0 10000) 0
        { checked := 0, armed := 0, seen := { count := 1 }, final := 0 } ∧
      (tuneDeadline ⟨1700000000000000000⟩ 0 10000).nanos = 10000 * 1000000 :=
  ⟨by decide, ⟨by decide, by decide, by simp, by decide, by simp⟩, by decide⟩

end SianoUserland.ResponseWait
