import SianoUserland.Errno

/-! Clock readings and the deadlines the program computes from them. -/
namespace SianoUserland

/-- `struct timespec`, always normalised. -/
structure Timespec where
  sec : Int
  nsec : Nat
  small : nsec < 1000000000
  deriving Repr, DecidableEq

namespace Timespec

/-- The reading in nanoseconds. -/
def nanos (time : Timespec) : Int := time.sec * 1000000000 + time.nsec

/-- A reading with `ms` milliseconds added, with the carry of the source. -/
def addMs (time : Timespec) (ms : Nat) : Timespec :=
  let nsec := time.nsec + ms % 1000 * 1000000
  if carries : nsec ≥ 1000000000 then
    { sec := time.sec + (ms / 1000 : Nat) + 1
      nsec := nsec - 1000000000
      small := by
        have := time.small
        have := Nat.mod_lt ms (by decide : 0 < 1000)
        omega }
  else
    { sec := time.sec + (ms / 1000 : Nat)
      nsec := nsec
      small := by omega }

/-- `deadline_remaining_ms`, with the reading of its clock. -/
def remainingMs (now deadline : Timespec) : Nat :=
  let remaining := (deadline.sec - now.sec) * 1000000000 + deadline.nsec - now.nsec
  if remaining ≤ 0 then 0
  else if remaining / 1000000 > 4294967295 then 4294967295
  else (remaining / 1000000).toNat

/-- `deadline_expired` of `tune_internal`. -/
def expired (now deadline : Timespec) : Bool :=
  now.sec > deadline.sec ∨ (now.sec = deadline.sec ∧ now.nsec ≥ deadline.nsec)

/-- The reading that is `nanos` nanoseconds. -/
def ofNanos (nanos : Int) : Timespec where
  sec := nanos / 1000000000
  nsec := (nanos % 1000000000).toNat
  small := by omega

variable {time now deadline : Timespec}

theorem nanos_ofNanos (time : Int) : (ofNanos time).nanos = time := by
  simp only [nanos, ofNanos]
  omega

theorem nanos_addMs (time : Timespec) (ms : Nat) :
    (time.addMs ms).nanos = time.nanos + ms * 1000000 := by
  have parts := Nat.div_add_mod ms 1000
  simp only [addMs]
  split
  · simp only [nanos]
    omega
  · simp only [nanos]
    omega

/-- Less than a millisecond is left exactly when `remainingMs` says none is. -/
theorem remainingMs_eq_zero :
    remainingMs now deadline = 0 ↔ deadline.nanos - now.nanos < 1000000 := by
  unfold remainingMs nanos
  simp only
  split
  · omega
  split
  · omega
  · omega

/-- What is left to a deadline, rounded down to milliseconds and kept within 32 bits. -/
theorem remainingMs_bounds (positive : remainingMs now deadline ≠ 0) :
    remainingMs now deadline = 4294967295 ∨
      deadline.nanos - now.nanos < remainingMs now deadline * 1000000 + 1000000 := by
  unfold remainingMs nanos at *
  simp only at positive ⊢
  split at positive
  · cases positive rfl
  split
  · omega
  split
  · exact Or.inl rfl
  · refine Or.inr ?_
    omega

end Timespec

/-- The clocks a platform may use for condition variables. -/
inductive ClockId where
  | monotonic
  | realtime
  deriving Repr, DecidableEq

/-- The two clocks. They advance at the same rate, so one number relates them: how
far `CLOCK_REALTIME` is ahead, in nanoseconds. -/
structure Clocks where
  offset : Int

/-- `clock_gettime`. An instant is what `CLOCK_MONOTONIC` shows then. -/
def Clocks.read (clocks : Clocks) (instant : Int) : ClockId → Timespec
  | .monotonic => .ofNanos instant
  | .realtime => .ofNanos (instant + clocks.offset)

end SianoUserland
