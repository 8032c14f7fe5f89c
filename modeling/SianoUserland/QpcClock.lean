import Mathlib.Tactic.Ring

/-! `siano-clock.h`: a performance counter as seconds and nanoseconds, by long division in
unsigned 64-bit arithmetic. -/
namespace SianoUserland.QpcClock

/-- What the remainder has to reach for the digit to be at least `candidate`. -/
def threshold (frequency candidate : UInt64) : UInt64 :=
  candidate * (frequency / 10) + (candidate * (frequency % 10) + 9) / 10

/-- The search for one digit, with `left` more candidates before it is nine. -/
def findDigit (frequency remainder : UInt64) : Nat → UInt32 → UInt32
  | 0, digit => digit
  | left + 1, digit =>
    if remainder < threshold frequency (digit.toUInt64 + 1) then digit
    else findDigit frequency remainder left (digit + 1)

/-- The locals of the division. -/
structure Division where
  remainder : UInt64
  nanoseconds : UInt64 := 0
  deriving Repr, DecidableEq

/-- One digit. -/
def divide (frequency : UInt64) (division : Division) : Division :=
  let digit := findDigit frequency division.remainder 9 0
  { nanoseconds := division.nanoseconds * 10 + digit.toUInt64
    remainder := (division.remainder - digit.toUInt64 * (frequency / 10)) * 10 -
      digit.toUInt64 * (frequency % 10) }

/-- `siano_qpc_to_timespec`: the seconds before they become a `time_t`, and the nanoseconds. -/
def qpcToTimespec (counter frequency : UInt64) : Option (UInt64 × UInt64) :=
  if frequency = 0 then none
  else some (counter / frequency,
    (Nat.repeat (divide frequency) 9 { remainder := counter % frequency }).nanoseconds)

variable {frequency remainder candidate : UInt64}

/-- A threshold is the product it stands for, rounded up to a tenth. -/
theorem threshold_toNat (frequency : UInt64) (small : candidate.toNat ≤ 9) :
    (threshold frequency candidate).toNat = candidate.toNat * (frequency.toNat / 10) +
      (candidate.toNat * (frequency.toNat % 10) + 9) / 10 := by
  have bound := frequency.toNat_lt
  have whole : candidate.toNat * (frequency.toNat / 10) ≤ 9 * (frequency.toNat / 10) :=
    Nat.mul_le_mul_right _ small
  have part : candidate.toNat * (frequency.toNat % 10) ≤ 9 * 9 :=
    Nat.mul_le_mul small (by omega)
  simp only [threshold, UInt64.toNat_add, UInt64.toNat_mul, UInt64.toNat_div, UInt64.toNat_mod,
    UInt64.reduceToNat]
  omega

/-- The comparison with a threshold is the one with the multiple of the frequency. -/
theorem lt_threshold_iff (small : candidate.toNat ≤ 9) :
    remainder < threshold frequency candidate ↔
      10 * remainder.toNat < candidate.toNat * frequency.toNat := by
  have parts : candidate.toNat * frequency.toNat =
      10 * (candidate.toNat * (frequency.toNat / 10)) +
        candidate.toNat * (frequency.toNat % 10) := by
    conv_lhs => rw [← Nat.div_add_mod frequency.toNat 10]
    ring
  rw [UInt64.lt_iff_toNat_lt, threshold_toNat frequency small, parts]
  omega

/-- The search stops at the quotient. -/
theorem findDigit_toNat (below : remainder < frequency) (left : Nat) (digit : UInt32)
    (range : digit.toNat + left = 9)
    (reached : digit.toNat * frequency.toNat ≤ 10 * remainder.toNat) :
    (findDigit frequency remainder left digit).toNat =
      10 * remainder.toNat / frequency.toNat := by
  have inside : remainder.toNat < frequency.toNat := UInt64.lt_iff_toNat_lt.mp below
  induction left generalizing digit with
  | zero =>
    have nine : digit.toNat = 9 := by omega
    rw [nine] at reached
    rw [findDigit, nine]
    refine (Nat.div_eq_of_lt_le reached ?_).symm
    omega
  | succ left hypothesis =>
    have next : (digit.toUInt64 + 1).toNat = digit.toNat + 1 := by
      simp only [UInt64.toNat_add, UInt32.toNat_toUInt64, UInt64.reduceToNat]
      omega
    have small : (digit.toUInt64 + 1).toNat ≤ 9 := by omega
    rw [findDigit]
    by_cases stops : remainder < threshold frequency (digit.toUInt64 + 1)
    · rw [if_pos stops]
      rw [lt_threshold_iff small, next] at stops
      exact (Nat.div_eq_of_lt_le reached stops).symm
    · rw [if_neg stops]
      rw [lt_threshold_iff small, next, Nat.not_lt] at stops
      have later : (digit + 1).toNat = digit.toNat + 1 := by
        simp only [UInt32.toNat_add, UInt32.reduceToNat]
        omega
      exact hypothesis (digit + 1) (by omega) (by rw [later]; exact stops)

/-- One digit of the quotient is appended, and what is left is again below the frequency. The
product with ten may wrap, but the subtraction takes it back. -/
theorem divide_spec (division : Division) (below : division.remainder < frequency)
    (room : division.nanoseconds.toNat < 10 ^ 8) :
    let digit := 10 * division.remainder.toNat / frequency.toNat
    (divide frequency division).nanoseconds.toNat = division.nanoseconds.toNat * 10 + digit ∧
      (divide frequency division).remainder.toNat =
        10 * division.remainder.toNat % frequency.toNat := by
  intro digit
  have inside : division.remainder.toNat < frequency.toNat := UInt64.lt_iff_toNat_lt.mp below
  have found : (findDigit frequency division.remainder 9 0).toNat = digit :=
    findDigit_toNat below 9 0 rfl (by simp)
  have nine : digit ≤ 9 := by
    refine Nat.le_of_lt_succ (Nat.div_lt_of_lt_mul ?_)
    omega
  have split := Nat.div_add_mod (10 * division.remainder.toNat) frequency.toNat
  have rest := Nat.mod_lt (10 * division.remainder.toNat) (Nat.zero_lt_of_lt inside)
  have parts : frequency.toNat * digit =
      10 * (digit * (frequency.toNat / 10)) + digit * (frequency.toNat % 10) := by
    conv_lhs => rw [← Nat.div_add_mod frequency.toNat 10]
    ring
  have low : digit * (frequency.toNat % 10) ≤ 9 * 9 := Nat.mul_le_mul nine (by omega)
  have bound := frequency.toNat_lt
  change frequency.toNat * digit + _ = _ at split
  refine ⟨?_, ?_⟩
  · simp only [divide, UInt64.toNat_add, UInt64.toNat_mul, UInt32.toNat_toUInt64, found,
      UInt64.reduceToNat]
    omega
  · simp only [divide, UInt64.toNat_sub, UInt64.toNat_mul, UInt64.toNat_div, UInt64.toNat_mod,
      UInt32.toNat_toUInt64, found, UInt64.reduceToNat]
    omega

/-- After some digits: the quotient so far, and its remainder. -/
theorem repeat_divide (below : remainder < frequency) (digits : Nat) (few : digits ≤ 9) :
    let division := Nat.repeat (divide frequency) digits { remainder := remainder }
    division.nanoseconds.toNat = 10 ^ digits * remainder.toNat / frequency.toNat ∧
      division.remainder.toNat = 10 ^ digits * remainder.toNat % frequency.toNat := by
  have inside : remainder.toNat < frequency.toNat := UInt64.lt_iff_toNat_lt.mp below
  have positive : 0 < frequency.toNat := Nat.zero_lt_of_lt inside
  induction digits with
  | zero =>
    simp only [Nat.repeat, Nat.pow_zero, Nat.one_mul]
    exact ⟨(Nat.div_eq_of_lt inside).symm, (Nat.mod_eq_of_lt inside).symm⟩
  | succ digits hypothesis =>
    obtain ⟨quotient, rest⟩ := hypothesis (by omega)
    have room : 10 ^ digits * remainder.toNat / frequency.toNat < 10 ^ 8 := by
      have power : 10 ^ digits ≤ 10 ^ 8 := Nat.pow_le_pow_right (by decide) (by omega)
      refine Nat.lt_of_lt_of_le (Nat.div_lt_of_lt_mul ?_) power
      rw [Nat.mul_comm frequency.toNat]
      exact Nat.mul_lt_mul_of_pos_left inside (Nat.pow_pos (by decide))
    have reduced : (Nat.repeat (divide frequency) digits { remainder := remainder }).remainder <
        frequency := by
      rw [UInt64.lt_iff_toNat_lt, rest]
      exact Nat.mod_lt _ positive
    obtain ⟨appended, left⟩ := divide_spec _ reduced (by rw [quotient]; exact room)
    have shifted : 10 ^ (digits + 1) * remainder.toNat =
        frequency.toNat * (10 ^ digits * remainder.toNat / frequency.toNat * 10) +
          10 * (10 ^ digits * remainder.toNat % frequency.toNat) := by
      have parts := Nat.div_add_mod (10 ^ digits * remainder.toNat) frequency.toNat
      calc 10 ^ (digits + 1) * remainder.toNat
          = 10 * (10 ^ digits * remainder.toNat) := by ring
        _ = 10 * (frequency.toNat * (10 ^ digits * remainder.toNat / frequency.toNat) +
              10 ^ digits * remainder.toNat % frequency.toNat) := by rw [parts]
        _ = _ := by ring
    refine ⟨?_, ?_⟩
    · rw [Nat.repeat, appended, quotient, rest, shifted, Nat.mul_add_div positive]
    · rw [Nat.repeat, left, rest, shifted, Nat.mul_add_mod]

/-- The reading of a counter in whole nanoseconds grows with the counter. -/
theorem reading_mono (frequency : Nat) {earlier later : Nat} (order : earlier ≤ later) :
    earlier / frequency < later / frequency ∨
      earlier / frequency = later / frequency ∧
        earlier % frequency * 10 ^ 9 / frequency ≤ later % frequency * 10 ^ 9 / frequency := by
  rcases Nat.lt_or_eq_of_le (Nat.div_le_div_right (c := frequency) order) with less | same
  · exact Or.inl less
  · refine Or.inr ⟨same, Nat.div_le_div_right (Nat.mul_le_mul_right _ ?_)⟩
    have first := Nat.div_add_mod earlier frequency
    have second := Nat.div_add_mod later frequency
    rw [same] at first
    omega

/-- The result of the conversion: seconds and nanoseconds of the quotient, rounded down. -/
structure Exact (counter frequency seconds nanoseconds : UInt64) : Prop where
  quotient : seconds.toNat = counter.toNat / frequency.toNat
  fraction : nanoseconds.toNat = counter.toNat % frequency.toNat * 10 ^ 9 / frequency.toNat
  small : nanoseconds.toNat < 10 ^ 9

theorem qpcToTimespec_exact (counter : UInt64) (nonzero : frequency ≠ 0) :
    ∃ seconds nanoseconds, qpcToTimespec counter frequency = some (seconds, nanoseconds) ∧
      Exact counter frequency seconds nanoseconds := by
  have positive : 0 < frequency.toNat :=
    Nat.pos_of_ne_zero fun zero => nonzero (UInt64.toNat_inj.mp zero)
  have inside := Nat.mod_lt counter.toNat positive
  have below : counter % frequency < frequency := by
    rw [UInt64.lt_iff_toNat_lt, UInt64.toNat_mod]
    exact inside
  obtain ⟨quotient, -⟩ := repeat_divide below 9 (Nat.le_refl _)
  rw [UInt64.toNat_mod, Nat.mul_comm] at quotient
  refine ⟨_, _, if_neg nonzero, UInt64.toNat_div .., quotient, ?_⟩
  rw [quotient]
  refine Nat.div_lt_of_lt_mul ?_
  exact Nat.mul_lt_mul_of_pos_right inside (by decide)

/-- **The conversion is exact.** For every counter and every frequency but zero it gives the
seconds and nanoseconds of the quotient; a later counter gives no earlier reading; and no
threshold of a digit wraps. -/
theorem qpc_to_timespec_exact (frequency : UInt64) (nonzero : frequency ≠ 0) :
    (∀ counter, ∃ seconds nanoseconds,
      qpcToTimespec counter frequency = some (seconds, nanoseconds) ∧
        Exact counter frequency seconds nanoseconds) ∧
    (∀ earlier later first firstPart second secondPart, earlier ≤ later →
      qpcToTimespec earlier frequency = some (first, firstPart) →
      qpcToTimespec later frequency = some (second, secondPart) →
        first < second ∨ first = second ∧ firstPart ≤ secondPart) ∧
    ∀ candidate : UInt64, candidate.toNat ≤ 9 →
      (threshold frequency candidate).toNat = candidate.toNat * (frequency.toNat / 10) +
        (candidate.toNat * (frequency.toNat % 10) + 9) / 10 := by
  refine ⟨fun counter => qpcToTimespec_exact counter nonzero, ?_,
    fun candidate small => threshold_toNat frequency small⟩
  intro earlier later first firstPart second secondPart order before after
  obtain ⟨_, _, result, exactly⟩ := qpcToTimespec_exact earlier nonzero
  cases result.symm.trans before
  obtain ⟨_, _, result, exactlyLater⟩ := qpcToTimespec_exact later nonzero
  cases result.symm.trans after
  rw [UInt64.lt_iff_toNat_lt, UInt64.le_iff_toNat_le, ← UInt64.toNat_inj, exactly.quotient,
    exactlyLater.quotient, exactly.fraction, exactlyLater.fraction]
  exact reading_mono frequency.toNat (UInt64.le_iff_toNat_le.mp order)

theorem qpc_to_timespec_largest :
    qpcToTimespec 0xfffffffffffffffe 0xffffffffffffffff = some (0, 999999999) ∧
      Exact 0xfffffffffffffffe 0xffffffffffffffff 0 999999999 := by
  obtain ⟨seconds, nanoseconds, result, exactly⟩ :=
    (qpc_to_timespec_exact 0xffffffffffffffff (by decide)).1 0xfffffffffffffffe
  have evaluated :
      qpcToTimespec 0xfffffffffffffffe 0xffffffffffffffff = some (0, 999999999) := by
    decide +kernel
  cases result.symm.trans evaluated
  exact ⟨evaluated, exactly⟩

end SianoUserland.QpcClock
