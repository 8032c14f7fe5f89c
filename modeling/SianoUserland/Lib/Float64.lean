import Mathlib.Tactic.Positivity
import SianoUserland.Lib.Utf8

/-! Floating point numbers of 64 bits: the one a decimal rounds to and the shortest decimal
that reads back as a number. -/
namespace SianoUserland
open Text

/-- The magnitude of a finite number: `significand · 2 ^ (shift - 1074)`. Subnormal numbers
have no shift and all others a full significand, so that a magnitude has one form. -/
structure Magnitude where
  significand : Nat
  shift : Nat
  small : significand < 2 ^ 53
  bounded : shift ≤ 2045
  full : 0 < shift → 2 ^ 52 ≤ significand
  deriving DecidableEq

/-- A number as a decimal literal can denote it. -/
inductive Float64
  | finite (negative : Bool) (magnitude : Magnitude)
  | infinite (negative : Bool)
  deriving DecidableEq

namespace Float64

/-! ### Reading -/

/-- Division to the nearest integer, halfway to the even one. -/
def roundHalfEven (numerator denominator : Nat) : Nat :=
  let quotient := numerator / denominator
  let twice := 2 * (numerator % denominator)
  if twice < denominator then quotient
  else if denominator < twice then quotient + 1
  else quotient + quotient % 2

theorem le_roundHalfEven (numerator denominator : Nat) :
    numerator / denominator ≤ roundHalfEven numerator denominator := by
  unfold roundHalfEven
  dsimp only
  split
  · omega
  · split <;> omega

/-- The shift that leaves 53 bits of a magnitude in units of the least one. -/
def shiftOf (units : Nat) : Nat := units.log2 + 1 - 53

theorem full_of_shift (numerator denominator : Nat)
    (shifted : 0 < shiftOf (numerator / denominator)) :
    2 ^ 52 ≤ roundHalfEven numerator (denominator * 2 ^ shiftOf (numerator / denominator)) := by
  refine le_trans ?_ (le_roundHalfEven _ _)
  have exponent : 52 + shiftOf (numerator / denominator) = (numerator / denominator).log2 := by
    unfold shiftOf at *
    omega
  have nonzero : numerator / denominator ≠ 0 := by
    intro zero
    rw [zero] at shifted
    exact absurd shifted (by decide)
  rw [← Nat.div_div_eq_div_mul, Nat.le_div_iff_mul_le (by positivity), ← pow_add, exponent]
  exact Nat.log2_self_le nonzero

/-- The number nearest to a ratio. -/
def ofRatio (negative : Bool) (numerator denominator : Nat) : Float64 :=
  let units := numerator * 2 ^ 1074
  let shift := shiftOf (units / denominator)
  let significand := roundHalfEven units (denominator * 2 ^ shift)
  if bounded : shift ≤ 2045 then
    if small : significand < 2 ^ 53 then
      .finite negative ⟨significand, shift, small, bounded, full_of_shift units denominator⟩
    else if carried : shift + 1 ≤ 2045 then
      .finite negative ⟨2 ^ 52, shift + 1, by decide, carried, fun _ => le_refl _⟩
    else .infinite negative
  else .infinite negative

/-- The number nearest to `digits · 10 ^ exponent`. -/
def ofDecimal (negative : Bool) (digits : Nat) (exponent : Int) : Float64 :=
  if 0 ≤ exponent then ofRatio negative (digits * 10 ^ exponent.toNat) 1
  else ofRatio negative digits (10 ^ (-exponent).toNat)

/-! ### Comparing -/

/-- The value in units of the least magnitude. -/
def units (negative : Bool) (magnitude : Magnitude) : Int :=
  let size : Int := magnitude.significand * 2 ^ magnitude.shift
  if negative then -size else size

/-- Equality of values: the two zeros are equal. -/
def eq : Float64 → Float64 → Bool
  | .finite negative magnitude, .finite other otherMagnitude =>
    units negative magnitude = units other otherMagnitude
  | .infinite negative, .infinite other => negative = other
  | _, _ => false

/-- Equality with an integer, exact at every size. -/
def eqInt : Float64 → Int → Bool
  | .finite negative magnitude, value => units negative magnitude = value * 2 ^ 1074
  | .infinite _, _ => false

theorem shift_le {left right : Magnitude}
    (same : left.significand * 2 ^ left.shift = right.significand * 2 ^ right.shift) :
    right.shift ≤ left.shift := by
  by_contra less
  obtain ⟨step, shape⟩ := Nat.exists_eq_add_of_lt (Nat.not_le.mp less)
  have full := right.full (by omega)
  have small := left.small
  rw [shape, show left.shift + step + 1 = left.shift + (step + 1) by rfl, pow_add,
    ← mul_assoc, mul_right_comm] at same
  have scaled := Nat.eq_of_mul_eq_mul_right (by positivity) same
  have twice : 2 ≤ 2 ^ (step + 1) := by
    rw [pow_succ]
    have := Nat.one_le_two_pow (n := step)
    omega
  have := Nat.mul_le_mul full twice
  omega

/-- A magnitude has one form. -/
theorem magnitude_ext {left right : Magnitude}
    (same : left.significand * 2 ^ left.shift = right.significand * 2 ^ right.shift) :
    left = right := by
  have shifts : left.shift = right.shift := Nat.le_antisymm (shift_le same.symm) (shift_le same)
  rw [shifts] at same
  have significands := Nat.eq_of_mul_eq_mul_right (by positivity) same
  cases left
  cases right
  simp_all

/-- Numbers with one value are the same but for the sign of a zero. -/
theorem eq_cases {left right : Float64} (same : eq left right = true) :
    left = right ∨ ∃ magnitude : Magnitude, magnitude.significand = 0 ∧
      ∃ negative, left = .finite negative magnitude ∧ right = .finite (!negative) magnitude := by
  cases left with
  | infinite negative =>
    cases right with
    | infinite other => simp_all [eq]
    | finite other magnitude => cases same
  | finite negative magnitude =>
    cases right with
    | infinite other => cases same
    | finite other otherMagnitude =>
      have same : units negative magnitude = units other otherMagnitude := by
        simpa [eq] using same
      have sizes : magnitude = otherMagnitude := by
        apply magnitude_ext
        have absolute := congrArg Int.natAbs same
        unfold units at absolute
        cases negative <;> cases other <;> simpa [Int.natAbs_mul, Int.natAbs_pow] using absolute
      subst sizes
      by_cases signs : negative = other
      · exact Or.inl (by rw [signs])
      · obtain rfl : other = !negative := Bool.eq_not_of_ne (Ne.symm signs)
        refine Or.inr ⟨magnitude, ?_, negative, rfl, rfl⟩
        have zero : (magnitude.significand : Int) * 2 ^ magnitude.shift = 0 := by
          unfold units at same
          generalize (magnitude.significand : Int) * 2 ^ magnitude.shift = size at same ⊢
          cases negative <;>
            simp only [Bool.not_false, Bool.not_true, Bool.false_eq_true, ↓reduceIte] at same <;>
            omega
        simpa using zero

/-! ### Writing -/

/-- The decimal digits of a natural number. -/
def digits (number : Nat) : Str := (Nat.toDigits 10 number).map Char.toNat

variable (magnitude : Magnitude)

/-- `magnitude / 10 ^ exponent` as a ratio. -/
def scaled (exponent : Int) : Nat × Nat :=
  let numerator := magnitude.significand * 2 ^ magnitude.shift
  if 0 ≤ exponent then (numerator, 2 ^ 1074 * 10 ^ exponent.toNat)
  else (numerator * 10 ^ (-exponent).toNat, 2 ^ 1074)

/-- The place of the decimal point before the first digit that is not zero. No magnitude
is less than `10 ^ (-400)`. -/
def pointPlace : Int :=
  let ratio := scaled magnitude (-400)
  ((digits (ratio.1 / ratio.2)).length : Int) - 400

/-- The nearest decimal of that many digits that reads back, the even one of two. -/
def readsBack (count : Nat) : Option (Nat × Int) :=
  let exponent := pointPlace magnitude - count
  let ratio := scaled magnitude exponent
  let low := ratio.1 / ratio.2
  let reads (decimal : Nat) : Bool :=
    ofDecimal false decimal exponent = .finite false magnitude
  let near := roundHalfEven ratio.1 ratio.2
  let far := if near = low then low + 1 else low
  if reads near then some (near, exponent)
  else if reads far then some (far, exponent)
  else none

/-- The shortest decimal that reads back. Seventeen digits always do. -/
def shortest : Nat × Int :=
  ((List.range 17).findSome? fun count => readsBack magnitude (count + 1)).getD (0, 0)

/-- The digits of the shortest decimal without zeros at its end, and where the point
stands before them. -/
def shortestDigits : Str × Int :=
  let decimal := shortest magnitude
  let all := digits decimal.1
  ((all.reverse.dropWhile (· = 0x30)).reverse, all.length + decimal.2)

/-- Digits with a point inside, before or after them. -/
def fixed (text : Str) (place : Int) : Str :=
  if place ≤ 0 then str "0." ++ List.replicate (-place).toNat 0x30 ++ text
  else if text.length ≤ place then
    text ++ List.replicate (place.toNat - text.length) 0x30 ++ str ".0"
  else text.take place.toNat ++ str "." ++ text.drop place.toNat

/-- Digits with one before the point and an exponent of two digits or more. -/
def scientific (text : Str) (place : Int) : Str :=
  let fraction := if text.length ≤ 1 then [] else str "." ++ text.drop 1
  let exponent := place - 1
  let size := digits exponent.natAbs
  text.take 1 ++ fraction ++ str "e" ++ (if exponent < 0 then str "-" else str "+") ++
    List.replicate (2 - size.length) 0x30 ++ size

/-- `float.__repr__` of a magnitude. -/
def reprMagnitude : Str :=
  if magnitude.significand = 0 then str "0.0"
  else
    let decimal := shortestDigits magnitude
    if -4 < decimal.2 ∧ decimal.2 ≤ 16 then fixed decimal.1 decimal.2
    else scientific decimal.1 decimal.2

/-- The points of a number in decimal. -/
def numerals : Str := str "0123456789.e+-"

theorem numerals_eq : numerals =
    [0x30, 0x31, 0x32, 0x33, 0x34, 0x35, 0x36, 0x37, 0x38, 0x39, 0x2E, 0x65, 0x2B, 0x2D] := by
  decide

theorem digits_digit {number point : Nat} (member : point ∈ digits number) :
    0x30 ≤ point ∧ point ≤ 0x39 := by
  obtain ⟨character, inside, rfl⟩ := List.mem_map.mp member
  have digit := Nat.isDigit_of_mem_toDigits (by decide) (by decide) inside
  simp only [Char.isDigit, ge_iff_le, Bool.and_eq_true, decide_eq_true_eq] at digit
  exact ⟨UInt32.le_iff_toNat_le.mp digit.1, UInt32.le_iff_toNat_le.mp digit.2⟩

theorem digits_subset (number : Nat) : digits number ⊆ numerals := by
  intro point member
  have digit := digits_digit member
  rw [numerals_eq]
  simp only [List.mem_cons]
  omega

theorem zeros_subset (count : Nat) : List.replicate count 0x30 ⊆ numerals :=
  List.replicate_subset.mpr (Or.inr (by decide))

theorem fixed_points {text : Str} {place : Int} (numeral : text ⊆ numerals) :
    fixed text place ⊆ numerals ∧ 0x2E ∈ fixed text place := by
  have dot : str "." ⊆ numerals ∧ 0x2E ∈ str "." := by decide
  have zeroDot : str "0." ⊆ numerals ∧ 0x2E ∈ str "0." := by decide
  have dotZero : str ".0" ⊆ numerals ∧ 0x2E ∈ str ".0" := by decide
  unfold fixed
  split
  · simp [numeral, zeroDot, zeros_subset]
  · split
    · simp [numeral, dotZero, zeros_subset]
    · have front : text.take place.toNat ⊆ numerals :=
        List.Subset.trans (List.take_subset _ _) numeral
      have back : text.drop place.toNat ⊆ numerals :=
        List.Subset.trans (List.drop_subset _ _) numeral
      simp [front, back, dot]

theorem scientific_points {text : Str} {place : Int} (numeral : text ⊆ numerals) :
    scientific text place ⊆ numerals ∧ 0x65 ∈ scientific text place := by
  have dot : str "." ⊆ numerals := by decide
  have mark : str "e" ⊆ numerals ∧ 0x65 ∈ str "e" := by decide
  have signs : str "-" ⊆ numerals ∧ str "+" ⊆ numerals := by decide
  have front : text.take 1 ⊆ numerals := List.Subset.trans (List.take_subset _ _) numeral
  have back : text.drop 1 ⊆ numerals := List.Subset.trans (List.drop_subset _ _) numeral
  have fraction : (if text.length ≤ 1 then [] else str "." ++ text.drop 1) ⊆ numerals := by
    split
    · simp
    · simp only [List.append_subset]
      exact ⟨dot, back⟩
  have sign : (if place - 1 < 0 then str "-" else str "+") ⊆ numerals := by
    split
    · exact signs.1
    · exact signs.2
  unfold scientific
  simp only [List.append_subset, List.mem_append]
  exact ⟨⟨⟨⟨⟨⟨front, fraction⟩, mark.1⟩, sign⟩, zeros_subset _⟩, digits_subset _⟩,
    by simp [mark]⟩

theorem shortestDigits_subset (magnitude : Magnitude) :
    (shortestDigits magnitude).1 ⊆ numerals := by
  intro point member
  have kept := (List.dropWhile_sublist _).mem (List.mem_reverse.mp member)
  exact digits_subset _ (List.mem_reverse.mp kept)

/-- A magnitude is written in numerals, with a point or an exponent. -/
theorem reprMagnitude_points (magnitude : Magnitude) :
    reprMagnitude magnitude ⊆ numerals ∧
      (0x2E ∈ reprMagnitude magnitude ∨ 0x65 ∈ reprMagnitude magnitude) := by
  have numeral := shortestDigits_subset magnitude
  unfold reprMagnitude
  split
  · decide
  · dsimp only
    split
    · exact (fixed_points numeral).imp_right Or.inl
    · exact (scientific_points numeral).imp_right Or.inr

end Float64
end SianoUserland
