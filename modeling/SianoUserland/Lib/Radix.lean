import Mathlib.Data.List.TakeWhile

/-! Numbers in a base of up to 36, as ASCII bytes. -/
namespace SianoUserland.Radix

/-- What a digit or a letter stands for. -/
def digitValue (byte : UInt8) : Option Nat :=
  if 48 ≤ byte ∧ byte ≤ 57 then some (byte.toNat - 48)
  else if 97 ≤ byte ∧ byte ≤ 122 then some (byte.toNat - 87)
  else if 65 ≤ byte ∧ byte ≤ 90 then some (byte.toNat - 55)
  else none

def isDigit (base : Nat) (byte : UInt8) : Bool := (digitValue byte).any (· < base)

/-- No digit comes before `'0'`. -/
theorem le_of_isDigit (digit : isDigit base byte = true) : 48 ≤ byte.toNat := by
  by_contra below
  have low : ∀ bound : UInt8, 48 ≤ bound.toNat → ¬ bound ≤ byte := by
    intro bound high
    rw [UInt8.le_iff_toNat_le]
    omega
  have none : digitValue byte = none := by
    simp only [digitValue, low 48 (by decide), low 97 (by decide), low 65 (by decide), false_and,
      if_false]
  rw [isDigit, none] at digit
  cases digit

/-- The number that digits denote. -/
def value (base : Nat) (digits : List UInt8) : Nat :=
  digits.foldl (fun parsed digit => parsed * base + (digitValue digit).getD 0) 0

/-- Digits and nothing else, at least one of them. -/
def Numeral (base : Nat) (text : List UInt8) : Prop :=
  text ≠ [] ∧ ∀ byte ∈ text, isDigit base byte = true

/-- A text is a numeral exactly when a scan over its digits takes something and leaves nothing. -/
theorem numeral_iff (base : Nat) (text : List UInt8) :
    Numeral base text ↔
      text.takeWhile (isDigit base) ≠ [] ∧ text.dropWhile (isDigit base) = [] := by
  rw [Numeral, List.dropWhile_eq_nil_iff]
  constructor
  · rintro ⟨nonempty, digits⟩
    rw [List.takeWhile_eq_self_iff.mpr digits]
    exact ⟨nonempty, digits⟩
  · rintro ⟨taken, digits⟩
    rw [List.takeWhile_eq_self_iff.mpr digits] at taken
    exact ⟨taken, digits⟩

theorem Numeral.takeWhile (numeral : Numeral base text) : text.takeWhile (isDigit base) = text :=
  List.takeWhile_eq_self_iff.mpr numeral.2

end SianoUserland.Radix
