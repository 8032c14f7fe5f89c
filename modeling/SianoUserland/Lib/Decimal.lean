import Mathlib.Algebra.Group.Nat.Defs

/-! Decimal numbers as ASCII bytes: how they are printed, what digits denote, and the
overflow test of a loop that reads them below a bound. -/
namespace SianoUserland.Decimal

/-- A digit between `'0'` and `'9'`. -/
def isDigit (byte : UInt8) : Bool := 48 ≤ byte && byte ≤ 57

/-- What a digit stands for. -/
def digitValue (byte : UInt8) : Nat := byte.toNat - 48

/-- The number that digits denote when they are appended to one that was read. -/
def valueFrom (parsed : Nat) (digits : List UInt8) : Nat :=
  digits.foldl (fun parsed digit => parsed * 10 + digitValue digit) parsed

/-- The number that digits denote. -/
def value (digits : List UInt8) : Nat := valueFrom 0 digits

/-- A number in decimal, without leading zeros. -/
def print (number : Nat) : List UInt8 := (Nat.toDigits 10 number).map Char.toUInt8

theorem valueFrom_cons (parsed : Nat) (digit : UInt8) (digits : List UInt8) :
    valueFrom parsed (digit :: digits) = valueFrom (parsed * 10 + digitValue digit) digits := by
  rw [valueFrom, List.foldl_cons, ← valueFrom]

theorem digitValue_le (digit : isDigit byte = true) : digitValue byte ≤ 9 := by
  simp only [isDigit, Bool.and_eq_true, decide_eq_true_eq, UInt8.le_iff_toNat_le] at digit
  have upper : byte.toNat ≤ 57 := digit.2
  unfold digitValue
  omega

/-- Digits only make a number larger. -/
theorem le_valueFrom (parsed : Nat) (digits : List UInt8) : parsed ≤ valueFrom parsed digits := by
  induction digits generalizing parsed with
  | nil => exact Nat.le_refl parsed
  | cons digit digits ih =>
    rw [valueFrom_cons]
    apply Nat.le_trans _ (ih _)
    omega

/-- The test before a digit is appended finds exactly the numbers beyond the bound. -/
theorem exceeds_iff (within : digit ≤ bound) :
    (bound - digit) / 10 < parsed ↔ bound < parsed * 10 + digit := by
  omega

theorem isDigit_of_char {char : Char} (digit : char.isDigit = true) :
    isDigit char.toUInt8 = true := by
  have range : 48 ≤ char.toNat ∧ char.toNat ≤ 57 := by
    simp only [Char.isDigit, ge_iff_le, Bool.and_eq_true, decide_eq_true_eq,
      UInt32.le_iff_toNat_le] at digit
    exact digit
  have small : char.toUInt8.toNat = char.toNat := by
    change char.toNat % 256 = char.toNat
    omega
  simp only [isDigit, Bool.and_eq_true, decide_eq_true_eq, UInt8.le_iff_toNat_le, small]
  exact range

theorem isDigit_of_mem_print (member : byte ∈ print number) : isDigit byte = true := by
  obtain ⟨char, printed, rfl⟩ := List.mem_map.mp member
  apply isDigit_of_char
  exact Nat.isDigit_of_mem_toDigits (by decide) (by decide) printed

theorem print_ne_nil (number : Nat) : print number ≠ [] := by
  intro empty
  exact Nat.toDigits_ne_nil (List.map_eq_nil_iff.mp empty)

theorem length_print_le (positive : 0 < count) (below : number < 10 ^ count) :
    (print number).length ≤ count := by
  rw [print, List.length_map]
  exact (Nat.length_toDigits_le_iff (by decide) positive).mpr below

theorem digitValue_digitChar (digit : number < 10) :
    digitValue number.digitChar.toUInt8 = number := by
  have char := Nat.toNat_digitChar_of_lt_ten digit
  change number.digitChar.toNat % 256 - 48 = number
  omega

/-- A printed number denotes itself. -/
theorem value_print (number : Nat) : value (print number) = number := by
  induction number using Nat.strongRecOn with
  | _ number ih =>
    rw [print, Nat.toDigits_eq_if (by decide)]
    split
    · rename_i digit
      simp [value, valueFrom, digitValue_digitChar digit]
    · rename_i large
      have leading := ih (number / 10) (by omega)
      rw [print, value, valueFrom] at leading
      rw [List.map_append, value, valueFrom, List.foldl_append, leading]
      simp only [List.map_cons, List.map_nil, List.foldl_cons, List.foldl_nil,
        digitValue_digitChar (Nat.mod_lt number (by decide))]
      omega

end SianoUserland.Decimal
