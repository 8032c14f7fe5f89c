import SianoUserland.ControlParse
import SianoUserland.Errno
import SianoUserland.Lib.Radix

/-! The PID arguments of the two programs: `parse_pid` of `sianod.cpp` over `std::from_chars`, and
`parse_unsigned` of `siano-ts.c` over `strtoul`. -/
namespace SianoUserland.PidArguments
open ControlParse Radix

/-- A command-line argument: what stands before its NUL. -/
structure Argument where
  bytes : List UInt8
  terminated : 0 ∉ bytes

/-! ## The daemon -/

/-- `std::from_chars` for a `std::uint32_t`: the number and the rest of the text. -/
def fromChars (base : Nat) (text : List UInt8) : Option (Nat × List UInt8) :=
  let digits := text.takeWhile (isDigit base)
  if digits = [] ∨ 4294967295 < value base digits then none
  else some (value base digits, text.dropWhile (isDigit base))

/-- The base that `parse_pid` reads a text in, and the text without its prefix. -/
def pidBase (text : List UInt8) : Nat × List UInt8 :=
  if 2 < text.length ∧ text[0]? = some 48 ∧ (text[1]? = some 120 ∨ text[1]? = some 88) then
    (16, text.drop 2)
  else if 1 < text.length ∧ text[0]? = some 48 then (8, text)
  else (10, text)

/-- `parse_pid`. -/
def parsePid (text : List UInt8) : Option UInt16 :=
  let (base, text) := pidBase text
  if text = [] then none
  else
    match fromChars base text with
    | none => none
    | some (value, rest) => if rest ≠ [] ∨ 0x2000 < value then none else some (.ofNat value)

/-! ## The standalone program -/

/-- The two sizes of `unsigned long`. -/
inductive DataModel where
  | lp64
  | llp64
  deriving Repr, DecidableEq

/-- `ULONG_MAX`. -/
def DataModel.ulongMax : DataModel → Nat
  | lp64 => 18446744073709551615
  | llp64 => 4294967295

/-- What `strtoul` leaves: its result, where it stopped, and whether `errno` is set. -/
structure Conversion where
  parsed : Nat
  rest : List UInt8
  errno : Bool := false
  deriving Repr, DecidableEq

/-- The base that `strtoul` finds by itself, and the text without its prefix. A prefix that no
hexadecimal digit follows is a zero before an `x`. -/
def strtoulBase (text : List UInt8) : Nat × List UInt8 :=
  if text[0]? = some 48 ∧ (text[1]? = some 120 ∨ text[1]? = some 88) ∧
      text[2]?.any (isDigit 16) then (16, text.drop 2)
  else if text[0]? = some 48 then (8, text)
  else (10, text)

/-- `strtoul` with base 0. Without a number it stops where it began. -/
def strtoul (model : DataModel) (text : List UInt8) : Conversion :=
  let signed := text.dropWhile isSpace
  let negative := signed.head? = some 45
  let (base, digits) := strtoulBase
    (if negative ∨ signed.head? = some 43 then signed.tail else signed)
  let number := value base (digits.takeWhile (isDigit base))
  if digits.takeWhile (isDigit base) = [] then { parsed := 0, rest := text }
  else if model.ulongMax < number then
    { parsed := model.ulongMax, rest := digits.dropWhile (isDigit base), errno := true }
  else
    { parsed := if negative then (model.ulongMax + 1 - number) % (model.ulongMax + 1) else number
      rest := digits.dropWhile (isDigit base) }

/-- `parse_unsigned`. -/
def parseUnsigned (model : DataModel) (text : List UInt8) (max : Nat) : Except Int Nat :=
  let conversion := strtoul model text
  if conversion.errno ∨ conversion.rest = text ∨ conversion.rest ≠ [] ∨ max < conversion.parsed then
    .error (-Errno.inval)
  else .ok conversion.parsed

/-! ## What both accept -/

/-- A text that begins with neither white space nor a sign. -/
def Plain (text : List UInt8) : Prop :=
  ∀ byte, text.head? = some byte → isSpace byte = false ∧ byte ≠ 43 ∧ byte ≠ 45

/-- A text that stands for a PID. -/
def Reads (number : Nat) (numeral : Nat × List UInt8) : Prop :=
  Numeral numeral.1 numeral.2 ∧ value numeral.1 numeral.2 = number ∧ number ≤ 0x2000

variable {text : List UInt8}

theorem parsePid_iff (pid : UInt16) :
    parsePid text = some pid ↔ Reads pid.toNat (pidBase text) := by
  generalize spelled : pidBase text = numeral
  obtain ⟨base, digits⟩ := numeral
  simp only [parsePid, spelled, Reads]
  constructor
  · intro accepted
    split at accepted
    · cases accepted
    cases read : fromChars base digits with
    | none => simp [read] at accepted
    | some result =>
      obtain ⟨number, rest⟩ := result
      simp only [read] at accepted
      split at accepted
      · cases accepted
      rename_i fits
      simp only [not_or, ne_eq, not_not, Nat.not_lt] at fits
      obtain ⟨ends, small⟩ := fits
      unfold fromChars at read
      dsimp only at read
      split at read
      · cases read
      rename_i scanned
      cases read
      simp only [not_or] at scanned
      have numeral := (numeral_iff base digits).mpr ⟨scanned.1, ends⟩
      rw [numeral.takeWhile] at accepted small
      cases accepted
      rw [UInt16.toNat_ofNat_of_lt' (Nat.lt_of_le_of_lt small (by decide))]
      exact ⟨numeral, rfl, small⟩
  · rintro ⟨numeral, number, small⟩
    have ends := ((numeral_iff base digits).mp numeral).2
    have fits : ¬ 4294967295 < value base digits := by omega
    have accepts : ¬ 0x2000 < value base digits := by omega
    have same : UInt16.ofNat (value base digits) = pid := by rw [number, UInt16.ofNat_toNat]
    rw [if_neg numeral.1, fromChars, numeral.takeWhile, ends]
    simp [numeral.1, fits, accepts, same]

/-- Without white space and sign `strtoul` begins with its base. -/
theorem strtoul_plain (model : DataModel) (plain : Plain text) :
    strtoul model text =
      let (base, digits) := strtoulBase text
      if digits.takeWhile (isDigit base) = [] then { parsed := 0, rest := text }
      else if model.ulongMax < value base (digits.takeWhile (isDigit base)) then
        { parsed := model.ulongMax, rest := digits.dropWhile (isDigit base), errno := true }
      else
        { parsed := value base (digits.takeWhile (isDigit base))
          rest := digits.dropWhile (isDigit base) } := by
  have begins : text.dropWhile isSpace = text := by
    cases text with
    | nil => rfl
    | cons byte rest => rw [List.dropWhile_cons_of_neg (by simp [(plain byte rfl).1])]
  have unsigned : text.head? ≠ some 45 ∧ text.head? ≠ some 43 :=
    ⟨fun minus => (plain 45 minus).2.2 rfl, fun plus => (plain 43 plus).2.1 rfl⟩
  simp only [strtoul, begins, unsigned.1, unsigned.2, or_self, if_false]

theorem parseUnsigned_iff (model : DataModel) (plain : Plain text) (number : Nat) :
    parseUnsigned model text 0x2000 = .ok number ↔ Reads number (strtoulBase text) := by
  have large : 0x2000 ≤ model.ulongMax := by cases model <;> decide
  rw [parseUnsigned, strtoul_plain model plain]
  generalize spelled : strtoulBase text = numeral
  obtain ⟨base, digits⟩ := numeral
  simp only [Reads, numeral_iff]
  by_cases none : digits.takeWhile (isDigit base) = []
  · simp [none]
  rw [if_neg none]
  by_cases beyond : model.ulongMax < value base (digits.takeWhile (isDigit base))
  · rw [if_pos beyond]
    simp only [true_or, if_true, reduceCtorEq, false_iff]
    rintro ⟨⟨-, ends⟩, rfl, small⟩
    rw [List.takeWhile_eq_self_iff.mpr (List.dropWhile_eq_nil_iff.mp ends)] at beyond
    omega
  rw [if_neg beyond]
  dsimp only
  by_cases ends : digits.dropWhile (isDigit base) = []
  · have all : digits.takeWhile (isDigit base) = digits :=
      List.takeWhile_eq_self_iff.mpr (List.dropWhile_eq_nil_iff.mp ends)
    have nonempty : text ≠ [] := by
      rintro rfl
      cases spelled
      exact none rfl
    rw [all] at none beyond ⊢
    rw [ends]
    by_cases small : value base digits ≤ 0x2000
    · simp only [none, Nat.not_lt.mpr small, Ne.symm nonempty, Bool.false_eq_true, ne_eq,
        not_true_eq_false, or_self, if_false, Except.ok.injEq, not_false_eq_true, and_self,
        true_and]
      exact ⟨fun same => ⟨same, same ▸ small⟩, fun both => both.1⟩
    · simp only [none, Nat.lt_of_not_le small, or_true, if_true, reduceCtorEq, not_false_eq_true,
        and_self, true_and, false_iff, ne_eq]
      omega
  · simp [ends]

/-! ## The two bases -/

theorem plain_of_digit (digit : isDigit base first = true) : Plain (first :: rest) := by
  have high := le_of_isDigit digit
  intro byte head
  cases head
  refine ⟨?_, ?_, ?_⟩
  · have blank : first ≠ 32 := by
      rintro rfl
      exact absurd high (by decide)
    have control : ¬ first ≤ 13 := by
      simp only [UInt8.le_iff_toNat_le, UInt8.reduceToNat]
      omega
    simp [isSpace, blank, control]
  · rintro rfl
    exact absurd high (by decide)
  · rintro rfl
    exact absurd high (by decide)

/-- Both programs read a text as the same number: they only choose different bases for a single
zero, and for a prefix without digits. -/
theorem reads_iff (number : Nat) (text : List UInt8) :
    Reads number (pidBase text) ↔ Reads number (strtoulBase text) := by
  match text with
  | [] => rfl
  | [first] =>
    by_cases zero : first = 48
    · subst zero
      simp [pidBase, strtoulBase, Reads, Numeral, value, isDigit, digitValue]
    · simp [pidBase, strtoulBase, zero]
  | [first, second] => simp [pidBase, strtoulBase]
  | first :: second :: third :: rest =>
    by_cases zero : first = 48
    · by_cases hexadecimal : second = 120 ∨ second = 88
      · by_cases digit : isDigit 16 third = true
        · simp [pidBase, strtoulBase, zero, hexadecimal, digit]
        · -- a prefix without a digit behind it: neither program accepts it
          have octal : isDigit 8 second = false := by
            rcases hexadecimal with rfl | rfl <;> rfl
          simp [pidBase, strtoulBase, zero, hexadecimal, digit, Reads, Numeral, octal]
      · simp [pidBase, strtoulBase, zero, hexadecimal]
    · simp [pidBase, strtoulBase, zero]

/-- A text that the daemon accepts begins with a digit. -/
theorem plain_of_reads (reads : Reads number (pidBase text)) : Plain text := by
  cases text with
  | nil =>
    intro byte head
    cases head
  | cons first rest =>
    obtain ⟨numeral, -⟩ := reads
    by_cases zero : first = 48
    · have digit : isDigit 8 first = true := by
        rw [zero]
        rfl
      exact plain_of_digit digit
    · have decimal : pidBase (first :: rest) = (10, first :: rest) := by simp [pidBase, zero]
      rw [decimal] at numeral
      exact plain_of_digit (numeral.2 first List.mem_cons_self)

/-- **PID arguments mean the same in both programs.** What the daemon takes for a PID the
standalone program takes for the same one, and the daemon takes every PID of the standalone program
that is written without white space or a sign before it. -/
theorem pid_arguments_agree (model : DataModel) (argument : Argument) :
    (∀ pid, parsePid argument.bytes = some pid →
      parseUnsigned model argument.bytes 0x2000 = .ok pid.toNat) ∧
    (Plain argument.bytes → ∀ number, parseUnsigned model argument.bytes 0x2000 = .ok number →
      ∃ pid, parsePid argument.bytes = some pid ∧ pid.toNat = number) := by
  constructor
  · intro pid accepted
    have reads := (parsePid_iff pid).mp accepted
    rw [parseUnsigned_iff model (plain_of_reads reads), ← reads_iff]
    exact reads
  · intro plain number accepted
    rw [parseUnsigned_iff model plain, ← reads_iff] at accepted
    have exact : (UInt16.ofNat number).toNat = number :=
      UInt16.toNat_ofNat_of_lt' (Nat.lt_of_le_of_lt accepted.2.2 (by decide))
    refine ⟨.ofNat number, (parsePid_iff _).mpr ?_, exact⟩
    rw [exact]
    exact accepted

end SianoUserland.PidArguments
