import SianoUserland.ControlParse
import SianoUserland.Lib.Decimal
import Mathlib.Data.List.TakeWhile

/-! `parse_control_line` against the grammar of its commands. -/
namespace SianoUserland.ControlGrammar
open ControlParse

/-! ## The source's interface -/

/-- `enum control_command_type`. -/
inductive ControlCommandType where
  | empty
  | invalid
  | channel
  | tune
  | quit
  deriving Repr, DecidableEq

/-- What `sscanf` returns: the number of its conversions, or `EOF` without any. -/
def conversions : Scanned → Int
  | .nothing => -1
  | .command _ => 1
  | .number _ _ => 2
  | .extra => 3

/-- The word that the first conversion stores. It is not read without a conversion, and
not after the third. -/
def storedCommand : Scanned → List UInt8
  | .command command | .number command _ => command
  | .nothing | .extra => []

/-- The word that the second conversion stores. -/
def storedNumber : Scanned → List UInt8
  | .number _ number => number
  | .nothing | .command _ | .extra => []

/-- `parse_control_line` with its out-parameter: the command, and `*value` afterwards. -/
def parseControlLineInto (line : List UInt8) (value : UInt32) : ControlCommandType × UInt32 :=
  let text := (cString line).dropWhile fun byte => byte == 32 || byte == 9 || byte == 13
  if text = [] ∨ text.head? = some 10 then (.empty, value)
  else
    let scanned := scan text
    if conversions scanned = 1 ∧ storedCommand scanned = ascii "quit" then (.quit, value)
    else if conversions scanned ≠ 2 then (.invalid, value)
    else
      match scanDigits 0 (storedNumber scanned) with
      | none => (.invalid, value)
      | some parsed =>
        if storedCommand scanned = ascii "channel" ∧ 13 ≤ parsed ∧ parsed ≤ 62 then
          (.channel, .ofNat parsed)
        else if storedCommand scanned = ascii "tune" ∧ 1 ≤ parsed then (.tune, .ofNat parsed)
        else (.invalid, value)

/-- What a caller sees of a command: its type, and `*value` after the call. -/
def returned (value : UInt32) : ControlCommand → ControlCommandType × UInt32
  | .empty => (.empty, value)
  | .invalid => (.invalid, value)
  | .channel parsed => (.channel, parsed)
  | .tune parsed => (.tune, parsed)
  | .quit => (.quit, value)

/-- The two calls of `sscanf` are one scan, and `*value` is what the command carries. -/
theorem parseControlLineInto_eq (line : List UInt8) (value : UInt32) :
    parseControlLineInto line value = returned value (parseControlLine line) := by
  simp only [parseControlLineInto, parseControlLine]
  split
  · rfl
  cases scan _ with
  | nothing => rfl
  | extra => rfl
  | command command =>
    simp only [conversions, storedCommand, true_and]
    split
    · rfl
    · rfl
  | number command number =>
    cases digits : scanDigits 0 number with
    | none => simp [conversions, storedNumber, digits, returned]
    | some parsed =>
      by_cases channel : command = ascii "channel" ∧ 13 ≤ parsed ∧ parsed ≤ 62
      · simp [conversions, storedCommand, storedNumber, digits, channel, returned]
      · by_cases tune : command = ascii "tune" ∧ 1 ≤ parsed
        · have other : ascii "tune" ≠ ascii "channel" := by decide
          simp [conversions, storedCommand, storedNumber, digits, other, tune, returned]
        · simp [conversions, storedCommand, storedNumber, digits, channel, tune, returned]

/-! ## The grammar -/

/-- Only the white space that `isspace` knows. -/
def Blank (text : List UInt8) : Prop := ∀ byte ∈ text, isSpace byte = true

/-- After leading spaces, tabs and carriage returns the text is at its end or at a newline. -/
def Empty (text : List UInt8) : Prop :=
  ∃ leading rest, text = leading ++ rest ∧
    (∀ byte ∈ leading, byte = 32 ∨ byte = 9 ∨ byte = 13) ∧ (rest = [] ∨ rest.head? = some 10)

/-- A word and a number, with white space between them and allowed around them. The number has
one to 31 digits. -/
def Request (word : List UInt8) (number : Nat) (text : List UInt8) : Prop :=
  ∃ before between digits after, text = before ++ word ++ between ++ digits ++ after ∧
    Blank before ∧ Blank between ∧ between ≠ [] ∧ Blank after ∧
    (∀ digit ∈ digits, Decimal.isDigit digit = true) ∧ 1 ≤ digits.length ∧
    digits.length ≤ 31 ∧ Decimal.value digits = number

/-- A single word, with white space allowed around it. -/
def Alone (word text : List UInt8) : Prop :=
  ∃ before after, text = before ++ word ++ after ∧ Blank before ∧ Blank after

/-! ## The scanner -/

/-- A word has no white space in it. -/
def Solid (word : List UInt8) : Prop := ∀ byte ∈ word, isSpace byte = false

instance (word : List UInt8) : Decidable (Solid word) := List.decidableBAll _ word

/-- The text ends here, or white space follows. -/
def Ends (rest : List UInt8) : Prop := ∀ byte, rest.head? = some byte → isSpace byte = true

theorem blank_ends (blank : Blank rest) : Ends rest := by
  intro byte head
  exact blank byte (List.mem_of_mem_head? head)

theorem blank_append_ends (blank : Blank between) (some : between ≠ []) :
    Ends (between ++ rest) := by
  cases between with
  | nil => exact absurd rfl some
  | cons first between =>
    intro byte head
    cases head
    exact blank first List.mem_cons_self

theorem not_ends_of_solid (solid : Solid word) (nonempty : word ≠ []) :
    ¬ Ends ([] ++ (word ++ rest)) := by
  intro ends
  cases word with
  | nil => exact nonempty rfl
  | cons first word =>
    have space := ends first rfl
    rw [solid first List.mem_cons_self] at space
    cases space

theorem dropWhile_blank (blank : Blank before) (text : List UInt8) :
    (before ++ text).dropWhile isSpace = text.dropWhile isSpace :=
  List.dropWhile_append_of_pos blank

theorem dropWhile_of_solid (solid : Solid word) (nonempty : word ≠ []) (rest : List UInt8) :
    (word ++ rest).dropWhile isSpace = word ++ rest := by
  cases word with
  | nil => exact absurd rfl nonempty
  | cons first word =>
    have graphic := solid first List.mem_cons_self
    rw [List.cons_append, List.dropWhile_cons_of_neg (by simp [graphic])]

theorem takeWhile_of_solid (solid : Solid word) (ends : Ends rest) :
    (word ++ rest).takeWhile (!isSpace ·) = word := by
  rw [List.takeWhile_append_of_pos (fun byte member => by simp [solid byte member])]
  cases rest with
  | nil => simp
  | cons first rest => simp [ends first rfl]

/-- A conversion takes a word that fits and leaves what follows it. -/
theorem scanWord_word (blank : Blank before) (solid : Solid word) (nonempty : word ≠ [])
    (fits : word.length ≤ width) (ends : Ends rest) :
    scanWord width (before ++ (word ++ rest)) = (word, rest) := by
  simp only [scanWord, dropWhile_blank blank, dropWhile_of_solid solid nonempty,
    takeWhile_of_solid solid ends, List.take_of_length_le fits, List.drop_left]

theorem scanWord_blank (blank : Blank text) : scanWord width text = ([], []) := by
  have nothing : text.dropWhile isSpace = [] := by
    have dropped := dropWhile_blank blank []
    rwa [List.append_nil] at dropped
  simp [scanWord, nothing]

theorem ends_dropWhile (text : List UInt8) : Ends (text.dropWhile (!isSpace ·)) := by
  intro byte head
  have stops := List.head?_dropWhile_not (!isSpace ·) text
  rw [head] at stops
  simpa using stops

theorem drop_takeWhile (test : UInt8 → Bool) (text : List UInt8) :
    text.drop (text.takeWhile test).length = text.dropWhile test := by
  have joined := List.prefix_iff_eq_append.mp (List.takeWhile_prefix (l := text) test)
  exact List.append_cancel_left (joined.trans List.takeWhile_append_dropWhile.symm)

/-- What a conversion takes and leaves. A word shorter than the field ends where the text has
white space or ends. -/
theorem scanWord_split (scanned : scanWord width text = (word, rest)) :
    ∃ before, text = before ++ (word ++ rest) ∧ Blank before ∧ Solid word ∧
      word.length ≤ width ∧ (word.length < width → Ends rest) := by
  simp only [scanWord, Prod.mk.injEq] at scanned
  obtain ⟨isWord, isRest⟩ := scanned
  rw [isWord] at isRest
  have fits : word.length = min width ((text.dropWhile isSpace).takeWhile (!isSpace ·)).length := by
    rw [← isWord, List.length_take]
  have leads : word <+: text.dropWhile isSpace := by
    rw [← isWord]
    exact (List.take_prefix _ _).trans (List.takeWhile_prefix _)
  refine ⟨text.takeWhile isSpace, ?_, fun byte member => ?_, ?_, by omega, ?_⟩
  · rw [← isRest, List.prefix_iff_eq_append.mp leads, List.takeWhile_append_dropWhile]
  · exact List.mem_takeWhile_imp member
  · intro byte member
    rw [← isWord] at member
    have graphic := List.mem_takeWhile_imp (p := (!isSpace ·)) (List.mem_of_mem_take member)
    simpa using graphic
  · intro short
    have whole : (text.dropWhile isSpace).takeWhile (!isSpace ·) = word := by
      rw [← isWord, List.take_of_length_le (by omega)]
    rw [← isRest, ← whole, drop_takeWhile]
    exact ends_dropWhile _

/-- A conversion takes no word only where no word is. -/
theorem scanWord_nothing (positive : 0 < width) (scanned : scanWord width text = ([], rest)) :
    Blank text := by
  simp only [scanWord, Prod.mk.injEq, List.take_eq_nil_iff] at scanned
  have nothing := scanned.1.resolve_left (by omega)
  cases start : text.dropWhile isSpace with
  | nil => exact List.dropWhile_eq_nil_iff.mp start
  | cons first others =>
    have graphic := List.head?_dropWhile_not isSpace text
    rw [start] at graphic nothing
    simp only [List.head?_cons] at graphic
    simp [graphic] at nothing

/-- A scan converts a word alone exactly when the text is that word. -/
theorem scan_command_iff (solid : Solid word) (nonempty : word ≠ []) (short : word.length < 15) :
    scan text = .command word ↔ Alone word text := by
  constructor
  · intro scanned
    unfold scan at scanned
    split at scanned
    · cases scanned
    · rename_i command rest _ first
      split at scanned
      · rename_i second
        cases scanned
        obtain ⟨before, joined, blank, -, -, -⟩ := scanWord_split first
        refine ⟨before, rest, ?_, blank, scanWord_nothing (by decide) second⟩
        rw [joined, List.append_assoc]
      · split at scanned <;> cases scanned
  · rintro ⟨before, after, rfl, blank, trailing⟩
    have first := scanWord_word blank solid nonempty (Nat.le_of_lt short) (blank_ends trailing)
    rw [scan, List.append_assoc, first]
    cases word with
    | nil => exact absurd rfl nonempty
    | cons start word => simp only [scanWord_blank trailing]

/-- A scan converts a short word and a second one exactly when the text is these two. -/
theorem scan_number_iff (solid : Solid word) (nonempty : word ≠ []) (short : word.length < 15) :
    scan text = .number word number ↔
      ∃ before between after, text = before ++ word ++ between ++ number ++ after ∧
        Blank before ∧ Blank between ∧ between ≠ [] ∧ Blank after ∧ Solid number ∧
        1 ≤ number.length ∧ number.length ≤ 31 := by
  constructor
  · intro scanned
    unfold scan at scanned
    split at scanned
    · cases scanned
    · rename_i command rest _ first
      split at scanned
      · cases scanned
      · rename_i digits after some second
        split at scanned
        · rename_i trailing
          cases scanned
          obtain ⟨before, rfl, blank, -, -, ends⟩ := scanWord_split first
          obtain ⟨between, rfl, spaces, graphic, fits, -⟩ := scanWord_split second
          refine ⟨before, between, after, by simp, blank, spaces, ?_,
            List.dropWhile_eq_nil_iff.mp trailing, graphic, ?_, fits⟩
          · rintro rfl
            exact not_ends_of_solid graphic (by simpa using some) (ends short)
          · exact List.length_pos_iff.mpr (by simpa using some)
        · cases scanned
  · rintro ⟨before, between, after, rfl, blank, spaces, separated, trailing, graphic, some, fits⟩
    have ends : Ends (between ++ (number ++ after)) := blank_append_ends spaces separated
    have first := scanWord_word blank solid nonempty (Nat.le_of_lt short) ends
    have second := scanWord_word spaces graphic (List.length_pos_iff.mp some) fits
      (blank_ends trailing)
    have joined : before ++ word ++ between ++ number ++ after =
        before ++ (word ++ (between ++ (number ++ after))) := by simp
    rw [scan, joined, first]
    cases word with
    | nil => exact absurd rfl nonempty
    | cons start word =>
      simp only [second]
      cases number with
      | nil => exact absurd some (by decide)
      | cons digit number => simp only [if_pos (List.dropWhile_eq_nil_iff.mpr trailing)]

/-! ## The number -/

/-- The digit loop reads exactly the digits whose number is in range. -/
theorem scanDigits_iff (bounded : parsed ≤ 4294967295) :
    scanDigits parsed digits = some number ↔
      (∀ digit ∈ digits, Decimal.isDigit digit = true) ∧
        Decimal.valueFrom parsed digits = number ∧ number ≤ 4294967295 := by
  induction digits generalizing parsed with
  | nil =>
    simp only [scanDigits, Decimal.valueFrom, List.foldl_nil, Option.some.injEq]
    constructor
    · rintro rfl
      exact ⟨by simp, rfl, bounded⟩
    · exact fun read => read.2.1
  | cons digit digits ih =>
    rw [scanDigits, Decimal.valueFrom_cons]
    by_cases isDigit : Decimal.isDigit digit = true
    · have inside : ¬ (digit < 48 ∨ 57 < digit) := by
        simpa [Decimal.isDigit, UInt8.not_lt] using isDigit
      have small := Decimal.digitValue_le isDigit
      rw [if_neg inside]
      change (if (4294967295 - Decimal.digitValue digit) / 10 < parsed then none else
        scanDigits (parsed * 10 + Decimal.digitValue digit) digits) = some number ↔ _
      by_cases beyond : 4294967295 < parsed * 10 + Decimal.digitValue digit
      · rw [if_pos ((Decimal.exceeds_iff (by omega)).mpr beyond)]
        constructor
        · intro impossible
          cases impossible
        · rintro ⟨-, value, small⟩
          have larger := Decimal.le_valueFrom (parsed * 10 + Decimal.digitValue digit) digits
          omega
      · rw [if_neg (fun exceeds => beyond ((Decimal.exceeds_iff (by omega)).mp exceeds)),
          ih (by omega), List.forall_mem_cons]
        simp only [isDigit, true_and]
    · have outside : digit < 48 ∨ 57 < digit := by
        by_contra inside
        apply isDigit
        simpa [Decimal.isDigit, UInt8.not_lt] using inside
      rw [if_pos outside]
      constructor
      · intro impossible
        cases impossible
      · intro read
        exact absurd (read.1 digit List.mem_cons_self) isDigit

theorem digits_solid (digits : ∀ digit ∈ number, Decimal.isDigit digit = true) :
    Solid number := by
  intro byte member
  have digit := digits byte member
  simp only [Decimal.isDigit, Bool.and_eq_true, decide_eq_true_eq, UInt8.le_iff_toNat_le] at digit
  have lower : 48 ≤ byte.toNat := digit.1
  simp only [isSpace, Bool.or_eq_false_iff, beq_eq_false_iff_ne, Bool.and_eq_false_imp,
    decide_eq_true_eq, decide_eq_false_iff_not, UInt8.le_iff_toNat_le]
  constructor
  · rintro rfl
    exact absurd lower (by decide)
  · intro _ upper
    have upper : byte.toNat ≤ 13 := upper
    omega

/-- A request is a scan of its word and of digits in range. -/
theorem request_iff (solid : Solid word) (nonempty : word ≠ []) (short : word.length < 15) :
    (∃ digits, scan text = .number word digits ∧ scanDigits 0 digits = some number) ↔
      Request word number text ∧ number ≤ 4294967295 := by
  constructor
  · rintro ⟨digits, scanned, read⟩
    obtain ⟨before, between, after, joined, blank, spaces, separated, trailing, -, some, fits⟩ :=
      (scan_number_iff solid nonempty short).mp scanned
    obtain ⟨decimal, value, small⟩ := (scanDigits_iff (by decide)).mp read
    exact ⟨⟨before, between, digits, after, joined, blank, spaces, separated, trailing, decimal,
      some, fits, value⟩, small⟩
  · rintro ⟨⟨before, between, digits, after, joined, blank, spaces, separated, trailing, decimal,
      some, fits, value⟩, small⟩
    refine ⟨digits, (scan_number_iff solid nonempty short).mpr ?_,
      (scanDigits_iff (by decide)).mpr ⟨decimal, value, small⟩⟩
    exact ⟨before, between, after, joined, blank, spaces, separated, trailing,
      digits_solid decimal, some, fits⟩

/-! ## The beginning of the line -/

/-- The loop before the first test skips some of the white space that the scan skips. -/
theorem scan_dropWhile (skips : ∀ byte, skipped byte = true → isSpace byte = true)
    (text : List UInt8) : scan (text.dropWhile skipped) = scan text := by
  have graphic : (text.dropWhile skipped).dropWhile isSpace = text.dropWhile isSpace := by
    conv => rhs; rw [← List.takeWhile_append_dropWhile (p := skipped) (l := text)]
    exact (dropWhile_blank (fun byte member => skips byte (List.mem_takeWhile_imp member)) _).symm
  have first : scanWord 15 (text.dropWhile skipped) = scanWord 15 text := by
    rw [scanWord, graphic, scanWord]
  rw [scan, first, scan]

/-- The test after that loop finds exactly the empty lines. -/
theorem empty_iff (text : List UInt8) :
    (text.dropWhile (fun byte => byte == 32 || byte == 9 || byte == 13) = [] ∨
      (text.dropWhile fun byte => byte == 32 || byte == 9 || byte == 13).head? = some 10) ↔
    Empty text := by
  constructor
  · intro atEnd
    refine ⟨_, _, List.takeWhile_append_dropWhile.symm, fun byte member => ?_, atEnd⟩
    have skipped := List.mem_takeWhile_imp member
    simpa [or_assoc] using skipped
  · rintro ⟨leading, rest, rfl, skipped, atEnd⟩
    rw [List.dropWhile_append_of_pos (fun byte member => by
      simpa [or_assoc] using skipped byte member)]
    cases rest with
    | nil => exact Or.inl rfl
    | cons first rest =>
      obtain impossible | newline := atEnd
      · cases impossible
      · cases newline
        exact Or.inr rfl

/-- What the rest of `parse_control_line` makes of a scan. -/
def meaning : Scanned → ControlCommand
  | .command command => if command = ascii "quit" then .quit else .invalid
  | .number command number =>
    match scanDigits 0 number with
    | none => .invalid
    | some parsed =>
      if command = ascii "channel" ∧ 13 ≤ parsed ∧ parsed ≤ 62 then .channel (.ofNat parsed)
      else if command = ascii "tune" ∧ 1 ≤ parsed then .tune (.ofNat parsed)
      else .invalid
  | .nothing | .extra => .invalid

theorem parseControlLine_empty (empty : Empty (cString line)) : parseControlLine line = .empty := by
  rw [parseControlLine]
  exact if_pos ((empty_iff _).mpr empty)

theorem parseControlLine_meaning (some : ¬ Empty (cString line)) :
    parseControlLine line = meaning (scan (cString line)) := by
  have skips : ∀ byte, (byte == 32 || byte == 9 || byte == 13) = true → isSpace byte = true := by
    intro byte skipped
    simp only [Bool.or_eq_true, beq_iff_eq] at skipped
    obtain (rfl | rfl) | rfl := skipped <;> rfl
  simp only [parseControlLine]
  rw [if_neg (fun atEnd => some ((empty_iff _).mp atEnd)), scan_dropWhile skips]
  rfl

/-- What a scan means, with all that is known of it. -/
theorem meaning_cases (scanned : Scanned) :
    (scanned = .command (ascii "quit") ∧ meaning scanned = .quit) ∨
    (∃ digits, ∃ number : UInt32, scanned = .number (ascii "channel") digits ∧
      scanDigits 0 digits = some number.toNat ∧ 13 ≤ number.toNat ∧ number.toNat ≤ 62 ∧
      meaning scanned = .channel number) ∨
    (∃ digits, ∃ number : UInt32, scanned = .number (ascii "tune") digits ∧
      scanDigits 0 digits = some number.toNat ∧ 1 ≤ number.toNat ∧
      meaning scanned = .tune number) ∨
    meaning scanned = .invalid := by
  cases scanned with
  | nothing => exact Or.inr (Or.inr (Or.inr rfl))
  | extra => exact Or.inr (Or.inr (Or.inr rfl))
  | command command =>
    by_cases quits : command = ascii "quit"
    · exact Or.inl ⟨by rw [quits], if_pos quits⟩
    · exact Or.inr (Or.inr (Or.inr (if_neg quits)))
  | number command digits =>
    cases read : scanDigits 0 digits with
    | none => exact Or.inr (Or.inr (Or.inr (by simp [meaning, read])))
    | some parsed =>
      have bounded := scanDigits_le (by decide) read
      have lossless : (UInt32.ofNat parsed).toNat = parsed := by
        rw [UInt32.toNat_ofNat']
        omega
      by_cases channel : command = ascii "channel" ∧ 13 ≤ parsed ∧ parsed ≤ 62
      · refine Or.inr (Or.inl ⟨digits, .ofNat parsed, by rw [channel.1], ?_, ?_, ?_, ?_⟩)
        · rw [read, lossless]
        · rw [lossless]
          exact channel.2.1
        · rw [lossless]
          exact channel.2.2
        · simp only [meaning, read, if_pos channel]
      · by_cases tune : command = ascii "tune" ∧ 1 ≤ parsed
        · refine Or.inr (Or.inr (Or.inl ⟨digits, .ofNat parsed, by rw [tune.1], ?_, ?_, ?_⟩))
          · rw [read, lossless]
          · rw [lossless]
            exact tune.2
          · simp only [meaning, read, if_neg channel, if_pos tune]
        · exact Or.inr (Or.inr (Or.inr (by
            simp only [meaning, read, if_neg channel, if_neg tune])))

theorem meaning_channel_iff : meaning scanned = .channel number ↔
    (∃ digits, scanned = .number (ascii "channel") digits ∧
      scanDigits 0 digits = some number.toNat) ∧ 13 ≤ number.toNat ∧ number.toNat ≤ 62 := by
  constructor
  · intro channel
    obtain ⟨-, means⟩ | ⟨digits, other, form, read, lower, upper, means⟩ |
      ⟨digits, other, -, -, -, means⟩ | means := meaning_cases scanned
    · cases means.symm.trans channel
    · cases means.symm.trans channel
      exact ⟨⟨digits, form, read⟩, lower, upper⟩
    · cases means.symm.trans channel
    · cases means.symm.trans channel
  · rintro ⟨⟨digits, rfl, read⟩, lower, upper⟩
    simp [meaning, read, lower, upper]

theorem meaning_tune_iff : meaning scanned = .tune number ↔
    (∃ digits, scanned = .number (ascii "tune") digits ∧
      scanDigits 0 digits = some number.toNat) ∧ 1 ≤ number.toNat := by
  constructor
  · intro tune
    obtain ⟨-, means⟩ | ⟨digits, other, -, -, -, -, means⟩ |
      ⟨digits, other, form, read, lower, means⟩ | means := meaning_cases scanned
    · cases means.symm.trans tune
    · cases means.symm.trans tune
    · cases means.symm.trans tune
      exact ⟨⟨digits, form, read⟩, lower⟩
    · cases means.symm.trans tune
  · rintro ⟨⟨digits, rfl, read⟩, lower⟩
    have other : ascii "tune" ≠ ascii "channel" := by decide
    simp [meaning, read, other, lower]

theorem meaning_quit_iff : meaning scanned = .quit ↔ scanned = .command (ascii "quit") := by
  constructor
  · intro quits
    obtain ⟨form, -⟩ | ⟨_, _, -, -, -, -, means⟩ | ⟨_, _, -, -, -, means⟩ | means :=
      meaning_cases scanned
    · exact form
    · cases means.symm.trans quits
    · cases means.symm.trans quits
    · cases means.symm.trans quits
  · rintro rfl
    simp [meaning]

/-! ## The commands -/

theorem channel_iff (line : List UInt8) (number : UInt32) :
    parseControlLine line = .channel number ↔
      ¬ Empty (cString line) ∧ Request (ascii "channel") number.toNat (cString line) ∧
        13 ≤ number.toNat ∧ number.toNat ≤ 62 := by
  by_cases empty : Empty (cString line)
  · simp [parseControlLine_empty empty, empty]
  · rw [parseControlLine_meaning empty, meaning_channel_iff,
      request_iff (by decide) (by decide) (by decide)]
    constructor
    · rintro ⟨⟨request, -⟩, range⟩
      exact ⟨empty, request, range⟩
    · rintro ⟨-, request, range⟩
      exact ⟨⟨request, by omega⟩, range⟩

theorem tune_iff (line : List UInt8) (number : UInt32) :
    parseControlLine line = .tune number ↔
      ¬ Empty (cString line) ∧ Request (ascii "tune") number.toNat (cString line) ∧
        1 ≤ number.toNat ∧ number.toNat ≤ 4294967295 := by
  by_cases empty : Empty (cString line)
  · simp [parseControlLine_empty empty, empty]
  · rw [parseControlLine_meaning empty, meaning_tune_iff,
      request_iff (by decide) (by decide) (by decide)]
    constructor
    · rintro ⟨⟨request, small⟩, lower⟩
      exact ⟨empty, request, lower, small⟩
    · rintro ⟨-, request, lower, small⟩
      exact ⟨⟨request, small⟩, lower⟩

theorem quit_iff (line : List UInt8) :
    parseControlLine line = .quit ↔
      ¬ Empty (cString line) ∧ Alone (ascii "quit") (cString line) := by
  by_cases empty : Empty (cString line)
  · simp [parseControlLine_empty empty, empty]
  · rw [parseControlLine_meaning empty, meaning_quit_iff,
      scan_command_iff (by decide) (by decide) (by decide)]
    simp [empty]

theorem parseControlLine_eq_empty_iff (line : List UInt8) :
    parseControlLine line = .empty ↔ Empty (cString line) := by
  refine ⟨fun parsed => ?_, parseControlLine_empty⟩
  by_contra some
  rw [parseControlLine_meaning some] at parsed
  obtain ⟨-, means⟩ | ⟨_, _, -, -, -, -, means⟩ | ⟨_, _, -, -, -, means⟩ | means :=
    meaning_cases (scan (cString line))
  · cases means.symm.trans parsed
  · cases means.symm.trans parsed
  · cases means.symm.trans parsed
  · cases means.symm.trans parsed

/-- A number in range is one of 32 bits. -/
theorem exists_uint32_iff (holds : Nat → Prop)
    (bounded : ∀ number, holds number → number ≤ 4294967295) :
    (∃ number : UInt32, holds number.toNat) ↔ ∃ number, holds number := by
  constructor
  · rintro ⟨number, held⟩
    exact ⟨number.toNat, held⟩
  · rintro ⟨number, held⟩
    have small := bounded number held
    refine ⟨.ofNat number, ?_⟩
    rwa [UInt32.toNat_ofNat', Nat.mod_eq_of_lt (by omega)]

/-- A line is invalid when it is no other command. -/
theorem invalid_iff (line : List UInt8) :
    parseControlLine line = .invalid ↔
      parseControlLine line ≠ .empty ∧ parseControlLine line ≠ .quit ∧
        (¬ ∃ number, parseControlLine line = .channel number) ∧
        ¬ ∃ number, parseControlLine line = .tune number := by
  cases parseControlLine line <;> simp

/-- **The parser accepts exactly its grammar.** A line is empty exactly when it ends, or breaks,
after leading spaces, tabs and carriage returns; any other line is a channel, a frequency or the
end of the session exactly when it is written so, and invalid otherwise. `*value` is the number
of a channel or of a frequency, and else what it was. -/
theorem parse_control_line_grammar (line : List UInt8) (value : UInt32) :
    ((parseControlLineInto line value).1 = .empty ↔ Empty (cString line)) ∧
    (∀ number : UInt32, parseControlLineInto line value = (.channel, number) ↔
      ¬ Empty (cString line) ∧ Request (ascii "channel") number.toNat (cString line) ∧
        13 ≤ number.toNat ∧ number.toNat ≤ 62) ∧
    (∀ number : UInt32, parseControlLineInto line value = (.tune, number) ↔
      ¬ Empty (cString line) ∧ Request (ascii "tune") number.toNat (cString line) ∧
        1 ≤ number.toNat ∧ number.toNat ≤ 4294967295) ∧
    ((parseControlLineInto line value).1 = .quit ↔
      ¬ Empty (cString line) ∧ Alone (ascii "quit") (cString line)) ∧
    ((parseControlLineInto line value).1 = .invalid ↔
      ¬ Empty (cString line) ∧ ¬ Alone (ascii "quit") (cString line) ∧
        (¬ ∃ number, Request (ascii "channel") number (cString line) ∧
          13 ≤ number ∧ number ≤ 62) ∧
        ¬ ∃ number, Request (ascii "tune") number (cString line) ∧
          1 ≤ number ∧ number ≤ 4294967295) ∧
    ((parseControlLineInto line value).1 ≠ .channel → (parseControlLineInto line value).1 ≠ .tune →
      (parseControlLineInto line value).2 = value) := by
  rw [parseControlLineInto_eq]
  refine ⟨?_, fun number => ?_, fun number => ?_, ?_, ?_, ?_⟩
  · rw [← parseControlLine_eq_empty_iff]
    cases parseControlLine line <;> simp [returned]
  · rw [← channel_iff]
    cases parseControlLine line <;> simp [returned]
  · rw [← tune_iff]
    cases parseControlLine line <;> simp [returned]
  · rw [← quit_iff]
    cases parseControlLine line <;> simp [returned]
  · have invalid : (returned value (parseControlLine line)).1 = .invalid ↔
        parseControlLine line = .invalid := by
      cases parseControlLine line <;> simp [returned]
    have channels := exists_uint32_iff (fun number =>
      Request (ascii "channel") number (cString line) ∧ 13 ≤ number ∧ number ≤ 62) (by omega)
    have tunes := exists_uint32_iff (fun number =>
      Request (ascii "tune") number (cString line) ∧ 1 ≤ number ∧ number ≤ 4294967295) (by omega)
    rw [invalid, invalid_iff, Ne, Ne, parseControlLine_eq_empty_iff, quit_iff, ← channels, ← tunes]
    simp only [channel_iff, tune_iff]
    by_cases empty : Empty (cString line)
    · simp [empty]
    · simp [empty]
  · cases parseControlLine line <;> simp [returned]

end SianoUserland.ControlGrammar
