import SianoUserland.Lib.Json

/-! The decoder of Python's `json` module with a hook that refuses repeated keys and one
that refuses the constants beside the numbers. -/
namespace SianoUserland.Json
open Text Check

/-- Why a text is refused. The decoder recurses with a budget, which `loads` makes large
enough for every text. -/
inductive Invalid
  | malformed
  | repeatedKey (key : Str)
  | constant (name : Str)
  | budget
  deriving Repr, DecidableEq

/-! ### Strings -/

def hexValue (point : Nat) : Option Nat :=
  if 0x30 ≤ point ∧ point ≤ 0x39 then some (point - 0x30)
  else if 0x61 ≤ point ∧ point ≤ 0x66 then some (point - 0x57)
  else if 0x41 ≤ point ∧ point ≤ 0x46 then some (point - 0x37)
  else none

/-- Four hexadecimal digits. -/
def unitValue (a b c d : Nat) : Option Nat := do
  return (((← hexValue a) * 16 + (← hexValue b)) * 16 + (← hexValue c)) * 16 + (← hexValue d)

/-- The point of an escape of one letter. -/
def unescape (point : Nat) : Option Nat :=
  [(0x22, 0x22), (0x5C, 0x5C), (0x2F, 0x2F), (0x62, 0x08), (0x66, 0x0C), (0x6E, 0x0A),
    (0x72, 0x0D), (0x74, 0x09)].lookup point

def isHigh (unit : Nat) : Bool := 0xD800 ≤ unit && unit ≤ 0xDBFF

def isLow (unit : Nat) : Bool := 0xDC00 ≤ unit && unit ≤ 0xDFFF

def joinSurrogates (high low : Nat) : Nat := 0x10000 + (high - 0xD800) * 1024 + (low - 0xDC00)

/-- A point before the rest of a string. -/
def prepend (point : Nat) (scanned : Except Invalid (Str × Str)) : Except Invalid (Str × Str) :=
  scanned.map fun result => (point :: result.1, result.2)

/-- `scanstring`: a string after its first quote, and what follows its last one. -/
def scanString : Str → Except Invalid (Str × Str)
  | [] => .error .malformed
  | 0x22 :: rest => .ok ([], rest)
  | 0x5C :: 0x75 :: a :: b :: c :: d :: rest =>
    match unitValue a b c d, rest with
    | none, _ => .error .malformed
    | some unit, 0x5C :: 0x75 :: e :: f :: g :: h :: more =>
      if isHigh unit then
        match unitValue e f g h with
        | none => .error .malformed
        | some low =>
          if isLow low then prepend (joinSurrogates unit low) (scanString more)
          else prepend unit (scanString (0x5C :: 0x75 :: e :: f :: g :: h :: more))
      else prepend unit (scanString (0x5C :: 0x75 :: e :: f :: g :: h :: more))
    | some unit, rest => prepend unit (scanString rest)
  | 0x5C :: letter :: rest =>
    match unescape letter with
    | none => .error .malformed
    | some point => prepend point (scanString rest)
  | point :: rest => if point < 0x20 then .error .malformed else prepend point (scanString rest)

/-! ### Numbers -/

def isDigit (point : Nat) : Bool := 0x30 ≤ point && point ≤ 0x39

/-- The number that decimal digits denote. -/
def digitsValue (text : Str) : Nat := text.foldl (fun value point => value * 10 + (point - 0x30)) 0

/-- The integer part: a zero alone or digits without a zero in front. -/
def scanInteger : Str → Option (Str × Str)
  | 0x30 :: rest => some ([0x30], rest)
  | text =>
    let front := text.takeWhile isDigit
    if front = [] then none else some (front, text.dropWhile isDigit)

/-- The fraction, if there is one: a point with a digit after it. -/
def scanFraction : Str → Str × Str
  | 0x2E :: rest =>
    let front := rest.takeWhile isDigit
    if front = [] then ([], 0x2E :: rest) else (front, rest.dropWhile isDigit)
  | text => ([], text)

/-- The digits of an exponent after its sign. -/
def exponentDigits (negative : Bool) (text : Str) : Option (Int × Str) :=
  let front := text.takeWhile isDigit
  if front = [] then none
  else
    let size : Int := digitsValue front
    some (if negative then -size else size, text.dropWhile isDigit)

/-- The exponent, if there is one: a letter and digits, a sign before them or not. -/
def scanExponent : Str → Option (Int × Str)
  | letter :: rest =>
    if letter = 0x65 ∨ letter = 0x45 then
      match rest with
      | 0x2D :: more => exponentDigits true more
      | 0x2B :: more => exponentDigits false more
      | more => exponentDigits false more
    else none
  | [] => none

/-- `_match_number`: an integer, or a float where there is a fraction or an exponent. -/
def scanNumber (text : Str) : Except Invalid (Json × Str) :=
  let negative := text.head? = some 0x2D
  match scanInteger (if negative then text.drop 1 else text) with
  | none => .error .malformed
  | some (whole, rest) =>
    let fraction := scanFraction rest
    let scale : Int := -fraction.1.length
    match scanExponent fraction.2 with
    | some (exponent, rest) =>
      let digits := digitsValue (whole ++ fraction.1)
      .ok (.float (.ofDecimal negative digits (scale + exponent)), rest)
    | none =>
      if fraction.1 = [] then
        let size : Int := digitsValue whole
        .ok (.int (if negative then -size else size), fraction.2)
      else
        .ok (.float (.ofDecimal negative (digitsValue (whole ++ fraction.1)) scale), fraction.2)

/-! ### Values -/

/-- The text after a word. -/
def word? (word : String) (text : Str) : Option Str :=
  if (str word).isPrefixOf text then some (text.drop (str word).length) else none

/-- A value that is neither a string nor a container. -/
def scanWord (text : Str) : Except Invalid (Json × Str) :=
  match word? "null" text, word? "true" text, word? "false" text with
  | some rest, _, _ => .ok (.null, rest)
  | _, some rest, _ => .ok (.bool true, rest)
  | _, _, some rest => .ok (.bool false, rest)
  | none, none, none =>
    match ["NaN", "Infinity", "-Infinity"].find? fun name => (word? name text).isSome with
    | some name => .error (.constant (str name))
    | none => scanNumber text

def skipSpace (text : Str) : Str :=
  text.dropWhile fun point => point = 0x20 || point = 0x09 || point = 0x0A || point = 0x0D

/-- The hook for the fields of an object, of which `result` holds the first. -/
def pairsFrom (result : List (Str × Json)) : List (Str × Json) → Except Invalid Json
  | [] => .ok (.object result)
  | (key, value) :: rest => do
    require (key ∉ result.map Prod.fst) (.repeatedKey key)
    pairsFrom (result ++ [(key, value)]) rest

def pairs (fields : List (Str × Json)) : Except Invalid Json := pairsFrom [] fields

mutual

/-- `scan_once`: a value and what follows it. -/
def scanValue : Nat → Str → Except Invalid (Json × Str)
  | 0, _ => .error .budget
  | _ + 1, 0x22 :: rest => do
    let (text, rest) ← scanString rest
    return (.string text, rest)
  | budget + 1, 0x7B :: rest =>
    match skipSpace rest with
    | 0x7D :: rest => .ok (.object [], rest)
    | rest => do
      let (fields, rest) ← scanFields budget rest
      return (← pairs fields, rest)
  | budget + 1, 0x5B :: rest =>
    match skipSpace rest with
    | 0x5D :: rest => .ok (.array [], rest)
    | rest => do
      let (items, rest) ← scanItems budget rest
      return (.array items, rest)
  | _ + 1, text => scanWord text

/-- The items of an array up to its end. -/
def scanItems : Nat → Str → Except Invalid (List Json × Str)
  | 0, _ => .error .budget
  | budget + 1, text => do
    let (item, rest) ← scanValue budget text
    match skipSpace rest with
    | 0x2C :: rest =>
      let (items, rest) ← scanItems budget (skipSpace rest)
      return (item :: items, rest)
    | 0x5D :: rest => return ([item], rest)
    | _ => throw .malformed

/-- The fields of an object up to its end. -/
def scanFields : Nat → Str → Except Invalid (List (Str × Json) × Str)
  | 0, _ => .error .budget
  | budget + 1, 0x22 :: text => do
    let (key, rest) ← scanString text
    match skipSpace rest with
    | 0x3A :: rest =>
      let (value, rest) ← scanValue budget (skipSpace rest)
      match skipSpace rest with
      | 0x2C :: rest =>
        let (fields, rest) ← scanFields budget (skipSpace rest)
        return ((key, value) :: fields, rest)
      | 0x7D :: rest => return ([(key, value)], rest)
      | _ => throw .malformed
    | _ => throw .malformed
  | _ + 1, _ => .error .malformed

end

/-- `json.loads` of a string. -/
def loads (text : Str) : Except Invalid Json :=
  if text.head? = some 0xFEFF then .error .malformed
  else do
    let (value, rest) ← scanValue (2 * text.length + 1) (skipSpace text)
    if skipSpace rest = [] then return value else throw .malformed

/-! ### What is read -/

theorem scanNumber_distinct {text rest : Str} {value : Json}
    (scanned : scanNumber text = .ok (value, rest)) : Distinct value := by
  unfold scanNumber at scanned
  dsimp only at scanned
  split at scanned
  · cases scanned
  · split at scanned
    · cases scanned
      exact .float _
    · split at scanned
      · cases scanned
        exact .int _
      · cases scanned
        exact .float _

theorem scanWord_distinct {text rest : Str} {value : Json}
    (scanned : scanWord text = .ok (value, rest)) : Distinct value := by
  unfold scanWord at scanned
  split at scanned
  · cases scanned
    exact .null
  · cases scanned
    exact .bool true
  · cases scanned
    exact .bool false
  · split at scanned
    · cases scanned
    · exact scanNumber_distinct scanned

theorem pairsFrom_distinct {result fields : List (Str × Json)} {value : Json}
    (built : pairsFrom result fields = .ok value) (keys : (result.map Prod.fst).Nodup)
    (inner : ∀ field ∈ result ++ fields, Distinct field.2) : Distinct value := by
  induction fields generalizing result with
  | nil =>
    cases built
    exact .object keys (by simpa using inner)
  | cons field rest hypothesis =>
    obtain ⟨fresh, built⟩ := require_bind_eq_ok_iff.mp built
    refine hypothesis built ?_ (by simpa using inner)
    have fresh : field.1 ∉ result.map Prod.fst := by simpa using fresh
    rw [List.map_append, List.nodup_append]
    refine ⟨keys, by simp, ?_⟩
    rintro key member other here rfl
    cases List.mem_singleton.mp here
    exact fresh member

theorem pairs_distinct {fields : List (Str × Json)} {value : Json}
    (built : pairs fields = .ok value) (inner : ∀ field ∈ fields, Distinct field.2) :
    Distinct value :=
  pairsFrom_distinct built (by simp) (by simpa using inner)

/-- The ways to read a value. -/
theorem scanValue_cases {budget : Nat} {text rest : Str} {value : Json}
    (scanned : scanValue (budget + 1) text = .ok (value, rest)) :
    (∃ after inside, text = 0x22 :: after ∧ scanString after = .ok (inside, rest) ∧
      value = .string inside) ∨
    (∃ after, text = 0x7B :: after ∧ skipSpace after = 0x7D :: rest ∧ value = .object []) ∨
    (∃ after fields, text = 0x7B :: after ∧
      scanFields budget (skipSpace after) = .ok (fields, rest) ∧ pairs fields = .ok value) ∨
    (∃ after, text = 0x5B :: after ∧ skipSpace after = 0x5D :: rest ∧ value = .array []) ∨
    (∃ after items, text = 0x5B :: after ∧
      scanItems budget (skipSpace after) = .ok (items, rest) ∧ value = .array items) ∨
    scanWord text = .ok (value, rest) := by
  unfold scanValue at scanned
  split at scanned
  · cases scanned
  · next _ after shape =>
    cases shape
    obtain ⟨⟨inside, more⟩, read, scanned⟩ := bind_eq_ok_iff.mp scanned
    cases scanned
    exact Or.inl ⟨after, inside, rfl, read, rfl⟩
  · next _ after shape =>
    cases shape
    split at scanned
    · next closed =>
      cases scanned
      exact Or.inr (Or.inl ⟨after, rfl, closed, rfl⟩)
    · obtain ⟨⟨fields, more⟩, read, scanned⟩ := bind_eq_ok_iff.mp scanned
      obtain ⟨built, pair, scanned⟩ := bind_eq_ok_iff.mp scanned
      cases scanned
      exact Or.inr (Or.inr (Or.inl ⟨after, fields, rfl, read, pair⟩))
  · next _ after shape =>
    cases shape
    split at scanned
    · next closed =>
      cases scanned
      exact Or.inr (Or.inr (Or.inr (Or.inl ⟨after, rfl, closed, rfl⟩)))
    · obtain ⟨⟨items, more⟩, read, scanned⟩ := bind_eq_ok_iff.mp scanned
      cases scanned
      exact Or.inr (Or.inr (Or.inr (Or.inr (Or.inl ⟨after, items, rfl, read, rfl⟩))))
  · exact Or.inr (Or.inr (Or.inr (Or.inr (Or.inr scanned))))

/-- The ways to read items. -/
theorem scanItems_cases {budget : Nat} {text rest : Str} {items : List Json}
    (scanned : scanItems (budget + 1) text = .ok (items, rest)) :
    ∃ item more, scanValue budget text = .ok (item, more) ∧
      ((∃ after others, skipSpace more = 0x2C :: after ∧
        scanItems budget (skipSpace after) = .ok (others, rest) ∧ items = item :: others) ∨
      (skipSpace more = 0x5D :: rest ∧ items = [item])) := by
  unfold scanItems at scanned
  obtain ⟨⟨item, more⟩, first, scanned⟩ := bind_eq_ok_iff.mp scanned
  refine ⟨item, more, first, ?_⟩
  dsimp only at scanned
  split at scanned
  · next after shape =>
    obtain ⟨⟨others, last⟩, later, scanned⟩ := bind_eq_ok_iff.mp scanned
    cases scanned
    exact Or.inl ⟨after, others, shape, later, rfl⟩
  · next shape =>
    cases scanned
    exact Or.inr ⟨shape, rfl⟩
  · cases scanned

/-- The ways to read fields. -/
theorem scanFields_cases {budget : Nat} {text rest : Str} {fields : List (Str × Json)}
    (scanned : scanFields (budget + 1) text = .ok (fields, rest)) :
    ∃ start key named value more, text = 0x22 :: start ∧
      scanString start = .ok (key, named) ∧ ∃ after, skipSpace named = 0x3A :: after ∧
      scanValue budget (skipSpace after) = .ok (value, more) ∧
      ((∃ next others, skipSpace more = 0x2C :: next ∧
        scanFields budget (skipSpace next) = .ok (others, rest) ∧
        fields = (key, value) :: others) ∨
      (skipSpace more = 0x7D :: rest ∧ fields = [(key, value)])) := by
  unfold scanFields at scanned
  split at scanned
  · cases scanned
  · next _ start shape =>
    cases shape
    obtain ⟨⟨key, named⟩, read, scanned⟩ := bind_eq_ok_iff.mp scanned
    dsimp only at scanned
    split at scanned
    · next after colon =>
      obtain ⟨⟨value, more⟩, first, scanned⟩ := bind_eq_ok_iff.mp scanned
      refine ⟨start, key, named, value, more, rfl, read, after, colon, first, ?_⟩
      dsimp only at scanned
      split at scanned
      · next next comma =>
        obtain ⟨⟨others, last⟩, later, scanned⟩ := bind_eq_ok_iff.mp scanned
        cases scanned
        exact Or.inl ⟨next, others, comma, later, rfl⟩
      · next closed =>
        cases scanned
        exact Or.inr ⟨closed, rfl⟩
      · cases scanned
    · cases scanned
  · cases scanned

theorem scan_distinct (budget : Nat) :
    (∀ text value rest, scanValue budget text = .ok (value, rest) → Distinct value) ∧
    (∀ text items rest, scanItems budget text = .ok (items, rest) →
      ∀ item ∈ items, Distinct item) ∧
    ∀ text fields rest, scanFields budget text = .ok (fields, rest) →
      ∀ field ∈ fields, Distinct field.2 := by
  induction budget with
  | zero =>
    refine ⟨?_, ?_, ?_⟩ <;> intro text value rest scanned <;> cases scanned
  | succ budget hypothesis =>
    obtain ⟨ofValue, ofItems, ofFields⟩ := hypothesis
    refine ⟨?_, ?_, ?_⟩
    · intro text value rest scanned
      rcases scanValue_cases scanned with ⟨_, inside, -, -, rfl⟩ | ⟨_, -, -, rfl⟩ |
        ⟨_, fields, -, read, built⟩ | ⟨_, -, -, rfl⟩ | ⟨_, items, -, read, rfl⟩ | word
      · exact .string inside
      · exact .object (by simp) (by simp)
      · exact pairs_distinct built (ofFields _ _ _ read)
      · exact .array (by simp)
      · exact .array (ofItems _ _ _ read)
      · exact scanWord_distinct word
    · intro text items rest scanned
      obtain ⟨item, more, first, ⟨after, others, -, later, rfl⟩ | ⟨-, rfl⟩⟩ :=
        scanItems_cases scanned
      · exact List.forall_mem_cons.mpr ⟨ofValue _ _ _ first, ofItems _ _ _ later⟩
      · simpa using ofValue _ _ _ first
    · intro text fields rest scanned
      obtain ⟨_, key, _, value, more, -, -, after, -, first,
        ⟨next, others, -, later, rfl⟩ | ⟨-, rfl⟩⟩ := scanFields_cases scanned
      · exact List.forall_mem_cons.mpr ⟨ofValue _ _ _ first, ofFields _ _ _ later⟩
      · simpa using ofValue _ _ _ first

/-- No object of a value that was read has a key twice. -/
theorem loads_distinct {text : Str} {value : Json} (read : loads text = .ok value) :
    Distinct value := by
  unfold loads at read
  split at read
  · cases read
  · obtain ⟨⟨found, rest⟩, scanned, read⟩ := bind_eq_ok_iff.mp read
    dsimp only at read
    split at read
    · cases read
      exact (scan_distinct _).1 _ _ _ scanned
    · cases read

/-! ### The budget suffices -/

theorem skipSpace_length (text : Str) : (skipSpace text).length ≤ text.length :=
  (List.dropWhile_sublist _).length_le

theorem prepend_ok {point : Nat} {scanned : Except Invalid (Str × Str)} {inside rest : Str}
    (read : prepend point scanned = .ok (inside, rest)) : ∃ more, scanned = .ok (more, rest) := by
  cases scanned with
  | error failure => cases read
  | ok result =>
    cases read
    exact ⟨result.1, rfl⟩

theorem prepend_budget {point : Nat} {scanned : Except Invalid (Str × Str)}
    (spent : prepend point scanned = .error .budget) : scanned = .error .budget := by
  cases scanned with
  | error failure => simpa [prepend, Except.map] using spent
  | ok result => cases spent

theorem scanString_shorter {text inside rest : Str}
    (scanned : scanString text = .ok (inside, rest)) : rest.length < text.length := by
  fun_induction scanString text generalizing inside with
  | case1 | case3 | case4 | case9 | case11 => cases scanned
  | case2 =>
    cases scanned
    simp
  | case5 | case6 | case7 | case8 | case10 | case12 =>
    rename_i hypothesis
    obtain ⟨more, read⟩ := prepend_ok scanned
    have shorter := hypothesis read
    simp only [List.length_cons] at *
    omega

theorem scanString_budget (text : Str) : scanString text ≠ .error .budget := by
  fun_induction scanString text with
  | case1 | case2 | case3 | case4 | case9 | case11 => nofun
  | case5 | case6 | case7 | case8 | case10 | case12 =>
    rename_i hypothesis
    exact fun spent => hypothesis (prepend_budget spent)

theorem scanInteger_shorter {text whole rest : Str}
    (scanned : scanInteger text = some (whole, rest)) : rest.length < text.length := by
  unfold scanInteger at scanned
  split at scanned
  · cases scanned
    simp
  · dsimp only at scanned
    split at scanned
    · cases scanned
    · next nonempty =>
      cases scanned
      have parts := congrArg List.length
        (List.takeWhile_append_dropWhile (p := isDigit) (l := text))
      have positive := List.length_pos_iff.mpr nonempty
      rw [List.length_append] at parts
      omega

theorem scanFraction_length (text : Str) : (scanFraction text).2.length ≤ text.length := by
  unfold scanFraction
  split
  · dsimp only
    split
    · exact Nat.le_refl _
    · exact Nat.le_succ_of_le (List.dropWhile_sublist _).length_le
  · exact Nat.le_refl _

theorem exponentDigits_length {negative : Bool} {text rest : Str} {exponent : Int}
    (scanned : exponentDigits negative text = some (exponent, rest)) :
    rest.length ≤ text.length := by
  unfold exponentDigits at scanned
  dsimp only at scanned
  split at scanned
  · cases scanned
  · cases scanned
    exact (List.dropWhile_sublist _).length_le

theorem scanExponent_length {text rest : Str} {exponent : Int}
    (scanned : scanExponent text = some (exponent, rest)) : rest.length ≤ text.length := by
  unfold scanExponent at scanned
  split at scanned
  · split at scanned
    · split at scanned
      all_goals
        have length := exponentDigits_length scanned
        simp only [List.length_cons] at *
        omega
    · cases scanned
  · cases scanned

theorem scanNumber_shorter {text rest : Str} {value : Json}
    (scanned : scanNumber text = .ok (value, rest)) : rest.length < text.length := by
  have dropped : (if text.head? = some 0x2D then text.drop 1 else text).length ≤ text.length := by
    split
    · simp
    · exact Nat.le_refl _
  unfold scanNumber at scanned
  dsimp only at scanned
  split at scanned
  · cases scanned
  · next whole more integer =>
    have shorter := scanInteger_shorter integer
    have fraction := scanFraction_length more
    split at scanned
    · next exponent final found =>
      have exponents := scanExponent_length found
      cases scanned
      omega
    · split at scanned
      · cases scanned
        omega
      · cases scanned
        omega

theorem word?_shorter {word : String} {text rest : Str} (nonempty : 0 < (str word).length)
    (found : word? word text = some rest) : rest.length < text.length := by
  unfold word? at found
  split at found
  · next leads =>
    cases found
    have bound := (List.isPrefixOf_iff_prefix.mp leads).length_le
    rw [List.length_drop]
    omega
  · cases found

theorem scanWord_shorter {text rest : Str} {value : Json}
    (scanned : scanWord text = .ok (value, rest)) : rest.length < text.length := by
  unfold scanWord at scanned
  split at scanned
  · next found =>
    cases scanned
    exact word?_shorter (by decide) found
  · next found _ =>
    cases scanned
    exact word?_shorter (by decide) found
  · next found _ _ =>
    cases scanned
    exact word?_shorter (by decide) found
  · split at scanned
    · cases scanned
    · exact scanNumber_shorter scanned

theorem scanWord_budget (text : Str) : scanWord text ≠ .error .budget := by
  unfold scanWord scanNumber
  dsimp only
  repeat' split
  all_goals nofun

theorem pairsFrom_budget (result fields : List (Str × Json)) :
    pairsFrom result fields ≠ .error .budget := by
  induction fields generalizing result with
  | nil => nofun
  | cons field rest hypothesis =>
    intro spent
    rcases bind_eq_error_iff.mp spent with early | ⟨-, -, later⟩
    · unfold require at early
      split at early <;> cases early
    · exact hypothesis _ later

section Shorter
variable {budget : Nat}
  (ofValue : ∀ text value rest, scanValue budget text = .ok (value, rest) →
    rest.length < text.length)
  (ofItems : ∀ text items rest, scanItems budget text = .ok (items, rest) →
    rest.length < text.length)
  (ofFields : ∀ text fields rest, scanFields budget text = .ok (fields, rest) →
    rest.length < text.length)

include ofItems ofFields in
theorem scanValue_shorter {text rest : Str} {value : Json}
    (scanned : scanValue (budget + 1) text = .ok (value, rest)) : rest.length < text.length := by
  rcases scanValue_cases scanned with ⟨after, _, rfl, read, -⟩ | ⟨after, rfl, closed, -⟩ |
    ⟨after, _, rfl, read, -⟩ | ⟨after, rfl, closed, -⟩ | ⟨after, _, rfl, read, -⟩ | word
  · exact Nat.lt_succ_of_lt (scanString_shorter read)
  · have space := skipSpace_length after
    simp only [closed, List.length_cons] at *
    omega
  · have space := skipSpace_length after
    have inner := ofFields _ _ _ read
    rw [List.length_cons]
    omega
  · have space := skipSpace_length after
    simp only [closed, List.length_cons] at *
    omega
  · have space := skipSpace_length after
    have inner := ofItems _ _ _ read
    rw [List.length_cons]
    omega
  · exact scanWord_shorter word

include ofValue ofItems in
theorem scanItems_shorter {text rest : Str} {items : List Json}
    (scanned : scanItems (budget + 1) text = .ok (items, rest)) : rest.length < text.length := by
  obtain ⟨item, more, first, ends⟩ := scanItems_cases scanned
  have inner := ofValue _ _ _ first
  have space := skipSpace_length more
  rcases ends with ⟨after, others, comma, later, -⟩ | ⟨closed, -⟩
  · have further := ofItems _ _ _ later
    have gap := skipSpace_length after
    rw [comma, List.length_cons] at space
    omega
  · rw [closed, List.length_cons] at space
    omega

include ofValue ofFields in
theorem scanFields_shorter {text rest : Str} {fields : List (Str × Json)}
    (scanned : scanFields (budget + 1) text = .ok (fields, rest)) : rest.length < text.length := by
  obtain ⟨start, key, named, value, more, rfl, read, after, colon, first, ends⟩ :=
    scanFields_cases scanned
  have label := scanString_shorter read
  have inner := ofValue _ _ _ first
  have space := skipSpace_length more
  have gap := skipSpace_length after
  have before := skipSpace_length named
  rw [colon, List.length_cons] at before
  rw [List.length_cons]
  rcases ends with ⟨next, others, comma, later, -⟩ | ⟨closed, -⟩
  · have further := ofFields _ _ _ later
    have jump := skipSpace_length next
    rw [comma, List.length_cons] at space
    omega
  · rw [closed, List.length_cons] at space
    omega

end Shorter

theorem scan_shorter (budget : Nat) :
    (∀ text value rest, scanValue budget text = .ok (value, rest) →
      rest.length < text.length) ∧
    (∀ text items rest, scanItems budget text = .ok (items, rest) →
      rest.length < text.length) ∧
    ∀ text fields rest, scanFields budget text = .ok (fields, rest) →
      rest.length < text.length := by
  induction budget with
  | zero =>
    refine ⟨?_, ?_, ?_⟩ <;> intro text value rest scanned <;> cases scanned
  | succ budget hypothesis =>
    obtain ⟨ofValue, ofItems, ofFields⟩ := hypothesis
    exact ⟨fun _ _ _ => scanValue_shorter ofItems ofFields,
      fun _ _ _ => scanItems_shorter ofValue ofItems,
      fun _ _ _ => scanFields_shorter ofValue ofFields⟩

section Budget
variable {budget : Nat}
  (ofValue : ∀ text, 2 * text.length + 1 ≤ budget → scanValue budget text ≠ .error .budget)
  (ofItems : ∀ text, 2 * text.length + 2 ≤ budget → scanItems budget text ≠ .error .budget)
  (ofFields : ∀ text, 2 * text.length + 2 ≤ budget → scanFields budget text ≠ .error .budget)

include ofItems ofFields in
theorem scanValue_budget {text : Str} (enough : 2 * text.length + 1 ≤ budget + 1) :
    scanValue (budget + 1) text ≠ .error .budget := by
  intro spent
  unfold scanValue at spent
  split at spent
  · cases ‹_ + 1 = 0›
  · rcases bind_eq_error_iff.mp spent with early | ⟨_, -, later⟩
    · exact scanString_budget _ early
    · cases later
  · next _ after shape =>
    cases shape
    have space := skipSpace_length after
    rw [List.length_cons] at enough
    split at spent
    · cases spent
    · rcases bind_eq_error_iff.mp spent with early | ⟨⟨fields, _⟩, -, later⟩
      · exact ofFields _ (by omega) early
      · rcases bind_eq_error_iff.mp later with early | ⟨_, -, later⟩
        · exact pairsFrom_budget [] fields early
        · cases later
  · next _ after shape =>
    cases shape
    have space := skipSpace_length after
    rw [List.length_cons] at enough
    split at spent
    · cases spent
    · rcases bind_eq_error_iff.mp spent with early | ⟨_, -, later⟩
      · exact ofItems _ (by omega) early
      · cases later
  · exact scanWord_budget _ spent

include ofValue ofItems in
theorem scanItems_budget {text : Str} (enough : 2 * text.length + 2 ≤ budget + 1) :
    scanItems (budget + 1) text ≠ .error .budget := by
  intro spent
  unfold scanItems at spent
  rcases bind_eq_error_iff.mp spent with early | ⟨⟨item, more⟩, first, later⟩
  · exact ofValue text (by omega) early
  · have inner := (scan_shorter budget).1 _ _ _ first
    have space := skipSpace_length more
    dsimp only at later
    split at later
    · next after comma =>
      have gap := skipSpace_length after
      rw [comma, List.length_cons] at space
      rcases bind_eq_error_iff.mp later with early | ⟨_, -, later⟩
      · exact ofItems _ (by omega) early
      · cases later
    · cases later
    · cases later

include ofValue ofFields in
theorem scanFields_budget {text : Str} (enough : 2 * text.length + 2 ≤ budget + 1) :
    scanFields (budget + 1) text ≠ .error .budget := by
  intro spent
  unfold scanFields at spent
  split at spent
  · cases ‹_ + 1 = 0›
  · next _ start shape =>
    cases shape
    rw [List.length_cons] at enough
    rcases bind_eq_error_iff.mp spent with early | ⟨⟨key, named⟩, read, later⟩
    · exact scanString_budget _ early
    · have label := scanString_shorter read
      have before := skipSpace_length named
      dsimp only at later
      split at later
      · next after colon =>
        have gap := skipSpace_length after
        rw [colon, List.length_cons] at before
        rcases bind_eq_error_iff.mp later with early | ⟨⟨value, more⟩, first, later⟩
        · exact ofValue _ (by omega) early
        · have inner := (scan_shorter budget).1 _ _ _ first
          have space := skipSpace_length more
          dsimp only at later
          split at later
          · next next comma =>
            have jump := skipSpace_length next
            rw [comma, List.length_cons] at space
            rcases bind_eq_error_iff.mp later with early | ⟨_, -, later⟩
            · exact ofFields _ (by omega) early
            · cases later
          · cases later
          · cases later
      · cases later
  · cases spent

end Budget

theorem scan_budget (budget : Nat) :
    (∀ text, 2 * text.length + 1 ≤ budget → scanValue budget text ≠ .error .budget) ∧
    (∀ text, 2 * text.length + 2 ≤ budget → scanItems budget text ≠ .error .budget) ∧
    ∀ text, 2 * text.length + 2 ≤ budget → scanFields budget text ≠ .error .budget := by
  induction budget with
  | zero => refine ⟨?_, ?_, ?_⟩ <;> intro text enough <;> omega
  | succ budget hypothesis =>
    obtain ⟨ofValue, ofItems, ofFields⟩ := hypothesis
    exact ⟨fun _ => scanValue_budget ofItems ofFields, fun _ => scanItems_budget ofValue ofItems,
      fun _ => scanFields_budget ofValue ofFields⟩

/-- The budget of `loads` is never spent. -/
theorem loads_budget (text : Str) : loads text ≠ .error .budget := by
  intro spent
  unfold loads at spent
  split at spent
  · cases spent
  · rcases bind_eq_error_iff.mp spent with early | ⟨⟨value, rest⟩, -, later⟩
    · have space := skipSpace_length text
      exact (scan_budget _).1 _ (by omega) early
    · dsimp only at later
      split at later <;> cases later

end SianoUserland.Json
