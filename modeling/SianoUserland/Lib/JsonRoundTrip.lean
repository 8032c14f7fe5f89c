import SianoUserland.Lib.JsonDecoder
import SianoUserland.Lib.JsonEncoding

/-! What is written is read back. A text of integers, truth values and strings without surrogates
comes back with the fields of every object in the order of their keys, which is the order they are
written in. -/
namespace SianoUserland.Json
open Text Check

/-! ### Strings -/

theorem hexValue_hexDigit {value : Nat} (digit : value < 16) :
    hexValue (hexDigit value) = some value := by
  have all : ∀ value < 16, hexValue (hexDigit value) = some value := by decide
  exact all value digit

/-- The four digits of a unit are read back. -/
theorem unitValue_escapeUnit {unit : Nat} (small : unit < 0x10000) :
    unitValue (hexDigit (unit / 4096)) (hexDigit (unit / 256 % 16)) (hexDigit (unit / 16 % 16))
      (hexDigit (unit % 16)) = some unit := by
  have value : ((unit / 4096 * 16 + unit / 256 % 16) * 16 + unit / 16 % 16) * 16 + unit % 16 =
      unit := by omega
  rw [unitValue, hexValue_hexDigit (by omega), hexValue_hexDigit (by omega),
    hexValue_hexDigit (by omega), hexValue_hexDigit (by omega)]
  exact congrArg some value

/-- A point that is written and read as itself: no surrogate, and within the range of Unicode. -/
def Scalar (point : Nat) : Prop := point < 0x110000 ∧ isSurrogate point = false

theorem scanString_unit {unit : Nat} {rest : Str} (small : unit < 0x10000)
    (single : isHigh unit = false) :
    scanString (escapeUnit unit ++ rest) = prepend unit (scanString rest) := by
  rw [escapeUnit, List.cons_append, List.cons_append, List.cons_append, List.cons_append,
    List.cons_append, List.cons_append, List.nil_append, scanString.eq_def]
  simp only [unitValue_escapeUnit small]
  split
  · next same => cases same
  · next same =>
    cases same
    rw [if_neg (by simp [single])]
  · next same _ =>
    cases same
    rfl

theorem scanString_pair {high low : Nat} {rest : Str} (first : isHigh high = true)
    (second : isLow low = true) : scanString (escapeUnit high ++ (escapeUnit low ++ rest)) =
      prepend (joinSurrogates high low) (scanString rest) := by
  have small : high < 0x10000 ∧ low < 0x10000 := by
    simp only [isHigh, isLow, Bool.and_eq_true, decide_eq_true_eq] at first second
    omega
  rw [escapeUnit, escapeUnit]
  simp only [List.cons_append, List.nil_append]
  rw [scanString.eq_def]
  simp only [unitValue_escapeUnit small.1, unitValue_escapeUnit small.2, first, second, ↓reduceIte]

/-- A point of a string is read back from its escape. -/
theorem scanString_escape {point : Nat} {rest : Str} (scalar : Scalar point) :
    scanString (escape point ++ rest) = prepend point (scanString rest) := by
  obtain ⟨bound, apart⟩ := scalar
  unfold escape
  split
  · next plain =>
    rw [List.singleton_append, scanString.eq_def]
    split
    · next shape => cases shape
    · next shape => exact absurd (List.cons.inj shape).1 plain.2.2.1
    · next shape => exact absurd (List.cons.inj shape).1 plain.2.2.2
    · next shape => exact absurd (List.cons.inj shape).1 plain.2.2.2
    · next shape =>
      obtain ⟨rfl, rfl⟩ := List.cons.inj shape
      rw [if_neg (by omega)]
  · split
    · next same =>
      subst same
      rfl
    · split
      · next same =>
        subst same
        rfl
      · split
        · next same =>
          subst same
          rfl
        · split
          · next same =>
            subst same
            rfl
          · split
            · next same =>
              subst same
              rfl
            · split
              · next same =>
                subst same
                rfl
              · split
                · next same =>
                  subst same
                  rfl
                · simp only [isSurrogate, Bool.and_eq_false_iff, decide_eq_false_iff_not] at apart
                  split
                  · next small =>
                    refine scanString_unit small ?_
                    simp only [isHigh, Bool.and_eq_false_iff, decide_eq_false_iff_not]
                    omega
                  · next large =>
                    have joined : joinSurrogates (0xD800 + (point - 0x10000) / 1024)
                        (0xDC00 + (point - 0x10000) % 1024) = point := by
                      unfold joinSurrogates
                      omega
                    rw [List.append_assoc, scanString_pair, joined]
                    · simp only [isHigh, Bool.and_eq_true, decide_eq_true_eq]
                      omega
                    · simp only [isLow, Bool.and_eq_true, decide_eq_true_eq]
                      omega

/-- A string is read back up to its last quote. -/
theorem scanString_quote {text rest : Str} (scalar : ∀ point ∈ text, Scalar point) :
    scanString (text.flatMap escape ++ 0x22 :: rest) = .ok (text, rest) := by
  induction text with
  | nil => rw [List.flatMap_nil, List.nil_append, scanString]
  | cons point text hypothesis =>
    rw [List.flatMap_cons, List.append_assoc, scanString_escape (scalar point (by simp)),
      hypothesis fun other member => scalar other (by simp [member])]
    rfl

/-! ### Numbers -/

/-- The digits of a number have no zero in front. -/
theorem digits_head (number : Nat) : ∃ first rest, Float64.digits number = first :: rest ∧
    (first = 0x30 → number = 0 ∧ rest = []) := by
  induction number using Nat.strongRecOn with
  | ind number hypothesis =>
    by_cases small : number < 10
    · have digit : ∀ number < 10, number.digitChar.toNat = 0x30 → number = 0 := by decide
      exact ⟨_, [], by rw [Float64.digits, Nat.toDigits_of_lt_base small]; rfl,
        fun zero => ⟨digit number small zero, rfl⟩⟩
    · obtain ⟨first, rest, shape, zero⟩ := hypothesis (number / 10) (by omega)
      refine ⟨first, rest ++ [(number % 10).digitChar.toNat], ?_, ?_⟩
      · rw [← List.cons_append, ← shape, Float64.digits, Float64.digits,
          Nat.toDigits_of_base_le (by decide) (by omega), List.map_append]
        rfl
      · intro leads
        have none := (zero leads).1
        omega

theorem digitsValue_digits (number : Nat) : digitsValue (Float64.digits number) = number := by
  have value := Nat.ofDigitChars_ten_toDigits (n := number)
  rw [Nat.ofDigitChars_eq_foldl] at value
  rw [digitsValue, Float64.digits, List.foldl_map]
  simpa [Nat.mul_comm] using value

/-- What follows a value is no digit and goes on with no number. -/
theorem follows_cases {tail : Str} (follows : Follows tail) :
    tail = [] ∨ (∃ rest, tail = 0x2C :: rest) ∨ ∃ rest, tail = 0x0A :: rest := by
  cases tail with
  | nil => exact Or.inl rfl
  | cons point rest =>
    rcases follows point rfl with rfl | rfl
    · exact Or.inr (Or.inl ⟨rest, rfl⟩)
    · exact Or.inr (Or.inr ⟨rest, rfl⟩)

theorem digits_spanned (number : Nat) {tail : Str} (follows : Follows tail) :
    (Float64.digits number ++ tail).takeWhile isDigit = Float64.digits number ∧
      (Float64.digits number ++ tail).dropWhile isDigit = tail := by
  have digits : ∀ point ∈ Float64.digits number, isDigit point = true := by
    intro point member
    have digit := Float64.digits_digit member
    simp only [isDigit, Bool.and_eq_true, decide_eq_true_eq]
    omega
  rw [List.takeWhile_append_of_pos digits, List.dropWhile_append_of_pos digits]
  rcases follows_cases follows with rfl | ⟨rest, rfl⟩ | ⟨rest, rfl⟩
  · simp
  · simp [isDigit]
  · simp [isDigit]

theorem scanInteger_digits {number : Nat} {tail : Str} (follows : Follows tail) :
    scanInteger (Float64.digits number ++ tail) = some (Float64.digits number, tail) := by
  obtain ⟨first, rest, shape, zero⟩ := digits_head number
  obtain ⟨taken, dropped⟩ := digits_spanned number follows
  unfold scanInteger
  split
  · next more leads =>
    rw [shape, List.cons_append] at leads
    obtain ⟨rfl, rfl⟩ := List.cons.inj leads
    rw [shape, (zero rfl).2]
    rfl
  · dsimp only
    rw [taken, dropped, if_neg (by simp [shape])]

theorem scanNumber_reprInt {value : Int} {tail : Str} (follows : Follows tail) :
    scanNumber (reprInt value ++ tail) = .ok (.int value, tail) := by
  have ends : scanFraction tail = ([], tail) ∧ scanExponent tail = none := by
    rcases follows_cases follows with rfl | ⟨rest, rfl⟩ | ⟨rest, rfl⟩
    · exact ⟨rfl, rfl⟩
    · exact ⟨rfl, rfl⟩
    · exact ⟨rfl, rfl⟩
  obtain ⟨first, rest, shape, -⟩ := digits_head value.natAbs
  have digit : 0x30 ≤ first := (Float64.digits_digit (by rw [shape]; simp)).1
  unfold scanNumber reprInt
  by_cases sign : value < 0
  · rw [if_pos sign]
    simp only [List.cons_append, List.head?_cons, ↓reduceIte, List.drop_succ_cons, List.drop_zero,
      scanInteger_digits follows, ends.1, ends.2, digitsValue_digits]
    have negated : -((value.natAbs : Nat) : Int) = value := by omega
    rw [negated]
  · have plain : (Float64.digits value.natAbs ++ tail).head? ≠ some 0x2D := by
      rw [shape]
      simp only [List.cons_append, List.head?_cons, ne_eq, Option.some.injEq]
      omega
    rw [if_neg sign]
    simp only [plain, ↓reduceIte, scanInteger_digits follows, ends.1, ends.2, digitsValue_digits]
    have kept : ((value.natAbs : Nat) : Int) = value := by omega
    rw [kept]

/-- An integer starts with a digit, or with a minus and a digit. -/
theorem reprInt_head (value : Int) : ∃ sign first rest, reprInt value = sign ++ first :: rest ∧
    (0x30 ≤ first ∧ first ≤ 0x39) ∧ (sign = [] ∨ sign = [0x2D]) := by
  obtain ⟨first, rest, shape, -⟩ := digits_head value.natAbs
  have member : first ∈ Float64.digits value.natAbs := by
    rw [shape]
    simp
  have digit := Float64.digits_digit member
  unfold reprInt
  split
  · exact ⟨[0x2D], first, rest, by rw [shape]; rfl, digit, Or.inr rfl⟩
  · exact ⟨[], first, rest, by rw [shape]; rfl, digit, Or.inl rfl⟩

theorem word?_other {word : String} {point second : Nat} {front text : Str}
    (shape : str word = point :: second :: front) (apart : point ∉ text.head? ∨
      ∃ more, text = point :: more ∧ second ∉ more.head?) : word? word text = none := by
  unfold word?
  rw [if_neg]
  rw [shape]
  rcases apart with other | ⟨more, rfl, other⟩
  · cases text with
    | nil => simp
    | cons head rest =>
      simp only [List.head?_cons, Option.mem_some_iff] at other
      simp [List.isPrefixOf, Ne.symm other]
  · cases more with
    | nil => simp
    | cons head rest =>
      simp only [List.head?_cons, Option.mem_some_iff] at other
      simp [List.isPrefixOf, Ne.symm other]

/-- No word stands where an integer does. -/
theorem scanWord_reprInt {value : Int} {tail : Str} (follows : Follows tail) :
    scanWord (reprInt value ++ tail) = .ok (.int value, tail) := by
  have number : scanNumber (reprInt value ++ tail) = .ok (.int value, tail) :=
    scanNumber_reprInt follows
  obtain ⟨sign, first, rest, shape, digit, signed⟩ := reprInt_head value
  rw [shape, List.append_assoc, List.cons_append] at number ⊢
  have none (word : String) (point second : Nat) (front : Str)
      (written : str word = point :: second :: front)
      (apart : 0x39 < point ∨ (point = 0x2D ∧ 0x39 < second)) :
      word? word (sign ++ first :: (rest ++ tail)) = none := by
    apply word?_other written
    rcases signed with rfl | rfl
    · left
      simp only [List.nil_append, List.head?_cons, Option.mem_some_iff]
      omega
    · rcases apart with letter | ⟨rfl, letter⟩
      · left
        simp only [List.singleton_append, List.head?_cons, Option.mem_some_iff]
        omega
      · right
        refine ⟨first :: (rest ++ tail), rfl, ?_⟩
        simp only [List.head?_cons, Option.mem_some_iff]
        omega
  have null := none "null" 0x6E 0x75 [0x6C, 0x6C] (by decide) (by decide)
  have true := none "true" 0x74 0x72 [0x75, 0x65] (by decide) (by decide)
  have false := none "false" 0x66 0x61 [0x6C, 0x73, 0x65] (by decide) (by decide)
  have nan := none "NaN" 0x4E 0x61 [0x4E] (by decide) (by decide)
  have infinity := none "Infinity" 0x49 0x6E [0x66, 0x69, 0x6E, 0x69, 0x74, 0x79] (by decide)
    (by decide)
  have negative := none "-Infinity" 0x2D 0x49 [0x6E, 0x66, 0x69, 0x6E, 0x69, 0x74, 0x79]
    (by decide) (by decide)
  simp only [scanWord, null, true, false, nan, infinity, negative, number, List.find?,
    Option.isSome_none]

/-! ### Values -/

/-- A value whose text is read back. -/
inductive Plain : Json → Prop
  | null : Plain .null
  | bool (value : Bool) : Plain (.bool value)
  | int (value : Int) : Plain (.int value)
  | string {value : Str} (scalar : ∀ point ∈ value, Scalar point) : Plain (.string value)
  | array {items : List Json} (inner : ∀ item ∈ items, Plain item) : Plain (.array items)
  | object {fields : List (Str × Json)} (keys : (fields.map Prod.fst).Nodup)
      (names : ∀ field ∈ fields, ∀ point ∈ field.1, Scalar point)
      (inner : ∀ field ∈ fields, Plain field.2) : Plain (.object fields)

/-- The fields of an object in the order of their keys. -/
def ordered (fields : List (Str × Json)) : List (Str × Json) :=
  (sortedKeys fields).map fun key => (key, get fields key)

mutual

/-- A value with the fields of every object in the order of their keys. -/
def sorted : Json → Json
  | .null => .null
  | .bool value => .bool value
  | .int value => .int value
  | .float value => .float value
  | .string value => .string value
  | .array items => .array (sortedItems items)
  | .object fields => .object (ordered (sortedFields fields))

def sortedItems : List Json → List Json
  | [] => []
  | item :: rest => sorted item :: sortedItems rest

def sortedFields : List (Str × Json) → List (Str × Json)
  | [] => []
  | (key, value) :: rest => (key, sorted value) :: sortedFields rest

end

theorem sortedItems_eq_map (items : List Json) : sortedItems items = items.map sorted := by
  induction items with
  | nil => rfl
  | cons item rest hypothesis => rw [sortedItems, hypothesis, List.map_cons]

theorem sortedFields_eq_map (fields : List (Str × Json)) :
    sortedFields fields = fields.map fun field => (field.1, sorted field.2) := by
  induction fields with
  | nil => rfl
  | cons field rest hypothesis => rw [sortedFields, hypothesis, List.map_cons]

theorem lookup_sortedFields (key : Str) (fields : List (Str × Json)) :
    (sortedFields fields).lookup key = (fields.lookup key).map sorted := by
  induction fields with
  | nil => rfl
  | cons field rest hypothesis =>
    rw [sortedFields, lookup_first, lookup_first, hypothesis]
    split <;> rfl

theorem get_sortedFields (fields : List (Str × Json)) (key : Str) :
    get (sortedFields fields) key = sorted (get fields key) := by
  rw [get, get, lookup_sortedFields]
  cases fields.lookup key <;> rfl

theorem ordered_sortedFields (fields : List (Str × Json)) :
    ordered (sortedFields fields) =
      (ordered fields).map fun field => (field.1, sorted field.2) := by
  have keys : sortedKeys (sortedFields fields) = sortedKeys fields := by
    rw [sortedKeys, sortedKeys, sortedFields_eq_map, List.map_map]
    rfl
  rw [ordered, ordered, keys, List.map_map]
  exact List.map_congr_left fun key _ => Prod.ext rfl (get_sortedFields fields key)

section ordered

variable {fields : List (Str × Json)} {field : Str × Json} {key : Str}

theorem ordered_keys (fields : List (Str × Json)) :
    (ordered fields).map Prod.fst = sortedKeys fields := by
  rw [ordered, List.map_map]
  exact List.map_id _

theorem ordered_nodup (keys : (fields.map Prod.fst).Nodup) :
    ((ordered fields).map Prod.fst).Nodup := by
  rw [ordered_keys]
  exact ((List.perm_insertionSort _ _).nodup_iff).mpr keys

/-- Only the order is another one. -/
theorem mem_ordered (keys : (fields.map Prod.fst).Nodup) :
    field ∈ ordered fields ↔ field ∈ fields := by
  rw [ordered, List.mem_map]
  constructor
  · rintro ⟨key, member, rfl⟩
    obtain ⟨found, inside, rfl⟩ := List.mem_map.mp ((List.mem_insertionSort _).mp member)
    rw [get, lookup_of_mem keys inside]
    exact inside
  · intro inside
    refine ⟨field.1, (List.mem_insertionSort _).mpr (List.mem_map_of_mem inside), ?_⟩
    rw [get, lookup_of_mem keys inside]
    rfl

theorem lookup_ordered (keys : (fields.map Prod.fst).Nodup) (key : Str) :
    (ordered fields).lookup key = fields.lookup key := by
  cases found : fields.lookup key with
  | some value =>
    exact lookup_of_mem (ordered_nodup keys) ((mem_ordered keys).mpr (mem_of_lookup found))
  | none =>
    rw [List.lookup_eq_none_iff] at found ⊢
    exact fun field member => found field ((mem_ordered keys).mp member)

theorem get_ordered (keys : (fields.map Prod.fst).Nodup) (key : Str) :
    get (ordered fields) key = get fields key := by
  rw [get, get, lookup_ordered keys]

theorem ordered_ordered (keys : (fields.map Prod.fst).Nodup) :
    ordered (ordered fields) = ordered fields := by
  have same : sortedKeys (ordered fields) = sortedKeys fields := by
    apply sortedKeys_congr
    rw [ordered_keys]
    exact List.perm_insertionSort _ _
  rw [ordered, same]
  exact List.map_congr_left fun key _ => by rw [get_ordered keys]

end ordered

/-! ### Reading a value -/

/-- What stands before the value of a field. -/
def label (key : Str) : Str := quote key ++ str ": "

theorem dump_object (level : Nat) (fields : List (Str × Json)) :
    (keys : (fields.map Prod.fst).Nodup) → dump level (.object fields) =
      enclose 0x7B 0x7D level ((ordered fields).map fun field =>
        label field.1 ++ dump (level + 1) field.2) := by
  intro keys
  rw [dump, ordered, List.map_map]
  refine congrArg (enclose 0x7B 0x7D level) (List.map_congr_left ?_)
  intro key member
  obtain ⟨field, inside, rfl⟩ := List.mem_map.mp ((List.mem_insertionSort _).mp member)
  simp only [lookup_dumpFields, get, lookup_of_mem keys inside, Function.comp, label,
    Option.map_some, Option.getD_some, List.append_assoc]

/-- The first point of a value is neither white space nor the end of a container. -/
def Inked (point : Nat) : Prop :=
  point ≠ 0x20 ∧ point ≠ 0x09 ∧ point ≠ 0x0A ∧ point ≠ 0x0D ∧ point ≠ 0x5D ∧ point ≠ 0x7D ∧
    point < 0x80

instance (point : Nat) : Decidable (Inked point) := inferInstanceAs (Decidable (_ ∧ _))

theorem skipSpace_inked {point : Nat} {rest : Str} (inked : Inked point) :
    skipSpace (point :: rest) = point :: rest := by
  obtain ⟨blank, tab, feed, carriage, -⟩ := inked
  simp [skipSpace, blank, tab, feed, carriage]

theorem skipSpace_newline (level : Nat) (rest : Str) :
    skipSpace (newline level ++ rest) = skipSpace rest := by
  rw [skipSpace, skipSpace, List.dropWhile_append_of_pos]
  intro point member
  rcases List.mem_cons.mp member with rfl | blank
  · rfl
  · rw [List.eq_of_mem_replicate blank]
    rfl

theorem dump_head {value : Json} (plain : Plain value) (level : Nat) :
    ∃ point rest, dump level value = point :: rest ∧ Inked point := by
  have closed (first last : Nat) (parts : List Str) :
      ∃ rest, enclose first last level parts = first :: rest := by
    unfold enclose
    split
    · exact ⟨_, rfl⟩
    · exact ⟨_, rfl⟩
  cases plain with
  | null => exact ⟨0x6E, str "ull", by rw [dump]; decide, by decide⟩
  | bool value =>
    cases value with
    | false => exact ⟨0x66, str "alse", by rw [dump]; decide, by decide⟩
    | true => exact ⟨0x74, str "rue", by rw [dump]; decide, by decide⟩
  | int value =>
    obtain ⟨sign, first, rest, shape, digit, signed⟩ := reprInt_head value
    rw [dump, shape]
    rcases signed with rfl | rfl
    · exact ⟨first, rest, rfl, by unfold Inked; omega⟩
    · exact ⟨0x2D, first :: rest, rfl, by decide⟩
  | string scalar =>
    rw [dump]
    exact ⟨0x22, _, rfl, by decide⟩
  | array inner =>
    rw [dump]
    obtain ⟨rest, shape⟩ := closed 0x5B 0x5D _
    exact ⟨0x5B, rest, shape, by decide⟩
  | object keys names inner =>
    rw [dump]
    obtain ⟨rest, shape⟩ := closed 0x7B 0x7D _
    exact ⟨0x7B, rest, shape, by decide⟩

/-- The text of a value is read as the value, whatever may follow it. -/
def Reads (level : Nat) (value : Json) : Prop :=
  ∀ tail budget, Follows tail → 2 * (dump level value).length + 1 ≤ budget →
    scanValue budget (dump level value ++ tail) = .ok (sorted value, tail)

theorem scanValue_word {budget point : Nat} {rest : Str} (other : point ≠ 0x22 ∧ point ≠ 0x7B ∧
    point ≠ 0x5B) : scanValue (budget + 1) (point :: rest) = scanWord (point :: rest) := by
  rw [scanValue]
  · rintro _ ⟨⟩
    exact other.1 rfl
  · rintro _ ⟨⟩
    exact other.2.1 rfl
  · rintro _ ⟨⟩
    exact other.2.2 rfl

theorem skipSpace_mark {point : Nat} {rest : Str}
    (mark : point = 0x2C ∨ point = 0x3A ∨ point = 0x5D ∨ point = 0x7D) :
    skipSpace (point :: rest) = point :: rest := by
  rcases mark with rfl | rfl | rfl | rfl <;> rfl

/-- The white space before parts of a container is skipped up to the first of them. -/
theorem skipSpace_parts {level : Nat} {sep tail first : Str} {others : List Str}
    (head : ∃ point rest, first = point :: rest ∧ Inked point) :
    skipSpace (newline level ++ (List.intercalate sep (first :: others) ++ tail)) =
      List.intercalate sep (first :: others) ++ tail := by
  obtain ⟨point, rest, rfl, inked⟩ := head
  rw [skipSpace_newline]
  cases others with
  | nil => rw [List.intercalate_singleton, List.cons_append, skipSpace_inked inked]
  | cons second others =>
    rw [List.intercalate_cons_cons, List.cons_append, List.cons_append, List.cons_append,
      skipSpace_inked inked]

/-- The items of an array are read one after the other. -/
theorem scanItems_dump {level : Nat} {items : List Json} (outer budget : Nat) (tail : Str)
    (plain : ∀ item ∈ items, Plain item) (reads : ∀ item ∈ items, Reads level item)
    (some : items ≠ []) (enough : 2 * (List.intercalate (0x2C :: newline level)
      (items.map (dump level))).length + 2 ≤ budget) :
    scanItems budget (List.intercalate (0x2C :: newline level) (items.map (dump level)) ++
      (newline outer ++ 0x5D :: tail)) = .ok (items.map sorted, tail) := by
  induction items generalizing budget with
  | nil => exact absurd rfl some
  | cons item rest hypothesis =>
    obtain ⟨budget, rfl⟩ : ∃ less, budget = less + 1 := ⟨budget - 1, by omega⟩
    have first := reads item (by simp)
    cases rest with
    | nil =>
      simp only [List.map_cons, List.map_nil, List.intercalate_singleton] at enough ⊢
      have closes : skipSpace (newline outer ++ 0x5D :: tail) = 0x5D :: tail := by
        rw [skipSpace_newline, skipSpace_mark (by simp)]
      rw [scanItems, first _ budget (follows_newline _ _) (by omega)]
      simp only [bind, Except.bind, closes]
      rfl
    | cons next others =>
      rw [List.map_cons, List.map_cons, List.intercalate_cons_cons, List.length_append,
        List.length_append, List.length_cons] at enough
      have later := hypothesis budget
        (fun item member => plain item (by simp [member]))
        (fun item member => reads item (by simp [member])) (by simp) (by rw [List.map_cons]; omega)
      rw [List.map_cons, List.map_cons, List.intercalate_cons_cons, List.append_assoc,
        List.append_assoc, List.cons_append, scanItems,
        first _ budget (follows_comma _) (by omega)]
      simp only [bind, Except.bind, skipSpace_mark (Or.inl rfl)]
      rw [skipSpace_parts (dump_head (plain next (by simp)) level), ← List.map_cons, later]
      rfl

/-- The fields of an object are read one after the other. -/
theorem scanFields_dump {level : Nat} {fields : List (Str × Json)} (outer budget : Nat) (tail : Str)
    (names : ∀ field ∈ fields, ∀ point ∈ field.1, Scalar point)
    (plain : ∀ field ∈ fields, Plain field.2) (reads : ∀ field ∈ fields, Reads level field.2)
    (some : fields ≠ []) (enough : 2 * (List.intercalate (0x2C :: newline level)
      (fields.map fun field => label field.1 ++ dump level field.2)).length + 2 ≤ budget) :
    scanFields budget (List.intercalate (0x2C :: newline level)
        (fields.map fun field => label field.1 ++ dump level field.2) ++
      (newline outer ++ 0x7D :: tail)) =
        .ok (fields.map fun field => (field.1, sorted field.2), tail) := by
  induction fields generalizing budget with
  | nil => exact absurd rfl some
  | cons field rest hypothesis =>
    obtain ⟨budget, rfl⟩ : ∃ less, budget = less + 1 := ⟨budget - 1, by omega⟩
    have first := reads field (by simp)
    have named (more : Str) : label field.1 ++ more =
        0x22 :: (field.1.flatMap escape ++ 0x22 :: 0x3A :: 0x20 :: more) := by
      have colon : str ": " = [0x3A, 0x20] := by decide
      simp [label, quote, colon]
    obtain ⟨point, text, shape, inked⟩ := dump_head (plain field (by simp)) level
    have value (more : Str) : skipSpace (0x20 :: (dump level field.2 ++ more)) =
        dump level field.2 ++ more := by
      have blank : skipSpace (0x20 :: (dump level field.2 ++ more)) =
          skipSpace (dump level field.2 ++ more) := rfl
      rw [blank, shape, List.cons_append, skipSpace_inked inked]
    cases rest with
    | nil =>
      simp only [List.map_cons, List.map_nil, List.intercalate_singleton, List.length_append]
        at enough ⊢
      have closes : skipSpace (newline outer ++ 0x7D :: tail) = 0x7D :: tail := by
        rw [skipSpace_newline, skipSpace_mark (by simp)]
      rw [List.append_assoc, named, scanFields, scanString_quote (names field (by simp))]
      simp only [bind, Except.bind, skipSpace_mark (Or.inr (Or.inl rfl)), value]
      rw [first _ budget (follows_newline _ _) (by omega)]
      simp only [closes]
      rfl
    | cons next others =>
      rw [List.map_cons, List.map_cons, List.intercalate_cons_cons, List.length_append,
        List.length_append, List.length_cons, List.length_append] at enough
      have later := hypothesis budget
        (fun field member => names field (by simp [member]))
        (fun field member => plain field (by simp [member]))
        (fun field member => reads field (by simp [member])) (by simp)
        (by rw [List.map_cons]; omega)
      rw [List.map_cons, List.map_cons, List.intercalate_cons_cons, List.append_assoc,
        List.append_assoc, List.append_assoc, List.cons_append, named, scanFields,
        scanString_quote (names field (by simp))]
      simp only [bind, Except.bind, skipSpace_mark (Or.inr (Or.inl rfl)), value]
      rw [first _ budget (follows_comma _) (by omega)]
      simp only [skipSpace_mark (Or.inl rfl)]
      have quoted : ∃ point rest, label next.1 ++ dump level next.2 = point :: rest ∧
          Inked point := ⟨0x22, _, rfl, by decide⟩
      rw [List.map_cons] at later
      rw [skipSpace_parts quoted, later]
      rfl

theorem pairsFrom_nodup {result fields : List (Str × Json)}
    (keys : ((result ++ fields).map Prod.fst).Nodup) :
    pairsFrom result fields = .ok (.object (result ++ fields)) := by
  induction fields generalizing result with
  | nil => rw [List.append_nil, pairsFrom]
  | cons field rest hypothesis =>
    have split : result ++ field :: rest = (result ++ [field]) ++ rest := by simp
    have fresh : field.1 ∉ result.map Prod.fst := by
      rw [List.map_append, List.nodup_append] at keys
      exact fun member => keys.2.2 _ member _ (by simp) rfl
    rw [split] at keys ⊢
    rw [pairsFrom, require, if_pos (by simpa using fresh)]
    exact hypothesis keys

theorem length_enclose (first last level : Nat) (parts : List Str) (some : parts ≠ []) :
    (List.intercalate (0x2C :: newline (level + 1)) parts).length + 2 ≤
      (enclose first last level parts).length := by
  rw [enclose, if_neg some]
  simp only [List.length_cons, List.length_append, List.length_nil]
  omega

theorem scanValue_array {budget : Nat} {rest text more : Str} {items : List Json}
    (space : skipSpace rest = text) (head : text.head? ≠ some 0x5D)
    (scanned : scanItems budget text = .ok (items, more)) :
    scanValue (budget + 1) (0x5B :: rest) = .ok (.array items, more) := by
  rw [scanValue, space]
  split
  · exact absurd rfl head
  · rw [scanned]
    rfl

theorem scanValue_object {budget : Nat} {rest text more : Str} {fields : List (Str × Json)}
    {value : Json} (space : skipSpace rest = text) (head : text.head? ≠ some 0x7D)
    (scanned : scanFields budget text = .ok (fields, more)) (built : pairs fields = .ok value) :
    scanValue (budget + 1) (0x7B :: rest) = .ok (value, more) := by
  rw [scanValue, space]
  split
  · exact absurd rfl head
  · rw [scanned]
    simp only [bind, Except.bind, built]
    rfl

theorem parts_head {sep tail first : Str} {others : List Str} {stop : Nat}
    (stops : stop = 0x5D ∨ stop = 0x7D)
    (head : ∃ point rest, first = point :: rest ∧ Inked point) :
    (List.intercalate sep (first :: others) ++ tail).head? ≠ some stop := by
  obtain ⟨point, rest, rfl, inked⟩ := head
  have apart : point ≠ stop := by
    unfold Inked at inked
    omega
  cases others with
  | nil => simpa using apart
  | cons second others => simpa [List.intercalate_cons_cons] using apart

/-- The text of a value is read back as the value. -/
theorem reads_dump (value : Json) : ∀ level, Plain value → Reads level value := by
  induction value using induction_on with
  | null =>
    intro level _ tail budget _ enough
    obtain ⟨budget, rfl⟩ : ∃ less, budget = less + 1 := ⟨budget - 1, by omega⟩
    have word : str "null" = [0x6E, 0x75, 0x6C, 0x6C] := by decide
    rw [dump, word]
    exact scanValue_word (by decide)
  | bool value =>
    intro level _ tail budget _ enough
    obtain ⟨budget, rfl⟩ : ∃ less, budget = less + 1 := ⟨budget - 1, by omega⟩
    have words : str "true" = [0x74, 0x72, 0x75, 0x65] ∧
        str "false" = [0x66, 0x61, 0x6C, 0x73, 0x65] := by decide
    rw [dump, words.1, words.2]
    cases value
    · exact scanValue_word (by decide)
    · exact scanValue_word (by decide)
  | int value =>
    intro level _ tail budget follows enough
    obtain ⟨budget, rfl⟩ : ∃ less, budget = less + 1 := ⟨budget - 1, by omega⟩
    have word : scanWord (reprInt value ++ tail) = .ok (.int value, tail) :=
      scanWord_reprInt follows
    obtain ⟨sign, first, rest, shape, digit, signed⟩ := reprInt_head value
    rw [dump]
    rw [shape] at word ⊢
    rcases signed with rfl | rfl
    · exact (scanValue_word (by omega)).trans word
    · exact (scanValue_word (by decide)).trans word
  | float value =>
    intro level plain
    cases plain
  | string value =>
    intro level plain tail budget _ enough
    obtain ⟨budget, rfl⟩ : ∃ less, budget = less + 1 := ⟨budget - 1, by omega⟩
    cases plain with | string scalar =>
    rw [dump, quote, List.cons_append, List.append_assoc, scanValue, List.singleton_append,
      scanString_quote scalar]
    rfl
  | array items hypothesis =>
    intro level plain tail budget follows enough
    obtain ⟨budget, rfl⟩ : ∃ less, budget = less + 1 := ⟨budget - 1, by omega⟩
    cases plain with | array inner =>
    rw [dump, dumpItems_eq_map] at enough ⊢
    rw [sorted, sortedItems_eq_map]
    cases items with
    | nil =>
      rw [List.map_nil, enclose, if_pos rfl, List.cons_append, scanValue]
      rfl
    | cons first others =>
      have long := length_enclose 0x5B 0x5D level ((first :: others).map (dump (level + 1)))
        (by simp)
      have head := dump_head (inner first (by simp)) (level + 1)
      have scanned := scanItems_dump level budget tail inner
        (fun item member => hypothesis item member (level + 1) (inner item member)) (by simp)
        (by omega)
      rw [enclose, if_neg (by simp), List.cons_append, List.append_assoc, List.append_assoc,
        List.append_assoc, List.singleton_append]
      rw [List.map_cons] at scanned ⊢
      exact scanValue_array (skipSpace_parts head) (parts_head (Or.inl rfl) head) scanned
  | object fields hypothesis =>
    intro level plain tail budget follows enough
    obtain ⟨budget, rfl⟩ : ∃ less, budget = less + 1 := ⟨budget - 1, by omega⟩
    cases plain with | object keys names inner =>
    have member {field : Str × Json} (inside : field ∈ ordered fields) : field ∈ fields :=
      (mem_ordered keys).mp inside
    have distinct := ordered_nodup keys
    rw [dump_object level fields keys] at enough ⊢
    rw [sorted, ordered_sortedFields]
    cases shape : ordered fields with
    | nil =>
      rw [List.map_nil, enclose, if_pos rfl, List.cons_append, scanValue]
      rfl
    | cons first others =>
      rw [shape] at enough distinct
      have inside {field : Str × Json} (listed : field ∈ first :: others) : field ∈ fields :=
        member (shape ▸ listed)
      have long := length_enclose 0x7B 0x7D level ((first :: others).map fun field =>
        label field.1 ++ dump (level + 1) field.2) (by simp)
      have head : ∃ point rest, label first.1 ++ dump (level + 1) first.2 = point :: rest ∧
          Inked point := ⟨0x22, _, rfl, by decide⟩
      have scanned := scanFields_dump level budget tail
        (fun field listed => names field (inside listed))
        (fun field listed => inner field (inside listed))
        (fun field listed =>
          hypothesis field (inside listed) (level + 1) (inner field (inside listed)))
        (by simp) (by omega)
      have built : pairs ((first :: others).map fun field => (field.1, sorted field.2)) =
          .ok (.object ((first :: others).map fun field => (field.1, sorted field.2))) := by
        have keys : ((([] : List (Str × Json)) ++
            (first :: others).map fun field => (field.1, sorted field.2)).map Prod.fst).Nodup := by
          rw [List.nil_append, List.map_map]
          exact distinct
        exact pairsFrom_nodup keys
      rw [enclose, if_neg (by simp), List.cons_append, List.append_assoc, List.append_assoc,
        List.append_assoc, List.singleton_append]
      rw [List.map_cons] at scanned ⊢
      exact scanValue_object (skipSpace_parts head) (parts_head (Or.inr rfl) head) scanned built

/-- What is written is read back with the fields of every object in the order of their keys. A line
break at the end does not matter. -/
theorem loads_dumps {value : Json} (plain : Plain value) {ending : Str}
    (ends : ending = [] ∨ ending = [0x0A]) :
    loads (dumps value ++ ending) = .ok (sorted value) := by
  obtain ⟨point, rest, shape, inked⟩ := dump_head plain 0
  have follows : Follows ending ∧ skipSpace ending = [] := by
    rcases ends with rfl | rfl
    · exact ⟨by simp [Follows], rfl⟩
    · exact ⟨by simp [Follows], rfl⟩
  have text : dumps value ++ ending = point :: (rest ++ ending) := by
    rw [dumps, shape]
    rfl
  have small : point ≠ 0xFEFF := by
    unfold Inked at inked
    omega
  have scanned := reads_dump value 0 plain ending (2 * (dumps value ++ ending).length + 1) follows.1
    (by rw [dumps, List.length_append]; omega)
  rw [loads, if_neg (by rw [text]; simpa using small)]
  rw [show skipSpace (dumps value ++ ending) = dumps value ++ ending by
    rw [text, skipSpace_inked inked]]
  rw [show scanValue _ (dumps value ++ ending) = _ from scanned]
  simp only [bind, Except.bind, follows.2, ↓reduceIte]
  rfl

theorem Plain.distinct {value : Json} (plain : Plain value) : Distinct value := by
  induction plain with
  | null => exact .null
  | bool value => exact .bool value
  | int value => exact .int value
  | string scalar => exact .string _
  | array inner hypothesis => exact .array hypothesis
  | object keys names inner hypothesis => exact .object keys hypothesis

/-- The order of the fields does not matter to the text. -/
theorem dump_sorted (value : Json) : ∀ level, Distinct value →
    dump level (sorted value) = dump level value := by
  induction value using induction_on with
  | null | bool _ | int _ | float _ | string _ =>
    intro level _
    rfl
  | array items hypothesis =>
    intro level distinct
    cases distinct with | array inner =>
    rw [sorted, dump, dump, dumpItems_eq_map, dumpItems_eq_map, sortedItems_eq_map, List.map_map]
    refine congrArg (enclose 0x5B 0x5D level) (List.map_congr_left ?_)
    exact fun item member => hypothesis item member (level + 1) (inner item member)
  | object fields hypothesis =>
    intro level distinct
    cases distinct with | object keys inner =>
    have sortedKeys : ((sortedFields fields).map Prod.fst).Nodup := by
      rw [sortedFields_eq_map, List.map_map]
      exact keys
    rw [sorted, dump_object _ _ (ordered_nodup sortedKeys), dump_object _ _ keys,
      ordered_ordered sortedKeys, ordered_sortedFields, List.map_map]
    refine congrArg (enclose 0x7B 0x7D level) (List.map_congr_left ?_)
    intro field member
    have inside := (mem_ordered keys).mp member
    simp only [Function.comp, hypothesis field inside (level + 1) (inner field inside)]

/-- The order of the fields does not matter to `==`. -/
theorem eq_sorted {value : Json} (plain : Plain value) : eq (sorted value) value = true := by
  induction plain with
  | null => rfl
  | bool value => simp [sorted, eq, eqScalar, integer]
  | int value => simp [sorted, eq, eqScalar, integer]
  | string scalar => simp [sorted, eq, eqScalar]
  | @array items inner hypothesis =>
    rw [sorted, eq, eqItems_iff, sortedItems_eq_map, List.forall₂_map_left_iff,
      List.forall₂_same]
    exact hypothesis
  | @object fields keys names inner hypothesis =>
    have unsorted : ((sortedFields fields).map Prod.fst).Nodup := by
      rw [sortedFields_eq_map, List.map_map]
      exact keys
    have count : (ordered (sortedFields fields)).length = fields.length := by
      have same := ordered_keys fields
      rw [ordered_sortedFields, List.length_map, ← List.length_map Prod.fst, same, sortedKeys,
        List.length_insertionSort, List.length_map]
    rw [sorted, eq, Bool.and_eq_true, decide_eq_true_eq, eqFields_iff]
    refine ⟨count, ?_⟩
    intro field member
    have inside := (mem_ordered unsorted).mp member
    rw [sortedFields_eq_map] at inside
    obtain ⟨original, there, rfl⟩ := List.mem_map.mp inside
    exact ⟨original.2, lookup_of_mem keys there, hypothesis original there⟩

/-! ### The points of a text -/

theorem escape_ascii {point : Nat} (bound : point < 0x110000) :
    ∀ other ∈ escape point, other < 0x80 := by
  have digit {value : Nat} (small : value < 16) : hexDigit value < 0x80 := by
    unfold hexDigit
    split <;> omega
  have unit {value : Nat} (small : value < 0x10000) :
      ∀ other ∈ escapeUnit value, other < 0x80 := by
    simp only [escapeUnit, List.forall_mem_cons]
    exact ⟨by decide, by decide, digit (by omega), digit (by omega), digit (by omega),
      digit (by omega), by simp⟩
  unfold escape
  split
  · simp only [List.mem_singleton, forall_eq]
    omega
  · split_ifs
    · decide
    · decide
    · decide
    · decide
    · decide
    · decide
    · decide
    · exact unit (by omega)
    · intro other member
      rcases List.mem_append.mp member with first | second
      · exact unit (by omega) other first
      · exact unit (by omega) other second

theorem quote_ascii {text : Str} (scalar : ∀ point ∈ text, Scalar point) :
    ∀ other ∈ quote text, other < 0x80 := by
  intro other member
  simp only [quote, List.mem_cons, List.mem_append, List.mem_flatMap, List.not_mem_nil,
    or_false] at member
  rcases member with rfl | ⟨point, inside, escaped⟩ | rfl
  · decide
  · exact escape_ascii (scalar point inside).1 other escaped
  · decide

theorem newline_ascii (level : Nat) : ∀ other ∈ newline level, other < 0x80 := by
  intro other member
  rcases List.mem_cons.mp member with rfl | blank
  · decide
  · rw [List.eq_of_mem_replicate blank]
    decide

theorem intercalate_ascii {sep : Str} {parts : List Str} (between : ∀ other ∈ sep, other < 0x80)
    (inner : ∀ part ∈ parts, ∀ other ∈ part, other < 0x80) :
    ∀ other ∈ List.intercalate sep parts, other < 0x80 := by
  induction parts with
  | nil => simp
  | cons part rest hypothesis =>
    obtain ⟨here, later⟩ := List.forall_mem_cons.mp inner
    cases rest with
    | nil =>
      rw [List.intercalate_singleton]
      exact here
    | cons next others =>
      rw [List.intercalate_cons_cons, List.forall_mem_append, List.forall_mem_append]
      exact ⟨⟨here, between⟩, hypothesis later⟩

theorem enclose_ascii {first last level : Nat} {parts : List Str} (opens : first < 0x80)
    (closes : last < 0x80) (inner : ∀ part ∈ parts, ∀ other ∈ part, other < 0x80) :
    ∀ other ∈ enclose first last level parts, other < 0x80 := by
  unfold enclose
  split
  · simp [opens, closes]
  · rw [List.forall_mem_cons, List.forall_mem_append, List.forall_mem_append,
      List.forall_mem_append]
    refine ⟨opens, newline_ascii _, intercalate_ascii ?_ inner, newline_ascii _, by simp [closes]⟩
    rw [List.forall_mem_cons]
    exact ⟨by decide, newline_ascii _⟩

/-- A text is one of ASCII. -/
theorem dump_ascii {value : Json} (plain : Plain value) : ∀ level,
    ∀ other ∈ dump level value, other < 0x80 := by
  induction plain with
  | null =>
    intro level
    rw [dump]
    decide
  | bool value =>
    intro level
    rw [dump]
    cases value <;> decide
  | int value =>
    intro level other member
    rw [dump] at member
    have ascii : ∀ other ∈ integerPoints, other < 0x80 := by decide
    exact ascii other (reprInt_subset value member)
  | string scalar =>
    intro level
    rw [dump]
    exact quote_ascii scalar
  | array inner hypothesis =>
    intro level
    rw [dump, dumpItems_eq_map]
    refine enclose_ascii (by decide) (by decide) ?_
    rw [List.forall_mem_map]
    exact fun item member => hypothesis item member (level + 1)
  | object keys names inner hypothesis =>
    intro level
    rw [dump_object _ _ keys]
    refine enclose_ascii (by decide) (by decide) ?_
    rw [List.forall_mem_map]
    intro field member
    have inside := (mem_ordered keys).mp member
    rw [label, List.forall_mem_append, List.forall_mem_append]
    exact ⟨⟨quote_ascii (names field inside), by decide⟩, hypothesis field inside (level + 1)⟩

end SianoUserland.Json
