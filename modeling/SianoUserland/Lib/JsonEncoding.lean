import SianoUserland.Lib.Json

/-! Equal values and their encodings. Python's equality does not see the type of a number
or the sign of a zero; the encoding of equal values sees nothing else. -/
namespace SianoUserland.Json
open Text

/-- The type of a number or truth value, and the sign of a float. -/
inductive Kind
  | bool
  | int
  | float (negative : Bool)
  deriving Repr, DecidableEq

def kind : Json → Option Kind
  | .bool _ => some .bool
  | .int _ => some .int
  | .float (.finite negative _) => some (.float negative)
  | .float (.infinite negative) => some (.float negative)
  | _ => none

mutual

/-- Where both values have a number in one place, it is of one kind. -/
def sameKinds : Json → Json → Bool
  | .array left, .array right => sameKindsItems left right
  | .object left, .object right => sameKindsFields left right
  | left, right => left.kind.all fun one => right.kind.all (one = ·)

def sameKindsItems : List Json → List Json → Bool
  | left :: lefts, right :: rights => sameKinds left right && sameKindsItems lefts rights
  | _, _ => true

def sameKindsFields : List (Str × Json) → List (Str × Json) → Bool
  | [], _ => true
  | (key, value) :: rest, other =>
    (other.lookup key).all (sameKinds value) && sameKindsFields rest other

end

/-- Induction over the parts of a value. -/
theorem induction_on {P : Json → Prop} (null : P .null) (bool : ∀ value, P (.bool value))
    (int : ∀ value, P (.int value)) (float : ∀ value, P (.float value))
    (string : ∀ value, P (.string value))
    (array : ∀ items, (∀ item ∈ items, P item) → P (.array items))
    (object : ∀ fields : List (Str × Json), (∀ field ∈ fields, P field.2) → P (.object fields))
    (value : Json) : P value :=
  match value with
  | .null => null
  | .bool value => bool value
  | .int value => int value
  | .float value => float value
  | .string value => string value
  | .array items => array items fun item _ =>
      induction_on null bool int float string array object item
  | .object fields => object fields fun field _ =>
      induction_on null bool int float string array object field.2
termination_by sizeOf value
decreasing_by
  · have inside := List.sizeOf_lt_of_mem ‹_ ∈ items›
    simp only [Json.array.sizeOf_spec]
    omega
  · have inside := List.sizeOf_lt_of_mem ‹_ ∈ fields›
    have part : sizeOf field.2 < sizeOf field := by
      cases field
      simp only [Prod.mk.sizeOf_spec]
      omega
    simp only [Json.object.sizeOf_spec]
    omega

/-! ### Numbers -/

/-- The points of an integer in decimal. -/
def integerPoints : Str := str "0123456789-"

/-- What the points of the text of a number tell. -/
def textClass (text : Str) : Bool × Bool :=
  (text.all (· ∈ integerPoints), text.all (· ∈ Float64.numerals))

theorem textClass_bool (level : Nat) (value : Bool) :
    textClass (dump level (.bool value)) = (false, false) := by
  rw [dump]
  cases value <;> decide

theorem reprInt_subset (value : Int) : reprInt value ⊆ integerPoints := by
  have digits : Float64.digits value.natAbs ⊆ integerPoints := by
    intro point member
    have digit := Float64.digits_digit member
    have points : integerPoints =
        [0x30, 0x31, 0x32, 0x33, 0x34, 0x35, 0x36, 0x37, 0x38, 0x39, 0x2D] := by
      decide
    rw [points]
    simp only [List.mem_cons]
    omega
  unfold reprInt
  split
  · exact List.cons_subset.mpr ⟨by decide, digits⟩
  · exact digits

theorem textClass_int (level : Nat) (value : Int) :
    textClass (dump level (.int value)) = (true, true) := by
  rw [dump]
  have numeral : integerPoints ⊆ Float64.numerals := by decide
  have subset := reprInt_subset value
  simp only [textClass, Prod.mk.injEq, List.all_eq_true, decide_eq_true_eq]
  exact ⟨fun _ member => subset member, fun _ member => numeral (subset member)⟩

theorem textClass_finite (level : Nat) (negative : Bool) (magnitude : Magnitude) :
    textClass (dump level (.float (.finite negative magnitude))) = (false, true) := by
  rw [dump, floatstr]
  obtain ⟨numeral, marked⟩ := Float64.reprMagnitude_points magnitude
  have sign : (if negative then [0x2D] else []) ⊆ Float64.numerals := by
    cases negative <;> decide
  simp only [textClass, Prod.mk.injEq, List.all_eq_true, List.all_eq_false, decide_eq_true_eq]
  constructor
  · rcases marked with point | exponent
    · exact ⟨0x2E, List.mem_append_right _ point, by decide⟩
    · exact ⟨0x65, List.mem_append_right _ exponent, by decide⟩
  · exact fun _ member => List.append_subset.mpr ⟨sign, numeral⟩ member

/-- Numbers of two kinds that are written differently. -/
structure Apart (left right : Json) : Prop where
  kinds : ∃ one two, left.kind = some one ∧ right.kind = some two ∧ one ≠ two
  texts : ∀ level, dump level left ≠ dump level right

theorem Apart.symm {left right : Json} (apart : Apart left right) : Apart right left := by
  obtain ⟨one, two, first, second, differ⟩ := apart.kinds
  exact ⟨⟨two, one, second, first, differ.symm⟩, fun level => (apart.texts level).symm⟩

theorem apart_bool_int (value : Bool) (number : Int) : Apart (.bool value) (.int number) := by
  refine ⟨⟨_, _, rfl, rfl, by decide⟩, fun level texts => ?_⟩
  have classes := congrArg textClass texts
  rw [textClass_bool, textClass_int] at classes
  exact absurd classes (by decide)

theorem apart_float {number : Float64} {other : Json} {value : Int}
    (integer : other.integer = some value) (same : number.eqInt value = true) :
    Apart (.float number) other := by
  cases number with
  | infinite negative => cases same
  | finite negative magnitude =>
    cases other with
    | bool truth =>
      refine ⟨⟨_, _, rfl, rfl, by simp⟩, fun level texts => ?_⟩
      have classes := congrArg textClass texts
      rw [textClass_bool, textClass_finite] at classes
      exact absurd classes (by decide)
    | int number =>
      refine ⟨⟨_, _, rfl, rfl, by simp⟩, fun level texts => ?_⟩
      have classes := congrArg textClass texts
      rw [textClass_int, textClass_finite] at classes
      exact absurd classes (by decide)
    | null | float _ | string _ | array _ | object _ => cases integer

theorem apart_signs (magnitude : Magnitude) (negative : Bool) :
    Apart (.float (.finite negative magnitude)) (.float (.finite (!negative) magnitude)) := by
  refine ⟨⟨_, _, rfl, rfl, by simp⟩, fun level texts => ?_⟩
  have lengths := congrArg List.length texts
  simp only [dump, floatstr, List.length_append] at lengths
  cases negative <;> simp at lengths

theorem integer_cases {value : Json} {number : Int} (integer : value.integer = some number) :
    (∃ truth, value = .bool truth ∧ number = if truth then 1 else 0) ∨ value = .int number := by
  cases value with
  | bool truth =>
    cases integer
    exact Or.inl ⟨truth, rfl, rfl⟩
  | int other =>
    cases integer
    exact Or.inr rfl
  | null | float _ | string _ | array _ | object _ => cases integer

/-- Two equal values that are not containers are the same, or numbers of two kinds that
are written differently. -/
theorem eqScalar_cases {left right : Json} (same : eqScalar left right = true) :
    left = right ∨ Apart left right := by
  unfold eqScalar at same
  split at same
  · exact Or.inl rfl
  · exact Or.inl (by simpa using same)
  · rcases Float64.eq_cases same with rfl | ⟨magnitude, -, negative, rfl, rfl⟩
    · exact Or.inl rfl
    · exact Or.inr (apart_signs magnitude negative)
  · obtain ⟨value, integer, equal⟩ := (Option.any_eq_true _ _).mp same
    exact Or.inr (apart_float integer equal)
  · obtain ⟨value, integer, equal⟩ := (Option.any_eq_true _ _).mp same
    exact Or.inr (apart_float integer equal).symm
  · obtain ⟨value, integer, equal⟩ := (Option.any_eq_true _ _).mp same
    have equal : right.integer = some value := by simpa using equal
    rcases integer_cases integer with ⟨truth, rfl, shape⟩ | rfl
    · rcases integer_cases equal with ⟨other, rfl, again⟩ | rfl
      · refine Or.inl ?_
        cases truth <;> cases other <;> simp_all
      · exact Or.inr (apart_bool_int truth value)
    · rcases integer_cases equal with ⟨other, rfl, again⟩ | rfl
      · exact Or.inr (apart_bool_int other value).symm
      · exact Or.inl rfl

/-! ### Containers -/

@[simp] theorem dumpItems_eq_map (level : Nat) (items : List Json) :
    dumpItems level items = items.map (dump level) := by
  induction items with
  | nil => rfl
  | cons item rest hypothesis => rw [dumpItems, hypothesis, List.map_cons]

@[simp] theorem lookup_dumpFields (level : Nat) (fields : List (Str × Json)) (key : Str) :
    (dumpFields level fields).lookup key = (fields.lookup key).map (dump level) := by
  induction fields with
  | nil => rfl
  | cons field rest hypothesis =>
    rw [dumpFields, List.lookup_cons, List.lookup_cons, hypothesis]
    split <;> rfl

theorem eqItems_iff (left right : List Json) :
    eqItems left right = true ↔ List.Forall₂ (fun one two => eq one two = true) left right := by
  induction left generalizing right with
  | nil => cases right <;> simp [eqItems]
  | cons item rest hypothesis => cases right <;> simp [eqItems, hypothesis]

theorem eqFields_iff (left right : List (Str × Json)) :
    eqFields left right = true ↔
      ∀ field ∈ left, ∃ other, right.lookup field.1 = some other ∧ eq field.2 other = true := by
  induction left with
  | nil => simp [eqFields]
  | cons field rest hypothesis => simp [eqFields, hypothesis, Option.any_eq_true]

theorem sameKindsItems_iff {left right : List Json}
    (aligned : List.Forall₂ (fun one two => eq one two = true) left right) :
    sameKindsItems left right = true ↔
      ∀ pair ∈ left.zip right, sameKinds pair.1 pair.2 = true := by
  induction aligned with
  | nil => simp [sameKindsItems]
  | cons _ _ hypothesis => simp [sameKindsItems, hypothesis]

theorem sameKindsFields_iff (left right : List (Str × Json)) :
    sameKindsFields left right = true ↔
      ∀ field ∈ left, ∀ other, right.lookup field.1 = some other →
        sameKinds field.2 other = true := by
  induction left with
  | nil => simp [sameKindsFields]
  | cons field rest hypothesis => simp [sameKindsFields, hypothesis, Option.all_eq_true]

theorem eq_array {left : List Json} {right : Json} (same : eq (.array left) right = true) :
    ∃ items, right = .array items ∧
      List.Forall₂ (fun one two => eq one two = true) left items := by
  cases right with
  | array items =>
    rw [eq] at same
    exact ⟨items, rfl, (eqItems_iff left items).mp same⟩
  | null | bool _ | int _ | float _ | string _ | object _ => simp [eq, eqScalar, integer] at same

theorem eq_object {left : List (Str × Json)} {right : Json}
    (same : eq (.object left) right = true) :
    ∃ fields, right = .object fields ∧ left.length = fields.length ∧
      ∀ field ∈ left, ∃ other, fields.lookup field.1 = some other ∧ eq field.2 other = true := by
  cases right with
  | object fields =>
    simp only [eq, Bool.and_eq_true, decide_eq_true_eq] at same
    exact ⟨fields, rfl, same.1, (eqFields_iff left fields).mp same.2⟩
  | null | bool _ | int _ | float _ | string _ | array _ => simp [eq, eqScalar, integer] at same

theorem lookup_of_mem {fields : List (Str × α)} (keys : (fields.map Prod.fst).Nodup)
    {field : Str × α} (member : field ∈ fields) : fields.lookup field.1 = some field.2 := by
  obtain ⟨before, after, rfl⟩ := List.append_of_mem member
  refine List.lookup_eq_some_iff.mpr ⟨before, after, rfl, ?_⟩
  intro other earlier
  rw [List.map_append, List.nodup_append] at keys
  have differ := keys.2.2 other.1 (List.mem_map_of_mem earlier) field.1 (by simp)
  simpa using differ.symm

theorem mem_of_lookup {fields : List (Str × α)} {key : Str} {value : α}
    (found : fields.lookup key = some value) : (key, value) ∈ fields := by
  obtain ⟨before, after, rfl, -⟩ := List.lookup_eq_some_iff.mp found
  simp

/-- Equal objects have the same keys. -/
theorem keys_perm {left right : List (Str × Json)} (keys : (left.map Prod.fst).Nodup)
    (count : left.length = right.length)
    (inside : ∀ field ∈ left, ∃ other, right.lookup field.1 = some other ∧
      eq field.2 other = true) :
    (left.map Prod.fst).Perm (right.map Prod.fst) := by
  have subset : left.map Prod.fst ⊆ right.map Prod.fst := by
    intro key member
    obtain ⟨field, there, rfl⟩ := List.mem_map.mp member
    obtain ⟨other, found, -⟩ := inside field there
    exact List.mem_map.mpr ⟨_, mem_of_lookup found, rfl⟩
  exact (List.subperm_of_subset keys subset).perm_of_length_le (by simp [count])

theorem sortedKeys_congr {left right : List (Str × Json)}
    (keys : (left.map Prod.fst).Perm (right.map Prod.fst)) :
    sortedKeys left = sortedKeys right := by
  refine List.Perm.eq_of_sortedLE List.sortedLE_insertionSort List.sortedLE_insertionSort ?_
  exact (List.perm_insertionSort _ _).trans (keys.trans (List.perm_insertionSort _ _).symm)

/-- The value of a key of one of two equal objects, in both of them. -/
theorem both_have {left right : List (Str × Json)} (keys : (left.map Prod.fst).Nodup)
    (inside : ∀ field ∈ left, ∃ other, right.lookup field.1 = some other ∧
      eq field.2 other = true) {key : Str} (member : key ∈ sortedKeys left) :
    ∃ one two, (key, one) ∈ left ∧ left.lookup key = some one ∧ right.lookup key = some two ∧
      eq one two = true := by
  have there := (List.mem_insertionSort _).mp member
  obtain ⟨field, present, rfl⟩ := List.mem_map.mp there
  obtain ⟨other, found, same⟩ := inside field present
  exact ⟨field.2, other, present, lookup_of_mem keys present, found, same⟩

theorem sameKinds_refl (value : Json) : Distinct value → sameKinds value value = true := by
  induction value using induction_on with
  | null | bool _ | int _ | float _ | string _ =>
    intro _
    simp only [sameKinds, Option.all_eq_true, decide_eq_true_eq]
    intro one first two second
    exact Option.some_inj.mp (first.symm.trans second)
  | array items hypothesis =>
    intro distinct
    cases distinct with | array inner =>
    rw [sameKinds]
    induction items with
    | nil => rfl
    | cons item rest earlier =>
      simp only [List.forall_mem_cons] at hypothesis inner
      rw [sameKindsItems, hypothesis.1 inner.1, earlier hypothesis.2 inner.2]
      rfl
  | object fields hypothesis =>
    intro distinct
    cases distinct with | object keys inner =>
    rw [sameKinds, sameKindsFields_iff]
    intro field member other found
    rw [lookup_of_mem keys member] at found
    cases found
    exact hypothesis field member (inner field member)

/-! ### Changed dictionaries -/

theorem lookup_first (probe : Str) (field : Str × α) (rest : List (Str × α)) :
    (field :: rest).lookup probe =
      if probe = field.1 then some field.2 else rest.lookup probe := by
  obtain ⟨key, value⟩ := field
  rw [List.lookup_cons]
  split
  · next same => simp [beq_iff_eq.mp same]
  · next differ => simp [beq_eq_false_iff_ne.mp differ]

theorem lookup_set (key probe : Str) (value : Json) (fields : List (Str × Json)) :
    (set key value fields).lookup probe =
      if probe = key then some value else fields.lookup probe := by
  induction fields with
  | nil => simp [set, lookup_first]
  | cons field rest hypothesis =>
    unfold set
    split
    · next here =>
      subst here
      by_cases same : probe = field.1 <;> simp [lookup_first, same]
    · next elsewhere =>
      rw [lookup_first, lookup_first, hypothesis]
      by_cases same : probe = field.1
      · simp [same, elsewhere]
      · simp [same]

theorem mem_set {key : Str} {value : Json} {fields : List (Str × Json)} {field : Str × Json}
    (member : field ∈ set key value fields) : field = (key, value) ∨ field ∈ fields := by
  induction fields with
  | nil => exact Or.inl (by simpa [set] using member)
  | cons first rest hypothesis =>
    unfold set at member
    split at member
    · exact (List.mem_cons.mp member).imp id (List.mem_cons_of_mem _)
    · rcases List.mem_cons.mp member with rfl | later
      · exact Or.inr (by simp)
      · exact (hypothesis later).imp id (List.mem_cons_of_mem _)

theorem nodup_set (key : Str) (value : Json) {fields : List (Str × Json)}
    (keys : (fields.map Prod.fst).Nodup) : ((set key value fields).map Prod.fst).Nodup := by
  induction fields with
  | nil => simp [set]
  | cons first rest hypothesis =>
    obtain ⟨fresh, others⟩ := List.nodup_cons.mp keys
    unfold set
    split
    · next here =>
      subst here
      exact keys
    · next elsewhere =>
      refine List.nodup_cons.mpr ⟨?_, hypothesis others⟩
      intro member
      obtain ⟨field, inside, same⟩ := List.mem_map.mp member
      rcases mem_set inside with rfl | earlier
      · exact elsewhere same.symm
      · exact fresh (List.mem_map.mpr ⟨field, earlier, same⟩)

theorem object_keys {fields : List (Str × Json)} (distinct : Distinct (.object fields)) :
    (fields.map Prod.fst).Nodup := by
  cases distinct with | object keys _ => exact keys

theorem object_inner {fields : List (Str × Json)} (distinct : Distinct (.object fields)) :
    ∀ field ∈ fields, Distinct field.2 := by
  cases distinct with | object _ inner => exact inner

theorem distinct_set (key : Str) {value : Json} {fields : List (Str × Json)}
    (distinct : Distinct (.object fields)) (inner : Distinct value) :
    Distinct (.object (set key value fields)) := by
  refine .object (nodup_set key value (object_keys distinct)) ?_
  intro field member
  rcases mem_set member with rfl | earlier
  · exact inner
  · exact object_inner distinct field earlier

theorem distinct_get {fields : List (Str × Json)} (distinct : Distinct (.object fields))
    (key : Str) : Distinct (get fields key) := by
  unfold get
  cases found : fields.lookup key with
  | none => exact .null
  | some value => exact object_inner distinct _ (mem_of_lookup found)

/-- The numbers of objects are of one kind when those of every key are. -/
theorem sameKinds_object {left right : List (Str × Json)} (keys : (left.map Prod.fst).Nodup) :
    sameKinds (.object left) (.object right) = true ↔ ∀ key one two,
      left.lookup key = some one → right.lookup key = some two → sameKinds one two = true := by
  rw [sameKinds, sameKindsFields_iff]
  constructor
  · intro kinds key one two first second
    exact kinds (key, one) (mem_of_lookup first) two second
  · intro kinds field member other found
    exact kinds field.1 field.2 other (lookup_of_mem keys member) found

/-- A key whose value keeps the kinds it had can be set. -/
theorem sameKinds_set {key : Str} {value : Json} {old new : List (Str × Json)}
    (keys : (old.map Prod.fst).Nodup)
    (same : ∀ two, new.lookup key = some two → (sameKinds value two = true ↔
      ∀ one, old.lookup key = some one → sameKinds one two = true)) :
    sameKinds (.object (set key value old)) (.object new) = true ↔
      sameKinds (.object old) (.object new) = true := by
  rw [sameKinds_object (nodup_set key value keys), sameKinds_object keys]
  simp only [lookup_set]
  constructor
  · intro kinds probe one two first second
    by_cases here : probe = key
    · subst here
      exact (same two second).mp (kinds probe value two (by simp) second) one first
    · exact kinds probe one two (by simpa [here] using first) second
  · intro kinds probe one two first second
    by_cases here : probe = key
    · subst here
      obtain rfl : value = one := by simpa using first
      exact (same two second).mpr fun one first => kinds probe one two first second
    · exact kinds probe one two (by simpa [here] using first) second

theorem sameKinds_string (value : Json) (text : Str) :
    sameKinds value (.string text) = true ∧ sameKinds (.string text) value = true := by
  cases value <;> simp [sameKinds, kind]

theorem eq_string {value : Json} {text : Str} (same : eq value (.string text) = true) :
    value = .string text := by
  cases value <;> simp_all [eq, eqScalar, integer]

/-! ### Texts side by side -/

/-- What can follow a value inside of a container: a comma, a line break or nothing. -/
def Follows (tail : Str) : Prop := ∀ point ∈ tail.head?, point = 0x2C ∨ point = 0x0A

/-- Words without a comma or a line break end in one place. -/
theorem words_aligned {left right tail other : Str}
    (free : ∀ point ∈ left, point ≠ 0x2C ∧ point ≠ 0x0A)
    (otherFree : ∀ point ∈ right, point ≠ 0x2C ∧ point ≠ 0x0A) (follows : Follows tail)
    (otherFollows : Follows other) (texts : left ++ tail = right ++ other) :
    left = right ∧ tail = other := by
  induction left generalizing right with
  | nil =>
    cases right with
    | nil => exact ⟨rfl, texts⟩
    | cons point rest =>
      have ends := follows point (by rw [show tail = _ from texts]; rfl)
      have inside := otherFree point (by simp)
      omega
  | cons point rest hypothesis =>
    cases right with
    | nil =>
      have ends := otherFollows point (by rw [← show _ = other from texts]; rfl)
      have inside := free point (by simp)
      omega
    | cons second others =>
      simp only [List.cons_append, List.cons.injEq] at texts
      obtain ⟨rfl, tails⟩ := hypothesis (fun point member => free point (by simp [member]))
        (fun point member => otherFree point (by simp [member])) texts.2
      exact ⟨by rw [texts.1], tails⟩

theorem enclose_ends (first last level : Nat) (parts : List Str) :
    ∃ front, enclose first last level parts = front ++ [last] := by
  unfold enclose
  split
  · exact ⟨[first], rfl⟩
  · exact ⟨first :: (newline (level + 1) ++
      (List.intercalate (0x2C :: newline (level + 1)) parts ++ newline level)), by simp⟩

theorem follows_newline (level : Nat) (rest : Str) : Follows (newline level ++ rest) := by
  intro point head
  cases head
  exact Or.inr rfl

theorem follows_comma (rest : Str) : Follows (0x2C :: rest) := by
  intro point head
  cases head
  exact Or.inl rfl

section Parts
variable {α : Type} {parts : List α} {one two : α → Str} {Good : α → Prop}

/-- Two lists of parts written side by side, when each part ends in one place. -/
theorem intercalate_aligned (level : Nat)
    (each : ∀ part ∈ parts, ∀ tail other, Follows tail → Follows other →
      one part ++ tail = two part ++ other → Good part ∧ tail = other)
    {tail other : Str} (follows : Follows tail) (otherFollows : Follows other)
    (texts : List.intercalate (0x2C :: newline level) (parts.map one) ++ tail =
      List.intercalate (0x2C :: newline level) (parts.map two) ++ other) :
    (∀ part ∈ parts, Good part) ∧ tail = other := by
  induction parts with
  | nil => exact ⟨by simp, by simpa using texts⟩
  | cons part rest hypothesis =>
    have later := hypothesis fun part member => each part (by simp [member])
    cases rest with
    | nil =>
      obtain ⟨good, tails⟩ := each part (by simp) tail other follows otherFollows
        (by simpa using texts)
      exact ⟨by simpa using good, tails⟩
    | cons next others =>
      simp only [List.map_cons, List.intercalate_cons_cons, List.append_assoc,
        List.cons_append] at texts
      obtain ⟨good, tails⟩ := each part (by simp) _ _ (follows_comma _) (follows_comma _) texts
      obtain ⟨goods, ends⟩ := later (by simpa using tails)
      exact ⟨List.forall_mem_cons.mpr ⟨good, goods⟩, ends⟩

/-- Two containers of such parts. -/
theorem enclose_aligned (first last level : Nat)
    (each : ∀ part ∈ parts, ∀ tail other, Follows tail → Follows other →
      one part ++ tail = two part ++ other → Good part ∧ tail = other)
    {tail other : Str} (texts : enclose first last level (parts.map one) ++ tail =
      enclose first last level (parts.map two) ++ other) :
    (∀ part ∈ parts, Good part) ∧ tail = other := by
  unfold enclose at texts
  by_cases empty : parts = []
  · subst empty
    exact ⟨by simp, by simpa using texts⟩
  · simp only [List.map_eq_nil_iff, empty, ↓reduceIte, List.cons_append, List.append_assoc,
      List.cons.injEq, true_and, List.append_cancel_left_eq] at texts
    obtain ⟨goods, ends⟩ := intercalate_aligned (level + 1) each (follows_newline level _)
      (follows_newline level _) texts
    exact ⟨goods, by simpa using ends⟩

end Parts

/-- The text of a number is one word. -/
theorem number_word {value : Json} {number : Kind} (level : Nat)
    (kinded : value.kind = some number) :
    ∀ point ∈ dump level value, point ≠ 0x2C ∧ point ≠ 0x0A := by
  have words : dump level value ⊆ Float64.numerals ++ str "truefalseInfinity" := by
    cases value with
    | bool truth =>
      rw [dump]
      cases truth <;> decide
    | int integer =>
      rw [dump]
      exact List.Subset.trans (reprInt_subset integer) (by decide)
    | float float =>
      rw [dump]
      cases float with
      | finite negative magnitude =>
        have sign : (if negative then [0x2D] else []) ⊆ Float64.numerals := by
          cases negative <;> decide
        have numeral := (Float64.reprMagnitude_points magnitude).1
        exact List.subset_append_of_subset_left _ (List.append_subset.mpr ⟨sign, numeral⟩)
      | infinite negative => cases negative <;> decide
    | null | string _ | array _ | object _ => cases kinded
  intro point member
  have allowed : ∀ point ∈ Float64.numerals ++ str "truefalseInfinity",
      point ≠ 0x2C ∧ point ≠ 0x0A := by
    decide
  exact allowed point (words member)

theorem scalar_aligned {left right : Json} {level : Nat} {tail other : Str}
    (distinct : Distinct left) (same : eqScalar left right = true)
    (follows : Follows tail) (otherFollows : Follows other)
    (texts : dump level left ++ tail = dump level right ++ other) :
    sameKinds left right = true ∧ tail = other := by
  rcases eqScalar_cases same with rfl | apart
  · exact ⟨sameKinds_refl left distinct, List.append_cancel_left texts⟩
  · obtain ⟨one, two, first, second, -⟩ := apart.kinds
    have words := words_aligned (number_word level first) (number_word level second) follows
      otherFollows texts
    exact absurd words.1 (apart.texts level)

/-- Equal values written side by side end in one place and have numbers of one kind. -/
theorem dump_aligned (left : Json) : ∀ (right : Json) (level : Nat) (tail other : Str),
    Distinct left → eq left right = true → Follows tail → Follows other →
    dump level left ++ tail = dump level right ++ other →
    sameKinds left right = true ∧ tail = other := by
  induction left using induction_on with
  | null | bool _ | int _ | float _ | string _ =>
    intro right level tail other distinct same follows otherFollows texts
    exact scalar_aligned distinct (by simpa [eq] using same) follows otherFollows texts
  | array items hypothesis =>
    intro right level tail other distinct same follows otherFollows texts
    obtain ⟨others, rfl, aligned⟩ := eq_array same
    cases distinct with | array inner =>
    have count := aligned.length_eq
    rw [sameKinds, sameKindsItems_iff aligned]
    have firsts : items = (items.zip others).map Prod.fst :=
      (List.map_fst_zip (Nat.le_of_eq count)).symm
    have seconds : others = (items.zip others).map Prod.snd :=
      (List.map_snd_zip (Nat.le_of_eq count.symm)).symm
    rw [dump, dump, dumpItems_eq_map, dumpItems_eq_map, congrArg (List.map _) firsts,
      congrArg (List.map _) seconds, List.map_map, List.map_map] at texts
    refine enclose_aligned 0x5B 0x5D level ?_ texts
    intro pair member tail other follows otherFollows texts
    have inside := (List.of_mem_zip member).1
    exact hypothesis pair.1 inside pair.2 (level + 1) tail other (inner pair.1 inside)
      (List.forall₂_zip aligned member) follows otherFollows texts
  | object fields hypothesis =>
    intro right level tail other distinct same follows otherFollows texts
    obtain ⟨others, rfl, count, inside⟩ := eq_object same
    cases distinct with | object keys inner =>
    rw [sameKinds, sameKindsFields_iff]
    have sorted := sortedKeys_congr (keys_perm keys count inside)
    simp only [dump, ← sorted, lookup_dumpFields] at texts
    have each : ∀ key ∈ sortedKeys fields, ∀ tail other, Follows tail → Follows other →
        quote key ++ (str ": " ++ ((fields.lookup key).map (dump (level + 1))).getD []) ++ tail =
          quote key ++ (str ": " ++ ((others.lookup key).map (dump (level + 1))).getD []) ++ other →
        (∀ one two, fields.lookup key = some one → others.lookup key = some two →
          sameKinds one two = true) ∧ tail = other := by
      intro key member tail other follows otherFollows texts
      obtain ⟨one, two, present, first, second, equal⟩ := both_have keys inside member
      simp only [first, second, Option.map_some, Option.getD_some, List.append_assoc,
        List.append_cancel_left_eq] at texts ⊢
      obtain ⟨kinds, tails⟩ := hypothesis (key, one) present two (level + 1) tail other
        (inner _ present) equal follows otherFollows texts
      refine ⟨?_, tails⟩
      rintro _ _ ⟨⟩ ⟨⟩
      exact kinds
    obtain ⟨goods, tails⟩ := enclose_aligned 0x7B 0x7D level each texts
    refine ⟨?_, tails⟩
    intro field member value found
    refine goods field.1 ?_ field.2 value (lookup_of_mem keys member) found
    exact (List.mem_insertionSort _).mpr (List.mem_map_of_mem member)

theorem scalar_congr {left right : Json} (same : eqScalar left right = true)
    (kinds : left.kind.all (fun one => right.kind.all (one = ·)) = true) : left = right := by
  rcases eqScalar_cases same with rfl | apart
  · rfl
  · obtain ⟨one, two, first, second, differ⟩ := apart.kinds
    simp only [first, second, Option.all_some, decide_eq_true_eq] at kinds
    exact absurd kinds differ

/-- Equal values with numbers of one kind have one text. -/
theorem dump_congr (left : Json) : ∀ (right : Json) (level : Nat), Distinct left →
    eq left right = true → sameKinds left right = true →
    dump level left = dump level right := by
  induction left using induction_on with
  | null | bool _ | int _ | float _ | string _ =>
    intro right level _ same kinds
    simp only [eq, sameKinds] at same kinds
    exact congrArg (dump level) (scalar_congr same kinds)
  | array items hypothesis =>
    intro right level distinct same kinds
    obtain ⟨others, rfl, aligned⟩ := eq_array same
    cases distinct with | array inner =>
    rw [sameKinds, sameKindsItems_iff aligned] at kinds
    have count := aligned.length_eq
    rw [dump, dump, dumpItems_eq_map, dumpItems_eq_map]
    refine congrArg (enclose 0x5B 0x5D level) ?_
    calc items.map (dump (level + 1))
        = (items.zip others).map fun pair => dump (level + 1) pair.1 := by
          rw [← Function.comp_def, ← List.map_map, List.map_fst_zip (Nat.le_of_eq count)]
      _ = (items.zip others).map fun pair => dump (level + 1) pair.2 := by
          apply List.map_congr_left
          intro pair member
          have inside := (List.of_mem_zip member).1
          exact hypothesis pair.1 inside pair.2 (level + 1) (inner pair.1 inside)
            (List.forall₂_zip aligned member) (kinds pair member)
      _ = others.map (dump (level + 1)) := by
          rw [← Function.comp_def, ← List.map_map, List.map_snd_zip (Nat.le_of_eq count.symm)]
  | object fields hypothesis =>
    intro right level distinct same kinds
    obtain ⟨others, rfl, count, inside⟩ := eq_object same
    cases distinct with | object keys inner =>
    rw [sameKinds, sameKindsFields_iff] at kinds
    have sorted := sortedKeys_congr (keys_perm keys count inside)
    simp only [dump, ← sorted, lookup_dumpFields]
    refine congrArg (enclose 0x7B 0x7D level) (List.map_congr_left ?_)
    intro key member
    obtain ⟨one, two, present, first, second, equal⟩ := both_have keys inside member
    rw [first, second, Option.map_some, Option.map_some,
      hypothesis (key, one) present two (level + 1) (inner _ present) equal
        (kinds (key, one) present two second)]

/-- Equal values have one encoding when their numbers are of one kind. -/
theorem dumps_eq_iff {left right : Json} (distinct : Distinct left)
    (same : eq left right = true) :
    dumps left = dumps right ↔ sameKinds left right = true := by
  have nothing : Follows [] := by simp [Follows]
  constructor
  · intro texts
    exact (dump_aligned left right 0 [] [] distinct same nothing nothing
      (by simpa [dumps] using texts)).1
  · exact dump_congr left right 0 distinct same

end SianoUserland.Json
