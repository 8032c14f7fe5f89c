import Mathlib.Data.List.Basic
import Mathlib.Data.List.Pairwise
import SianoUserland.Lib.Check
import SianoUserland.Lib.Split
import SianoUserland.Lib.Text

/-! `scripts/release_verify.py`: the comparison of two dependency notices. The check works
on decoded lines, so it does not see what ends them. -/
namespace SianoUserland.ReleaseNotice
open Text Check

/-- How a check ends early: a `VerificationError` with its message, a key that a dictionary
does not have, or a text that ASCII cannot encode. -/
inductive Failure
  | verification (message : Str)
  | missingKey (key : Str)
  | unencodable
  deriving Repr, DecidableEq

def require (condition : Bool) (message : Str) : Except Failure Unit :=
  Check.require condition (.verification message)

/-- The pattern `[a-z0-9_.-]+` matches the whole key. -/
def isKey (key : Str) : Bool :=
  key ≠ [] && key.all fun point => (0x61 ≤ point && point ≤ 0x7A) ||
    (0x30 ≤ point && point ≤ 0x39) || point == 0x5F || point == 0x2E || point == 0x2D

/-- A line as a field with its value, or as a whole. -/
def noticeField (line : Str) : Option Str × Str :=
  if 0x3D ∉ line then (none, line)
  else
    let key := line.takeWhile (· ≠ 0x3D)
    let value := (line.dropWhile (· ≠ 0x3D)).drop 1
    if isKey key then (some key, value) else (none, line)

/-- The loop of `notice_lines`. -/
def noticeFields (name : Str) (seen : List Str) :
    List Str → Except Failure (List (Option Str × Str))
  | [] => .ok []
  | line :: rest => do
    match noticeField line with
    | (none, whole) => return (none, whole) :: (← noticeFields name seen rest)
    | (some key, value) =>
      require (key ∉ seen) (str "duplicate notice field in " ++ name ++ str ": " ++ key)
      return (some key, value) :: (← noticeFields name (key :: seen) rest)

/-- `notice_lines`. -/
def noticeLines (data : List UInt8) (name : Str) : Except Failure (List (Option Str × Str)) :=
  match decode data with
  | none => .error (.verification (str "notice is not UTF-8: " ++ name))
  | some text => noticeFields name [] (splitlines text)

variable (fields : List (Str × Str))

/-- The loop of `compare_notice`: the fields that changed. -/
def changedFields (name : Str) (changed : List Str) :
    List ((Option Str × Str) × (Option Str × Str)) → Except Failure (List Str)
  | [] => .ok changed
  | (left, right) :: rest =>
    if left = right then changedFields name changed rest
    else do
      require (left.1.isSome && right.1.isSome && left.1 == right.1)
        (str "notice content changed outside identity fields: " ++ name)
      let key := left.1.getD []
      require (fields.lookup key == some right.2)
        (str "unexpected notice identity change: " ++ name ++ str ":" ++ key)
      changedFields name (changed.insert key) rest

/-- `compare_notice`. -/
def compareNotice (before after : List UInt8) (name : Str) : Except Failure Unit := do
  let old ← noticeLines before name
  let new ← noticeLines after name
  require (old.length == new.length) (str "notice line count changed: " ++ name)
  let changed ← changedFields fields name [] (old.zip new)
  require (sameSet changed (fields.map Prod.fst))
    (str "notice identity fields did not all change: " ++ name)

/-! ### What the comparison is for -/

/-- A line with the value of a named field replaced. -/
def replaceValue (line : Str) : Str :=
  match noticeField line with
  | (none, _) => line
  | (some key, _) =>
    match fields.lookup key with
    | none => line
    | some value => key ++ str "=" ++ value

/-- A notice with the values of the named fields replaced and every other byte kept. -/
def replaceValues (data : List UInt8) : Option (List UInt8) := do
  let text ← decode data
  encode (unlines ((lines text).map fun line => ⟨replaceValue fields line.text, line.ending⟩))

/-- What ends each line of a notice. -/
def endings (data : List UInt8) : Option (List Str) :=
  (decode data).map fun text => (lines text).map Line.ending

/-- A notice has the field. -/
def HasField (data : List UInt8) (key : Str) : Prop :=
  ∃ text, decode data = some text ∧ ∃ line ∈ splitlines text, (noticeField line).1 = some key

/-- The second notice is the first one with exactly the values of the named fields
replaced by the expected ones. -/
structure Replaces (before after : List UInt8) : Prop where
  named : ∀ key ∈ fields.map Prod.fst, HasField before key
  bytes : replaceValues fields before = some after

/-! ### Lines and fields -/

/-- The line of a field. -/
def fieldLine : Option Str × Str → Str
  | (none, whole) => whole
  | (some key, value) => key ++ 0x3D :: value

theorem fieldLine_noticeField (line : Str) : fieldLine (noticeField line) = line := by
  unfold noticeField
  split
  · rfl
  · next present =>
    have present : 0x3D ∈ line := by simpa using present
    dsimp only
    split
    · obtain ⟨before, after, rfl, apart⟩ := List.eq_append_cons_of_mem present
      simp only [fieldLine, Split.takeWhile_first apart, Split.dropWhile_first apart,
        List.drop_one, List.tail_cons]
    · rfl

/-- Two fields of one notice have different keys. -/
def Apart (left right : Option Str × Str) : Prop := ∀ key, left.1 = some key → right.1 ≠ some key

theorem noticeFields_ok {name : Str} {seen : List Str} {list : List Str}
    {result : List (Option Str × Str)} (accepted : noticeFields name seen list = .ok result) :
    result = list.map noticeField ∧ result.Pairwise Apart ∧
      ∀ key ∈ seen, ∀ field ∈ result, field.1 ≠ some key := by
  induction list generalizing seen result with
  | nil =>
    cases accepted
    simp
  | cons line rest hypothesis =>
    unfold noticeFields at accepted
    split at accepted
    · next whole shape =>
      obtain ⟨others, read, here⟩ := bind_eq_ok_iff.mp accepted
      cases here
      obtain ⟨rfl, apart, unseen⟩ := hypothesis read
      refine ⟨by rw [List.map_cons, shape], List.pairwise_cons.mpr ⟨by simp [Apart], apart⟩, ?_⟩
      intro key member field inside
      rcases List.mem_cons.mp inside with rfl | later
      · simp
      · exact unseen key member field later
    · next key value shape =>
      obtain ⟨fresh, accepted⟩ := require_bind_eq_ok_iff.mp accepted
      obtain ⟨others, read, here⟩ := bind_eq_ok_iff.mp accepted
      cases here
      obtain ⟨rfl, apart, unseen⟩ := hypothesis read
      have fresh : key ∉ seen := by simpa using fresh
      refine ⟨by rw [List.map_cons, shape], List.pairwise_cons.mpr ⟨?_, apart⟩, ?_⟩
      · intro field later other same
        cases same
        exact unseen key (by simp) field later
      · intro other member field inside
        rcases List.mem_cons.mp inside with rfl | later
        · rintro ⟨rfl⟩
          exact fresh member
        · exact unseen other (by simp [member]) field later

theorem noticeLines_ok {data : List UInt8} {name : Str} {result : List (Option Str × Str)}
    (accepted : noticeLines data name = .ok result) :
    ∃ text, decode data = some text ∧ result = (splitlines text).map noticeField ∧
      result.Pairwise Apart := by
  unfold noticeLines at accepted
  split at accepted
  · cases accepted
  · next text decoded =>
    obtain ⟨shape, apart, -⟩ := noticeFields_ok accepted
    exact ⟨text, decoded, shape, apart⟩

/-! ### Accepted pairs -/

variable {fields} {name : Str} {before after : List UInt8}

theorem changedFields_ok {pairs : List ((Option Str × Str) × (Option Str × Str))}
    {changed result : List Str} (accepted : changedFields fields name changed pairs = .ok result) :
    (∀ pair ∈ pairs, pair.1 = pair.2 ∨ ∃ key value, pair.1.1 = some key ∧
      pair.2 = (some key, value) ∧ fields.lookup key = some value) ∧
    ∀ key ∈ result, key ∈ changed ∨ ∃ pair ∈ pairs, pair.1 ≠ pair.2 ∧ pair.1.1 = some key := by
  induction pairs generalizing changed with
  | nil =>
    cases accepted
    simp
  | cons pair rest hypothesis =>
    obtain ⟨left, right⟩ := pair
    unfold changedFields at accepted
    split at accepted
    · next same =>
      obtain ⟨others, origin⟩ := hypothesis accepted
      refine ⟨List.forall_mem_cons.mpr ⟨Or.inl same, others⟩, ?_⟩
      intro key member
      refine (origin key member).imp id ?_
      rintro ⟨pair, inside, differ⟩
      exact ⟨pair, by simp [inside], differ⟩
    · next differ =>
      obtain ⟨keys, accepted⟩ := require_bind_eq_ok_iff.mp accepted
      obtain ⟨expected, accepted⟩ := require_bind_eq_ok_iff.mp accepted
      obtain ⟨others, origin⟩ := hypothesis accepted
      simp only [Bool.and_eq_true, beq_iff_eq, Option.isSome_iff_exists] at keys expected
      obtain ⟨⟨⟨key, leftKey⟩, -⟩, same⟩ := keys
      rw [leftKey, Option.getD_some] at expected
      have rightShape : right = (some key, right.2) := by rw [← leftKey, same]
      refine ⟨List.forall_mem_cons.mpr
        ⟨Or.inr ⟨key, right.2, leftKey, rightShape, expected⟩, others⟩, ?_⟩
      intro other member
      rcases origin other member with earlier | ⟨pair, inside, changes⟩
      · rcases List.mem_insert_iff.mp earlier with rfl | known
        · refine Or.inr ⟨(left, right), by simp, differ, ?_⟩
          simp [leftKey]
        · exact Or.inl known
      · exact Or.inr ⟨pair, by simp [inside], changes⟩

theorem sameSet_mem {changed : List Str} (complete : sameSet changed (fields.map Prod.fst) = true)
    (key value : Str) (named : fields.lookup key = some value) : key ∈ changed := by
  refine (sameSet_iff.mp complete key).mpr ?_
  obtain ⟨earlier, later, shape, -⟩ := List.lookup_eq_some_iff.mp named
  rw [shape]
  simp

theorem replaceValue_named {line key value : Str} (field : (noticeField line).1 = some key)
    (named : fields.lookup key = some value) :
    replaceValue fields line = fieldLine (some key, value) := by
  obtain ⟨old, shape⟩ : ∃ old, noticeField line = (some key, old) := ⟨_, Prod.ext field rfl⟩
  have sign : str "=" = [0x3D] := by decide
  simp [replaceValue, shape, named, fieldLine, sign]

theorem replaceValue_other {line : Str}
    (other : ∀ key, (noticeField line).1 = some key → fields.lookup key = none) :
    replaceValue fields line = line := by
  unfold replaceValue
  split
  · rfl
  · next key old shape =>
    rw [other key (by rw [shape])]

instance : Std.Symm fun left right : (Option Str × Str) × (Option Str × Str) =>
    Apart left.1 right.1 :=
  ⟨fun _ _ apart key right left => apart key left right⟩

/-- A line that did not change has no named field: its field would be another one of the
same notice. -/
theorem kept_unnamed {pairs : List ((Option Str × Str) × (Option Str × Str))}
    {changed : List Str} (apart : (pairs.map Prod.fst).Pairwise Apart)
    (compared : changedFields fields name [] pairs = .ok changed)
    (complete : sameSet changed (fields.map Prod.fst) = true)
    {pair : (Option Str × Str) × (Option Str × Str)} (inside : pair ∈ pairs)
    (same : pair.1 = pair.2) (key : Str) (keyed : pair.1.1 = some key) :
    fields.lookup key = none := by
  cases named : fields.lookup key with
  | none => rfl
  | some value =>
    have origin := (changedFields_ok compared).2 key (sameSet_mem complete key value named)
    obtain ⟨other, there, differs, otherKeyed⟩ := origin.resolve_left (by simp)
    have distinct : pair ≠ other := by
      rintro rfl
      exact differs same
    have keys := (List.pairwise_map.mp apart).forall inside there distinct
    exact absurd otherKeyed (keys key keyed)

theorem accepted_pair {pairs : List ((Option Str × Str) × (Option Str × Str))}
    {changed : List Str} (apart : (pairs.map Prod.fst).Pairwise Apart)
    (compared : changedFields fields name [] pairs = .ok changed)
    (complete : sameSet changed (fields.map Prod.fst) = true)
    {pair : (Option Str × Str) × (Option Str × Str)} (inside : pair ∈ pairs)
    (line : noticeField (fieldLine pair.1) = pair.1) :
    fieldLine pair.2 = replaceValue fields (fieldLine pair.1) := by
  rcases (changedFields_ok compared).1 pair inside with same | ⟨key, value, left, right, named⟩
  · rw [replaceValue_other, same]
    intro key keyed
    rw [line] at keyed
    exact kept_unnamed apart compared complete inside same key keyed
  · rw [replaceValue_named (by rw [line, left]) named, right]

/-- The lines of an accepted notice are the old ones with the named values replaced. -/
theorem accepted_lines (accepted : compareNotice fields before after name = .ok ()) :
    (∀ key ∈ fields.map Prod.fst, HasField before key) ∧
    ∃ old new, decode before = some old ∧ decode after = some new ∧
      splitlines new = (splitlines old).map (replaceValue fields) := by
  obtain ⟨oldFields, readOld, accepted⟩ := bind_eq_ok_iff.mp accepted
  obtain ⟨newFields, readNew, accepted⟩ := bind_eq_ok_iff.mp accepted
  obtain ⟨count, accepted⟩ := require_bind_eq_ok_iff.mp accepted
  obtain ⟨changed, compared, complete⟩ := bind_eq_ok_iff.mp accepted
  have complete := require_eq_ok_iff.mp complete
  have count : oldFields.length = newFields.length := by simpa using count
  obtain ⟨old, decodedOld, oldShape, apart⟩ := noticeLines_ok readOld
  obtain ⟨new, decodedNew, newShape, -⟩ := noticeLines_ok readNew
  have firsts : (oldFields.zip newFields).map Prod.fst = oldFields :=
    List.map_fst_zip (Nat.le_of_eq count)
  have seconds : (oldFields.zip newFields).map Prod.snd = newFields :=
    List.map_snd_zip (Nat.le_of_eq count.symm)
  have linesOf (text : Str) : ((splitlines text).map noticeField).map fieldLine =
      splitlines text := by
    simp [Function.comp_def, fieldLine_noticeField]
  have origin {pair} (inside : pair ∈ oldFields.zip newFields) :
      ∃ line ∈ splitlines old, noticeField line = pair.1 := by
    have member := (List.of_mem_zip inside).1
    rw [oldShape] at member
    exact List.mem_map.mp member
  refine ⟨?_, old, new, decodedOld, decodedNew, ?_⟩
  · intro key member
    have named : key ∈ changed := (sameSet_iff.mp complete key).mpr member
    obtain ⟨pair, inside, -, keyed⟩ :=
      ((changedFields_ok compared).2 key named).resolve_left (by simp)
    obtain ⟨line, there, same⟩ := origin inside
    exact ⟨old, decodedOld, line, there, by rw [same, keyed]⟩
  · calc splitlines new
        = ((oldFields.zip newFields).map Prod.snd).map fieldLine := by
          rw [seconds, newShape, linesOf]
      _ = (((oldFields.zip newFields).map Prod.fst).map fieldLine).map (replaceValue fields) := by
          simp only [List.map_map]
          apply List.map_congr_left
          intro pair inside
          obtain ⟨line, -, same⟩ := origin inside
          refine accepted_pair (by rwa [firsts]) compared complete inside ?_
          rw [← same, fieldLine_noticeField]
      _ = (splitlines old).map (replaceValue fields) := by
          rw [firsts, oldShape, linesOf]

theorem replaceValue_eq_nil_iff (line : Str) : replaceValue fields line = [] ↔ line = [] := by
  by_cases named : ∃ key value, (noticeField line).1 = some key ∧ fields.lookup key = some value
  · obtain ⟨key, value, field, found⟩ := named
    have full : line ≠ [] := by
      rintro rfl
      cases field
    rw [replaceValue_named field found]
    simp [fieldLine, full]
  · rw [replaceValue_other]
    intro key field
    cases found : fields.lookup key with
    | none => rfl
    | some value => exact absurd ⟨key, value, field, found⟩ named

/-- **An accepted notice is the old one with exactly the named values replaced when its
lines end as the old ones do.** The comparison splits both notices at every line break
and drops the breaks, so a carriage return in the place of a line feed passes. -/
theorem notice_replaced_iff (accepted : compareNotice fields before after name = .ok ()) :
    Replaces fields before after ↔ endings before = endings after := by
  obtain ⟨named, old, new, decodedOld, decodedNew, same⟩ := accepted_lines accepted
  let replaced : List Line := (lines old).map fun line =>
    ⟨replaceValue fields line.text, line.ending⟩
  have texts : (lines new).map Line.text = replaced.map Line.text := by
    simpa [replaced, splitlines, Function.comp_def] using same
  have wellformed : Wellformed replaced := by
    refine map_wellformed (replaceValue fields) (lines old) (lines_wellformed old) ?_
      fun line _ => replaceValue_eq_nil_iff line.text
    intro line member
    have inside : replaceValue fields line.text ∈ (lines new).map Line.text := by
      rw [texts]
      exact List.mem_map.mpr ⟨_, List.mem_map.mpr ⟨line, member, rfl⟩, rfl⟩
    obtain ⟨other, there, shape⟩ := List.mem_map.mp inside
    rw [← shape]
    exact wellformed_unbroken (lines new) (lines_wellformed new) other there
  have bytes : replaceValues fields before = some after ↔ new = unlines replaced := by
    simp only [replaceValues, decodedOld, Option.bind_eq_bind, Option.bind_some,
      encode_eq_some_iff, decodedNew, Option.some.injEq]
    rfl
  calc Replaces fields before after
      ↔ new = unlines replaced :=
        ⟨fun same => bytes.mp same.bytes, fun same => ⟨named, bytes.mpr same⟩⟩
    _ ↔ lines new = replaced := eq_unlines_iff new replaced wellformed
    _ ↔ (lines new).map Line.ending = replaced.map Line.ending :=
        line_list_ext (lines new) replaced texts
    _ ↔ endings before = endings after := by
        simp [endings, decodedOld, decodedNew, replaced, Function.comp_def, eq_comm]

/-- A notice with one field and one more line, ended by the given break. -/
def shortNotice (ref ending : String) : List UInt8 :=
  ("source.ref=" ++ ref ++ "\nGPL-2.0" ++ ending).toUTF8.data.toList

theorem reference_replaced :
    compareNotice [(str "source.ref", str "b")] (shortNotice "a" "\n") (shortNotice "b" "\n")
      (str "notice") = .ok () ∧
    Replaces [(str "source.ref", str "b")] (shortNotice "a" "\n") (shortNotice "b" "\n") := by
  have accepted : compareNotice [(str "source.ref", str "b")] (shortNotice "a" "\n")
      (shortNotice "b" "\n") (str "notice") = .ok () := by
    decide +kernel
  exact ⟨accepted, (notice_replaced_iff accepted).mpr (by decide +kernel)⟩

/-- A carriage return for a line feed: two notices of one length, a value of the old
length, and a byte outside of the field that changed. -/
theorem changed_break_accepted :
    (shortNotice "a" "\n").length = (shortNotice "b" "\r").length ∧
    noticeLines (shortNotice "a" "\n") (str "notice") =
      .ok [(some (str "source.ref"), str "a"), (none, str "GPL-2.0")] ∧
    (str "a").length = (str "b").length ∧
    compareNotice [(str "source.ref", str "b")] (shortNotice "a" "\n") (shortNotice "b" "\r")
      (str "notice") = .ok () ∧
    ¬ Replaces [(str "source.ref", str "b")] (shortNotice "a" "\n") (shortNotice "b" "\r") := by
  refine ⟨by decide +kernel, by decide +kernel, by decide +kernel, by decide +kernel, ?_⟩
  intro replaces
  have other : replaceValues [(str "source.ref", str "b")] (shortNotice "a" "\n") ≠
      some (shortNotice "b" "\r") := by
    decide +kernel
  exact other replaces.bytes

end SianoUserland.ReleaseNotice
