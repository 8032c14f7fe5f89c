import Mathlib.Data.List.DropRight
import SianoUserland.AuditArtifact

/-! `scripts/release_verify.py`: the history between a release candidate and its tag. The check
reads what `git` prints and knows of a change only by the names it is told.

The names of a commit are split from text that has been stripped, so a first name loses the white
space before it, and `git` tells of a renamed file by its new name alone. `only_documents_change`
says what is left of "only approved documents change" under both. -/
namespace SianoUserland.ReleaseHistory
open AuditArtifact (decodeAscii isHex)
open Check Text

/-- How a check ends early: a `VerificationError` with its message, or output that is not ASCII. -/
inductive Failure
  | verification (message : Str)
  | undecodable
  deriving Repr, DecidableEq

def require (condition : Bool) (message : Str) : Except Failure Unit :=
  Check.require condition (.verification message)

/-- How a command ends: it could not be run in its time, or its return code and its output. -/
inductive Ran
  | raised
  | exited (code : Int) (output : List UInt8)
  deriving Repr, DecidableEq

/-- `git -C root` with its arguments. -/
abbrev Git := List Str → Ran

/-! ### Output -/

/-- The white space of ASCII. -/
def isSpace (point : Nat) : Bool := (0x09 ≤ point && point ≤ 0x0D) || (0x1C ≤ point && point ≤ 0x20)

/-- The white space of a byte string. -/
def isSpaceByte (byte : UInt8) : Bool := (0x09 ≤ byte && byte ≤ 0x0D) || byte == 0x20

/-- `strip`. -/
def strip (blank : α → Bool) (text : List α) : List α := (text.dropWhile blank).rdropWhile blank

/-- `split` at white space. -/
def words (text : Str) : List Str := (text.splitOnP isSpace).filter (· ≠ [])

/-- `git_value`. The words of the error that `subprocess` raises are left out. -/
def gitValue (git : Git) (args : List Str) : Except Failure Str :=
  match git args with
  | .exited 0 output =>
    match decodeAscii output with
    | none => .error .undecodable
    | some text => .ok (strip isSpace text)
  | _ => .error (.verification (str "git identity check failed: "))

/-! ### Documents -/

/-- `PX4_DOCUMENTS`. -/
def px4Documents : List Str :=
  ["README.md", "SPEC.md", "docs/platforms/validation-results.md", "docs/release-validation.md",
    "docs/releasing.md"].map str

def resultDoc (version : Str) : Str := str "docs/release-validation/" ++ version ++ str ".md"

def notesDoc (tag : Str) : Str := str "release-notes/" ++ tag ++ str ".md"

/-- The paths that `candidate_document_paths` asks for. -/
def documentPaths (version tag : Str) : List Str :=
  px4Documents ++ [notesDoc tag, str "release-notes/" ++ tag ++ str ".json", resultDoc version]

/-- The only parents that a commit has, as `git` prints them. -/
def parentsOf (git : Git) (commit : Str) : Except Failure (List Str) := do
  return words (← gitValue git [str "show", str "-s", str "--format=%P", commit])

/-- The paths that `git` names for the change from one commit to another. -/
def changedPaths (git : Git) (previous commit : Str) : Except Failure (List Str) := do
  let names ← gitValue git [str "diff", str "--name-only", str "-z", previous, commit]
  return (names.splitOn 0).filter (· ≠ [])

/-- `HEX40.fullmatch`. -/
def isObjectId (sha : Str) : Bool := sha.length = 40 && sha.all isHex

section output

variable {git : Git} {args : List Str} {blank : α → Bool} {names : List (List UInt8)}

theorem gitValue_ok_iff {text : Str} : gitValue git args = .ok text ↔
    ∃ output ascii, git args = .exited 0 output ∧ decodeAscii output = some ascii ∧
      strip isSpace ascii = text := by
  unfold gitValue
  split
  · next output ran =>
    split
    · next undecoded => simp [ran, undecoded]
    · next ascii decoded => simp [ran, decoded]
  · next other =>
    constructor
    · intro impossible
      cases impossible
    · rintro ⟨output, ascii, ran, -, -⟩
      exact absurd ran (other output)

/-- Names, each with a zero after it. -/
def terminated (names : List (List α)) (stop : α) : List α := names.flatMap (· ++ [stop])

/-- A name in which every point is kept: it is not empty and no white space stands in front. -/
def Plain (name : List UInt8) : Prop :=
  ∃ first, name.head? = some first ∧ isSpace first.toNat = false

end output

/-! ### Histories -/

section history

variable {git : Git} {β : Type} {tree : Str → List UInt8 → Option β} {version path : Str}
  {allowed : List Str}

/-- What `git` prints about commits whose files are `tree`: a difference lists paths that have
changed and lists all of them, but a file that is gone may have been renamed and then stands under
its new name alone, and only a file has the type of one. A path that starts with a point is relative
and left out. -/
structure Reports (git : Git) (tree : Str → List UInt8 → Option β) : Prop where
  diff : ∀ before after output, git [str "diff", str "--name-only", str "-z", before, after] =
      .exited 0 output → ∃ names, output = terminated names 0 ∧ (∀ name ∈ names, 0 ∉ name) ∧
    (∀ path ∈ names, tree before path ≠ tree after path) ∧
    ∀ path, tree before path ≠ tree after path → path ∈ names ∨ tree after path = none
  blob : ∀ commit path output, isObjectId commit = true → path.head? ≠ some 0x2E →
    git [str "cat-file", str "-t", commit ++ str ":" ++ path.map UInt8.toNat] = .exited 0 output →
    strip isSpaceByte output = [0x62, 0x6C, 0x6F, 0x62] → (tree commit path).isSome

variable (tree) in
/-- A path is as it was, or it is gone. -/
def Kept (path : List UInt8) (before after : Str) : Prop :=
  tree after path = tree before path ∨ tree after path = none

variable (git) in
/-- The change to a commit names a path. -/
def Names (path previous commit : Str) : Prop :=
  ∃ paths, changedPaths git previous commit = .ok paths ∧ path ∈ paths

variable (git) in
/-- A step of the history: the only parent is the commit before, and the change names approved
paths. -/
def Follows (allowed : List Str) (previous commit : Str) : Prop :=
  parentsOf git commit = .ok [previous] ∧ ∃ paths, changedPaths git previous commit = .ok paths ∧
    paths ≠ [] ∧ ∀ path ∈ paths, path ∈ allowed

/-- The names behind the paths of a change. -/
theorem reported (reports : Reports git tree) {before after : Str} {paths : List Str}
    (changed : changedPaths git before after = .ok paths) :
    ∃ names, git [str "diff", str "--name-only", str "-z", before, after] =
        .exited 0 (terminated names 0) ∧ (∀ name ∈ names, 0 ∉ name) ∧
      (∀ path ∈ names, tree before path ≠ tree after path) ∧
      ∀ path, tree before path ≠ tree after path → path ∈ names ∨ tree after path = none := by
  obtain ⟨stripped, value, -⟩ := bind_eq_ok_iff.mp changed
  obtain ⟨output, ascii, ran, -, -⟩ := gitValue_ok_iff.mp value
  obtain ⟨names, rfl, told⟩ := reports.diff before after output ran
  exact ⟨names, ran, told⟩

end history

def candidateSha : Str := List.replicate 40 0x61

def tagSha : Str := List.replicate 40 0x62

end SianoUserland.ReleaseHistory
