import SianoUserland.AuditArtifact
import SianoUserland.Lib.JsonEncoding
import SianoUserland.ReleaseVerify

/-! The checksums inside of a release archive: `write_checksums` of `package-artifact.py` and
`package-source.py`, which both write them for a staged directory, and the two verifiers that read
them, `verify_checksums` of `audit-artifact.py` and `verify_inner_sums` of `release_verify.py`. -/
namespace SianoUserland.Checksums
open AuditArtifact (Digest decodeAscii isHex readSums safeMember sumLine sumsName verifyChecksums)
open Check Text
open ReleaseVerify (Member Members item)

/-! ## A staged directory -/

/-- `[A-Za-z0-9_.-]`. -/
def isNamePoint (point : Nat) : Bool :=
  (0x41 ≤ point && point ≤ 0x5A) || (0x61 ≤ point && point ≤ 0x7A) ||
    (0x30 ≤ point && point ≤ 0x39) || point == 0x5F || point == 0x2E || point == 0x2D

/-- A component of a path. -/
abbrev Name := { name : Str //
  name ≠ [] ∧ name.all isNamePoint = true ∧ name ≠ [0x2E] ∧ name ≠ [0x2E, 0x2E] }

mutual

/-- A file with its bytes, or a directory. -/
inductive Node where
  | file (data : List UInt8)
  | directory (entries : Entries)

/-- The entries of a directory. -/
inductive Entries where
  | nil
  | cons (name : Name) (node : Node) (rest : Entries)

end

/-- A regular file below a directory: the components of its path, and its bytes. -/
abbrev File := List Name × List UInt8

/-- A file of a directory of this name. -/
def File.under (name : Name) (file : File) : File := (name :: file.1, file.2)

mutual

/-- The regular files that `rglob("*")` finds. -/
def Node.files : Node → List File
  | .file data => [([], data)]
  | .directory entries => entries.files

def Entries.files : Entries → List File
  | .nil => []
  | .cons name node rest => node.files.map (File.under name) ++ rest.files

end

namespace Entries

def names : Entries → List Name
  | .nil => []
  | .cons name _ rest => name :: rest.names

end Entries

mutual

/-- No directory has two entries of one name. -/
def Node.Distinct : Node → Prop
  | .file _ => True
  | .directory entries => entries.Distinct

def Entries.Distinct : Entries → Prop
  | .nil => True
  | .cons name node rest => name ∉ rest.names ∧ node.Distinct ∧ rest.Distinct

end

/-- A staged directory with a regular file. -/
structure Stage where
  entries : Entries
  distinct : entries.Distinct
  regular : entries.files ≠ []

/-- The order of lists by their first difference. -/
def lexLe (lt : α → α → Bool) : List α → List α → Bool
  | [], _ => true
  | _ :: _, [] => false
  | first :: rest, other :: others => lt first other || (!lt other first && lexLe lt rest others)

/-- The order of strings. -/
def strLt (left right : Str) : Bool := !lexLe (· < ·) right left

/-- `sorted` over paths, which are compared by their components. -/
def sortFiles (files : List File) : List File :=
  files.mergeSort fun left right =>
    lexLe (fun (one other : Name) => strLt one.val other.val) left.1 right.1

/-- `as_posix`. -/
def asPosix (path : List Name) : Str := [0x2F].intercalate (path.map Subtype.val)

/-- `path.name`. -/
def baseName (path : List Name) : Option Str := path.getLast?.map Subtype.val

/-! ## The writer -/

/-- Why a text is not written. -/
inductive WriteFailure where
  | isADirectory
  | unencodable
  deriving Repr, DecidableEq

/-- A file is written over. -/
def Node.overwrite (data : List UInt8) : Node → Except WriteFailure Node
  | .file _ => .ok (.file data)
  | .directory _ => .error .isADirectory

/-- A file is created in a directory, or written over. -/
def Entries.write (name : Name) (data : List UInt8) : Entries → Except WriteFailure Entries
  | .nil => .ok (.cons name (.file data) .nil)
  | .cons other node rest =>
    if other = name then do
      let node ← node.overwrite data
      return .cons other node rest
    else do
      let rest ← rest.write name data
      return .cons other node rest

/-- `write_text`. -/
def writeText (stage : Entries) (name : Name) (text : Str) : Except WriteFailure Entries :=
  match encode text with
  | none => .error .unencodable
  | some data => stage.write name data

theorem sums_component : sumsName ≠ [] ∧ sumsName.all isNamePoint = true ∧ sumsName ≠ [0x2E] ∧
    sumsName ≠ [0x2E, 0x2E] := by
  decide +kernel

/-- The name of the file with the checksums. -/
def sums : Name := ⟨sumsName, sums_component⟩

variable (sha256 : List UInt8 → Digest)

/-- The files that `write_checksums` has a row for. -/
def listedFiles (stage : Entries) : List File :=
  (sortFiles stage.files).filter fun file => baseName file.1 ≠ some sumsName

/-- A row of `write_checksums`. -/
def row (file : File) : Str := (sha256 file.2 : Str) ++ [0x20, 0x20] ++ asPosix file.1

/-- `write_checksums`: the directory afterwards. -/
def writeChecksums (stage : Entries) : Except WriteFailure Entries :=
  writeText stage sums ([0x0A].intercalate ((listedFiles stage).map (row sha256)) ++ [0x0A])

/-- The members of an archive of a directory. -/
def archive (stage : Entries) : List (Str × List UInt8) :=
  (sortFiles stage.files).map fun file => (asPosix file.1, file.2)

/-! ## The verifier of `release_verify.py` -/

/-- `keep_names` of `read_archive`. -/
def keepNames : List Str :=
  ["README.md", "DEPENDENCY-NOTICE.txt", "manifest.json", "SHA256SUMS", "repository/VERSION",
    "source-manifest.json", "evidence/binary-audit.json", "evidence/sianod-binary-audit.json",
    "evidence/sianoctl-binary-audit.json"].map str

/-- A member as `read_archive` makes it. -/
def readMember (mode : Nat) (name : Str) (data : List UInt8) : Member where
  kind := str "file"
  mode := mode
  size := data.length
  digest := sha256 data
  data := if name ∈ keepNames ∨ (str "repository/docs/release-validation/").isPrefixOf name then
      some data
    else none

/-- What `read_archive` returns once it has taken the names, modes and sizes of the members. -/
def readArchive (modes : Str → Nat) (payloads : List (Str × List UInt8)) : Members :=
  payloads.map fun payload =>
    (payload.1, readMember sha256 (modes payload.1) payload.1 payload.2)

/-- The loop over the lines of `parse_sums`. -/
def readInnerSums (name : Str) :
    List (Str × Str) → List Str → Except ReleaseNotice.Failure (List (Str × Str))
  | result, [] => .ok result
  | result, line :: rest =>
    match sumLine (fun point => isNamePoint point || point == 0x2F) line with
    | none => .error (.verification (str "invalid " ++ name ++ str " line"))
    | some (digest, filename) => do
      ReleaseNotice.require (filename ∉ result.map Prod.fst)
        (str "duplicate " ++ name ++ str " entry: " ++ filename)
      readInnerSums name (result ++ [(filename, digest)]) rest

/-- `parse_sums`. -/
def parseSums (data : List UInt8) (expected : List Str) (name : Str) :
    Except ReleaseNotice.Failure (List (Str × Str)) :=
  match decodeAscii data with
  | none => .error (.verification (name ++ str " is not ASCII"))
  | some text => do
    let result ← readInnerSums name [] (splitlines text)
    ReleaseNotice.require (sameSet (result.map Prod.fst) expected)
      (name ++ str " inventory mismatch")
    return result

/-- `verify_inner_sums`. -/
def verifyInnerSums (members : Members) (archiveName : Str) :
    Except ReleaseNotice.Failure Unit :=
  match (members.lookup sumsName).bind Member.data with
  | none => .error (.verification (str "missing inner SHA256SUMS: " ++ archiveName))
  | some data => do
    let sums ← parseSums data ((members.map Prod.fst).filter (· ≠ sumsName))
      (str "inner SHA256SUMS in " ++ archiveName)
    checkEach (fun entry => do
      let member ← item members entry.1
      ReleaseNotice.require (member.digest = entry.2)
        (str "inner checksum mismatch in " ++ archiveName ++ str ": " ++ entry.1)) sums

/-! ## Files and their names -/

section files

variable {entries after : Entries} {file other : File} {name : Name} {data : List UInt8}

/-- The path of a file begins with an entry of the directory. -/
theorem files_head : (entries : Entries) → file ∈ entries.files →
    ∃ name rest, file.1 = name :: rest ∧ name ∈ entries.names
  | .nil, member => by cases member
  | .cons name node rest, member => by
    rw [Entries.files, List.mem_append] at member
    rcases member with here | later
    · obtain ⟨inner, -, rfl⟩ := List.mem_map.mp here
      exact ⟨name, inner.1, rfl, List.mem_cons_self⟩
    · obtain ⟨first, tail, path, listed⟩ := files_head rest later
      exact ⟨first, tail, path, List.mem_cons_of_mem _ listed⟩

theorem path_ne_nil (member : file ∈ entries.files) : file.1 ≠ [] := by
  obtain ⟨name, rest, path, -⟩ := files_head entries member
  rw [path]
  exact List.cons_ne_nil _ _

theorem map_under (name : Name) (files : List File) :
    (files.map (File.under name)).map Prod.fst = (files.map Prod.fst).map (name :: ·) := by
  rw [List.map_map, List.map_map]
  rfl

mutual

theorem Node.files_nodup : (node : Node) → node.Distinct → (node.files.map Prod.fst).Nodup
  | .file _, _ => List.nodup_singleton _
  | .directory entries, distinct => entries.files_nodup distinct

/-- No two files have one path. -/
theorem Entries.files_nodup : (entries : Entries) → entries.Distinct →
    (entries.files.map Prod.fst).Nodup
  | .nil, _ => List.nodup_nil
  | .cons name node rest, distinct => by
    obtain ⟨fresh, inner, others⟩ := distinct
    rw [Entries.files, List.map_append, map_under, List.nodup_append]
    refine ⟨?_, rest.files_nodup others, ?_⟩
    · exact (node.files_nodup inner).map fun _ _ same => (List.cons.inj same).2
    · rintro path here _ later rfl
      obtain ⟨tail, -, rfl⟩ := List.mem_map.mp here
      obtain ⟨file, member, same⟩ := List.mem_map.mp later
      obtain ⟨first, _, path, listed⟩ := files_head rest member
      rw [same] at path
      cases path
      exact fresh listed

end

/-- A file is known by its path. -/
theorem file_ext (distinct : entries.Distinct) (first : file ∈ entries.files)
    (second : other ∈ entries.files) (path : file.1 = other.1) : file = other :=
  List.inj_on_of_nodup_map (entries.files_nodup distinct) first second path

/-- The entry of a name. -/
def Entries.find (name : Name) : Entries → Option Node
  | .nil => none
  | .cons other node rest => if other = name then some node else rest.find name

/-- A file is written unless there is a directory of its name. -/
theorem write_ok_iff (name : Name) (data : List UInt8) : (entries : Entries) →
    ((∃ after, entries.write name data = .ok after) ↔
      ∀ inner, entries.find name ≠ some (.directory inner))
  | .nil => by simp [Entries.write, Entries.find]
  | .cons other node rest => by
    rw [Entries.write, Entries.find]
    by_cases same : other = name
    · rw [if_pos same, if_pos same]
      cases node with
      | file old => simp [Node.overwrite, bind, Except.bind, pure, Except.pure]
      | directory inner => simp [Node.overwrite, bind, Except.bind]
    · rw [if_neg same, if_neg same, ← write_ok_iff name data rest]
      constructor
      · rintro ⟨after, written⟩
        obtain ⟨tail, written, -⟩ := bind_eq_ok_iff.mp written
        exact ⟨tail, written⟩
      · rintro ⟨tail, written⟩
        exact ⟨.cons other node tail, by rw [written]; rfl⟩

/-- The ways to write a file in a directory with an entry. -/
theorem write_cons_cases {first : Name} {node : Node} {rest after : Entries}
    (written : (Entries.cons first node rest).write name data = .ok after) :
    (first = name ∧ (∃ old, node = .file old) ∧ after = .cons first (.file data) rest) ∨
    (first ≠ name ∧ ∃ tail, rest.write name data = .ok tail ∧ after = .cons first node tail) := by
  rw [Entries.write] at written
  by_cases same : first = name
  · rw [if_pos same] at written
    cases node with
    | file old =>
      cases written
      exact Or.inl ⟨same, ⟨old, rfl⟩, rfl⟩
    | directory inner => cases written
  · rw [if_neg same] at written
    obtain ⟨tail, below, returned⟩ := bind_eq_ok_iff.mp written
    cases returned
    exact Or.inr ⟨same, tail, below, rfl⟩

theorem names_write : {after : Entries} → (entries : Entries) →
    entries.write name data = .ok after →
    ∀ other, other ∈ after.names ↔ other = name ∨ other ∈ entries.names
  | _, .nil, written => by
    cases written
    simp [Entries.names]
  | _, .cons first node rest, written => by
    intro other
    obtain ⟨same, -, rfl⟩ | ⟨-, tail, below, rfl⟩ := write_cons_cases written
    · simp [Entries.names, same]
    · rw [Entries.names, List.mem_cons, names_write rest below, Entries.names, List.mem_cons,
        or_left_comm]

theorem distinct_write : {after : Entries} → (entries : Entries) → entries.Distinct →
    entries.write name data = .ok after → after.Distinct
  | _, .nil, _, written => by
    cases written
    exact ⟨List.not_mem_nil, trivial, trivial⟩
  | _, .cons first node rest, ⟨fresh, inner, others⟩, written => by
    obtain ⟨-, -, rfl⟩ | ⟨differ, tail, below, rfl⟩ := write_cons_cases written
    · exact ⟨fresh, trivial, others⟩
    · refine ⟨?_, inner, distinct_write rest others below⟩
      rw [names_write rest below, not_or]
      exact ⟨differ, fresh⟩

theorem path_ne_of_fresh (fresh : name ∉ entries.names) (member : file ∈ entries.files) :
    file.1 ≠ [name] := by
  intro path
  obtain ⟨first, tail, begins, listed⟩ := files_head entries member
  rw [path] at begins
  cases begins
  exact fresh listed

/-- What is in a directory after a write. -/
theorem files_write : {after : Entries} → (entries : Entries) → entries.Distinct →
    entries.write name data = .ok after → ∀ file : File, file ∈ after.files ↔
      file = ([name], data) ∨ (file ∈ entries.files ∧ file.1 ≠ [name])
  | _, .nil, _, written => by
    cases written
    intro file
    simp [Entries.files, Node.files, File.under]
  | _, .cons first node rest, ⟨fresh, inner, others⟩, written => by
    intro file
    obtain ⟨rfl, ⟨old, rfl⟩, rfl⟩ | ⟨differ, tail, below, rfl⟩ := write_cons_cases written
    · simp only [Entries.files, Node.files, File.under, List.map_cons, List.map_nil,
        List.mem_append, List.mem_singleton]
      constructor
      · rintro (rfl | later)
        · exact Or.inl rfl
        · exact Or.inr ⟨Or.inr later, path_ne_of_fresh fresh later⟩
      · rintro (rfl | ⟨rfl | later, other⟩)
        · exact Or.inl rfl
        · exact absurd rfl other
        · exact Or.inr later
    · have apart : file ∈ node.files.map (File.under first) → file.1 ≠ [name] := by
        rintro here path
        obtain ⟨below, -, rfl⟩ := List.mem_map.mp here
        exact differ (List.cons.inj path).1
      rw [Entries.files, List.mem_append, files_write rest others below, Entries.files,
        List.mem_append]
      constructor
      · rintro (here | new | ⟨later, other⟩)
        · exact Or.inr ⟨Or.inl here, apart here⟩
        · exact Or.inl new
        · exact Or.inr ⟨Or.inr later, other⟩
      · rintro (new | ⟨here | later, other⟩)
        · exact Or.inr (Or.inl new)
        · exact Or.inl here
        · exact Or.inr (Or.inr ⟨later, other⟩)

end files

/-! ## Paths and rows -/

section paths

variable {path other : List Name} {point : Nat}

theorem name_points (name : Name) (member : point ∈ name.val) : isNamePoint point = true :=
  List.all_eq_true.mp name.property.2.1 point member

theorem slash_not_mem (name : Name) : 0x2F ∉ name.val := by
  intro member
  exact absurd (name_points name member) (by decide)

theorem splitOn_asPosix (nonempty : path ≠ []) :
    (asPosix path).splitOn 0x2F = path.map Subtype.val := by
  apply List.splitOn_intercalate
  · intro component member
    obtain ⟨name, -, rfl⟩ := List.mem_map.mp member
    exact slash_not_mem name
  · exact List.map_eq_nil_iff.not.mpr nonempty

/-- A path is known by its text. -/
theorem asPosix_inj (nonempty : path ≠ []) (others : other ≠ [])
    (same : asPosix path = asPosix other) : path = other := by
  apply List.map_injective_iff.mpr Subtype.val_injective
  rw [← splitOn_asPosix nonempty, ← splitOn_asPosix others, same]

theorem asPosix_sums : asPosix [sums] = sumsName := List.intercalate_singleton

theorem asPosix_eq_sums_iff (nonempty : path ≠ []) : asPosix path = sumsName ↔ path = [sums] := by
  rw [← asPosix_sums]
  constructor
  · exact asPosix_inj nonempty (List.cons_ne_nil _ _)
  · rintro rfl
    rfl

theorem asPosix_cons (name : Name) (nonempty : path ≠ []) :
    asPosix (name :: path) = name.val ++ 0x2F :: asPosix path := by
  obtain ⟨second, rest, rfl⟩ := List.exists_cons_of_ne_nil nonempty
  simp [asPosix, List.intercalate_cons_cons]

theorem asPosix_points (path : List Name) :
    ∀ point ∈ asPosix path, isNamePoint point = true ∨ point = 0x2F := by
  induction path with
  | nil => nofun
  | cons name rest hypothesis =>
    intro point member
    by_cases last : rest = []
    · subst last
      rw [asPosix, List.map_singleton, List.intercalate_singleton] at member
      exact Or.inl (name_points name member)
    · rw [asPosix_cons name last, List.mem_append, List.mem_cons] at member
      rcases member with here | rfl | later
      · exact Or.inl (name_points name here)
      · exact Or.inr rfl
      · exact hypothesis point later

theorem asPosix_head (name : Name) (path : List Name) :
    (asPosix (name :: path)).head? = name.val.head? := by
  by_cases last : path = []
  · subst last
    rw [asPosix, List.map_singleton, List.intercalate_singleton]
  · rw [asPosix_cons name last, List.head?_append_of_ne_nil _ name.property.1]

theorem asPosix_ne_nil (nonempty : path ≠ []) : asPosix path ≠ [] := by
  obtain ⟨name, rest, rfl⟩ := List.exists_cons_of_ne_nil nonempty
  intro empty
  have head := asPosix_head name rest
  rw [empty, List.head?_nil] at head
  exact name.property.1 (List.head?_eq_none_iff.mp head.symm)

/-- The path of a file is a safe member. -/
theorem safeMember_asPosix (nonempty : path ≠ []) : safeMember (asPosix path) = .ok () := by
  have backslash : 0x5C ∉ asPosix path := by
    intro member
    exact absurd (asPosix_points path _ member) (by decide)
  have relative : (asPosix path).head? ≠ some 0x2F := by
    obtain ⟨name, rest, rfl⟩ := List.exists_cons_of_ne_nil nonempty
    rw [asPosix_head]
    intro slash
    exact slash_not_mem name (List.mem_of_mem_head? slash)
  have inside : str ".." ∉ AuditArtifact.parts (asPosix path) := by
    rw [AuditArtifact.parts, splitOn_asPosix nonempty, List.mem_filter]
    rintro ⟨member, -⟩
    obtain ⟨name, -, parent⟩ := List.mem_map.mp member
    exact name.property.2.2.2 parent
  rw [safeMember, require_bind_eq_ok_iff, require_eq_ok_iff]
  simp [asPosix_ne_nil nonempty, backslash, relative, inside]

/-- A code point of a row is printable. -/
theorem row_points (sha256 : List UInt8 → Digest) (file : File) :
    ∀ point ∈ row sha256 file, point < 0x80 ∧ isBreak point = false := by
  intro point member
  rw [row, List.mem_append, List.mem_append] at member
  have bounds : 0x20 ≤ point ∧ point < 0x80 := by
    rcases member with (digest | blank) | path
    · have hex := List.all_eq_true.mp (sha256 file.2).property.2 point digest
      simp only [isHex, Bool.or_eq_true, Bool.and_eq_true, decide_eq_true_eq] at hex
      omega
    · simp only [List.mem_cons, List.not_mem_nil, or_false, or_self] at blank
      omega
    · have named := asPosix_points file.1 point path
      simp only [isNamePoint, Bool.or_eq_true, Bool.and_eq_true, decide_eq_true_eq,
        beq_iff_eq] at named
      omega
  refine ⟨bounds.2, ?_⟩
  simp only [isBreak, List.mem_cons, List.not_mem_nil, or_false, decide_eq_false_iff_not]
  omega

theorem sumLine_row (sha256 : List UInt8 → Digest) (file : File) (allowed : Nat → Bool)
    (nonempty : file.1 ≠ []) (each : ∀ point ∈ asPosix file.1, allowed point = true) :
    sumLine allowed (row sha256 file) = some ((sha256 file.2 : Str), asPosix file.1) := by
  have length := (sha256 file.2).property.1
  have digest : (row sha256 file).take 64 = (sha256 file.2 : Str) := by
    rw [row, List.append_assoc, List.take_left' length]
  have after : (row sha256 file).drop 64 = [0x20, 0x20] ++ asPosix file.1 := by
    rw [row, List.append_assoc, List.drop_left' length]
  have name : (row sha256 file).drop 66 = asPosix file.1 := by
    rw [show 66 = 64 + 2 from rfl, ← List.drop_drop, after]
    rfl
  simp only [sumLine, digest, after, name]
  rw [if_pos]
  exact ⟨length, (sha256 file.2).property.2, rfl, asPosix_ne_nil nonempty,
    List.all_eq_true.mpr each⟩

end paths

end SianoUserland.Checksums
