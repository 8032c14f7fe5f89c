import SianoUserland.Checksums

/-! `scripts/release_verify.py`: reading an archive. What `zipfile` and `tarfile` find in a file is
given; which members are let in, and what is kept of each, is the script's own. -/
namespace SianoUserland.ReleaseArchive
open AuditArtifact (Digest)
open Check (bind_eq_ok_iff require_bind_eq_ok_iff require_eq_ok_iff)
open Checksums (keepNames readMember)
open ReleaseNotice (Failure require)
open ReleaseVerify (Member Members)
open Text

/-! ### What is found -/

/-- `ZipInfo`, with what its stream gives, or nothing when the stream cannot be read. -/
structure ZipInfo where
  filename : Str
  createSystem : Nat
  externalAttr : Nat
  flagBits : Nat
  compressType : Nat
  fileSize : Nat
  content : Option (List UInt8)

/-- `TarInfo`, with what its stream gives, or nothing when the stream cannot be read. -/
structure TarInfo where
  name : Str
  isfile : Bool
  sparse : Bool
  mode : Int
  size : Int
  content : Option (List UInt8)

/-- The two libraries: the members of a file that they can open, and whether `tarfile`, which reads
one after the other, gets to the end. -/
structure Libraries where
  zip : List UInt8 → Option (List ZipInfo)
  tar : List UInt8 → Option (List TarInfo × Bool)

/-! ### Limits -/

def maxArchiveBytes : Nat := 1024 * 1024 * 1024

def maxMemberBytes : Int := 128 * 1024 * 1024

def maxTotalBytes : Int := 1024 * 1024 * 1024

def maxMembers : Nat := 50000

def maxMetadataBytes : Int := 8 * 1024 * 1024

/-! ### Members -/

/-- A name that stays inside of the directory of the archive. -/
def insideName (name : Str) : Bool :=
  name.all (fun point => 32 ≤ point && point ≠ 127) && 0x5C ∉ name && 0x3A ∉ name &&
    (name.splitOn 0x2F).all (fun part => part ≠ [] && part ≠ str "." && part ≠ str "..") &&
    name.head? ≠ some 0x2F

/-- `safe_name`. -/
def safeName (name : Str) : Except Failure Unit := do
  require (name ≠ [] && name.length ≤ 1024) (str "invalid archive path length")
  require (insideName name) (str "unsafe archive path: " ++ AuditArtifact.repr name)

/-- The members whose content is kept. -/
def keeps (name : Str) : Bool :=
  name ∈ keepNames || (str "repository/docs/release-validation/").isPrefixOf name

def unreadable (archiveName : Str) : Failure :=
  .verification (str "cannot read archive " ++ archiveName ++ str ": ")

/-- What `add` is called with. -/
structure Entry where
  name : Str
  mode : Int
  size : Int
  content : Option (List UInt8)

variable (sha256 : List UInt8 → Digest) (casefold : Str → Str) (archiveName : Str)

/-- `read_member`. -/
def readContent (entry : Entry) (keep : Bool) : Except Failure (List UInt8) := do
  require (0 ≤ entry.size && entry.size ≤ maxMemberBytes)
    (str "archive member size limit: " ++ entry.name)
  require (!keep || entry.size ≤ maxMetadataBytes) (str "metadata size limit: " ++ entry.name)
  match entry.content with
  | none => .error (unreadable archiveName)
  | some content =>
    require (content.length ≤ entry.size) (str "member length mismatch: " ++ entry.name)
    require (content.length = entry.size) (str "truncated archive member: " ++ entry.name)
    return content

/-- The members added so far, their names without case and their size. -/
structure Added where
  members : Members := []
  folded : List Str := []
  total : Int := 0

/-- `add`. -/
def add (added : Added) (entry : Entry) : Except Failure Added := do
  safeName entry.name
  require (entry.name ∉ added.members.map Prod.fst)
    (str "duplicate archive member: " ++ entry.name)
  require (casefold entry.name ∉ added.folded)
    (str "case-colliding archive member: " ++ entry.name)
  require (added.members.length < maxMembers) (str "archive member count limit")
  require (0 ≤ entry.mode && entry.mode ≤ 0o777) (str "unsupported archive mode: " ++ entry.name)
  require (added.total + entry.size ≤ maxTotalBytes) (str "archive expanded size limit")
  let content ← readContent archiveName entry (keeps entry.name)
  return {
    members := added.members ++
      [(entry.name, readMember sha256 entry.mode.toNat entry.name content)]
    folded := added.folded ++ [casefold entry.name]
    total := added.total + entry.size }

/-! ### Archives -/

/-- `S_ISREG` and the other conditions on a member of a ZIP archive. -/
def zipSupported (info : ZipInfo) : Bool :=
  info.createSystem = 3 && info.externalAttr / 65536 % 0o200000 / 0o10000 = 0o10 &&
    info.filename.getLast? ≠ some 0x2F && info.flagBits % 2 = 0 &&
    (info.compressType = 0 || info.compressType = 8)

def zipEntry (info : ZipInfo) : Entry where
  name := info.filename
  mode := (info.externalAttr / 65536 % 0o10000 : Nat)
  size := info.fileSize
  content := info.content

/-- The loop over the members of a ZIP archive. -/
def readZip (added : Added) : List ZipInfo → Except Failure Added
  | [] => .ok added
  | info :: rest => do
    require (zipSupported info) (str "unsupported ZIP member: " ++ info.filename)
    let added ← add sha256 casefold archiveName added (zipEntry info)
    readZip added rest

def tarEntry (info : TarInfo) : Entry where
  name := info.name
  mode := info.mode
  size := info.size
  content := info.content

/-- The loop over the members of a TAR archive, which may break off. -/
def readTar (ends : Bool) (added : Added) : List TarInfo → Except Failure Added
  | [] => if ends then .ok added else .error (unreadable archiveName)
  | info :: rest => do
    require (info.isfile && !info.sparse) (str "unsupported TAR member: " ++ info.name)
    let added ← add sha256 casefold archiveName added (tarEntry info)
    readTar ends added rest

/-- `read_archive` of a regular file with its path. -/
def readArchive (libraries : Libraries) (path : Str) (data : List UInt8) :
    Except Failure Members := do
  require (data.length ≤ maxArchiveBytes) (str "archive size limit: " ++ path)
  if (str ".zip").isSuffixOf archiveName then
    match libraries.zip data with
    | none => .error (unreadable archiveName)
    | some infos =>
      require (infos.length ≤ maxMembers) (str "archive member count limit")
      let added ← readZip sha256 casefold archiveName {} infos
      return added.members
  else
    require ((str ".tar.gz").isSuffixOf archiveName) (str "unsupported archive format: " ++ path)
    match libraries.tar data with
    | none => .error (unreadable archiveName)
    | some (infos, ends) =>
      let added ← readTar sha256 casefold archiveName ends {} infos
      return added.members

/-! ### What is let in -/

/-- A member that is let in, whatever others there are. -/
structure Fits (entry : Entry) : Prop where
  named : entry.name ≠ [] ∧ entry.name.length ≤ 1024
  inside : insideName entry.name = true
  mode : 0 ≤ entry.mode ∧ entry.mode ≤ 0o777
  size : entry.size ≤ maxMemberBytes
  metadata : keeps entry.name = true → entry.size ≤ maxMetadataBytes
  whole : ∃ content, entry.content = some content ∧ (content.length : Int) = entry.size

/-- Members that are let in together. -/
structure Conforms (entries : List Entry) : Prop where
  fits : ∀ entry ∈ entries, Fits entry
  apart : (entries.map fun entry => casefold entry.name).Nodup
  count : entries.length ≤ maxMembers
  total : (entries.map Entry.size).sum ≤ maxTotalBytes

/-- What is kept of a member. -/
def entryMember (entry : Entry) : Str × Member :=
  (entry.name, readMember sha256 entry.mode.toNat entry.name (entry.content.getD []))

/-- What has been added with some members. -/
def addedOf (entries : List Entry) : Added where
  members := entries.map (entryMember sha256)
  folded := entries.map fun entry => casefold entry.name
  total := (entries.map Entry.size).sum

variable {sha256 casefold archiveName} {entry : Entry} {earlier rest : List Entry} {after : Added}

theorem require_then_iff {β : Type} {condition : Bool} {message : Str}
    {next : Unit → Except Failure β} {result : β} :
    (require condition message >>= next) = .ok result ↔ condition = true ∧ next () = .ok result :=
  require_bind_eq_ok_iff

theorem safeName_ok_iff {name : Str} {result : Unit} : safeName name = .ok result ↔
    (name ≠ [] ∧ name.length ≤ 1024) ∧ insideName name = true := by
  rw [safeName, require_then_iff, ReleaseNotice.require, require_eq_ok_iff]
  simp

theorem readContent_ok_iff {keep : Bool} {content : List UInt8} :
    readContent archiveName entry keep = .ok content ↔
      entry.size ≤ maxMemberBytes ∧ (keep = true → entry.size ≤ maxMetadataBytes) ∧
        entry.content = some content ∧ (content.length : Int) = entry.size := by
  unfold readContent
  rw [require_then_iff, require_then_iff]
  cases entry.content with
  | none => simp
  | some found =>
    dsimp only
    rw [require_then_iff, require_then_iff]
    simp only [Bool.and_eq_true, Bool.or_eq_true, Bool.not_eq_true', decide_eq_true_eq,
      Option.some.injEq]
    constructor
    · rintro ⟨⟨-, size⟩, metadata, -, whole, same⟩
      cases same
      refine ⟨size, ?_, rfl, whole⟩
      intro kept
      exact metadata.resolve_left (by simp [kept])
    · rintro ⟨size, metadata, rfl, whole⟩
      refine ⟨⟨by omega, size⟩, ?_, by omega, whole, rfl⟩
      cases keep with
      | false => exact Or.inl rfl
      | true => exact Or.inr (metadata rfl)

theorem Fits.size_nonneg (fits : Fits entry) : 0 ≤ entry.size := by
  obtain ⟨content, -, same⟩ := fits.whole
  omega

/-- A member is added when the ones before it and it can be let in together. -/
theorem add_ok_iff (conforms : Conforms casefold earlier) :
    add sha256 casefold archiveName (addedOf sha256 casefold earlier) entry = .ok after ↔
      Conforms casefold (earlier ++ [entry]) ∧
        after = addedOf sha256 casefold (earlier ++ [entry]) := by
  have appended : addedOf sha256 casefold (earlier ++ [entry]) = {
      members := earlier.map (entryMember sha256) ++ [entryMember sha256 entry]
      folded := (earlier.map fun entry => casefold entry.name) ++ [casefold entry.name]
      total := (earlier.map Entry.size).sum + entry.size } := by
    simp [addedOf]
  have names : (addedOf sha256 casefold earlier).members.map Prod.fst =
      earlier.map Entry.name := by
    simp [addedOf, entryMember]
  have folds : (addedOf sha256 casefold earlier).folded =
      earlier.map fun entry => casefold entry.name := rfl
  have kept : (addedOf sha256 casefold earlier).members.length = earlier.length := by
    simp [addedOf]
  constructor
  · intro added
    obtain ⟨⟨⟩, safe, added⟩ := bind_eq_ok_iff.mp added
    obtain ⟨-, added⟩ := require_then_iff.mp added
    obtain ⟨fresh, added⟩ := require_then_iff.mp added
    obtain ⟨count, added⟩ := require_then_iff.mp added
    obtain ⟨mode, added⟩ := require_then_iff.mp added
    obtain ⟨total, added⟩ := require_then_iff.mp added
    obtain ⟨content, read, added⟩ := bind_eq_ok_iff.mp added
    cases added
    obtain ⟨named, inside⟩ := safeName_ok_iff.mp safe
    obtain ⟨size, metadata, found, whole⟩ := readContent_ok_iff.mp read
    rw [folds, decide_eq_true_eq] at fresh
    rw [kept, decide_eq_true_eq] at count
    simp only [Bool.and_eq_true, decide_eq_true_eq] at mode total
    refine ⟨⟨?_, ?_, ?_, ?_⟩, ?_⟩
    · intro other member
      rcases List.mem_append.mp member with listed | last
      · exact conforms.fits other listed
      · cases List.mem_singleton.mp last
        exact ⟨named, inside, mode, size, metadata, content, found, whole⟩
    · rw [List.map_append, List.nodup_append]
      refine ⟨conforms.apart, List.nodup_singleton _, ?_⟩
      intro fold listed other last same
      have last : other = casefold entry.name := List.mem_singleton.mp last
      exact fresh ((same.trans last) ▸ listed)
    · rw [List.length_append, List.length_singleton]
      omega
    · rw [List.map_append, List.sum_append, List.map_singleton, List.sum_singleton]
      exact total
    · rw [appended, entryMember, found]
      rfl
  · rintro ⟨together, rfl⟩
    have fits := together.fits entry (by simp)
    obtain ⟨content, found, whole⟩ := fits.whole
    have apart := together.apart
    rw [List.map_append, List.nodup_append] at apart
    have fresh : casefold entry.name ∉ earlier.map fun entry => casefold entry.name :=
      fun listed => apart.2.2 _ listed _ (List.mem_singleton.mpr rfl) rfl
    have new : entry.name ∉ earlier.map Entry.name := by
      intro listed
      obtain ⟨other, member, same⟩ := List.mem_map.mp listed
      exact fresh (List.mem_map.mpr ⟨other, member, congrArg casefold same⟩)
    have count := together.count
    rw [List.length_append, List.length_singleton] at count
    have total := together.total
    rw [List.map_append, List.sum_append, List.map_singleton, List.sum_singleton] at total
    refine bind_eq_ok_iff.mpr ⟨(), safeName_ok_iff.mpr ⟨fits.named, fits.inside⟩, ?_⟩
    refine require_then_iff.mpr ⟨by simpa [names] using new, ?_⟩
    refine require_then_iff.mpr ⟨by rw [folds]; simpa using fresh, ?_⟩
    refine require_then_iff.mpr ⟨by rw [kept]; exact decide_eq_true (by omega), ?_⟩
    refine require_then_iff.mpr ⟨by simp [fits.mode], ?_⟩
    refine require_then_iff.mpr ⟨decide_eq_true total, ?_⟩
    refine bind_eq_ok_iff.mpr
      ⟨content, readContent_ok_iff.mpr ⟨fits.size, fits.metadata, found, whole⟩, ?_⟩
    rw [appended, entryMember, found]
    rfl

theorem Conforms.front (conforms : Conforms casefold (earlier ++ rest)) :
    Conforms casefold earlier where
  fits entry member := conforms.fits entry (List.mem_append_left _ member)
  apart := by
    have apart := conforms.apart
    rw [List.map_append] at apart
    exact (List.nodup_append.mp apart).1
  count := by
    have count := conforms.count
    rw [List.length_append] at count
    omega
  total := by
    have total := conforms.total
    have more : 0 ≤ (rest.map Entry.size).sum := by
      apply List.sum_nonneg
      simp only [List.mem_map]
      rintro _ ⟨entry, member, rfl⟩
      exact (conforms.fits entry (List.mem_append_right _ member)).size_nonneg
    rw [List.map_append, List.sum_append] at total
    omega

/-- Members are added one after the other exactly when they can be let in together. -/
theorem addAll_ok_iff (conforms : Conforms casefold earlier) :
    rest.foldlM (add sha256 casefold archiveName) (addedOf sha256 casefold earlier) = .ok after ↔
      Conforms casefold (earlier ++ rest) ∧
        after = addedOf sha256 casefold (earlier ++ rest) := by
  induction rest generalizing earlier with
  | nil =>
    rw [List.append_nil, List.foldlM_nil]
    exact ⟨fun same => ⟨conforms, (Except.ok.inj same).symm⟩, fun ⟨_, same⟩ => same ▸ rfl⟩
  | cons entry rest hypothesis =>
    rw [List.foldlM_cons, bind_eq_ok_iff]
    constructor
    · rintro ⟨middle, added, ran⟩
      obtain ⟨together, rfl⟩ := (add_ok_iff conforms).mp added
      simpa using (hypothesis together).mp ran
    · rintro ⟨together, same⟩
      have split : earlier ++ entry :: rest = (earlier ++ [entry]) ++ rest := by simp
      rw [split] at together same
      exact ⟨_, (add_ok_iff conforms).mpr ⟨together.front, rfl⟩,
        (hypothesis together.front).mpr ⟨together, same⟩⟩

theorem conforms_nil : Conforms casefold [] where
  fits := by simp
  apart := List.nodup_nil
  count := Nat.zero_le _
  total := by simp [maxTotalBytes]

theorem readZip_eq {added : Added} {infos : List ZipInfo} :
    readZip sha256 casefold archiveName added infos = .ok after ↔
      (∀ info ∈ infos, zipSupported info = true) ∧
        (infos.map zipEntry).foldlM (add sha256 casefold archiveName) added = .ok after := by
  induction infos generalizing added with
  | nil => simp [readZip, pure, Except.pure]
  | cons info rest hypothesis =>
    rw [readZip, require_then_iff, bind_eq_ok_iff, List.map_cons,
      List.foldlM_cons, bind_eq_ok_iff, List.forall_mem_cons]
    simp only [hypothesis]
    constructor
    · rintro ⟨here, middle, added, later, ran⟩
      exact ⟨⟨here, later⟩, middle, added, ran⟩
    · rintro ⟨⟨here, later⟩, middle, added, ran⟩
      exact ⟨here, middle, added, later, ran⟩

theorem readTar_eq {ends : Bool} {added : Added} {infos : List TarInfo} :
    readTar sha256 casefold archiveName ends added infos = .ok after ↔
      ends = true ∧ (∀ info ∈ infos, info.isfile = true ∧ info.sparse = false) ∧
        (infos.map tarEntry).foldlM (add sha256 casefold archiveName) added = .ok after := by
  induction infos generalizing added with
  | nil => cases ends <;> simp [readTar, pure, Except.pure]
  | cons info rest hypothesis =>
    rw [readTar, require_then_iff, bind_eq_ok_iff, List.map_cons,
      List.foldlM_cons, bind_eq_ok_iff, List.forall_mem_cons]
    simp only [hypothesis, Bool.and_eq_true, Bool.not_eq_true']
    constructor
    · rintro ⟨here, middle, added, ends, later, ran⟩
      exact ⟨ends, ⟨here, later⟩, middle, added, ran⟩
    · rintro ⟨ends, ⟨here, later⟩, middle, added, ran⟩
      exact ⟨here, middle, added, ends, later, ran⟩

theorem addAll_empty_iff {entries : List Entry} :
    entries.foldlM (add sha256 casefold archiveName) {} = .ok after ↔
      Conforms casefold entries ∧ after = addedOf sha256 casefold entries :=
  addAll_ok_iff conforms_nil

/-- The members that an archive of a name is found to hold. -/
def Found (libraries : Libraries) (archiveName : Str) (data : List UInt8) (entries : List Entry) :
    Prop :=
  ((str ".zip").isSuffixOf archiveName = true ∧ ∃ infos, libraries.zip data = some infos ∧
    (∀ info ∈ infos, zipSupported info = true) ∧ entries = infos.map zipEntry) ∨
  ((str ".zip").isSuffixOf archiveName = false ∧ (str ".tar.gz").isSuffixOf archiveName = true ∧
    ∃ infos, libraries.tar data = some (infos, true) ∧
      (∀ info ∈ infos, info.isfile = true ∧ info.sparse = false) ∧ entries = infos.map tarEntry)

/-- An archive is read exactly when its members can be let in together. -/
theorem readArchive_ok_iff {libraries : Libraries} {path : Str} {data : List UInt8}
    {members : Members} :
    readArchive sha256 casefold archiveName libraries path data = .ok members ↔
      data.length ≤ maxArchiveBytes ∧ ∃ entries, Found libraries archiveName data entries ∧
        Conforms casefold entries ∧ members = entries.map (entryMember sha256) := by
  rw [readArchive, require_then_iff, decide_eq_true_eq]
  apply and_congr_right
  intro _
  unfold Found
  split
  · next zipped =>
    cases libraries.zip data with
    | none => simp [zipped]
    | some infos =>
      simp only [zipped, true_and, Option.some.injEq, Bool.true_eq_false, false_and, or_false]
      constructor
      · intro ran
        obtain ⟨-, ran⟩ := require_then_iff.mp ran
        obtain ⟨added, read, same⟩ := bind_eq_ok_iff.mp ran
        cases same
        obtain ⟨supported, folded⟩ := readZip_eq.mp read
        obtain ⟨conforms, rfl⟩ := addAll_empty_iff.mp folded
        exact ⟨_, ⟨infos, rfl, supported, rfl⟩, conforms, rfl⟩
      · rintro ⟨_, ⟨_, rfl, supported, rfl⟩, conforms, rfl⟩
        have count := conforms.count
        rw [List.length_map] at count
        exact require_then_iff.mpr ⟨decide_eq_true count, bind_eq_ok_iff.mpr
          ⟨_, readZip_eq.mpr ⟨supported, addAll_empty_iff.mpr ⟨conforms, rfl⟩⟩, rfl⟩⟩
  · next other =>
    have other : (str ".zip").isSuffixOf archiveName = false := Bool.eq_false_iff.mpr other
    rw [require_then_iff]
    simp only [other, Bool.false_eq_true, false_and, false_or, true_and]
    constructor
    · rintro ⟨tar, ran⟩
      split at ran
      · cases ran
      · next infos ends opened =>
        obtain ⟨added, read, same⟩ := bind_eq_ok_iff.mp ran
        cases same
        obtain ⟨rfl, regular, folded⟩ := readTar_eq.mp read
        obtain ⟨conforms, rfl⟩ := addAll_empty_iff.mp folded
        exact ⟨_, ⟨tar, infos, opened, regular, rfl⟩, conforms, rfl⟩
    · rintro ⟨_, ⟨tar, infos, opened, regular, rfl⟩, conforms, rfl⟩
      refine ⟨tar, ?_⟩
      rw [opened]
      exact bind_eq_ok_iff.mpr
        ⟨_, readTar_eq.mpr ⟨rfl, regular, addAll_empty_iff.mpr ⟨conforms, rfl⟩⟩, rfl⟩

end SianoUserland.ReleaseArchive
