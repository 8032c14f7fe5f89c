import SianoUserland.ReleaseArchive
import SianoUserland.ReleaseManifest

/-! `scripts/release_verify.py`: a directory with the archives of a release. The check goes from
the names in the directory over the outer checksums to the members of each archive and the checksums
inside of it. -/
namespace SianoUserland.ReleaseBundle
open AuditArtifact (Digest decodeAscii sumLine sumsName)
open Check (bind_eq_ok_iff checkEach checkEach_eq_ok_iff require_bind_eq_ok_iff require_eq_ok_iff
  sameSet sameSet_iff)
open Checksums (isNamePoint parseSums readInnerSums verifyInnerSums)
open ReleaseArchive
open ReleaseNotice (Failure)
open ReleaseVerify (Member Members item platforms)
open Text

/-! ### Names -/

/-- `0|[1-9][0-9]*`. -/
def isNumeral (part : Str) : Bool :=
  part = [0x30] || (part ≠ [] && part.head? ≠ some 0x30 &&
    part.all fun point => 0x30 ≤ point && point ≤ 0x39)

/-- `VERSION.fullmatch`. -/
def isVersion (version : Str) : Bool :=
  (version.splitOn 0x2E).length = 3 && (version.splitOn 0x2E).all isNumeral

def assetName (version platform : Str) : Str :=
  str "siano-ts-" ++ version ++ str "-" ++ platform ++ str "." ++
    (if platform = str "windows-x64" then str "zip" else str "tar.gz")

def sourceAsset (version : Str) : Str := str "siano-ts-" ++ version ++ str "-source.tar.gz"

def assetNames (version : Str) : List Str :=
  platforms.map (assetName version) ++ [sourceAsset version]

/-- `expected_assets`. -/
def expectedAssets (version : Str) : Except Failure (List Str) := do
  ReleaseNotice.require (isVersion version) (str "version must be strict X.Y.Z")
  return assetNames version

/-! ### Directories -/

/-- A directory: its entries, with the bytes of those that are regular files. -/
abbrev Directory := List (Str × Option (List UInt8))

/-- The bytes of a regular file of a directory. -/
def fileOf (directory : Directory) (name : Str) : Option (List UInt8) :=
  (directory.lookup name).join

variable (sha256 : List UInt8 → Digest) (casefold : Str → Str) (libraries : Libraries)
  (directory : Directory) (path : Str)

/-- The loop of `verify_bundle` over the archives. -/
def readAssets (checksums : List (Str × Str)) : List Str → Except Failure (List (Str × Members))
  | [] => .ok []
  | name :: rest =>
    let file := path ++ str "/" ++ name
    match fileOf directory name with
    | none => .error (.verification (str "missing regular archive: " ++ name))
    | some data => do
      ReleaseNotice.require (data.length ≤ maxArchiveBytes) (str "input size limit: " ++ file)
      let digest ← item checksums name
      ReleaseNotice.require ((sha256 data : Str) = digest)
        (str "outer checksum mismatch: " ++ name)
      let members ← readArchive sha256 casefold name libraries file data
      verifyInnerSums members name
      return (name, members) :: (← readAssets checksums rest)

/-- `verify_bundle` of a directory with its path. -/
def verifyBundle (version : Str) : Except Failure (List (Str × Str) × List (Str × Members)) := do
  let expected ← expectedAssets version
  ReleaseNotice.require (sameSet (directory.map Prod.fst) (sumsName :: expected))
    (str "bundle inventory mismatch: " ++ path)
  match fileOf directory sumsName with
  | none => .error (.verification (str "invalid outer SHA256SUMS: " ++ path))
  | some sums =>
    ReleaseNotice.require (sums.length ≤ maxMetadataBytes)
      (str "invalid outer SHA256SUMS: " ++ path)
    let checksums ← parseSums sums expected (str "outer SHA256SUMS")
    let archives ← readAssets sha256 casefold libraries directory path checksums
      (expected.insertionSort (· ≤ ·))
    return (checksums, archives)

/-! ### Checksums -/

/-- A file of checksums lists digests of names. -/
def Lists (data : List UInt8) (sums : List (Str × Str)) : Prop :=
  (sums.map Prod.fst).Nodup ∧ ∃ text, decodeAscii data = some text ∧
    (splitlines text).map (sumLine fun point => isNamePoint point || point == 0x2F) =
      sums.map fun entry => some (entry.2, entry.1)

/-- The checksums in an archive list exactly its other members with the digests of their content. -/
def SumsInside (members : Members) : Prop :=
  ∃ data sums, (members.lookup sumsName).bind Member.data = some data ∧ Lists data sums ∧
    (∀ name, name ∈ sums.map Prod.fst ↔ name ∈ members.map Prod.fst ∧ name ≠ sumsName) ∧
    ∀ entry ∈ sums, ∃ member, members.lookup entry.1 = some member ∧ member.digest = entry.2

/-- An asset of a bundle: a regular file with the listed digest, read to members that its own
checksums list. -/
def Asset (sums : List (Str × Str)) (name : Str) (members : Members) : Prop :=
  ∃ data, fileOf directory name = some data ∧ data.length ≤ maxArchiveBytes ∧
    sums.lookup name = some (sha256 data : Str) ∧ SumsInside members ∧
    ∃ entries, Found libraries name data entries ∧ Conforms casefold entries ∧
      members = entries.map (entryMember sha256)

variable {sha256 casefold libraries directory path}

theorem readInnerSums_ok_iff {name : Str} {listed result : List (Str × Str)} {lines : List Str}
    (distinct : (listed.map Prod.fst).Nodup) :
    readInnerSums name listed lines = .ok result ↔ ∃ sums, result = listed ++ sums ∧
      (result.map Prod.fst).Nodup ∧
      lines.map (sumLine fun point => isNamePoint point || point == 0x2F) =
        sums.map fun entry => some (entry.2, entry.1) := by
  induction lines generalizing listed with
  | nil =>
    constructor
    · intro read
      cases read
      exact ⟨[], by simp, by simpa using distinct, rfl⟩
    · rintro ⟨sums, rfl, -, none⟩
      cases sums with
      | nil => simp [readInnerSums]
      | cons entry rest => cases none
  | cons line rest hypothesis =>
    rw [readInnerSums]
    split
    · next unread =>
      constructor
      · intro read
        cases read
      · rintro ⟨sums, -, -, lines⟩
        cases sums with
        | nil => cases lines
        | cons entry rest =>
          rw [List.map_cons, unread] at lines
          cases lines
    · next digest filename shape =>
      rw [List.map_cons, shape, ReleaseNotice.require, require_bind_eq_ok_iff, decide_eq_true_eq]
      have split (sums : List (Str × Str)) :
          listed ++ (filename, digest) :: sums = (listed ++ [(filename, digest)]) ++ sums := by
        simp
      constructor
      · rintro ⟨fresh, read⟩
        have longer : ((listed ++ [(filename, digest)]).map Prod.fst).Nodup := by
          rw [List.map_append, List.nodup_append]
          refine ⟨distinct, by simp, ?_⟩
          intro name member other last same
          have last : other = filename := List.mem_singleton.mp last
          exact fresh ((same.trans last) ▸ member)
        obtain ⟨sums, rfl, apart, lines⟩ := (hypothesis longer).mp read
        exact ⟨(filename, digest) :: sums, (split sums).symm, apart, by rw [lines]; rfl⟩
      · rintro ⟨sums, rfl, apart, lines⟩
        cases sums with
        | nil => cases lines
        | cons entry sums =>
          obtain ⟨rfl, rfl⟩ := Prod.mk.inj (Option.some.inj (List.cons.inj lines).1)
          have front := apart
          rw [split, List.map_append, List.nodup_append] at front
          have later := (List.cons.inj lines).2
          refine ⟨?_, (hypothesis front.1).mpr ⟨sums, split sums, apart, later⟩⟩
          have first := front.1
          rw [List.map_append, List.nodup_append] at first
          intro member
          exact first.2.2 _ member _ (List.mem_singleton.mpr rfl) rfl

theorem parseSums_ok_iff {data : List UInt8} {expected : List Str} {name : Str}
    {sums : List (Str × Str)} : parseSums data expected name = .ok sums ↔
      Lists data sums ∧ ∀ name, name ∈ sums.map Prod.fst ↔ name ∈ expected := by
  unfold parseSums Lists
  cases decodeAscii data with
  | none => simp
  | some text =>
    have start : (([] : List (Str × Str)).map Prod.fst).Nodup := List.nodup_nil
    rw [bind_eq_ok_iff]
    constructor
    · rintro ⟨found, read, checked⟩
      obtain ⟨same, checked⟩ := require_bind_eq_ok_iff.mp checked
      cases checked
      obtain ⟨_, rfl, apart, lines⟩ := (readInnerSums_ok_iff start).mp read
      exact ⟨⟨apart, text, rfl, lines⟩, sameSet_iff.mp same⟩
    · rintro ⟨⟨apart, _, decoded, lines⟩, same⟩
      cases decoded
      exact ⟨sums, (readInnerSums_ok_iff start).mpr ⟨sums, rfl, apart, lines⟩,
        require_bind_eq_ok_iff.mpr ⟨sameSet_iff.mpr same, rfl⟩⟩

theorem verifyInnerSums_ok_iff {members : Members} {archiveName : Str} {result : Unit} :
    verifyInnerSums members archiveName = .ok result ↔ SumsInside members := by
  unfold verifyInnerSums SumsInside
  cases (members.lookup sumsName).bind Member.data with
  | none => simp
  | some data =>
    have member (entry : Str × Str) : (do
        let member ← item members entry.1
        ReleaseNotice.require (member.digest = entry.2)
          (str "inner checksum mismatch in " ++ archiveName ++ str ": " ++ entry.1)) = .ok () ↔
        ∃ member, members.lookup entry.1 = some member ∧ member.digest = entry.2 := by
      rw [bind_eq_ok_iff]
      simp only [ReleaseManifest.item_ok_iff, ReleaseNotice.require, require_eq_ok_iff,
        decide_eq_true_eq]
    constructor
    · intro accepted
      obtain ⟨sums, parsed, checked⟩ := bind_eq_ok_iff.mp accepted
      obtain ⟨lists, same⟩ := parseSums_ok_iff.mp parsed
      refine ⟨data, sums, rfl, lists, ?_, ?_⟩
      · simpa using same
      · intro entry listed
        exact (member entry).mp (checkEach_eq_ok_iff.mp checked entry listed)
    · rintro ⟨_, sums, found, lists, same, matched⟩
      cases found
      refine bind_eq_ok_iff.mpr ⟨sums, parseSums_ok_iff.mpr ⟨lists, by simpa using same⟩, ?_⟩
      apply checkEach_eq_ok_iff.mpr
      intro entry listed
      exact (member entry).mpr (matched entry listed)

/-! ### Bundles -/

theorem readAssets_ok_iff {checksums : List (Str × Str)} {names : List Str}
    {archives : List (Str × Members)} :
    readAssets sha256 casefold libraries directory path checksums names = .ok archives ↔
      archives.map Prod.fst = names ∧ ∀ archive ∈ archives,
        Asset sha256 casefold libraries directory checksums archive.1 archive.2 := by
  induction names generalizing archives with
  | nil =>
    constructor
    · intro read
      cases read
      simp
    · rintro ⟨names, -⟩
      rw [List.map_eq_nil_iff.mp names]
      rfl
  | cons name rest hypothesis =>
    rw [readAssets]
    split
    · next missing =>
      constructor
      · intro read
        cases read
      · rintro ⟨names, assets⟩
        cases archives with
        | nil => cases names
        | cons archive others =>
          obtain ⟨data, found, -⟩ := assets archive List.mem_cons_self
          obtain ⟨rfl, -⟩ := List.cons.inj names
          cases missing.symm.trans found
    · next data found =>
      constructor
      · intro read
        obtain ⟨small, read⟩ := require_bind_eq_ok_iff.mp read
        obtain ⟨digest, listed, read⟩ := bind_eq_ok_iff.mp read
        obtain ⟨same, read⟩ := require_bind_eq_ok_iff.mp read
        obtain ⟨members, opened, read⟩ := bind_eq_ok_iff.mp read
        obtain ⟨⟨⟩, inner, read⟩ := bind_eq_ok_iff.mp read
        obtain ⟨others, later, read⟩ := bind_eq_ok_iff.mp read
        cases read
        obtain ⟨names, assets⟩ := hypothesis.mp later
        refine ⟨by rw [List.map_cons, names], List.forall_mem_cons.mpr ⟨?_, assets⟩⟩
        have listed := ReleaseManifest.item_ok_iff.mp listed
        rw [decide_eq_true_eq] at small same
        obtain ⟨-, held⟩ := readArchive_ok_iff.mp opened
        exact ⟨data, found, small, same ▸ listed, verifyInnerSums_ok_iff.mp inner, held⟩
      · rintro ⟨names, assets⟩
        cases archives with
        | nil => cases names
        | cons archive others =>
          obtain ⟨rfl, rest⟩ := List.cons.inj names
          obtain ⟨first, assets⟩ := List.forall_mem_cons.mp assets
          obtain ⟨_, there, small, listed, inner, held⟩ := first
          cases found.symm.trans there
          refine require_bind_eq_ok_iff.mpr ⟨decide_eq_true small, bind_eq_ok_iff.mpr
            ⟨_, ReleaseManifest.item_ok_iff.mpr listed, require_bind_eq_ok_iff.mpr
              ⟨decide_eq_true rfl, bind_eq_ok_iff.mpr
                ⟨archive.2, readArchive_ok_iff.mpr ⟨small, held⟩, bind_eq_ok_iff.mpr
                  ⟨(), verifyInnerSums_ok_iff.mpr inner, bind_eq_ok_iff.mpr
                    ⟨others, hypothesis.mpr ⟨rest, assets⟩, rfl⟩⟩⟩⟩⟩⟩

/-- A bundle of a version: nothing but its assets and their checksums, which list exactly the
assets, and each asset with what it holds. -/
structure Bundle (sha256 : List UInt8 → Digest) (casefold : Str → Str) (libraries : Libraries)
    (directory : Directory) (version : Str) (sums : List (Str × Str))
    (archives : List (Str × Members)) : Prop where
  canonical : isVersion version = true
  names : ∀ name, name ∈ directory.map Prod.fst ↔ name ∈ sumsName :: assetNames version
  outer : ∃ data, fileOf directory sumsName = some data ∧ data.length ≤ maxMetadataBytes ∧
    Lists data sums
  listed : ∀ name, name ∈ sums.map Prod.fst ↔ name ∈ assetNames version
  order : archives.map Prod.fst = (assetNames version).insertionSort (· ≤ ·)
  assets : ∀ archive ∈ archives,
    Asset sha256 casefold libraries directory sums archive.1 archive.2

/-- **A bundle is accepted exactly when every byte of its assets is accounted for.** The directory
holds the assets of the version and their checksums and nothing else. Each asset has the listed
digest and is read to members with safe names of which no two are one without case, within the
limits of size and count, and the checksums inside list exactly its other members with the digests
of their whole content. -/
theorem bundle_accepted_iff {version : Str} {sums : List (Str × Str)}
    {archives : List (Str × Members)} :
    verifyBundle sha256 casefold libraries directory path version = .ok (sums, archives) ↔
      Bundle sha256 casefold libraries directory version sums archives := by
  constructor
  · intro accepted
    obtain ⟨expected, named, accepted⟩ := bind_eq_ok_iff.mp accepted
    obtain ⟨canonical, named⟩ := require_bind_eq_ok_iff.mp named
    cases named
    obtain ⟨names, accepted⟩ := require_bind_eq_ok_iff.mp accepted
    split at accepted
    · cases accepted
    · next data found =>
      obtain ⟨small, accepted⟩ := require_bind_eq_ok_iff.mp accepted
      obtain ⟨checksums, parsed, accepted⟩ := bind_eq_ok_iff.mp accepted
      obtain ⟨others, read, accepted⟩ := bind_eq_ok_iff.mp accepted
      cases accepted
      obtain ⟨lists, listed⟩ := parseSums_ok_iff.mp parsed
      obtain ⟨order, assets⟩ := readAssets_ok_iff.mp read
      exact ⟨canonical, sameSet_iff.mp names, ⟨data, found, of_decide_eq_true small, lists⟩, listed,
        order, assets⟩
  · intro bundle
    obtain ⟨data, found, small, lists⟩ := bundle.outer
    refine bind_eq_ok_iff.mpr
      ⟨_, require_bind_eq_ok_iff.mpr ⟨bundle.canonical, rfl⟩, require_bind_eq_ok_iff.mpr
        ⟨sameSet_iff.mpr bundle.names, ?_⟩⟩
    rw [found]
    exact require_bind_eq_ok_iff.mpr ⟨decide_eq_true small, bind_eq_ok_iff.mpr
      ⟨sums, parseSums_ok_iff.mpr ⟨lists, bundle.listed⟩, bind_eq_ok_iff.mpr
        ⟨archives, readAssets_ok_iff.mpr ⟨bundle.order, bundle.assets⟩, rfl⟩⟩⟩

end SianoUserland.ReleaseBundle
