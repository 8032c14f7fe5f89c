import SianoUserland.ManifestFile

/-! `scripts/package-artifact.py`: a binary archive, from the programs and the evidence of a build
to the two readers of its manifest. `audit-artifact.py` compares parsed evidence,
`release_verify.py` also its bytes. -/
namespace SianoUserland.PackageManifest
open AuditArtifact (Digest Failure isHex sumsName)
open AuditManifest
open Check Text
open Checksums (Entries Name archive asPosix isNamePoint sums)
open ManifestFile
open ReleaseVerify (canonicalJsonFile platformOf versionOf)

/-! ### What is staged -/

/-- The files that `main` copies and writes into the stage, before the manifest. -/
def stagedNames (platform : Platform) : List Str :=
  ["COPYING", "LICENCE.siano", "README.md", "REBUILD.md"].map str ++
    (programNames platform).flatMap (fun program => [program, binaryEvidenceName program]) ++
    ["firmware/isdbt_rio.inp", "libusb/COPYING"].map str ++
    (match platform.system with
    | .linux =>
      ["evidence/build.properties", "toolchain/gcc-COPYING3", "toolchain/gcc-COPYING.RUNTIME",
        "toolchain/musl-1.2.5-COPYRIGHT", "mdev/siano-ts-mdev.conf", "mdev/siano-ts-mdev.sh",
        "mdev/siano-ts-mdev.start"].map str
    | .darwin => ["evidence/build.properties"].map str
    | .android =>
      ["libusb/libusb-1.0.30.tar.bz2", "evidence/static-link-inventory.tsv",
        "evidence/sianod-static-link-inventory.tsv", "evidence/sianoctl-static-link-inventory.tsv",
        "evidence/build.properties", "evidence/ndk/source.properties", "evidence/ndk/NOTICE",
        "evidence/ndk/NOTICE.toolchain"].map str
    | .windows => ["libusb-1.0.dll", "libusb/NOTICE.txt"].map str) ++
    [str "DEPENDENCY-NOTICE.txt"]

/-- The extension of an archive. -/
def extension (platform : Platform) : Str :=
  if platform.system = .windows then str "zip" else str "tar.gz"

/-- The name of an archive. -/
def archiveName (version : Str) (platform : Platform) : Str :=
  str "siano-ts-" ++ version ++ str "-" ++ platform.name ++ str "." ++ extension platform

/-! ### The manifest -/

/-- A dictionary of strings. -/
def strings (pairs : List (Str × Str)) : Fields :=
  pairs.map fun (key, value) => (key, .string value)

/-- What `main` says of the build. -/
def metadata (platform : Platform) : List (Str × Str) :=
  match platform.system with
  | .linux =>
    [(str "architecture", platform.architecture), (str "libc", str "none"),
      (str "build_libc", str "musl"), (str "linkage", str "static")]
  | .darwin =>
    [(str "architecture", platform.architecture), (str "linkage", str "static"),
      (str "libc", str "darwin")]
  | .android =>
    [(str "architecture", platform.architecture), (str "linkage", str "static"),
      (str "libc", str "bionic")]
  | .windows =>
    [(str "architecture", platform.architecture), (str "linkage", str "dynamic"),
      (str "libc", str "windows")]

/-- What `main` says of libusb. -/
def libusb (platform : Platform) : List (Str × Str) :=
  [(str "version", libusbVersion), (str "source_ref", libusbSourceUrl),
    (str "source_sha256", libusbSourceSha256)] ++
    match platform.system with
    | .linux => [(str "linkage", str "static"), (str "udev", str "disabled"),
        (str "backend", str "netlink")]
    | .darwin => [(str "linkage", str "static"), (str "backend", str "darwin")]
    | .android => [(str "linkage", str "static")]
    | .windows => [(str "linkage", str "dynamic"),
        (str "package_sha256", windowsLibusbPackageSha256)]

/-- What `main` says of the firmware. -/
def firmware : List (Str × Str) :=
  [(str "url", firmwareUrl), (str "sha256", firmwareSha256),
    (str "license_url", firmwareLicenseUrl), (str "license_sha256", firmwareLicenseSha256)]

/-- The manifest for the records of the staged files. -/
def manifest (platform : Platform) (version sourceRef : Str) (files : Fields) : Fields :=
  [(str "schema", .int 1), (str "version", .string version),
    (str "platform", .string platform.name), (str "source_ref", .string sourceRef),
    (str "programs", .array ((programNames platform).map .string)), (str "files", .object files),
    (str "firmware", .object (strings firmware))] ++ strings (metadata platform) ++
    [(str "libusb", .object (strings (libusb platform)))]

variable (sha256 : List UInt8 → Digest)

/-- The check of the evidence that the build host has left beside a program. -/
def checkBuildEvidence (platform : Platform) (sourceRef path binary : Str)
    (program evidence : List UInt8) : Except Failure Unit := do
  let value ← parseJson evidence path
  let expected := expectedEvidence sha256 (.string platform.name) (.string sourceRef) binary program
  require (Json.eq value (.object expected))
    (.audit (str "build-host evidence is not bound to " ++ binary ++ str "/platform/source"))

theorem manifest_component : manifestName ≠ [] ∧ manifestName.all isNamePoint = true ∧
    manifestName ≠ [0x2E] ∧ manifestName ≠ [0x2E, 0x2E] := by
  decide +kernel

/-- The name of the manifest. -/
def manifestFile : Name := ⟨manifestName, manifest_component⟩

/-- The stage of a platform, with the arguments of `main` and the evidence checked. -/
structure Staged (platform : Platform) (version sourceRef : Str) where
  entries : Entries
  distinct : entries.Distinct
  names : ∀ name, (∃ file ∈ entries.files, asPosix file.1 = name) ↔ name ∈ stagedNames platform
  fresh : manifestFile ∉ entries.names ∧ sums ∉ entries.names
  numbered : isVersion version = true
  canonical : isSourceRef sourceRef = true
  bound : ∀ binary ∈ programNames platform, ∃ program evidence path,
    (binary, program) ∈ archive entries ∧ (binaryEvidenceName binary, evidence) ∈ archive entries ∧
      checkBuildEvidence sha256 platform sourceRef path binary program evidence = .ok ()

/-- The package of a stage: the manifest and the checksums are added. -/
def package (platform : Platform) (version sourceRef : Str) (stage : Entries) :
    Except Checksums.WriteFailure Entries :=
  complete sha256 manifestFile (manifest platform version sourceRef) stage

/-! ### What is written is plain -/

section plain

variable {platform : Platform} {version sourceRef : Str} {files : Fields} {sha256}

theorem scalar_of_ascii {text : Str} (ascii : text.all (· < 0x80) = true) :
    ∀ point ∈ text, Json.Scalar point := by
  intro point member
  have small := of_decide_eq_true (List.all_eq_true.mp ascii point member)
  refine ⟨by omega, ?_⟩
  simp only [isSurrogate, Bool.and_eq_false_iff, decide_eq_false_iff_not]
  omega

theorem plain_strings {pairs : List (Str × Str)} (keys : (pairs.map Prod.fst).Nodup)
    (ascii : ∀ pair ∈ pairs, pair.1.all (· < 0x80) = true ∧ pair.2.all (· < 0x80) = true) :
    Json.Plain (.object (strings pairs)) := by
  refine .object ?_ ?_ ?_
  · rw [strings, List.map_map]
    exact keys
  · intro field member
    obtain ⟨pair, inside, rfl⟩ := List.mem_map.mp member
    exact scalar_of_ascii (ascii pair inside).1
  · intro field member
    obtain ⟨pair, inside, rfl⟩ := List.mem_map.mp member
    exact .string (scalar_of_ascii (ascii pair inside).2)

/-- The keys of a manifest. -/
def manifestKeys (platform : Platform) : List Str :=
  ["schema", "version", "platform", "source_ref", "programs", "files", "firmware"].map str ++
    (metadata platform).map Prod.fst ++ [str "libusb"]

theorem keys_manifest :
    (manifest platform version sourceRef files).map Prod.fst = manifestKeys platform := by
  simp [manifest, manifestKeys, strings, Function.comp_def]

/-- The keys of every dictionary are distinct, and every text is one of ASCII. -/
theorem manifest_tables (platform : Platform) :
    ((manifestKeys platform).Nodup ∧ ((metadata platform).map Prod.fst).Nodup ∧
      ((libusb platform).map Prod.fst).Nodup ∧ (firmware.map Prod.fst).Nodup) ∧
    (∀ text ∈ platform.name :: (manifestKeys platform ++ programNames platform),
      text.all (· < 0x80) = true) ∧
    ∀ pair ∈ metadata platform ++ libusb platform ++ firmware,
      pair.1.all (· < 0x80) = true ∧ pair.2.all (· < 0x80) = true := by
  revert platform
  decide +kernel

/-- A platform is found in the end of the name of its archive, and no platform begins like what is
in front. The members that the audit expects are the staged ones with the manifest and the
checksums, which are not staged, and none of the staged ones ends as the checksums. -/
theorem name_tables (platform : Platform) :
    (ReleaseVerify.platforms.find? (fun value =>
        (str "-" ++ platform.name ++ str "." ++ extension platform).tails.any
          (str "-" ++ value ++ str ".").isPrefixOf) = some platform.name ∧
      ∀ value ∈ ReleaseVerify.platforms, value ≠ [] ∧ ∀ letter ∈ value.head?,
        letter ≠ 0x74 ∧ isDigit letter = false ∧ letter ≠ 0x2E) ∧
    (∀ name ∈ stagedNames platform, name ≠ manifestName ∧ name ≠ sumsName ∧
      (name.splitOn 0x2F).getLast? ≠ some sumsName) ∧
    sameSet (sumsName :: manifestName :: stagedNames platform) (expectedMembers platform) = true ∧
    manifestName ≠ sumsName ∧ ∀ pair ∈ expectedMetadata platform, pair ∈ metadata platform := by
  revert platform
  decide +kernel

/-- What the names of the archives are put together with, and the keys of records and evidence. -/
theorem fixed_texts : (str "." = [0x2E] ∧ str "-" = [0x2D] ∧
      str "siano-ts-" = str "siano" ++ 0x2D :: 0x74 :: 0x73 :: [0x2D] ∧ 0x2D ∉ str "siano") ∧
    (∀ key ∈ ["size", "sha256", "schema", "platform", "source_ref", "binary", "name"].map str,
      key.all (· < 0x80) = true) ∧
    [str "schema", str "platform", str "source_ref", str "binary"].Nodup ∧
    [str "name", str "sha256"].Nodup := by
  decide +kernel

theorem manifest_nodup : ((manifest platform version sourceRef files).map Prod.fst).Nodup := by
  rw [keys_manifest]
  exact (manifest_tables platform).1.1

theorem plain_manifest (numbered : version.all (· < 0x80) = true)
    (canonical : sourceRef.all (· < 0x80) = true) (inner : Json.Plain (.object files)) :
    Json.Plain (.object (manifest platform version sourceRef files)) := by
  obtain ⟨⟨-, built, linked, pinned⟩, texts, pairs⟩ := manifest_tables platform
  have built := plain_strings built fun pair member => pairs pair (by simp [member])
  have linked := plain_strings linked fun pair member => pairs pair (by simp [member])
  have pinned := plain_strings pinned fun pair member => pairs pair (by simp [member])
  refine .object manifest_nodup ?_ ?_
  · intro field member
    have key : field.1 ∈ manifestKeys platform := by
      rw [← keys_manifest]
      exact List.mem_map_of_mem member
    exact scalar_of_ascii (texts field.1 (by simp [key]))
  · simp only [manifest, List.forall_mem_append, List.forall_mem_cons]
    refine ⟨⟨⟨.int 1, .string (scalar_of_ascii numbered),
      .string (scalar_of_ascii (texts platform.name (by simp))),
      .string (scalar_of_ascii canonical), .array ?_, inner, pinned, by simp⟩, ?_⟩, linked,
      by simp⟩
    · rw [List.forall_mem_map]
      exact fun program member => .string (scalar_of_ascii (texts program (by simp [member])))
    · cases built with | object _ _ inner => exact inner

theorem hex_ascii {text : Str} (digits : text.all isHex = true) :
    text.all (· < 0x80) = true := by
  rw [List.all_eq_true] at digits ⊢
  intro point member
  have digit := digits point member
  simp only [isHex, Bool.or_eq_true, Bool.and_eq_true, decide_eq_true_eq] at digit ⊢
  omega

theorem plain_fileRecords {stage : Entries} (distinct : stage.Distinct) :
    Json.Plain (.object (fileRecords sha256 stage)) := by
  have keys {size : Nat} {digest : Str} : ∀ field ∈ record size digest,
      field.1.all (· < 0x80) = true := by
    obtain ⟨-, ascii, -⟩ := fixed_texts
    simp only [record, List.forall_mem_cons]
    exact ⟨ascii _ (by simp), ascii _ (by simp), by simp⟩
  refine .object (fileRecords_keys distinct) ?_ ?_
  · intro field member
    obtain ⟨file, -, rfl⟩ := mem_fileRecords.mp member
    refine scalar_of_ascii (List.all_eq_true.mpr fun point inside => ?_)
    have named := Checksums.asPosix_points file.1 point inside
    simp only [isNamePoint, Bool.or_eq_true, Bool.and_eq_true, decide_eq_true_eq,
      beq_iff_eq] at named ⊢
    omega
  · intro field member
    obtain ⟨file, -, rfl⟩ := mem_fileRecords.mp member
    refine .object record_keys (fun field member => scalar_of_ascii (keys field member)) ?_
    simp only [record, List.forall_mem_cons]
    exact ⟨.int _, .string (scalar_of_ascii (hex_ascii (sha256 file.2).property.2)), by simp⟩

end plain

/-! ### The name of an archive -/

section names

variable {platform : Platform} {version sourceRef : Str}

theorem version_parts (numbered : isVersion version = true) : ∃ major minor patch,
    version = major ++ 0x2E :: (minor ++ 0x2E :: patch) ∧
      ∀ part ∈ [major, minor, patch], part ≠ [] ∧ ∀ point ∈ part, isDigit point = true := by
  have joined : [0x2E].intercalate (version.splitOn 0x2E) = version :=
    List.intercalate_splitOn 0x2E
  unfold isVersion at numbered
  split at numbered
  · next major minor patch shape =>
    rw [shape] at joined
    refine ⟨major, minor, patch, ?_, ?_⟩
    · rw [← joined]
      simp [List.intercalate_cons_cons]
    · simpa [List.all_eq_true] using numbered
  · cases numbered

/-- A version is of digits and dots. -/
theorem version_points (numbered : isVersion version = true) :
    version ≠ [] ∧ ∀ point ∈ version, isDigit point = true ∨ point = 0x2E := by
  obtain ⟨major, minor, patch, rfl, parts⟩ := version_parts numbered
  simp only [List.forall_mem_cons] at parts
  obtain ⟨first, second, third, -⟩ := parts
  refine ⟨by simp, ?_⟩
  intro point member
  simp only [List.mem_append, List.mem_cons] at member
  rcases member with member | rfl | member | rfl | member
  · exact Or.inl (first.2 point member)
  · exact Or.inr rfl
  · exact Or.inl (second.2 point member)
  · exact Or.inr rfl
  · exact Or.inl (third.2 point member)

theorem isDecimal_of_isDigit {point : Nat} (digit : isDigit point = true) :
    ReleaseVerify.isDecimal point = true := by
  simp only [isDigit, Bool.and_eq_true, decide_eq_true_eq] at digit
  rw [ReleaseVerify.isDecimal, List.any_eq_true]
  refine ⟨0x30, by simp [ReleaseVerify.decimalZeros], ?_⟩
  simp only [Bool.and_eq_true, decide_eq_true_eq]
  omega

/-- A number ends where no digit follows. -/
theorem decimals_digits {digits rest : Str} {next : Nat} (some : digits ≠ [])
    (each : ∀ point ∈ digits, isDigit point = true)
    (other : ReleaseVerify.isDecimal next = false) :
    ReleaseVerify.decimals (digits ++ next :: rest) = Option.some (digits, next :: rest) := by
  have all : ∀ point ∈ digits, ReleaseVerify.isDecimal point = true :=
    fun point member => isDecimal_of_isDigit (each point member)
  have taken : (digits ++ next :: rest).takeWhile ReleaseVerify.isDecimal = digits := by
    rw [List.takeWhile_append_of_pos all, List.takeWhile_cons_of_neg (by simp [other]),
      List.append_nil]
  have dropped : (digits ++ next :: rest).dropWhile ReleaseVerify.isDecimal = next :: rest := by
    rw [List.dropWhile_append_of_pos all, List.dropWhile_cons_of_neg (by simp [other])]
  rw [ReleaseVerify.decimals, taken, dropped, if_neg some]

theorem after?_append (front rest : Str) :
    ReleaseVerify.after? front (front ++ rest) = some rest := by
  rw [ReleaseVerify.after?, if_pos (by simp), List.drop_left]

/-- The version of an archive is read from its name. -/
theorem versionOf_archiveName (numbered : isVersion version = true) :
    versionOf (archiveName version platform) = some version := by
  obtain ⟨major, minor, patch, rfl, parts⟩ := version_parts numbered
  simp only [List.forall_mem_cons] at parts
  obtain ⟨first, second, third, -⟩ := parts
  have dot : ReleaseVerify.isDecimal 0x2E = false := by decide
  have dash : ReleaseVerify.isDecimal 0x2D = false := by decide
  obtain ⟨⟨point, hyphen, -⟩, -⟩ := fixed_texts
  have shape : archiveName (major ++ 0x2E :: (minor ++ 0x2E :: patch)) platform =
      str "siano-ts-" ++ (major ++ 0x2E :: (minor ++ 0x2E :: (patch ++ 0x2D :: (platform.name ++
        str "." ++ extension platform)))) := by
    simp [archiveName, hyphen]
  have step (rest : Str) : ReleaseVerify.after? (str ".") (0x2E :: rest) = some rest := by
    rw [point]
    exact after?_append [0x2E] rest
  have last (rest : Str) : ReleaseVerify.after? (str "-") (0x2D :: rest) = some rest := by
    rw [hyphen]
    exact after?_append [0x2D] rest
  rw [shape, versionOf, after?_append]
  simp only [bind, Option.bind_some, decimals_digits first.1 first.2 dot, step,
    decimals_digits second.1 second.2 dot, decimals_digits third.1 third.2 dash, last, pure]
  rw [point]
  simp

/-- A text is not found where another point stands in the place of its first one. -/
theorem search_skip {first : Nat} {pattern front rest : Str} (absent : first ∉ front) :
    (front ++ rest).tails.any (first :: pattern).isPrefixOf =
      rest.tails.any (first :: pattern).isPrefixOf := by
  induction front with
  | nil => rfl
  | cons point later hypothesis =>
    rw [List.mem_cons, not_or] at absent
    rw [List.cons_append, List.tails_cons, List.any_cons, hypothesis absent.2, List.isPrefixOf,
      beq_eq_false_iff_ne.mpr absent.1, Bool.false_and, Bool.false_or]

/-- Nor where the point after the first is another one. -/
theorem search_second {first second third : Nat} {pattern rest : Str} (other : second ≠ third) :
    (first :: third :: rest).tails.any (first :: second :: pattern).isPrefixOf =
      (third :: rest).tails.any (first :: second :: pattern).isPrefixOf := by
  rw [List.tails_cons, List.any_cons, List.isPrefixOf, List.isPrefixOf,
    beq_eq_false_iff_ne.mpr other, Bool.false_and, Bool.and_false, Bool.false_or]

/-- The name of a platform is not found in front of the one in the name of an archive. -/
theorem search_archiveName (numbered : isVersion version = true) {letter : Nat} {pattern : Str}
    (other : letter ≠ 0x74 ∧ isDigit letter = false ∧ letter ≠ 0x2E) :
    (archiveName version platform).tails.any (0x2D :: letter :: pattern).isPrefixOf =
      (str "-" ++ platform.name ++ str "." ++ extension platform).tails.any
        (0x2D :: letter :: pattern).isPrefixOf := by
  obtain ⟨some, points⟩ := version_points numbered
  obtain ⟨point, later, rfl⟩ := List.exists_cons_of_ne_nil some
  obtain ⟨⟨-, -, program, letters⟩, -⟩ := fixed_texts
  have differ : letter ≠ point := by
    rintro rfl
    rcases points letter (by simp) with digit | dot
    · exact absurd digit (by simp [other.2.1])
    · exact other.2.2 dot
  have apart : 0x2D ∉ point :: later := by
    intro member
    rcases points 0x2D member with digit | dot
    · exact absurd digit (by decide)
    · exact absurd dot (by decide)
  have shape : archiveName (point :: later) platform = str "siano" ++ 0x2D :: 0x74 :: ([0x73] ++
      0x2D :: point :: (later ++ (str "-" ++ platform.name ++ str "." ++
        extension platform))) := by
    rw [archiveName, program]
    simp
  rw [shape, search_skip letters, search_second other.1]
  rw [show 0x74 :: ([0x73] ++ 0x2D :: point :: (later ++ (str "-" ++ platform.name ++ str "." ++
      extension platform))) = [0x74, 0x73] ++ 0x2D :: point :: (later ++ (str "-" ++
        platform.name ++ str "." ++ extension platform)) from rfl,
    search_skip (by decide), search_second differ, ← List.cons_append, search_skip apart]

/-- The platform of an archive is read from its name. -/
theorem platformOf_archiveName (numbered : isVersion version = true) :
    platformOf (archiveName version platform) = some platform.name := by
  obtain ⟨⟨-, hyphen, -⟩, -⟩ := fixed_texts
  obtain ⟨⟨found, letters⟩, -⟩ := name_tables platform
  have same (value : Str) (member : value ∈ ReleaseVerify.platforms) :
      (archiveName version platform).tails.any (str "-" ++ value ++ str ".").isPrefixOf =
        (str "-" ++ platform.name ++ str "." ++ extension platform).tails.any
          (str "-" ++ value ++ str ".").isPrefixOf := by
    obtain ⟨some, first⟩ := letters value member
    obtain ⟨letter, rest, rfl⟩ := List.exists_cons_of_ne_nil some
    have shape : str "-" ++ letter :: rest ++ str "." = 0x2D :: letter :: (rest ++ str ".") := by
      rw [hyphen]
      rfl
    rw [shape]
    exact search_archiveName numbered (first letter rfl)
  obtain ⟨found, before, after, split, earlier⟩ := List.find?_eq_some_iff_append.mp found
  refine List.find?_eq_some_iff_append.mpr ⟨?_, before, after, split, ?_⟩
  · rw [same platform.name (by rw [split]; simp)]
    exact found
  · intro value member
    rw [same value (by rw [split]; simp [member])]
    exact earlier value member

end names

/-! ### The package -/

section package

variable {platform : Platform} {version sourceRef : Str} {sha256} {payloads : Payloads}
  {name key : Str} {value : Json} {data : List UInt8}

/-- The fields of the manifest of a stage. -/
def Staged.fields (staged : Staged sha256 platform version sourceRef) : Fields :=
  manifest platform version sourceRef (fileRecords sha256 staged.entries)

/-- The members of the package of a stage. -/
abbrev Staged.Packed (staged : Staged sha256 platform version sourceRef) (payloads : Payloads) :
    Prop :=
  Completed manifestFile staged.fields staged.entries payloads

variable (staged : Staged sha256 platform version sourceRef)

theorem version_ascii (numbered : isVersion version = true) : version.all (· < 0x80) = true := by
  rw [List.all_eq_true]
  intro point member
  rcases (version_points numbered).2 point member with digit | rfl
  · simp only [isDigit, Bool.and_eq_true, decide_eq_true_eq] at digit ⊢
    omega
  · rfl

theorem sourceRef_ascii (canonical : isSourceRef sourceRef = true) :
    sourceRef.all (· < 0x80) = true := by
  rw [isSourceRef, Bool.and_eq_true, List.all_eq_true] at canonical
  rw [List.all_eq_true]
  intro point member
  have digit := canonical.2 point member
  simp only [isHex, Bool.or_eq_true, Bool.and_eq_true, decide_eq_true_eq] at digit ⊢
  omega

theorem Staged.plain : Json.Plain (.object staged.fields) :=
  plain_manifest (version_ascii staged.numbered) (sourceRef_ascii staged.canonical)
    (plain_fileRecords staged.distinct)

theorem mem_staged (inside : (name, data) ∈ archive staged.entries) :
    ∃ file ∈ staged.entries.files, asPosix file.1 = name ∧ file.2 = data :=
  ChecksumAgreement.mem_archive.mp inside

/-- **A stage is packed.** The manifest and the checksums are written, and both readers accept the
checksums. -/
theorem Staged.packed : ∃ after, package sha256 platform version sourceRef staged.entries =
    .ok after ∧ staged.Packed (archive after) ∧
      ChecksumAgreement.Accepted sha256 (archive after) := by
  obtain ⟨-, tables, -, differ, -⟩ := name_tables platform
  have apart : manifestFile ≠ sums := fun same => differ (congrArg Subtype.val same)
  obtain ⟨after, done, completed⟩ := complete_ok staged.distinct staged.fresh.1 staged.fresh.2
    apart staged.plain
  refine ⟨after, done, completed, ?_⟩
  refine complete_accepted staged.distinct staged.fresh.2 apart ?_ done
  intro file inside named
  have listed := (staged.names _).mp ⟨file, inside, rfl⟩
  have last := (tables _ listed).2.2
  rw [Checksums.splitOn_asPosix (Checksums.path_ne_nil inside), List.getLast?_map] at last
  exact last named

theorem Staged.names_iff (packed : staged.Packed payloads) :
    name ∈ payloads.map Prod.fst ↔ name ∈ sumsName :: manifestName :: stagedNames platform := by
  rw [packed.names, List.mem_cons, List.mem_cons, staged.names]
  rfl

/-- The names that the manifest has records for. -/
theorem Staged.recorded (packed : staged.Packed payloads) :
    name ∈ (payloads.map Prod.fst).filter (fun name => name ≠ manifestName && name ≠ sumsName) ↔
      name ∈ stagedNames platform := by
  rw [List.mem_filter, staged.names_iff packed]
  simp only [List.mem_cons, Bool.and_eq_true, decide_eq_true_eq]
  constructor
  · rintro ⟨rfl | rfl | listed, other⟩
    · exact absurd rfl other.2
    · exact absurd rfl other.1
    · exact listed
  · intro listed
    obtain ⟨-, tables, -⟩ := name_tables platform
    have apart := tables name listed
    exact ⟨Or.inr (Or.inr listed), apart.1, apart.2.1⟩

/-- A file that is staged is a member, and its record is the one of its bytes. -/
theorem Staged.member (packed : staged.Packed payloads) (listed : name ∈ stagedNames platform) :
    ∃ data, payloads.lookup name = some data ∧
      Json.get (reread (fileRecords sha256 staged.entries)) name =
        .object (reread (record data.length (sha256 data : Str))) := by
  obtain ⟨file, inside, rfl⟩ := (staged.names name).mpr listed
  exact ⟨file.2, packed.kept file inside, get_fileRecords staged.distinct inside⟩

/-- What a reader finds under a key of the manifest. -/
theorem Staged.get (member : (key, value) ∈ staged.fields) :
    Json.get (reread staged.fields) key = Json.sorted value :=
  get_reread_mem manifest_nodup member

/-- The reader of `release_verify.py`, and the one of `audit-artifact.py`. -/
theorem Staged.reads (packed : staged.Packed payloads) : ∃ data,
    payloads.lookup manifestName = some data ∧
      ReleaseVerify.parseJson data manifestName = .ok (reread staged.fields) ∧
      canonicalJsonFile data (reread staged.fields) = true ∧
      parseJson data manifestName = .ok (.object (reread staged.fields)) := by
  obtain ⟨data, found, decoded⟩ := packed.manifest
  obtain ⟨parsed, file⟩ := parse_reread staged.plain decoded manifestName
  exact ⟨data, found, parsed, file, audit_reread staged.plain decoded manifestName⟩

theorem Staged.get_string {text : Str} (member : (key, .string text) ∈ staged.fields) :
    Json.get (reread staged.fields) key = .string text :=
  staged.get member

/-- What a reader compares it with. -/
theorem Staged.eq_get (member : (key, value) ∈ staged.fields) :
    Json.eq (Json.get (reread staged.fields) key) value = true := by
  have plain := staged.plain
  cases plain with | object keys names inner =>
  rw [staged.get member]
  exact Json.eq_sorted (inner _ member)

end package

end SianoUserland.PackageManifest
