import SianoUserland.PackageManifest
import SianoUserland.ReleaseSource

/-! `scripts/package-source.py`: the source archive of a release, from the snapshot of a commit to
the reader of its manifest in `release_verify.py`. The script takes any reference that Git resolves,
and writes it down as it was given. -/
namespace SianoUserland.SourceManifest
open AuditArtifact (Digest sumsName)
open AuditManifest
open Check Text
open Checksums (Entries Name archive asPosix isNamePoint readArchive sums)
open ManifestFile
open PackageManifest (plain_fileRecords plain_strings scalar_of_ascii strings version_ascii)
open ReleaseSource (checkVersion encodeAscii parseSourceManifest sourceManifestName versionMember)

/-! ### The manifest -/

/-- What the two scripts pin. -/
def pinned : List (Str × Str) :=
  [(str "libusb_version", libusbVersion), (str "libusb_source_url", libusbSourceUrl),
    (str "libusb_source_sha256", libusbSourceSha256),
    (str "libusb_license", str "LGPL-2.1-or-later"), (str "linux_linkage", str "static"),
    (str "linux_libusb_backend", str "netlink"), (str "darwin_linkage", str "static"),
    (str "darwin_libusb_backend", str "darwin"), (str "firmware_url", firmwareUrl),
    (str "firmware_sha256", firmwareSha256), (str "firmware_license_url", firmwareLicenseUrl),
    (str "firmware_license_sha256", firmwareLicenseSha256)]

/-- What `snapshot_dependency` returns. -/
structure Dependency where
  commit : Str
  tree : Str

/-- The arguments of `main`, and what Git makes of them. -/
structure Snapshot where
  version : Str
  sourceRef : Str
  commit : Str
  tree : Str
  core : Dependency
  px4 : Dependency

/-- A dependency of a manifest. -/
def dependency (name : String) (found : Dependency) : Str × Json :=
  (str name, .object (strings [(str "commit", found.commit), (str "tree", found.tree)]))

/-- The manifest for the records of the staged files. -/
def manifest (snapshot : Snapshot) (files : Fields) : Fields :=
  [(str "schema", .int 1), (str "version", .string snapshot.version),
    (str "source_ref", .string snapshot.sourceRef),
    (str "dependencies", .object [dependency "dtv-userland-core" snapshot.core,
      dependency "px4-userland" snapshot.px4]),
    (str "resolved_commit", .string snapshot.commit), (str "tree", .string snapshot.tree)] ++
    strings pinned ++ [(str "files", .object files)]

theorem manifest_component : sourceManifestName ≠ [] ∧
    sourceManifestName.all isNamePoint = true ∧ sourceManifestName ≠ [0x2E] ∧
    sourceManifestName ≠ [0x2E, 0x2E] ∧ sourceManifestName ≠ sumsName ∧
    sourceManifestName ∈ Checksums.keepNames ∧ versionMember ∈ Checksums.keepNames := by
  decide +kernel

/-- The name of the manifest. -/
def manifestFile : Name :=
  ⟨sourceManifestName, manifest_component.1, manifest_component.2.1, manifest_component.2.2.1,
    manifest_component.2.2.2.1⟩

/-- The stage of a snapshot: the repository with the version that was asked for, and nothing in the
places of the two files that are to come. What Git and the command line give are texts. -/
structure Staged (snapshot : Snapshot) where
  entries : Entries
  distinct : entries.Distinct
  fresh : manifestFile ∉ entries.names ∧ sums ∉ entries.names
  numbered : isVersion snapshot.version = true
  released : ∃ file ∈ entries.files, asPosix file.1 = versionMember ∧
    some file.2 = encodeAscii (snapshot.version ++ [0x0A])
  texts : ∀ text ∈ [snapshot.sourceRef, snapshot.commit, snapshot.tree, snapshot.core.commit,
    snapshot.core.tree, snapshot.px4.commit, snapshot.px4.tree], ∀ point ∈ text,
    Json.Scalar point

variable (sha256 : List UInt8 → Digest)

/-- The archive of a stage: the manifest and the checksums are added. -/
def package (snapshot : Snapshot) (stage : Entries) : Except Checksums.WriteFailure Entries :=
  complete sha256 manifestFile (manifest snapshot) stage

/-! ### What is written -/

section written

variable {sha256} {snapshot : Snapshot} {payloads : Payloads} {key : Str} {value : Json}

/-- The keys of a manifest. -/
def manifestKeys : List Str :=
  ["schema", "version", "source_ref", "dependencies", "resolved_commit", "tree"].map str ++
    pinned.map Prod.fst ++ [str "files"]

theorem tables : manifestKeys.Nodup ∧ (pinned.map Prod.fst).Nodup ∧
    (∀ key ∈ manifestKeys ++ ["dtv-userland-core", "px4-userland", "commit", "tree"].map str,
      key.all (· < 0x80) = true) ∧
    (∀ pair ∈ pinned, pair.1.all (· < 0x80) = true ∧ pair.2.all (· < 0x80) = true) ∧
    str "dtv-userland-core" ≠ str "px4-userland" ∧ str "commit" ≠ str "tree" := by
  decide +kernel

theorem keys_manifest {files : Fields} :
    (manifest snapshot files).map Prod.fst = manifestKeys := by
  simp [manifest, manifestKeys, strings, Function.comp_def]

theorem manifest_nodup {files : Fields} : ((manifest snapshot files).map Prod.fst).Nodup := by
  rw [keys_manifest]
  exact tables.1

theorem plain_dependencies {core px4 : Dependency}
    (texts : ∀ text ∈ [core.commit, core.tree, px4.commit, px4.tree], ∀ point ∈ text,
      Json.Scalar point) :
    Json.Plain (.object [dependency "dtv-userland-core" core, dependency "px4-userland" px4]) := by
  obtain ⟨-, -, ascii, -, apart, fields⟩ := tables
  simp only [List.forall_mem_cons] at texts
  have key {name : Str} (member : name ∈ ["dtv-userland-core", "px4-userland", "commit",
      "tree"].map str) : ∀ point ∈ name, Json.Scalar point :=
    scalar_of_ascii (ascii name (List.mem_append_right _ member))
  have plain {found : Dependency} (commit : ∀ point ∈ found.commit, Json.Scalar point)
      (tree : ∀ point ∈ found.tree, Json.Scalar point) :
      Json.Plain (.object (strings [(str "commit", found.commit), (str "tree", found.tree)])) := by
    refine .object (by simp [strings, fields]) ?_ ?_
    · simp only [strings, List.map_cons, List.map_nil, List.forall_mem_cons]
      exact ⟨key (by simp), key (by simp), by simp⟩
    · simp only [strings, List.map_cons, List.map_nil, List.forall_mem_cons]
      exact ⟨.string commit, .string tree, by simp⟩
  refine .object (by simp [dependency, apart]) ?_ ?_
  · simp only [dependency, List.forall_mem_cons]
    exact ⟨key (by simp), key (by simp), by simp⟩
  · simp only [dependency, List.forall_mem_cons]
    exact ⟨plain texts.1 texts.2.1, plain texts.2.2.1 texts.2.2.2.1, by simp⟩

variable (staged : Staged snapshot)

/-- The fields of the manifest of a stage. -/
def Staged.fields (sha256 : List UInt8 → Digest) (staged : Staged snapshot) : Fields :=
  manifest snapshot (fileRecords sha256 staged.entries)

theorem Staged.plain : Json.Plain (.object (staged.fields sha256)) := by
  obtain ⟨-, keys, ascii, pairs, -⟩ := tables
  have texts := staged.texts
  simp only [List.forall_mem_cons] at texts
  obtain ⟨source, commit, tree, core, coreTree, px4, px4Tree, -⟩ := texts
  refine .object manifest_nodup ?_ ?_
  · intro field member
    have key : field.1 ∈ manifestKeys := by
      rw [← keys_manifest]
      exact List.mem_map_of_mem member
    exact scalar_of_ascii (ascii field.1 (List.mem_append_left _ key))
  · simp only [Staged.fields, manifest, List.forall_mem_append, List.forall_mem_cons]
    refine ⟨⟨⟨.int 1, .string (scalar_of_ascii (version_ascii staged.numbered)), .string source,
      plain_dependencies ?_, .string commit, .string tree, by simp⟩, ?_⟩,
      plain_fileRecords staged.distinct, by simp⟩
    · simp only [List.forall_mem_cons]
      exact ⟨core, coreTree, px4, px4Tree, by simp⟩
    · cases plain_strings keys pairs with | object _ _ inner => exact inner

/-- What a reader finds under a key of the manifest. -/
theorem Staged.get (member : (key, value) ∈ staged.fields sha256) :
    Json.get (reread (staged.fields sha256)) key = Json.sorted value :=
  get_reread_mem manifest_nodup member

theorem Staged.get_string {text : Str} (member : (key, .string text) ∈ staged.fields sha256) :
    Json.get (reread (staged.fields sha256)) key = .string text :=
  staged.get member

/-- The identity of the manifest, as a reader asks for it. -/
theorem Staged.identity_iff {version commit tree : Str} :
    (Json.eq (Json.get (reread (staged.fields sha256)) (str "version")) (.string version) &&
      Json.eq (Json.get (reread (staged.fields sha256)) (str "source_ref")) (.string commit) &&
      Json.eq (Json.get (reread (staged.fields sha256)) (str "resolved_commit"))
        (.string commit) &&
      Json.eq (Json.get (reread (staged.fields sha256)) (str "tree")) (.string tree)) = true ↔
      version = snapshot.version ∧ snapshot.sourceRef = commit ∧ snapshot.commit = commit ∧
        snapshot.tree = tree := by
  have numbered : (str "version", Json.string snapshot.version) ∈ staged.fields sha256 := by
    simp [Staged.fields, manifest]
  have source : (str "source_ref", Json.string snapshot.sourceRef) ∈ staged.fields sha256 := by
    simp [Staged.fields, manifest]
  have resolved : (str "resolved_commit", Json.string snapshot.commit) ∈
      staged.fields sha256 := by simp [Staged.fields, manifest]
  have rooted : (str "tree", Json.string snapshot.tree) ∈ staged.fields sha256 := by
    simp [Staged.fields, manifest]
  rw [staged.get_string numbered, staged.get_string source, staged.get_string resolved,
    staged.get_string rooted]
  simp only [Json.eq, Json.eqScalar, Bool.and_eq_true, decide_eq_true_eq, and_assoc,
    @eq_comm _ version]

/-- **The manifest of a source archive is accepted for exactly one release.** The reader asks for
the version and for a commit and its tree, and takes the manifest when the reference that the script
was given is that commit in full: a branch, a tag or a short name of it is written down as such. The
names in the repository are made of ASCII letters and digits, `_`, `.` and `-`. -/
theorem source_accepted_iff (staged : Staged snapshot) :
    ∃ after, package sha256 snapshot staged.entries = .ok after ∧
      ∀ modes archiveName version commit tree,
        (∃ fields, parseSourceManifest (readArchive sha256 modes (archive after)) archiveName
          version commit tree = .ok fields) ↔
        version = snapshot.version ∧ snapshot.sourceRef = commit ∧ snapshot.commit = commit ∧
          snapshot.tree = tree := by
  obtain ⟨-, -, -, -, differ, kept, versionKept⟩ := manifest_component
  have other : manifestFile ≠ sums := fun same => differ (congrArg Subtype.val same)
  obtain ⟨after, done, completed⟩ := complete_ok staged.distinct staged.fresh.1 staged.fresh.2
    other staged.plain
  refine ⟨after, done, fun modes archiveName version commit tree => ?_⟩
  obtain ⟨data, found, decoded⟩ := completed.manifest
  obtain ⟨parsed, canonical⟩ := parse_reread staged.plain decoded sourceManifestName
  obtain ⟨member, present, held, -⟩ := lookup_kept sha256 modes kept found
  have files : (str "files", Json.object (fileRecords sha256 staged.entries)) ∈
      staged.fields sha256 := by simp [Staged.fields, manifest]
  have listed : Json.get (reread (staged.fields sha256)) (str "files") =
      .object (reread (fileRecords sha256 staged.entries)) := staged.get files
  obtain ⟨file, inside, place, released⟩ := staged.released
  have there := completed.kept file inside
  rw [place] at there
  obtain ⟨versionFile, shown, content, -⟩ := lookup_kept sha256 modes versionKept there
  unfold parseSourceManifest
  rw [present, Option.bind_some, held]
  constructor
  · rintro ⟨fields, accepted⟩
    obtain ⟨read, again, accepted⟩ := bind_eq_ok_iff.mp accepted
    rw [parsed, Except.ok.injEq] at again
    subst again
    obtain ⟨-, accepted⟩ := require_bind_eq_ok_iff.mp accepted
    obtain ⟨identity, -⟩ := require_bind_eq_ok_iff.mp accepted
    exact staged.identity_iff.mp identity
  · intro same
    refine ⟨reread (staged.fields sha256), ?_⟩
    refine (bind_of_ok parsed).trans ?_
    refine (bind_of_ok (require_of_true canonical)).trans ?_
    refine (bind_of_ok (require_of_true (staged.identity_iff.mpr same))).trans ?_
    rw [listed]
    refine (bind_of_ok (require_of_true ?_)).trans ?_
    · rw [ChecksumAgreement.names_readArchive]
      exact completed.inventory staged.fresh.1 staged.fresh.2
    refine (bind_of_ok (show _ = Except.ok () from checkEach_eq_ok_iff.mpr ?_)).trans ?_
    · exact fun field member => completed.record_matches staged.distinct modes _ member
    refine (bind_of_ok (show checkVersion _ version = .ok () from ?_)).trans rfl
    rw [same.1, checkVersion, shown]
    dsimp only
    rw [← released, content]
    exact require_of_true (by simp)

end written

/-! ### A commit and a tag of it -/

section reference

def referenceId : Str := str "0123456789012345678901234567890123456789"

/-- The reference that a snapshot was asked for: the commit itself or a tag. -/
inductive Asked
  | commit
  | tag

def Asked.text : Asked → Str
  | .commit => referenceId
  | .tag => str "v1.0.0"

/-- A snapshot of one commit. -/
def referenceSnapshot (asked : Asked) : Snapshot where
  version := str "1.0.0"
  sourceRef := asked.text
  commit := referenceId
  tree := referenceId
  core := ⟨referenceId, referenceId⟩
  px4 := ⟨referenceId, referenceId⟩

/-- A repository with nothing but its version. -/
def referenceStage : Entries :=
  .cons ChecksumAgreement.repositoryName (.directory (.cons ChecksumAgreement.versionName
    (.file [0x31, 0x2E, 0x30, 0x2E, 0x30, 0x0A]) .nil)) .nil

theorem referenceStage_tables : (manifestFile ∉ referenceStage.names ∧
      sums ∉ referenceStage.names) ∧ isVersion (str "1.0.0") = true ∧
    (∃ file ∈ referenceStage.files, asPosix file.1 = versionMember ∧
      some file.2 = encodeAscii (str "1.0.0" ++ [0x0A])) ∧
    (str "v1.0.0").all (· < 0x80) = true ∧ referenceId.all (· < 0x80) = true ∧
    str "v1.0.0" ≠ referenceId := by
  decide +kernel

theorem referenceStage_distinct : referenceStage.Distinct :=
  ⟨List.not_mem_nil, ⟨List.not_mem_nil, trivial, trivial⟩, trivial⟩

theorem referenceSnapshot_numbered (asked : Asked) :
    isVersion (referenceSnapshot asked).version = true := referenceStage_tables.2.1

theorem referenceSnapshot_texts (asked : Asked) : ∀ text ∈ [(referenceSnapshot asked).sourceRef,
    (referenceSnapshot asked).commit, (referenceSnapshot asked).tree,
    (referenceSnapshot asked).core.commit, (referenceSnapshot asked).core.tree,
    (referenceSnapshot asked).px4.commit, (referenceSnapshot asked).px4.tree], ∀ point ∈ text,
    Json.Scalar point := by
  obtain ⟨-, -, -, tag, commit, -⟩ := referenceStage_tables
  have text := scalar_of_ascii commit
  have given : ∀ point ∈ asked.text, Json.Scalar point := by
    cases asked with
    | commit => exact text
    | tag => exact scalar_of_ascii tag
  simp only [List.forall_mem_cons]
  exact ⟨given, text, text, text, text, text, text, by simp⟩

def referenceStaged (asked : Asked) : Staged (referenceSnapshot asked) where
  entries := referenceStage
  distinct := referenceStage_distinct
  fresh := referenceStage_tables.1
  numbered := referenceSnapshot_numbered asked
  released := referenceStage_tables.2.2.1
  texts := referenceSnapshot_texts asked

/-- The archive that was asked for by the commit is accepted as that commit's, the one that was
asked for by a tag of the same commit is not. -/
theorem commit_accepted_tag_refused (sha256 : List UInt8 → Digest) (asked : Asked) : ∃ after,
    package sha256 (referenceSnapshot asked) referenceStage = .ok after ∧
    ((∃ fields, parseSourceManifest (readArchive sha256 (fun _ => 0o644) (archive after))
      (str "siano-ts-1.0.0-source.tar.gz") (str "1.0.0") referenceId referenceId = .ok fields) ↔
      asked = .commit) := by
  obtain ⟨after, done, accepted⟩ := @source_accepted_iff sha256 _ (referenceStaged asked)
  refine ⟨after, done, (accepted _ _ _ _ _).trans ?_⟩
  cases asked with
  | commit => exact ⟨fun _ => rfl, fun _ => ⟨rfl, rfl, rfl, rfl⟩⟩
  | tag =>
    constructor
    · rintro ⟨-, same, -⟩
      exact absurd same referenceStage_tables.2.2.2.2.2
    · intro impossible
      cases impossible

end reference

end SianoUserland.SourceManifest
