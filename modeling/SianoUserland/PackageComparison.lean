import SianoUserland.PackageManifest

/-! What `release_verify.py` finds in a package. Its list of the evidence begins with the one of
`siano-ts`, and the programs of a manifest with `sianod`. -/
namespace SianoUserland.PackageManifest
open AuditArtifact (Digest isHex)
open AuditManifest
open Check Text
open Checksums (Entries Name Node archive asPosix isNamePoint readArchive sums)
open ManifestFile
open ReleaseVerify (canonicalJsonFile parseBinaryManifest versionOf)

section comparison

variable {platform : Platform} {version sourceRef : Str} {sha256 : List UInt8 → Digest}
  {payloads : Payloads} {name key : Str} {value : Json} {data : List UInt8}
  (staged : Staged sha256 platform version sourceRef)

/-- Evidence in the encoding that `release_verify.py` insists on. -/
def CanonicalEvidence (data : List UInt8) : Prop :=
  ∃ fields, ReleaseVerify.parseJson data [] = .ok fields ∧ canonicalJsonFile data fields = true

/-- Evidence in that encoding is read the same way by the packager. -/
theorem evidence_reads {path : Str} {value : Json} (label : Str)
    (read : parseJson data path = .ok value) (canonical : CanonicalEvidence data) :
    ∃ fields, value = .object fields ∧
      ReleaseVerify.parseJson data label = .ok fields ∧ canonicalJsonFile data fields = true := by
  obtain ⟨fields, parsed, file⟩ := canonical
  obtain ⟨text, decoded, loaded⟩ := ReleaseManifest.parseJson_ok_iff.mp parsed
  obtain ⟨ending, rfl⟩ := canonical_decodes file decoded
  obtain ⟨again, passed, other⟩ := parseJson_ok_iff.mp read
  rw [decodeBytes_dumps decoded] at passed
  cases passed
  rw [loaded] at other
  cases other
  exact ⟨fields, rfl, ReleaseManifest.parseJson_ok_iff.mpr ⟨_, decoded, loaded⟩, file⟩

/-- The evidence of a program is accepted when it is compared with the right program. -/
theorem Staged.evidence (packed : staged.Packed payloads) {binary : Str}
    (program : binary ∈ programNames platform) : ∃ built evidence,
      payloads.lookup binary = some built ∧
      payloads.lookup (binaryEvidenceName binary) = some evidence ∧
      (CanonicalEvidence evidence → ∀ label, ∃ fields,
        ReleaseVerify.parseJson evidence label = .ok fields ∧
        canonicalJsonFile evidence fields = true ∧
        Json.eq (.object fields) (.object (expectedEvidence sha256 (.string platform.name)
          (.string sourceRef) binary built)) = true) := by
  obtain ⟨_, _, path, first, second, checked⟩ := staged.bound binary program
  obtain ⟨file, inside, place, rfl⟩ := mem_staged staged first
  obtain ⟨other, beside, here, rfl⟩ := mem_staged staged second
  obtain ⟨value, read, checked⟩ := bind_eq_ok_iff.mp checked
  refine ⟨file.2, other.2, ?_, ?_, ?_⟩
  · rw [← place]
    exact packed.kept file inside
  · rw [← here]
    exact packed.kept other beside
  · intro canonical label
    obtain ⟨fields, rfl, parsed, canon⟩ := evidence_reads label read canonical
    exact ⟨fields, parsed, canon, require_eq_ok_iff.mp checked⟩

theorem evidence_nodup {platform sourceRef : Json} {binary : Str} :
    ((expectedEvidence sha256 platform sourceRef binary data).map Prod.fst).Nodup := by
  obtain ⟨-, -, keys, -⟩ := fixed_texts
  simp only [expectedEvidence, List.map_cons, List.map_nil]
  exact keys

theorem binary_nodup {name digest : Json} :
    (([(str "name", name), (str "sha256", digest)] : Fields).map Prod.fst).Nodup := by
  obtain ⟨-, -, -, keys⟩ := fixed_texts
  simp only [List.map_cons, List.map_nil]
  exact keys

/-- Evidence in the canonical encoding is of its own program, and of no other. -/
theorem Staged.evidence_checked (packed : staged.Packed payloads) (modes : Str → Nat)
    {binary other : Str} (program : binary ∈ programNames platform)
    (kept : binaryEvidenceName binary ∈ Checksums.keepNames)
    (canonical : ∀ evidence, payloads.lookup (binaryEvidenceName binary) = some evidence →
      CanonicalEvidence evidence) (differ : binary ≠ other) :
    ReleaseVerify.checkEvidence (readArchive sha256 modes payloads) platform.name sourceRef
      (binaryEvidenceName binary) other =
        .error (.verification (str "binary evidence mismatch: " ++ binaryEvidenceName binary)) := by
  obtain ⟨built, evidence, _, found, read⟩ := staged.evidence packed program
  obtain ⟨fields, parsed, file, same⟩ :=
    read (canonical evidence found) (binaryEvidenceName binary)
  obtain ⟨member, listed, held, -⟩ := lookup_kept sha256 modes kept found
  have distinct := Json.object_keys (ReleaseManifest.parseJson_distinct parsed)
  obtain ⟨names, values⟩ := eq_object_fields distinct evidence_nodup same
  simp only [expectedEvidence, List.forall_mem_cons] at values
  obtain ⟨schema, named, source, about, -⟩ := values
  obtain ⟨inner, shape⟩ := eq_object_left about
  rw [shape] at about
  have inside := Json.distinct_get (ReleaseManifest.parseJson_distinct parsed) (str "binary")
  rw [shape] at inside
  obtain ⟨entries, bound⟩ := eq_object_fields (Json.object_keys inside) binary_nodup about
  simp only [List.forall_mem_cons] at bound
  have mine := Json.eq_string bound.1
  have identity : (sameSet (fields.map Prod.fst)
      [str "schema", str "platform", str "source_ref", str "binary"] &&
      Json.eq (Json.get fields (str "schema")) (.int 2) &&
      Json.eq (Json.get fields (str "platform")) (.string platform.name) &&
      Json.eq (Json.get fields (str "source_ref")) (.string sourceRef)) = true := by
    simp only [Bool.and_eq_true]
    exact ⟨⟨⟨names, schema⟩, named⟩, source⟩
  unfold ReleaseVerify.checkEvidence
  refine (bind_of_ok (ReleaseManifest.item_ok_iff.mpr listed)).trans ?_
  simp only [held]
  refine (bind_of_ok parsed).trans ?_
  refine (bind_of_ok (require_of_true file)).trans ?_
  refine (bind_of_ok (require_of_true identity)).trans ?_
  simp only [shape]
  have wrong : Json.eq (.string binary) (.string other) = false := by
    simp [Json.eq, Json.eqScalar, differ]
  rw [mine, wrong, Bool.and_false]
  rfl

/-- The first name of `EVIDENCE`. -/
def firstEvidence : Str := str "evidence/binary-audit.json"

/-- What the reader of `release_verify.py` looks up in its own tables. The evidence of `siano-ts` is
the first one of its list, and `siano-ts` is the last program of the manifest. -/
theorem reader_tables (platform : Platform) :
    ReleaseVerify.programsOf platform.name = programNames platform ∧
    (∀ name ∈ ReleaseVerify.evidenceNames, name ∈ stagedNames platform) ∧
    manifestName ∈ Checksums.keepNames ∧ firstEvidence ∈ Checksums.keepNames ∧
    ∃ binary ∈ programNames platform, binaryEvidenceName binary = firstEvidence ∧
      (ReleaseVerify.evidenceNames.zip (programNames platform)).head?.any (fun pair =>
        pair.1 = firstEvidence && pair.2 ≠ binary) = true := by
  revert platform
  decide +kernel

/-- All of the checks before the evidence pass. -/
theorem Staged.parsed (packed : staged.Packed payloads) (modes : Str → Nat) :
    parseBinaryManifest (readArchive sha256 modes payloads) (archiveName version platform)
      sourceRef =
      (checkEach (fun pair => ReleaseVerify.checkEvidence (readArchive sha256 modes payloads)
          platform.name sourceRef pair.1 pair.2)
        (ReleaseVerify.evidenceNames.zip (programNames platform)) >>=
          fun _ => .ok (reread staged.fields)) := by
  obtain ⟨programs, listed, kept, -⟩ := reader_tables platform
  obtain ⟨data, found, parsed, file, -⟩ := staged.reads packed
  obtain ⟨member, present, held, -⟩ := lookup_kept sha256 modes kept found
  have schema : (str "schema", Json.int 1) ∈ staged.fields := by simp [Staged.fields, manifest]
  have named : (str "platform", Json.string platform.name) ∈ staged.fields := by
    simp [Staged.fields, manifest]
  have numbered : (str "version", Json.string version) ∈ staged.fields := by
    simp [Staged.fields, manifest]
  have source : (str "source_ref", Json.string sourceRef) ∈ staged.fields := by
    simp [Staged.fields, manifest]
  have built : (str "programs", Json.array ((programNames platform).map .string)) ∈
      staged.fields := by simp [Staged.fields, manifest]
  have files : (str "files", Json.object (fileRecords sha256 staged.entries)) ∈
      staged.fields := by simp [Staged.fields, manifest]
  have inventory : Json.get (reread staged.fields) (str "files") =
      .object (reread (fileRecords sha256 staged.entries)) := staged.get files
  have identity : ((versionOf (archiveName version platform)).any (fun version =>
        Json.eq (Json.get (reread staged.fields) (str "schema")) (.int 1) &&
        Json.eq (Json.get (reread staged.fields) (str "version")) (.string version)) &&
      Json.eq (Json.get (reread staged.fields) (str "platform")) (.string platform.name) &&
      Json.eq (Json.get (reread staged.fields) (str "source_ref")) (.string sourceRef)) =
        true := by
    rw [versionOf_archiveName staged.numbered, Option.any_some, staged.eq_get schema,
      staged.eq_get numbered, staged.eq_get named, staged.eq_get source]
    rfl
  unfold parseBinaryManifest
  rw [show (readArchive sha256 modes payloads).lookup ReleaseVerify.manifestName = some member
    from present, Option.bind_some, held]
  refine (bind_of_ok parsed).trans ?_
  refine (bind_of_ok (require_of_true file)).trans ?_
  rw [platformOf_archiveName staged.numbered]
  refine (bind_of_ok (require_of_true identity)).trans ?_
  rw [programs]
  refine (bind_of_ok (require_of_true (staged.eq_get built))).trans ?_
  rw [inventory]
  refine (bind_of_ok (require_of_true ?_)).trans ?_
  · rw [ChecksumAgreement.names_readArchive]
    exact packed.inventory staged.fresh.1 staged.fresh.2
  refine (bind_of_ok (show _ = Except.ok () from checkEach_eq_ok_iff.mpr ?_)).trans ?_
  · exact fun field member => packed.record_matches staged.distinct modes _ member
  refine (bind_of_ok (require_of_true ?_)).trans rfl
  rw [List.all_eq_true]
  intro name member
  rw [decide_eq_true_eq, ChecksumAgreement.names_readArchive, staged.names_iff packed]
  exact List.mem_cons_of_mem _ (List.mem_cons_of_mem _ (listed name member))

/-- Evidence that passes is in the canonical encoding. -/
theorem canonical_of_checked {modes : Str → Nat} {platform sourceSha program : Str}
    (kept : name ∈ Checksums.keepNames) (found : payloads.lookup name = some data)
    (checked : ReleaseVerify.checkEvidence (readArchive sha256 modes payloads) platform sourceSha
      name program = .ok ()) : CanonicalEvidence data := by
  obtain ⟨member, listed, held, -⟩ := lookup_kept sha256 modes kept found
  obtain ⟨same, item, checked⟩ := bind_eq_ok_iff.mp checked
  cases listed.symm.trans (ReleaseManifest.item_ok_iff.mp item)
  simp only [held] at checked
  obtain ⟨fields, parsed, checked⟩ := bind_eq_ok_iff.mp checked
  obtain ⟨file, -⟩ := require_bind_eq_ok_iff.mp checked
  exact ⟨fields, ReleaseManifest.parseJson_ok_iff.mpr (ReleaseManifest.parseJson_ok_iff.mp parsed),
    file⟩

/-- **No package is accepted by the comparison of releases.** It pairs the list of the evidence with
the programs of the manifest, and the two are in different orders: the evidence of `siano-ts` is
compared with `sianod`. Everything before that passes. -/
theorem package_refused (staged : Staged sha256 platform version sourceRef) :
    ∃ after, package sha256 platform version sourceRef staged.entries = .ok after ∧ ∀ modes,
      (∀ fields, parseBinaryManifest (readArchive sha256 modes (archive after))
        (archiveName version platform) sourceRef ≠ .ok fields) ∧
      ((∀ evidence, (firstEvidence, evidence) ∈ archive staged.entries →
          CanonicalEvidence evidence) →
        parseBinaryManifest (readArchive sha256 modes (archive after))
          (archiveName version platform) sourceRef =
            .error (.verification (str "binary evidence mismatch: " ++ firstEvidence))) := by
  obtain ⟨after, done, packed, -⟩ := staged.packed
  refine ⟨after, done, fun modes => ?_⟩
  obtain ⟨-, -, -, kept, binary, program, named, paired⟩ := reader_tables platform
  obtain ⟨pair, rest, zipped, first, differ⟩ : ∃ pair rest,
      ReleaseVerify.evidenceNames.zip (programNames platform) = pair :: rest ∧
        pair.1 = firstEvidence ∧ binary ≠ pair.2 := by
    cases zipped : ReleaseVerify.evidenceNames.zip (programNames platform) with
    | nil =>
      rw [zipped] at paired
      cases paired
    | cons pair rest =>
      rw [zipped, List.head?_cons, Option.any_some, Bool.and_eq_true, decide_eq_true_eq,
        decide_eq_true_eq] at paired
      exact ⟨pair, rest, rfl, paired.1, paired.2.symm⟩
  have refused (canonical : ∀ evidence, (archive after).lookup firstEvidence = some evidence →
      CanonicalEvidence evidence) : parseBinaryManifest (readArchive sha256 modes (archive after))
        (archiveName version platform) sourceRef =
          .error (.verification (str "binary evidence mismatch: " ++ firstEvidence)) := by
    rw [← named] at kept canonical
    have mismatch := staged.evidence_checked packed modes program kept canonical differ
    rw [staged.parsed packed modes, zipped, checkEach, first, ← named, mismatch]
    rfl
  refine ⟨?_, ?_⟩
  · intro fields accepted
    have refusal := refused fun evidence found => by
      rw [staged.parsed packed modes, zipped] at accepted
      obtain ⟨_, passed, -⟩ := bind_eq_ok_iff.mp accepted
      have checked := checkEach_eq_ok_iff.mp passed pair List.mem_cons_self
      rw [first] at checked
      exact canonical_of_checked kept found checked
    rw [refusal] at accepted
    cases accepted
  · intro canonical
    refine refused fun evidence found => canonical evidence ?_
    obtain ⟨_, other, _, -, beside, -⟩ := staged.bound binary program
    rw [named] at beside
    obtain ⟨file, inside, place, rfl⟩ := mem_staged staged beside
    have there := packed.kept file inside
    rw [place, found] at there
    cases there
    exact beside

end comparison

/-! ### The evidence of a build -/

section evidence

variable {platform : Platform} {sourceRef binary : Str} {program data : List UInt8}
  (sha256 : List UInt8 → Digest)

/-- The file that `audit_binary` leaves beside a program. -/
def auditBinary (platform : Platform) (sourceRef binary : Str) (program : List UInt8) :
    Option (List UInt8) :=
  encode (Json.dumps (.object (expectedEvidence sha256 (.string platform.name)
    (.string sourceRef) binary program)) ++ [0x0A])

theorem plain_evidence (canonical : isSourceRef sourceRef = true)
    (listed : binary ∈ programNames platform) : Json.Plain (.object (expectedEvidence sha256
      (.string platform.name) (.string sourceRef) binary program)) := by
  obtain ⟨-, keys, -⟩ := fixed_texts
  obtain ⟨-, texts, -⟩ := manifest_tables platform
  have key {name : Str} (member : name ∈ ["size", "sha256", "schema", "platform", "source_ref",
      "binary", "name"].map str) : ∀ point ∈ name, Json.Scalar point :=
    scalar_of_ascii (keys name member)
  refine .object evidence_nodup ?_ ?_
  · simp only [expectedEvidence, List.forall_mem_cons]
    exact ⟨key (by simp), key (by simp), key (by simp), key (by simp), by simp⟩
  · simp only [expectedEvidence, List.forall_mem_cons]
    refine ⟨.int 2, .string (scalar_of_ascii (texts _ (by simp))),
      .string (scalar_of_ascii (sourceRef_ascii canonical)), .object binary_nodup ?_ ?_, by simp⟩
    · simp only [List.forall_mem_cons]
      exact ⟨key (by simp), key (by simp), by simp⟩
    · simp only [List.forall_mem_cons]
      exact ⟨.string (scalar_of_ascii (texts _ (by simp [listed]))),
        .string (scalar_of_ascii (hex_ascii (sha256 program).property.2)), by simp⟩

/-- What `audit_binary` leaves is bound to the program, and in the canonical encoding. -/
theorem auditBinary_bound (canonical : isSourceRef sourceRef = true)
    (listed : binary ∈ programNames platform) : ∃ evidence,
      auditBinary sha256 platform sourceRef binary program = some evidence ∧
      (∀ path, checkBuildEvidence sha256 platform sourceRef path binary program evidence =
        .ok ()) ∧ CanonicalEvidence evidence := by
  have plain : Json.Plain (.object (expectedEvidence sha256 (.string platform.name)
      (.string sourceRef) binary program)) := plain_evidence sha256 canonical listed
  have newline : ∀ point ∈ ([0x0A] : Str), point < 0x80 := by decide
  obtain ⟨data, encoded, decoded⟩ := encode_object plain newline
  refine ⟨data, encoded, fun path => ?_, _, parse_reread plain decoded []⟩
  refine bind_eq_ok_iff.mpr ⟨_, audit_reread plain decoded path, require_eq_ok_iff.mpr ?_⟩
  exact Json.eq_sorted plain

end evidence

/-! ### A package -/

section reference

mutual

/-- Whether no directory has two entries of one name. -/
def decideNode : (node : Node) → Decidable node.Distinct
  | .file _ => .isTrue trivial
  | .directory entries => decideEntries entries

def decideEntries : (entries : Entries) → Decidable entries.Distinct
  | .nil => .isTrue trivial
  | .cons name node rest =>
    @instDecidableAnd _ _ (inferInstanceAs (Decidable (name ∉ rest.names)))
      (@instDecidableAnd _ _ (decideNode node) (decideEntries rest))

end

instance (entries : Entries) : Decidable entries.Distinct := decideEntries entries

/-- A component of a path. -/
def component (text : String) : Name :=
  if valid : str text ≠ [] ∧ (str text).all isNamePoint = true ∧ str text ≠ [0x2E] ∧
      str text ≠ [0x2E, 0x2E] then ⟨str text, valid⟩
  else sums

/-- Files of one directory. -/
def directory (files : List (String × List UInt8)) (rest : Entries) : Entries :=
  files.foldr (fun file rest => .cons (component file.1) (.file file.2) rest) rest

theorem noDigest_hex : (List.replicate 64 0x30).length = 64 ∧
    (List.replicate 64 0x30).all isHex = true := by
  decide +kernel

/-- The digest in a table, and zeros for what is not in it. -/
def digestIn (table : List (List UInt8 × String)) (data : List UInt8) : Digest :=
  let text := str ((table.lookup data).getD "")
  if valid : text.length = 64 ∧ text.all isHex = true then ⟨text, valid⟩ else ⟨_, noDigest_hex⟩

/-- The contents of a file that only holds its own name. -/
def contents (name : String) : List UInt8 := (str name ++ [0x0A]).map UInt8.ofNat

def referenceRef : Str := str "0123456789012345678901234567890123456789"

/-- The evidence of a program of macOS. -/
def evidenceOf (sha256 : List UInt8 → Digest) (binary : String) : List UInt8 :=
  (auditBinary sha256 .darwinArm64 referenceRef (str binary) (contents binary)).getD []

/-- Files that hold their own names. -/
def selfNamed (names : List String) (rest : Entries) : Entries :=
  directory (names.map fun name => (name, contents name)) rest

/-- The stage of a package of macOS. -/
def stageOf (sha256 : List UInt8 → Digest) : Entries :=
  selfNamed ["COPYING", "LICENCE.siano", "README.md", "REBUILD.md", "sianod", "sianoctl",
      "siano-ts", "DEPENDENCY-NOTICE.txt"]
    (.cons (component "evidence") (.directory (directory
      [("sianod-binary-audit.json", evidenceOf sha256 "sianod"),
        ("sianoctl-binary-audit.json", evidenceOf sha256 "sianoctl"),
        ("binary-audit.json", evidenceOf sha256 "siano-ts")] (selfNamed ["build.properties"] .nil)))
    (.cons (component "firmware") (.directory (selfNamed ["isdbt_rio.inp"] .nil))
    (.cons (component "libusb") (.directory (selfNamed ["COPYING"] .nil)) .nil)))

/-- SHA-256 of the files that hold their own names. -/
def contentTable : List (List UInt8 × String) :=
  [("COPYING", "7f2b698f36a270e660f857fbd2ade25d640d4e371507530876cf5e251549fdc9"),
    ("LICENCE.siano", "e3d3332d89141cee7611648ddd5af58316ea4b00b368222f7c7d748476d3dbbb"),
    ("README.md", "d0919d5bb7576d4b1a495856f1e561985d1063a8e22c74dfb90a5267c165331d"),
    ("REBUILD.md", "cc30604f36053852fe5bd917f292f037f4aa1c3bfc32de0bd0dba9e97f1a135d"),
    ("sianod", "f04602ce76af7dfc7f5edd37a418fcea2b649ff86254ad95523099a7a7546cc4"),
    ("sianoctl", "46f385454ac25c0076f0671087218a338211f4c957fc7fd4b7c9bec749bb99a1"),
    ("siano-ts", "9bbe05bc51a1f91e64f4bd491a987358e1ad6a4887813b10342ac9a8d43531f4"),
    ("DEPENDENCY-NOTICE.txt", "77f3716130c454982f58c04976b3ebd7966cdbf3f2e4fea56bf29d9e2116dfe5"),
    ("build.properties", "4459a9cbf67b9314b56fb08bf331b60a4534dcd7d23124c2b788b37a43aeac29"),
    ("isdbt_rio.inp", "ac2e5dc7940eb6dad3673f3a39ab24169421ae49dc07ec1b1b60589fe079dc2a")].map
      fun entry => (contents entry.1, entry.2)

/-- SHA-256 of the evidence too. -/
def evidenceTable : List (List UInt8 × String) :=
  contentTable ++ [("sianod", "59a958c7c7ece9434e391953d0c89e543388fc602a90a3e85fee5a74f2fbfb54"),
    ("sianoctl", "39dabb2cdb79992e6547f4c8feec042d0eb4d23a9a175297d1052b38a89bdf43"),
    ("siano-ts", "ac149b14a6c8f24de4d578c0b457eecb7bb911995dcbc405c1effa2030bd8c2e")].map
      fun entry => (evidenceOf (digestIn contentTable) entry.1, entry.2)

/-- SHA-256 of the manifest too. -/
def packageTable : List (List UInt8 × String) :=
  let files := fileRecords (digestIn evidenceTable) (stageOf (digestIn contentTable))
  let written := manifest .darwinArm64 (str "1.0.0") referenceRef files
  evidenceTable ++ [((encode (Json.dumps (.object written) ++ [0x0A])).getD [],
    "f79f1fa23220a3c2f9bc0eed3136fc7c9e3a411d21192c619070d521797d513c")]

/-- SHA-256, as far as a package of macOS needs it. -/
def referenceSha256 : List UInt8 → Digest := digestIn packageTable

def referenceEvidence (binary : String) : List UInt8 := evidenceOf referenceSha256 binary

def referenceStage : Entries := stageOf referenceSha256

/-- The stage is one of macOS: its names are those of the platform, and the programs and their
evidence are staged. -/
theorem referenceStage_tables : (referenceStage.Distinct ∧
      sameSet (referenceStage.files.map fun file => asPosix file.1)
        (stagedNames .darwinArm64) = true ∧
      manifestFile ∉ referenceStage.names ∧ sums ∉ referenceStage.names) ∧
    (isSourceRef referenceRef = true ∧ isVersion (str "1.0.0") = true) ∧
    programNames .darwinArm64 = ["sianod", "sianoctl", "siano-ts"].map str ∧
    binaryEvidenceName (str "siano-ts") = firstEvidence ∧
    ∀ text ∈ ["sianod", "sianoctl", "siano-ts"],
      (∃ file ∈ referenceStage.files, asPosix file.1 = str text ∧ file.2 = contents text) ∧
      ∃ file ∈ referenceStage.files, asPosix file.1 = binaryEvidenceName (str text) ∧
        file.2 = referenceEvidence text := by
  decide +kernel

theorem referenceEvidence_bound {text : String} (listed : str text ∈ programNames .darwinArm64) :
    (∀ path, checkBuildEvidence referenceSha256 .darwinArm64 referenceRef path (str text)
      (contents text) (referenceEvidence text) = .ok ()) ∧
    CanonicalEvidence (referenceEvidence text) := by
  obtain ⟨evidence, written, bound, canonical⟩ :=
    @auditBinary_bound _ _ _ (contents text) referenceSha256 referenceStage_tables.2.1.1 listed
  rw [referenceEvidence, evidenceOf, written]
  exact ⟨bound, canonical⟩

def referenceStaged : Staged referenceSha256 .darwinArm64 (str "1.0.0") referenceRef where
  entries := referenceStage
  distinct := referenceStage_tables.1.1
  names := fun name => by
    rw [← sameSet_iff.mp referenceStage_tables.1.2.1 name, List.mem_map]
  fresh := referenceStage_tables.1.2.2
  numbered := referenceStage_tables.2.1.2
  canonical := referenceStage_tables.2.1.1
  bound := fun binary program => by
    obtain ⟨-, -, programs, -, files⟩ := referenceStage_tables
    have listed := program
    rw [programs] at listed
    obtain ⟨text, inside, rfl⟩ := List.mem_map.mp listed
    obtain ⟨first, second⟩ := files text inside
    exact ⟨contents text, referenceEvidence text, [], ChecksumAgreement.mem_archive.mpr first,
      ChecksumAgreement.mem_archive.mpr second, (referenceEvidence_bound program).1 []⟩

/-- A package of macOS with the evidence that `audit_binary` leaves is refused for its pairing. -/
theorem reference_package_refused : ∃ after,
    package referenceSha256 .darwinArm64 (str "1.0.0") referenceRef referenceStage = .ok after ∧
    parseBinaryManifest (readArchive referenceSha256 (fun _ => 0o644) (archive after))
      (archiveName (str "1.0.0") .darwinArm64) referenceRef =
        .error (.verification (str "binary evidence mismatch: " ++ firstEvidence)) := by
  obtain ⟨after, done, refused⟩ := package_refused referenceStaged
  refine ⟨after, done, (refused _).2 ?_⟩
  intro evidence member
  obtain ⟨⟨distinct, -⟩, -, programs, named, files⟩ := referenceStage_tables
  have text : "siano-ts" ∈ ["sianod", "sianoctl", "siano-ts"] := by simp
  have listed : str "siano-ts" ∈ programNames .darwinArm64 := by
    rw [programs]
    exact List.mem_map_of_mem text
  obtain ⟨file, inside, place, held⟩ := (files "siano-ts" text).2
  obtain ⟨other, beside, here, rfl⟩ := ChecksumAgreement.mem_archive.mp member
  have path : asPosix other.1 = asPosix file.1 := by rw [here, place, named]
  have same := Checksums.asPosix_inj (Checksums.path_ne_nil beside)
    (Checksums.path_ne_nil inside) path
  rw [Checksums.file_ext distinct beside inside same, held]
  exact (referenceEvidence_bound listed).2

end reference

end SianoUserland.PackageManifest
