import SianoUserland.PackageComparison

/-! What `audit-artifact.py` finds in a package. -/
namespace SianoUserland.PackageManifest
open AuditArtifact (Digest Failure verifyChecksums)
open AuditManifest
open Check Text
open Checksums (archive asPosix)
open ManifestFile

section audit

variable {platform : Platform} {version sourceRef : Str} {sha256 : List UInt8 → Digest}
  {payloads : Payloads} {name key : Str} {value : Json} {data : List UInt8}
  (staged : Staged sha256 platform version sourceRef)

theorem Staged.entries_checked (message : String) :
    checkEntries (reread staged.fields) message (expectedMetadata platform) = .ok () := by
  refine checkEach_eq_ok_iff.mpr fun pair member => require_eq_ok_iff.mpr ?_
  have inside : (pair.1, Json.string pair.2) ∈ staged.fields := by
    obtain ⟨-, -, -, -, tables⟩ := name_tables platform
    have listed := tables pair member
    simp only [Staged.fields, manifest, strings, List.mem_append, List.mem_map]
    exact Or.inl (Or.inr ⟨pair, listed, rfl⟩)
  rw [staged.get_string inside]
  simp [Json.eq, Json.eqScalar]

theorem Staged.records_checked (packed : staged.Packed payloads)
    (listed : name ∈ stagedNames platform) :
    checkRecord sha256 payloads (reread (fileRecords sha256 staged.entries)) name = .ok () := by
  obtain ⟨data, found, recorded⟩ := staged.member packed listed
  have size (length : Nat) : sizeValue (.int length) = some length := rfl
  simp only [checkRecord, recorded, get_record, size, record_fields, found]
  rw [require_bind_eq_ok_iff]
  have digits := (sha256 data).property
  simp [digits.1, digits.2]

/-- What the manifest says of libusb, as it is read. -/
theorem Staged.get_libusb : Json.get (reread staged.fields) (str "libusb") =
    .object (reread (strings (libusb platform))) := by
  have member : (str "libusb", Json.object (strings (libusb platform))) ∈ staged.fields := by
    simp [Staged.fields, manifest]
  exact staged.get member

theorem libusb_nodup : ((strings (libusb platform)).map Prod.fst).Nodup := by
  rw [strings, List.map_map]
  exact (manifest_tables platform).1.2.2.1

theorem libusb_entry {key value : Str} (member : (key, value) ∈ libusb platform) :
    Json.eq (Json.get (reread (strings (libusb platform))) key) (.string value) = true := by
  have inside : (key, Json.string value) ∈ strings (libusb platform) :=
    List.mem_map_of_mem member
  rw [get_reread_mem libusb_nodup inside]
  simp [Json.sorted, Json.eq, Json.eqScalar]

theorem Staged.libusb_checked : checkLibusb (reread staged.fields) platform = .ok () := by
  have member : (str "libusb", Json.object (strings (libusb platform))) ∈ staged.fields := by
    simp [Staged.fields, manifest]
  have whole := staged.eq_get member
  rw [checkLibusb]
  split
  · next system =>
    have same : expectedLibusb .linux = .object (strings (libusb platform)) := by
      simp [expectedLibusb, libusbSource, strings, libusb, system]
    rw [same]
    exact require_eq_ok_iff.mpr whole
  · next system =>
    have same : expectedLibusb .darwin = .object (strings (libusb platform)) := by
      simp [expectedLibusb, libusbSource, strings, libusb, system]
    rw [same]
    exact bind_eq_ok_iff.mpr ⟨(), staged.entries_checked _, require_eq_ok_iff.mpr whole⟩
  · next linux darwin =>
    have linked : (str "linkage", str (if platform.system = .android then "static"
        else "dynamic")) ∈ libusb platform := by
      cases system : platform.system with
      | linux => exact absurd system linux
      | darwin => exact absurd system darwin
      | android => simp [libusb, system]
      | windows => simp [libusb, system]
    have entries : ∀ field ∈ libusbSource,
        Json.eq (Json.get (reread (strings (libusb platform))) field.1) field.2 = true := by
      intro field member
      have shape : libusbSource = strings [(str "version", libusbVersion),
          (str "source_ref", libusbSourceUrl), (str "source_sha256", libusbSourceSha256)] := rfl
      rw [shape] at member
      obtain ⟨pair, inside, rfl⟩ := List.mem_map.mp member
      exact libusb_entry (List.mem_append_left _ inside)
    rw [staged.get_libusb]
    refine bind_eq_ok_iff.mpr ⟨(), staged.entries_checked _, ?_⟩
    refine require_bind_eq_ok_iff.mpr ⟨?_, require_eq_ok_iff.mpr ?_⟩
    · rw [Bool.and_eq_true, List.all_eq_true]
      exact ⟨entries, libusb_entry linked⟩
    · rw [Bool.or_eq_true, decide_eq_true_eq]
      by_cases system : platform.system = .windows
      · exact Or.inr (libusb_entry (by simp [libusb, system]))
      · exact Or.inl system

/-- The manifest of a package passes the audit. -/
theorem Staged.audited (packed : staged.Packed payloads) :
    verifyManifest sha256 payloads platform = .ok (reread staged.fields) := by
  obtain ⟨data, found, -, -, parsed⟩ := staged.reads packed
  have schema : (str "schema", Json.int 1) ∈ staged.fields := by simp [Staged.fields, manifest]
  have named : (str "platform", Json.string platform.name) ∈ staged.fields := by
    simp [Staged.fields, manifest]
  have version : (str "version", Json.string version) ∈ staged.fields := by
    simp [Staged.fields, manifest]
  have source : (str "source_ref", Json.string sourceRef) ∈ staged.fields := by
    simp [Staged.fields, manifest]
  have files : (str "files", Json.object (fileRecords sha256 staged.entries)) ∈
      staged.fields := by simp [Staged.fields, manifest]
  have programs : (str "programs", Json.array ((programNames platform).map .string)) ∈
      staged.fields := by simp [Staged.fields, manifest]
  have pinned : (str "firmware", Json.object (strings firmware)) ∈ staged.fields := by
    simp [Staged.fields, manifest]
  have listed : Json.get (reread staged.fields) (str "files") =
      .object (reread (fileRecords sha256 staged.entries)) := staged.get files
  have identity : (Json.eq (Json.get (reread staged.fields) (str "schema")) (.int 1) &&
      Json.eq (Json.get (reread staged.fields) (str "platform")) (.string platform.name)) =
        true := by
    rw [staged.get schema, staged.get_string named]
    simp [Json.sorted, Json.eq, Json.eqScalar, Json.integer]
  unfold verifyManifest
  refine bind_eq_ok_iff.mpr ⟨.object (reread staged.fields), by rw [found]; exact parsed, ?_⟩
  refine require_bind_eq_ok_iff.mpr ⟨identity, ?_⟩
  refine bind_eq_ok_iff.mpr ⟨_, by rw [staged.get_string version]; rfl, ?_⟩
  refine require_bind_eq_ok_iff.mpr ⟨staged.numbered, ?_⟩
  refine bind_eq_ok_iff.mpr ⟨_, by rw [staged.get_string source]; rfl, ?_⟩
  refine require_bind_eq_ok_iff.mpr ⟨staged.canonical, ?_⟩
  -- The entries of Linux are checked here, and the ones of the other systems at the end.
  have jumps (jump : Unit → Except Failure Fields)
      (rest : jump () = .ok (reread staged.fields)) :
      (if platform.system = .linux then
        checkEntries (reread staged.fields) "Linux static manifest metadata mismatch: "
          (expectedMetadata platform) >>= jump
      else jump ()) = .ok (reread staged.fields) := by
    split
    · exact bind_eq_ok_iff.mpr ⟨(), staged.entries_checked _, rest⟩
    · exact rest
  refine jumps _ ?_
  refine require_bind_eq_ok_iff.mpr ⟨staged.eq_get programs, ?_⟩
  rw [listed]
  refine require_bind_eq_ok_iff.mpr ⟨packed.inventory staged.fresh.1 staged.fresh.2, ?_⟩
  refine bind_eq_ok_iff.mpr ⟨(), checkEach_eq_ok_iff.mpr ?_, ?_⟩
  · intro name member
    have inside := (List.mem_insertionSort _).mp member
    exact staged.records_checked packed ((staged.recorded packed).mp inside)
  · refine require_bind_eq_ok_iff.mpr ⟨staged.eq_get pinned, ?_⟩
    exact bind_eq_ok_iff.mpr ⟨(), staged.libusb_checked, rfl⟩

/-- The evidence of a package passes the audit, as it did before it was packed. -/
theorem Staged.evidence_audited (packed : staged.Packed payloads) {binary : Str}
    (program : binary ∈ programNames platform) :
    verifyBinaryEvidence sha256 payloads (reread staged.fields) binary = .ok () := by
  have named : (str "platform", Json.string platform.name) ∈ staged.fields := by
    simp [Staged.fields, manifest]
  have source : (str "source_ref", Json.string sourceRef) ∈ staged.fields := by
    simp [Staged.fields, manifest]
  obtain ⟨data, evidence, path, first, second, checked⟩ := staged.bound binary program
  obtain ⟨file, inside, rfl, rfl⟩ := mem_staged staged first
  obtain ⟨other, beside, place, rfl⟩ := mem_staged staged second
  obtain ⟨value, read, checked⟩ := bind_eq_ok_iff.mp checked
  have found := packed.kept other beside
  rw [place] at found
  have again : parseJson other.2 (binaryEvidenceName (asPosix file.1)) = .ok value :=
    parseJson_ok_iff.mpr (parseJson_ok_iff.mp read)
  unfold verifyBinaryEvidence
  refine bind_eq_ok_iff.mpr ⟨value, by rw [found]; exact again, ?_⟩
  rw [packed.kept file inside, staged.get_string named, staged.get_string source]
  exact require_eq_ok_iff.mpr (require_eq_ok_iff.mp checked)

/-- **Every package passes the audit of its records.** The members are the expected ones, and the
manifest, the evidence and the checksums are accepted. -/
theorem package_audited (staged : Staged sha256 platform version sourceRef) :
    ∃ after fields, package sha256 platform version sourceRef staged.entries = .ok after ∧
      sameSet ((archive after).map Prod.fst) (expectedMembers platform) = true ∧
      verifyManifest sha256 (archive after) platform = .ok fields ∧
      (∀ binary ∈ programNames platform,
        verifyBinaryEvidence sha256 (archive after) fields binary = .ok ()) ∧
      verifyChecksums sha256 (archive after) = .ok () := by
  obtain ⟨after, done, packed, accepted⟩ := staged.packed
  refine ⟨after, _, done, ?_, staged.audited packed, ?_, accepted.1⟩
  · rw [sameSet_iff]
    intro name
    rw [staged.names_iff packed]
    obtain ⟨-, -, same, -⟩ := name_tables platform
    exact sameSet_iff.mp same name
  · exact fun binary program => staged.evidence_audited packed program

/-- A package of macOS passes. -/
theorem package_audited_reference : ∃ after fields,
    package referenceSha256 .darwinArm64 (str "1.0.0") referenceRef referenceStage = .ok after ∧
      sameSet ((archive after).map Prod.fst) (expectedMembers .darwinArm64) = true ∧
      verifyManifest referenceSha256 (archive after) .darwinArm64 = .ok fields ∧
      (∀ text ∈ ["sianod", "sianoctl", "siano-ts"],
        verifyBinaryEvidence referenceSha256 (archive after) fields (str text) = .ok ()) ∧
      verifyChecksums referenceSha256 (archive after) = .ok () := by
  obtain ⟨after, fields, done, members, manifest, evidence, checksums⟩ :=
    package_audited referenceStaged
  refine ⟨after, fields, done, members, manifest, fun text listed => evidence _ ?_, checksums⟩
  obtain ⟨-, -, programs, -⟩ := referenceStage_tables
  rw [programs]
  exact List.mem_map_of_mem listed

end audit

end SianoUserland.PackageManifest
