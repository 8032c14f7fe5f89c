import SianoUserland.AuditManifest
import SianoUserland.ChecksumAgreement
import SianoUserland.Lib.JsonRoundTrip
import SianoUserland.ReleaseManifest

/-! The end of `package-artifact.py` and of `package-source.py`: the records of the staged files,
the manifest that is written with them, and the checksums of all of it. -/
namespace SianoUserland.ManifestFile
open AuditArtifact (Digest sumsName)
open AuditManifest (Fields Payloads)
open ChecksumAgreement (mem_archive archive_nodup writeChecksums_eq)
open Checksums
open ReleaseVerify (Member canonicalJson canonicalJsonFile recordMatches)
open Check Text

/-! ### The writer -/

section writer

variable (sha256 : List UInt8 → Digest)

/-- A record of a file. -/
def record (size : Nat) (digest : Str) : Fields :=
  [(str "size", .int size), (str "sha256", .string digest)]

/-- `manifest["files"]` after the loop over the staged files. -/
def fileRecords (stage : Entries) : Fields :=
  (sortFiles stage.files).map fun file =>
    (asPosix file.1, .object (record file.2.length (sha256 file.2 : Str)))

/-- `json.dump(value, handle, indent=2, sort_keys=True)` and a line break. -/
def writeJson (stage : Entries) (name : Name) (value : Fields) : Except WriteFailure Entries :=
  writeText stage name (Json.dumps (.object value) ++ [0x0A])

/-- The manifest with the records of the staged files, and then the checksums. -/
def complete (name : Name) (manifest : Fields → Fields) (stage : Entries) :
    Except WriteFailure Entries := do
  let stage ← writeJson stage name (manifest (fileRecords sha256 stage))
  writeChecksums sha256 stage

end writer

/-! ### Reading an object back -/

section object

variable {fields : Fields} {key : Str} {data : List UInt8}

/-- The fields of an object once it has been written and read. -/
def reread (fields : Fields) : Fields := Json.ordered (Json.sortedFields fields)

theorem reread_keys (keys : (fields.map Prod.fst).Nodup) :
    ((Json.sortedFields fields).map Prod.fst).Nodup := by
  rw [Json.sortedFields_eq_map, List.map_map]
  exact keys

theorem get_reread (keys : (fields.map Prod.fst).Nodup) (key : Str) :
    Json.get (reread fields) key = Json.sorted (Json.get fields key) := by
  rw [reread, Json.get_ordered (reread_keys keys), Json.get_sortedFields]

/-- A key that is there. -/
theorem get_reread_mem (keys : (fields.map Prod.fst).Nodup) {value : Json}
    (member : (key, value) ∈ fields) : Json.get (reread fields) key = Json.sorted value := by
  rw [get_reread keys, ReleaseManifest.get_of_lookup (Json.lookup_of_mem keys member)]

theorem mem_keys_reread : key ∈ (reread fields).map Prod.fst ↔ key ∈ fields.map Prod.fst := by
  rw [reread, Json.ordered_keys, Json.sortedKeys, List.mem_insertionSort,
    Json.sortedFields_eq_map, List.map_map]
  rfl

/-- What is written is an object in ASCII that starts with its brace. -/
theorem encode_object (plain : Json.Plain (.object fields)) {ending : Str}
    (ends : ∀ point ∈ ending, point < 0x80) :
    ∃ data, encode (Json.dumps (.object fields) ++ ending) = some data ∧
      decode data = some (Json.dumps (.object fields) ++ ending) := by
  have ascii : ∀ point ∈ Json.dumps (.object fields) ++ ending, point < 0x80 := by
    rw [List.forall_mem_append]
    exact ⟨Json.dump_ascii plain 0, ends⟩
  exact ⟨_, encode_ascii _ ascii, (encode_eq_some_iff _ _).mp (encode_ascii _ ascii)⟩

/-- An object begins with its brace and a line break or the other brace. -/
theorem dumps_head (fields : Fields) : ∃ second rest,
    Json.dumps (.object fields) = 0x7B :: second :: rest ∧ (second = 0x0A ∨ second = 0x7D) := by
  rw [Json.dumps, Json.dump, Json.enclose]
  split
  · exact ⟨0x7D, [], rfl, Or.inr rfl⟩
  · exact ⟨0x0A, _, rfl, Or.inl rfl⟩

/-- Both decoders read an object in strict UTF-8. -/
theorem decodeBytes_dumps {ending : Str}
    (decoded : decode data = some (Json.dumps (.object fields) ++ ending)) :
    Json.decodeBytes data = some (Json.dumps (.object fields) ++ ending) := by
  obtain ⟨second, rest, shape, small⟩ := dumps_head fields
  have encoded := encode_decode _ _ decoded
  rw [shape, List.cons_append, List.cons_append] at encoded
  obtain ⟨bytes, later⟩ : ∃ bytes, data = 0x7B :: .ofNat second :: bytes := by
    have brace : encodePoint 0x7B = some [0x7B] := rfl
    have next : encodePoint second = some [.ofNat second] := by
      rcases small with rfl | rfl <;> rfl
    simp only [encode, brace, next, bind, Option.bind_some, Option.bind_eq_some_iff, pure,
      Option.some.injEq] at encoded
    obtain ⟨_, ⟨bytes, -, rfl⟩, rfl⟩ := encoded
    exact ⟨bytes, rfl⟩
  subst later
  refine Json.decodeBytes_object ?_ decoded
  rcases small with rfl | rfl <;> decide

theorem encode_join {front back : Str} {first second : List UInt8}
    (encoded : encode front = some first) (rest : encode back = some second) :
    encode (front ++ back) = some (first ++ second) := by
  induction front generalizing first with
  | nil =>
    cases encoded
    exact rest
  | cons point later hypothesis =>
    simp only [encode, Option.bind_eq_bind, Option.bind_eq_some_iff] at encoded
    obtain ⟨bytes, here, others, after, same⟩ := encoded
    cases same
    rw [List.append_assoc]
    exact encode_cons point _ bytes _ here (hypothesis after)

/-- A canonical file is the text of its fields, with a line break or without. -/
theorem canonical_decodes {text : Str} (file : canonicalJsonFile data fields = true)
    (decoded : decode data = some text) :
    ∃ ending, text = Json.dumps (.object fields) ++ ending := by
  obtain ⟨bytes, encoded, shape⟩ := ReleaseManifest.canonicalJsonFile_ok file
  obtain ⟨ending, last⟩ : ∃ ending,
      encode ending = some (if ReleaseVerify.endsWithNewline data then [0x0A] else []) := by
    split
    · exact ⟨[0x0A], rfl⟩
    · exact ⟨[], rfl⟩
  have whole := encode_join encoded last
  rw [← shape, encode_eq_some_iff, decoded, Option.some.injEq] at whole
  exact ⟨ending, whole⟩

/-- The reader of `release_verify.py` takes the manifest, and finds it canonical. -/
theorem parse_reread (plain : Json.Plain (.object fields))
    (decoded : decode data = some (Json.dumps (.object fields) ++ [0x0A])) (label : Str) :
    ReleaseVerify.parseJson data label = .ok (reread fields) ∧
      canonicalJsonFile data (reread fields) = true := by
  have loaded := Json.loads_dumps plain (Or.inr rfl)
  refine ⟨ReleaseManifest.parseJson_ok_iff.mpr ⟨_, decoded, loaded⟩, ?_⟩
  have same : Json.dumps (.object (reread fields)) = Json.dumps (.object fields) :=
    Json.dump_sorted (.object fields) 0 plain.distinct
  obtain ⟨first, second, encoded, last, rfl⟩ := encode_append _ _ _ (encode_decode _ _ decoded)
  cases last
  rw [canonicalJsonFile, canonicalJson, same, encoded]
  simp

/-- So does the one of `audit-artifact.py`. -/
theorem audit_reread (plain : Json.Plain (.object fields))
    (decoded : decode data = some (Json.dumps (.object fields) ++ [0x0A])) (label : Str) :
    AuditManifest.parseJson data label = .ok (.object (reread fields)) := by
  have loaded := Json.loads_dumps plain (Or.inr rfl)
  simp only [AuditManifest.parseJson, decodeBytes_dumps decoded, loaded]
  rfl

/-- Only an object is equal to one. -/
theorem eq_object_left {value : Json} (same : Json.eq value (.object fields) = true) :
    ∃ own, value = .object own := by
  cases value with
  | object own => exact ⟨own, rfl⟩
  | null | bool _ | int _ | float _ | string _ | array _ =>
    simp [Json.eq, Json.eqScalar, Json.integer] at same

/-- Equal objects have the same keys, and equal values under each of them. -/
theorem eq_object_fields {own : Fields} (distinct : (own.map Prod.fst).Nodup)
    (keys : (fields.map Prod.fst).Nodup) (same : Json.eq (.object own) (.object fields) = true) :
    sameSet (own.map Prod.fst) (fields.map Prod.fst) = true ∧
      ∀ field ∈ fields, Json.eq (Json.get own field.1) field.2 = true := by
  obtain ⟨_, shape, count, inside⟩ := Json.eq_object same
  cases shape
  have perm := Json.keys_perm distinct count inside
  refine ⟨sameSet_iff.mpr fun key => perm.mem_iff, ?_⟩
  intro field member
  have there := perm.mem_iff.mpr (List.mem_map_of_mem member)
  obtain ⟨mine, listed, named⟩ := List.mem_map.mp there
  obtain ⟨other, found, equal⟩ := inside mine listed
  rw [named, Json.lookup_of_mem keys member] at found
  cases found
  rw [← named, ReleaseManifest.get_of_lookup (Json.lookup_of_mem distinct listed)]
  exact equal

end object

/-! ### The records -/

section records

variable {sha256 : List UInt8 → Digest} {stage : Entries} {file : File} {size : Nat}
  {digest key : Str}

theorem record_keys : ((record size digest).map Prod.fst).Nodup := by
  rw [show (record size digest).map Prod.fst = [str "size", str "sha256"] from rfl]
  decide +kernel

/-- A record that has been read is the one that was written. -/
theorem get_record : Json.get (reread (record size digest)) (str "size") = .int size ∧
    Json.get (reread (record size digest)) (str "sha256") = .string digest := by
  have first : (str "size", Json.int size) ∈ record size digest := by simp [record]
  have second : (str "sha256", Json.string digest) ∈ record size digest := by simp [record]
  exact ⟨get_reread_mem record_keys first, get_reread_mem record_keys second⟩

theorem record_fields :
    sameSet ((reread (record size digest)).map Prod.fst) [str "size", str "sha256"] = true := by
  rw [sameSet_iff]
  exact fun key => mem_keys_reread

theorem recordMatches_reread {member : Member} :
    recordMatches (.object (reread (record size digest))) member = true ↔
      size = member.size ∧ digest = member.digest := by
  simp only [recordMatches, record_fields, get_record, Bool.true_and, Bool.and_eq_true,
    decide_eq_true_eq, Nat.cast_inj]
  simp [Json.eq, Json.eqScalar]

theorem mem_fileRecords {field : Str × Json} : field ∈ fileRecords sha256 stage ↔
    ∃ file ∈ stage.files, field =
      (asPosix file.1, .object (record file.2.length (sha256 file.2 : Str))) := by
  rw [fileRecords, List.mem_map]
  constructor
  · rintro ⟨file, member, rfl⟩
    exact ⟨file, List.mem_mergeSort.mp member, rfl⟩
  · rintro ⟨file, member, rfl⟩
    exact ⟨file, List.mem_mergeSort.mpr member, rfl⟩

theorem fileRecords_keys (distinct : stage.Distinct) :
    ((fileRecords sha256 stage).map Prod.fst).Nodup := by
  rw [fileRecords, List.map_map]
  refine ChecksumAgreement.names_nodup (ChecksumAgreement.sorted_nodup distinct) ?_
  intro file member
  exact path_ne_nil (List.mem_mergeSort.mp member)

theorem mem_names_fileRecords : key ∈ (reread (fileRecords sha256 stage)).map Prod.fst ↔
    ∃ file ∈ stage.files, asPosix file.1 = key := by
  rw [mem_keys_reread, List.mem_map]
  constructor
  · rintro ⟨field, member, rfl⟩
    obtain ⟨file, inside, rfl⟩ := mem_fileRecords.mp member
    exact ⟨file, inside, rfl⟩
  · rintro ⟨file, inside, rfl⟩
    exact ⟨_, mem_fileRecords.mpr ⟨file, inside, rfl⟩, rfl⟩

theorem get_fileRecords (distinct : stage.Distinct) (inside : file ∈ stage.files) :
    Json.get (reread (fileRecords sha256 stage)) (asPosix file.1) =
      .object (reread (record file.2.length (sha256 file.2 : Str))) :=
  get_reread_mem (fileRecords_keys distinct) (mem_fileRecords.mpr ⟨file, inside, rfl⟩)

end records

/-! ### The archive -/

section archive

variable {sha256 : List UInt8 → Digest} {name : Name} {manifest : Fields → Fields} {fields : Fields}
  {stage : Entries} {payloads : Payloads} {data : List UInt8}

/-- The archive of a completed stage: the manifest, the staged files and the checksums. -/
structure Completed (name : Name) (fields : Fields) (stage : Entries) (payloads : Payloads) :
    Prop where
  manifest : ∃ data, payloads.lookup name.val = some data ∧
    decode data = some (Json.dumps (.object fields) ++ [0x0A])
  kept : ∀ file ∈ stage.files, payloads.lookup (asPosix file.1) = some file.2
  names : ∀ member, member ∈ payloads.map Prod.fst ↔
    member = sumsName ∨ member = name.val ∨ ∃ file ∈ stage.files, asPosix file.1 = member

theorem find_fresh : (entries : Entries) → name ∉ entries.names → entries.find name = none
  | .nil, _ => rfl
  | .cons first node rest, fresh => by
    rw [Entries.names, List.mem_cons, not_or] at fresh
    rw [Entries.find, if_neg (Ne.symm fresh.1), find_fresh rest fresh.2]

theorem write_fresh (data : List UInt8) (fresh : name ∉ stage.names) :
    ∃ after, stage.write name data = .ok after := by
  rw [write_ok_iff, find_fresh stage fresh]
  simp

/-- A stage is completed when it has neither of the two files. -/
theorem complete_ok (distinct : stage.Distinct) (fresh : name ∉ stage.names)
    (freshSums : sums ∉ stage.names) (other : name ≠ sums)
    (plain : Json.Plain (.object (manifest (fileRecords sha256 stage)))) :
    ∃ after, complete sha256 name manifest stage = .ok after ∧
      Completed name (manifest (fileRecords sha256 stage)) stage (archive after) := by
  have newline : ∀ point ∈ ([0x0A] : Str), point < 0x80 := by decide
  obtain ⟨data, encoded, decoded⟩ := encode_object plain newline
  obtain ⟨middle, written⟩ := write_fresh data fresh
  have freshMiddle : sums ∉ middle.names := by
    rw [names_write stage written]
    exact fun named => named.elim (Ne.symm other) freshSums
  obtain ⟨rows, -, sealed⟩ := writeChecksums_eq sha256 middle
  obtain ⟨after, last⟩ := write_fresh rows freshMiddle
  have distinctMiddle := distinct_write stage distinct written
  have nodup := archive_nodup (distinct_write middle distinctMiddle last)
  have files (file : File) : file ∈ after.files ↔
      file = ([sums], rows) ∨ file = ([name], data) ∨ file ∈ stage.files := by
    rw [files_write middle distinctMiddle last, files_write stage distinct written]
    constructor
    · rintro (rfl | ⟨rfl | ⟨inside, -⟩, -⟩)
      · exact Or.inl rfl
      · exact Or.inr (Or.inl rfl)
      · exact Or.inr (Or.inr inside)
    · rintro (rfl | rfl | inside)
      · exact Or.inl rfl
      · exact Or.inr ⟨Or.inl rfl, by simpa using other⟩
      · exact Or.inr ⟨Or.inr ⟨inside, path_ne_of_fresh fresh inside⟩,
          path_ne_of_fresh freshSums inside⟩
  refine ⟨after, ?_, ⟨data, ?_, decoded⟩, ?_, ?_⟩
  · rw [complete, writeJson, writeText, encoded]
    simp only [written, bind, Except.bind, sealed, last]
  · exact Json.lookup_of_mem nodup (mem_archive.mpr ⟨([name], data), (files _).mpr (by simp),
      List.intercalate_singleton, rfl⟩)
  · intro file inside
    have kept : file ∈ after.files := (files file).mpr (Or.inr (Or.inr inside))
    exact Json.lookup_of_mem nodup (mem_archive.mpr ⟨file, kept, rfl, rfl⟩)
  · intro member
    have listed : member ∈ (archive after).map Prod.fst ↔
        ∃ file ∈ after.files, asPosix file.1 = member := by
      rw [ChecksumAgreement.archive_names, List.mem_map]
      simp only [sortFiles, List.mem_mergeSort]
    rw [listed]
    constructor
    · rintro ⟨file, inside, rfl⟩
      rcases (files file).mp inside with rfl | rfl | staged
      · exact Or.inl asPosix_sums
      · exact Or.inr (Or.inl List.intercalate_singleton)
      · exact Or.inr (Or.inr ⟨file, staged, rfl⟩)
    · rintro (rfl | rfl | ⟨file, staged, rfl⟩)
      · exact ⟨([sums], rows), (files _).mpr (by simp), asPosix_sums⟩
      · exact ⟨([name], data), (files _).mpr (by simp), List.intercalate_singleton⟩
      · exact ⟨file, (files _).mpr (by simp [staged]), rfl⟩

/-- The checksums of a completed stage are accepted when no file in it has their name. -/
theorem complete_accepted {after : Entries} (distinct : stage.Distinct)
    (freshSums : sums ∉ stage.names) (other : name ≠ sums)
    (nested : ∀ file ∈ stage.files, baseName file.1 ≠ some sumsName)
    (done : complete sha256 name manifest stage = .ok after) :
    ChecksumAgreement.Accepted sha256 (archive after) := by
  obtain ⟨middle, wrote, sealed⟩ := bind_eq_ok_iff.mp done
  obtain ⟨data, written⟩ : ∃ data, stage.write name data = .ok middle := by
    rw [writeJson, writeText] at wrote
    split at wrote
    · cases wrote
    · next data _ => exact ⟨data, wrote⟩
  have freshMiddle : sums ∉ middle.names := by
    rw [names_write stage written]
    exact fun named => named.elim (Ne.symm other) freshSums
  have plain : ChecksumAgreement.Plain middle := by
    refine ⟨⟨([name], data), (files_write stage distinct written _).mpr (Or.inl rfl), ?_⟩, ?_, ?_⟩
    · simpa using other
    · intro file inside named
      rcases (files_write stage distinct written file).mp inside with rfl | ⟨staged, -⟩
      · exact congrArg (fun name => [name]) (Subtype.ext (Option.some.inj named))
      · exact absurd named (nested file staged)
    · rw [find_fresh middle freshMiddle]
      simp
  obtain ⟨again, also, accepted, -⟩ := ChecksumAgreement.agrees_of_plain sha256
    (distinct_write stage distinct written) plain
  rw [sealed] at also
  cases also
  exact accepted

/-- The records are of the members other than the manifest and the checksums. -/
theorem Completed.inventory (completed : Completed name fields stage payloads)
    (fresh : name ∉ stage.names) (freshSums : sums ∉ stage.names) :
    sameSet ((reread (fileRecords sha256 stage)).map Prod.fst)
      ((payloads.map Prod.fst).filter fun member => member ≠ name.val && member ≠ sumsName) =
        true := by
  rw [sameSet_iff]
  intro member
  rw [mem_names_fileRecords, List.mem_filter, completed.names, Bool.and_eq_true,
    decide_eq_true_eq, decide_eq_true_eq]
  constructor
  · rintro ⟨file, inside, rfl⟩
    have nonempty := path_ne_nil inside
    refine ⟨Or.inr (Or.inr ⟨file, inside, rfl⟩), fun same => ?_,
      (asPosix_eq_sums_iff nonempty).not.mpr (path_ne_of_fresh freshSums inside)⟩
    have single : asPosix [name] = name.val := List.intercalate_singleton
    exact path_ne_of_fresh fresh inside
      (asPosix_inj nonempty (List.cons_ne_nil _ _) (same.trans single.symm))
  · rintro ⟨rfl | rfl | staged, other⟩
    · exact absurd rfl other.2
    · exact absurd rfl other.1
    · exact staged

/-- What a reader finds under the name of a member that it keeps. -/
theorem lookup_kept (sha256 : List UInt8 → Digest) (modes : Str → Nat) {name : Str}
    (kept : name ∈ keepNames) (found : payloads.lookup name = some data) :
    ∃ member, (readArchive sha256 modes payloads).lookup name = some member ∧
      member.data = some data ∧ member.digest = (sha256 data : Str) := by
  refine ⟨_, by rw [ChecksumAgreement.lookup_readArchive, found]; rfl, ?_, rfl⟩
  simp only [readMember]
  rw [if_pos (Or.inl kept)]

theorem require_of_true {condition : Bool} {message : Str} (holds : condition = true) :
    ReleaseNotice.require condition message = .ok () := by
  rw [holds]
  rfl

/-- The record of every file is the one of the member. -/
theorem Completed.record_matches (completed : Completed name fields stage payloads)
    (distinct : stage.Distinct) (modes : Str → Nat) (message : Str) {field : Str × Json}
    (inside : field ∈ reread (fileRecords sha256 stage)) :
    (do
      let member ← ReleaseVerify.item (readArchive sha256 modes payloads) field.1
      ReleaseNotice.require (recordMatches field.2 member) message) = .ok () := by
  obtain ⟨file, staying, named⟩ := mem_names_fileRecords.mp (List.mem_map_of_mem inside)
  have found := completed.kept file staying
  have recorded : Json.get (reread (fileRecords sha256 stage)) (asPosix file.1) =
      .object (reread (record file.2.length (sha256 file.2 : Str))) :=
    get_fileRecords distinct staying
  have keys : ((reread (fileRecords sha256 stage)).map Prod.fst).Nodup :=
    Json.ordered_nodup (reread_keys (fileRecords_keys distinct))
  rw [named, ReleaseManifest.get_of_lookup (Json.lookup_of_mem keys inside)] at recorded
  rw [named] at found
  have member : (readArchive sha256 modes payloads).lookup field.1 =
      some (readMember sha256 (modes field.1) field.1 file.2) := by
    rw [ChecksumAgreement.lookup_readArchive, found]
    rfl
  refine (bind_of_ok (ReleaseManifest.item_ok_iff.mpr member)).trans (require_of_true ?_)
  rw [recorded, recordMatches_reread]
  exact ⟨rfl, rfl⟩

end archive

end SianoUserland.ManifestFile
