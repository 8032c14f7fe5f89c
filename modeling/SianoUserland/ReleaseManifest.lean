import SianoUserland.Lib.JsonEncoding
import SianoUserland.ReleaseVerify

/-! What an accepted pair of binary archives says about the bytes of its JSON members. The
comparison is one of parsed values, and Python's equality does not tell `1` from `true` or
`1.0`. -/
namespace SianoUserland.ReleaseManifest
open Text Check ReleaseNotice ReleaseVerify

/-! ### What the comparison is for -/

/-- A JSON member as it was parsed. -/
def memberJson (members : Members) (name : Str) : Fields :=
  match parseJson (memberData members name) name with
  | .ok fields => fields
  | .error _ => []

/-- The encoding of fields with the line ending of a file. -/
def reencode (value : Fields) (style : List UInt8) : Option (List UInt8) :=
  (canonicalJson value).map (· ++ if endsWithNewline style then [0x0A] else [])

/-- Files with the records replaced that may change. -/
def replaceRecords (names : List Str) (new files : Fields) : Fields :=
  names.foldl (fun files name => Json.set name (Json.get new name) files) files

/-- A manifest with only its source and the records replaced that may change. -/
def replaceIdentity (old new : Fields) (tagSha : Str) : Fields :=
  Json.set (str "files") (.object (replaceRecords identityNames (filesOf new) (filesOf old)))
    (Json.set (str "source_ref") (.string tagSha) old)

/-- The tag's JSON members are the candidate's ones, byte for byte outside of the identity. -/
structure ByteExact (before after : Members) (tagSha : Str) : Prop where
  manifest : reencode (replaceIdentity (memberJson before manifestName)
      (memberJson after manifestName) tagSha) (memberData before manifestName) =
    some (memberData after manifestName)
  evidence : ∀ name ∈ evidenceNames,
    reencode (Json.set (str "source_ref") (.string tagSha) (memberJson before name))
      (memberData before name) = some (memberData after name)

/-- Every number of a member of the tag is of the kind of the one in the same place of the
candidate's member: both integers, both truth values, or both floats with one sign. -/
def KeepsKinds (before after : Members) (name : Str) : Prop :=
  Json.sameKinds (.object (memberJson before name)) (.object (memberJson after name)) = true

/-! ### Files -/

variable {before after : Members} {data other : List UInt8} {name archiveName : Str}

theorem parseJson_ok_iff {fields : Fields} : parseJson data name = .ok fields ↔
    ∃ text, decode data = some text ∧ Json.loads text = .ok (.object fields) := by
  unfold parseJson
  cases decode data with
  | none => simp
  | some text =>
    cases loaded : Json.loads text with
    | error invalid => simp [loaded]
    | ok value => cases value <;> simp [loaded]

theorem parseJson_distinct {fields : Fields} (parsed : parseJson data name = .ok fields) :
    Json.Distinct (.object fields) := by
  obtain ⟨text, -, loaded⟩ := parseJson_ok_iff.mp parsed
  exact Json.loads_distinct loaded

theorem memberJson_eq {members : Members} {member label : Str} {fields : Fields}
    (parsed : parseJson (memberData members member) label = .ok fields) :
    memberJson members member = fields := by
  have again : parseJson (memberData members member) member = .ok fields :=
    parseJson_ok_iff.mpr (parseJson_ok_iff.mp parsed)
  rw [memberJson, again]

/-- An encoded object ends with its brace. -/
theorem canonicalJson_ends {value : Fields} {canonical : List UInt8}
    (encoded : canonicalJson value = some canonical) : endsWithNewline canonical = false := by
  obtain ⟨front, shape⟩ : ∃ front, Json.dumps (.object value) = front ++ [0x7D] := by
    rw [Json.dumps, Json.dump]
    exact Json.enclose_ends _ _ _ _
  rw [canonicalJson, shape] at encoded
  obtain ⟨first, second, -, last, rfl⟩ := encode_append _ _ _ encoded
  cases last
  simp [endsWithNewline]

theorem canonicalJsonFile_ok {value : Fields} (file : canonicalJsonFile data value = true) :
    ∃ canonical, canonicalJson value = some canonical ∧
      data = canonical ++ if endsWithNewline data then [0x0A] else [] := by
  obtain ⟨canonical, encoded, same⟩ := (Option.any_eq_true _ _).mp file
  refine ⟨canonical, encoded, ?_⟩
  have closed := canonicalJson_ends encoded
  simp only [Bool.or_eq_true, decide_eq_true_eq] at same
  rcases same with rfl | rfl
  · simp [closed]
  · simp [endsWithNewline]

/-- A file of the tag is an encoding of equal fields when their numbers are of one kind. -/
theorem reencode_iff {expected new : Fields} (file : canonicalJsonFile other new = true)
    (style : endsWithNewline data = endsWithNewline other)
    (distinct : Json.Distinct (.object expected))
    (same : Json.eq (.object expected) (.object new) = true) :
    reencode expected data = some other ↔
      Json.sameKinds (.object expected) (.object new) = true := by
  obtain ⟨canonical, encoded, shape⟩ := canonicalJsonFile_ok file
  have decoded := (encode_eq_some_iff _ _).mp encoded
  calc reencode expected data = some other
      ↔ canonicalJson expected = some canonical := by
        rw [reencode, style, Option.map_eq_some_iff]
        constructor
        · rintro ⟨bytes, found, joined⟩
          rw [found, List.append_cancel_right (joined.trans shape)]
        · intro found
          exact ⟨canonical, found, shape.symm⟩
    _ ↔ Json.dumps (.object expected) = Json.dumps (.object new) := by
        rw [canonicalJson, encode_eq_some_iff, decoded, Option.some.injEq, eq_comm]
    _ ↔ Json.sameKinds (.object expected) (.object new) = true :=
        Json.dumps_eq_iff distinct same

/-! ### Evidence -/

theorem get_of_lookup {fields : Fields} {key : Str} {value : Json}
    (found : fields.lookup key = some value) : Json.get fields key = value := by
  rw [Json.get, found]
  rfl

theorem item_ok_iff {fields : List (Str × α)} {key : Str} {value : α} :
    item fields key = .ok value ↔ fields.lookup key = some value := by
  unfold item
  cases fields.lookup key with
  | none => simp
  | some found => simp

theorem lookup_of_get {fields : Fields} {key : Str} {value : Json}
    (found : Json.get fields key = value) (present : value ≠ .null) :
    fields.lookup key = some value := by
  unfold Json.get at found
  cases there : fields.lookup key with
  | none =>
    rw [there] at found
    exact absurd found.symm present
  | some other =>
    rw [there] at found
    rw [← found]
    rfl

/-- A string in the place of another does not matter. -/
theorem sameKinds_source {old new : Fields} {key text : Str}
    (keys : (old.map Prod.fst).Nodup) (found : ∃ last, new.lookup key = some (.string last)) :
    Json.sameKinds (.object (Json.set key (.string text) old)) (.object new) = true ↔
      Json.sameKinds (.object old) (.object new) = true := by
  obtain ⟨last, found⟩ := found
  refine Json.sameKinds_set keys ?_
  intro two second
  cases found.symm.trans second
  simp [Json.sameKinds_string]

theorem evidence_iff {label field expected : Str} {result : Fields × Fields}
    (accepted : compareJsonIdentity data other label field expected = .ok result) :
    parseJson data label = .ok result.1 ∧ parseJson other label = .ok result.2 ∧
      (reencode (Json.set field (.string expected) result.1) data = some other ↔
        Json.sameKinds (.object result.1) (.object result.2) = true) := by
  obtain ⟨old, parsedOld, accepted⟩ := bind_eq_ok_iff.mp accepted
  obtain ⟨new, parsedNew, accepted⟩ := bind_eq_ok_iff.mp accepted
  obtain ⟨style, accepted⟩ := require_bind_eq_ok_iff.mp accepted
  obtain ⟨files, accepted⟩ := require_bind_eq_ok_iff.mp accepted
  obtain ⟨changed, accepted⟩ := require_bind_eq_ok_iff.mp accepted
  obtain ⟨value, found, accepted⟩ := bind_eq_ok_iff.mp accepted
  obtain ⟨same, accepted⟩ := require_bind_eq_ok_iff.mp accepted
  cases accepted
  simp only [Bool.and_eq_true] at files changed
  have found := item_ok_iff.mp found
  rw [get_of_lookup found] at changed
  cases Json.eq_string changed.2
  have distinct := parseJson_distinct parsedOld
  refine ⟨parsedOld, parsedNew, ?_⟩
  rw [reencode_iff files.2 (by simpa using style)
    (Json.distinct_set field distinct (.string _)) same]
  exact sameKinds_source (Json.object_keys distinct) ⟨expected, found⟩

/-! ### Manifests -/

/-- Records of files that have been checked. -/
def Records (files : Fields) : Prop :=
  ∀ field ∈ files, ∃ member, recordMatches field.2 member = true

/-- What is known of an accepted manifest. -/
structure Checked (members : Members) (sourceSha : Str) (manifest : Fields) : Prop where
  parsed : parseJson (memberData members manifestName) manifestName = .ok manifest
  file : canonicalJsonFile (memberData members manifestName) manifest = true
  source : Json.get manifest (str "source_ref") = .string sourceSha
  files : ∃ files, manifest.lookup (str "files") = some (.object files) ∧ Records files

theorem parseBinaryManifest_ok {members : Members} {sourceSha : Str} {manifest : Fields}
    (accepted : parseBinaryManifest members archiveName sourceSha = .ok manifest) :
    Checked members sourceSha manifest := by
  unfold parseBinaryManifest at accepted
  split at accepted
  · cases accepted
  · next data present =>
    have whole : memberData members manifestName = data := by rw [memberData, present]; rfl
    obtain ⟨fields, parsed, accepted⟩ := bind_eq_ok_iff.mp accepted
    obtain ⟨file, accepted⟩ := require_bind_eq_ok_iff.mp accepted
    split at accepted
    · cases accepted
    · next platform _ =>
      obtain ⟨identity, accepted⟩ := require_bind_eq_ok_iff.mp accepted
      obtain ⟨-, accepted⟩ := require_bind_eq_ok_iff.mp accepted
      split at accepted
      · next files listed =>
        obtain ⟨-, accepted⟩ := require_bind_eq_ok_iff.mp accepted
        obtain ⟨⟨⟩, records, accepted⟩ := bind_eq_ok_iff.mp accepted
        obtain ⟨-, accepted⟩ := require_bind_eq_ok_iff.mp accepted
        obtain ⟨⟨⟩, -, accepted⟩ := bind_eq_ok_iff.mp accepted
        cases accepted
        simp only [Bool.and_eq_true] at identity
        refine ⟨by rw [whole, parsed], by rw [whole, file], Json.eq_string identity.2, files,
          lookup_of_get listed (by simp), ?_⟩
        intro field member
        obtain ⟨found, -, matched⟩ := bind_eq_ok_iff.mp
          (checkEach_eq_ok_iff.mp records field member)
        exact ⟨found, require_eq_ok_iff.mp matched⟩
      · cases accepted

theorem recordMatches_ok {record : Json} {member : Member}
    (matched : recordMatches record member = true) : ∃ fields, record = .object fields ∧
      (∀ key, key ∈ fields.map Prod.fst ↔ key ∈ [str "size", str "sha256"]) ∧
      (∃ size, Json.get fields (str "size") = .int size) ∧
      Json.get fields (str "sha256") = .string member.digest := by
  unfold recordMatches at matched
  split at matched
  · next fields =>
    simp only [Bool.and_eq_true] at matched
    refine ⟨fields, rfl, sameSet_iff.mp matched.1.1, ?_, Json.eq_string matched.2⟩
    have sized := matched.1.2
    split at sized
    · next size found => exact ⟨size, found⟩
    · cases sized
  · cases matched

/-- Two records of files have numbers of one kind. -/
theorem record_kinds {left right : Json} {member memberAfter : Member}
    (distinct : Json.Distinct left) (old : recordMatches left member = true)
    (new : recordMatches right memberAfter = true) : Json.sameKinds left right = true := by
  obtain ⟨leftFields, rfl, keys, ⟨size, sized⟩, -⟩ := recordMatches_ok old
  obtain ⟨rightFields, rfl, -, ⟨sizeAfter, sizedAfter⟩, digest⟩ := recordMatches_ok new
  rw [Json.sameKinds_object (Json.object_keys distinct)]
  intro key one two first second
  have listed := (keys key).mp (List.mem_map.mpr ⟨_, Json.mem_of_lookup first, rfl⟩)
  simp only [List.mem_cons, List.not_mem_nil, or_false] at listed
  rcases listed with rfl | rfl
  · rw [get_of_lookup first] at sized
    rw [get_of_lookup second] at sizedAfter
    rw [sized, sizedAfter]
    rfl
  · rw [get_of_lookup second] at digest
    rw [digest]
    exact (Json.sameKinds_string one _).1

theorem replaceRecords_distinct (names : List Str) {new files : Fields}
    (inner : Json.Distinct (.object new)) (distinct : Json.Distinct (.object files)) :
    Json.Distinct (.object (replaceRecords names new files)) := by
  induction names generalizing files with
  | nil => exact distinct
  | cons name rest hypothesis =>
    exact hypothesis (Json.distinct_set name distinct (Json.distinct_get inner name))

/-- New records in the place of old ones do not matter. -/
theorem replaceRecords_kinds (names : List Str) {new files : Fields}
    (inner : Json.Distinct (.object new)) (distinct : Json.Distinct (.object files))
    (newRecords : Records new) (records : Records files)
    (present : ∀ name ∈ names, ∃ record, new.lookup name = some record) :
    Json.sameKinds (.object (replaceRecords names new files)) (.object new) = true ↔
      Json.sameKinds (.object files) (.object new) = true := by
  induction names generalizing files with
  | nil => exact Iff.rfl
  | cons name rest hypothesis =>
    obtain ⟨record, found⟩ := present name (by simp)
    have matched := newRecords _ (Json.mem_of_lookup found)
    have step : Records (Json.set name (Json.get new name) files) := by
      intro field member
      rcases Json.mem_set member with rfl | earlier
      · rw [get_of_lookup found]
        exact matched
      · exact records field earlier
    refine (hypothesis (Json.distinct_set name distinct (Json.distinct_get inner name)) step
      fun name member => present name (by simp [member])).trans ?_
    refine Json.sameKinds_set (Json.object_keys distinct) ?_
    intro two second
    cases found.symm.trans second
    obtain ⟨memberAfter, fits⟩ := matched
    constructor
    · intro _ one first
      obtain ⟨member, suits⟩ := records _ (Json.mem_of_lookup first)
      exact record_kinds (Json.object_inner distinct _ (Json.mem_of_lookup first)) suits fits
    · intro _
      rw [get_of_lookup found]
      exact Json.sameKinds_refl record (Json.object_inner inner _ (Json.mem_of_lookup found))

theorem expectedFiles_ok {names : List Str} {old new files result : Fields}
    (accepted : expectedFiles archiveName old new files names = .ok result) :
    result = replaceRecords names new files ∧
      ∀ name ∈ names, ∃ record, new.lookup name = some record := by
  induction names generalizing files with
  | nil =>
    cases accepted
    exact ⟨rfl, by simp⟩
  | cons name rest hypothesis =>
    obtain ⟨left, -, accepted⟩ := bind_eq_ok_iff.mp accepted
    obtain ⟨right, found, accepted⟩ := bind_eq_ok_iff.mp accepted
    obtain ⟨leftSize, -, accepted⟩ := bind_eq_ok_iff.mp accepted
    obtain ⟨rightSize, -, accepted⟩ := bind_eq_ok_iff.mp accepted
    obtain ⟨-, accepted⟩ := require_bind_eq_ok_iff.mp accepted
    have found := item_ok_iff.mp found
    obtain ⟨shape, present⟩ := hypothesis accepted
    refine ⟨?_, List.forall_mem_cons.mpr ⟨⟨right, found⟩, present⟩⟩
    rw [shape, ← get_of_lookup found]
    rfl

theorem filesOf_eq {manifest files : Fields}
    (listed : manifest.lookup (str "files") = some (.object files)) : filesOf manifest = files := by
  rw [filesOf, get_of_lookup listed]
  rfl

theorem replaceIdentity_distinct {old new : Fields} (tagSha : Str)
    (distinct : Json.Distinct (.object old)) (otherDistinct : Json.Distinct (.object new)) :
    Json.Distinct (.object (replaceIdentity old new tagSha)) := by
  have inner (manifest : Fields) (distinct : Json.Distinct (.object manifest)) :
      Json.Distinct (.object (filesOf manifest)) := by
    have files := Json.distinct_get distinct (str "files")
    unfold filesOf
    cases shape : Json.get manifest (str "files") with
    | object fields =>
      rw [shape] at files
      exact files
    | null | bool _ | int _ | float _ | string _ | array _ =>
      exact .object (by simp [objectFields]) (by simp [objectFields])
  exact Json.distinct_set _ (Json.distinct_set _ distinct (.string _))
    (replaceRecords_distinct identityNames (inner new otherDistinct) (inner old distinct))

/-- The kinds of numbers are those of the candidate's manifest itself. -/
theorem replaceIdentity_kinds {candidateSha tagSha : Str} {old new : Fields}
    (checkedOld : Checked before candidateSha old) (checkedNew : Checked after tagSha new)
    (present : ∀ name ∈ identityNames, ∃ record, (filesOf new).lookup name = some record) :
    Json.sameKinds (.object (replaceIdentity old new tagSha)) (.object new) = true ↔
      Json.sameKinds (.object old) (.object new) = true := by
  have distinct := parseJson_distinct checkedOld.parsed
  have otherDistinct := parseJson_distinct checkedNew.parsed
  obtain ⟨oldFiles, oldListed, oldRecords⟩ := checkedOld.files
  obtain ⟨newFiles, newListed, newRecords⟩ := checkedNew.files
  have apart : str "files" ≠ str "source_ref" := by decide +kernel
  have named := lookup_of_get checkedNew.source (by simp)
  rw [replaceIdentity, filesOf_eq oldListed, filesOf_eq newListed]
  rw [filesOf_eq newListed] at present
  refine Iff.trans (Json.sameKinds_set
    (Json.nodup_set _ _ (Json.object_keys distinct)) ?_)
    (sameKinds_source (Json.object_keys distinct) ⟨tagSha, named⟩)
  intro two second
  cases newListed.symm.trans second
  rw [replaceRecords_kinds identityNames
    (Json.object_inner otherDistinct _ (Json.mem_of_lookup newListed))
    (Json.object_inner distinct _ (Json.mem_of_lookup oldListed)) newRecords oldRecords present]
  simp only [Json.lookup_set, apart, ↓reduceIte, oldListed, Option.some.injEq, forall_eq']

/-! ### Pairs of archives -/

/-- What is known of an accepted pair. -/
structure Accepted (before after : Members) (candidateSha tagSha : Str) (old new : Fields) :
    Prop where
  checkedOld : Checked before candidateSha old
  checkedNew : Checked after tagSha new
  style : endsWithNewline (memberData before manifestName) =
    endsWithNewline (memberData after manifestName)
  present : ∀ name ∈ identityNames, ∃ record, (filesOf new).lookup name = some record
  same : Json.eq (.object (replaceIdentity old new tagSha)) (.object new) = true
  evidence : ∀ name ∈ evidenceNames, ∃ label result, compareJsonIdentity
    (memberData before name) (memberData after name) label (str "source_ref") tagSha = .ok result

theorem verifyBinaryPair_ok {candidateSha tagSha : Str}
    (accepted : verifyBinaryPair before after archiveName candidateSha tagSha = .ok ()) :
    ∃ old new, Accepted before after candidateSha tagSha old new := by
  obtain ⟨⟨⟩, -, accepted⟩ := bind_eq_ok_iff.mp accepted
  obtain ⟨old, parsedOld, accepted⟩ := bind_eq_ok_iff.mp accepted
  obtain ⟨new, parsedNew, accepted⟩ := bind_eq_ok_iff.mp accepted
  obtain ⟨style, accepted⟩ := require_bind_eq_ok_iff.mp accepted
  obtain ⟨files, replaced, accepted⟩ := bind_eq_ok_iff.mp accepted
  obtain ⟨same, accepted⟩ := require_bind_eq_ok_iff.mp accepted
  obtain ⟨left, -, accepted⟩ := bind_eq_ok_iff.mp accepted
  obtain ⟨right, -, accepted⟩ := bind_eq_ok_iff.mp accepted
  obtain ⟨-, accepted⟩ := require_bind_eq_ok_iff.mp accepted
  obtain ⟨oldNotice, -, accepted⟩ := bind_eq_ok_iff.mp accepted
  obtain ⟨newNotice, -, accepted⟩ := bind_eq_ok_iff.mp accepted
  obtain ⟨-, accepted⟩ := require_bind_eq_ok_iff.mp accepted
  obtain ⟨⟨⟩, -, accepted⟩ := bind_eq_ok_iff.mp accepted
  obtain ⟨⟨⟩, compared, -⟩ := bind_eq_ok_iff.mp accepted
  obtain ⟨rfl, present⟩ := expectedFiles_ok replaced
  refine ⟨old, new, parseBinaryManifest_ok parsedOld, parseBinaryManifest_ok parsedNew,
    by simpa using style, present, same, ?_⟩
  intro name member
  obtain ⟨result, compared, -⟩ := bind_eq_ok_iff.mp (checkEach_eq_ok_iff.mp compared name member)
  exact ⟨_, result, compared⟩

/-- **An accepted pair is byte-exact when its numbers are of one kind.** The tag's manifest and
its evidence are the candidate's with only the identity replaced if and only if no number stands
where the candidate has an equal one of another type. -/
theorem manifests_byte_exact_iff {candidateSha tagSha : Str}
    (accepted : verifyBinaryPair before after archiveName candidateSha tagSha = .ok ()) :
    ByteExact before after tagSha ↔
      ∀ name ∈ manifestName :: evidenceNames, KeepsKinds before after name := by
  obtain ⟨old, new, pair⟩ := verifyBinaryPair_ok accepted
  have oldJson := memberJson_eq pair.checkedOld.parsed
  have newJson := memberJson_eq pair.checkedNew.parsed
  have manifest : reencode (replaceIdentity (memberJson before manifestName)
        (memberJson after manifestName) tagSha) (memberData before manifestName) =
      some (memberData after manifestName) ↔ KeepsKinds before after manifestName := by
    rw [KeepsKinds, oldJson, newJson,
      ← replaceIdentity_kinds pair.checkedOld pair.checkedNew pair.present]
    exact reencode_iff pair.checkedNew.file pair.style
      (replaceIdentity_distinct tagSha (parseJson_distinct pair.checkedOld.parsed)
        (parseJson_distinct pair.checkedNew.parsed)) pair.same
  have evidence (name : Str) (member : name ∈ evidenceNames) :
      reencode (Json.set (str "source_ref") (.string tagSha) (memberJson before name))
        (memberData before name) = some (memberData after name) ↔
      KeepsKinds before after name := by
    obtain ⟨label, result, compared⟩ := pair.evidence name member
    obtain ⟨parsedOld, parsedNew, exact_iff⟩ := evidence_iff compared
    rw [KeepsKinds, memberJson_eq parsedOld, memberJson_eq parsedNew]
    exact exact_iff
  rw [List.forall_mem_cons]
  constructor
  · intro exactly
    exact ⟨manifest.mp exactly.manifest,
      fun name member => (evidence name member).mp (exactly.evidence name member)⟩
  · rintro ⟨first, rest⟩
    exact ⟨manifest.mpr first, fun name member => (evidence name member).mpr (rest name member)⟩

/-! ### A pair of archives -/

/-- A digest in hexadecimal. -/
def hexdigest (value : Nat) : Str :=
  (List.range 64).map fun place => Json.hexDigit (value / 16 ^ (63 - place) % 16)

/-- A member whose data is kept. -/
def metadata (digest : Nat) (data : List UInt8) : Member where
  kind := str "file"
  mode := 0o644
  size := data.length
  digest := hexdigest digest
  data := some data

def program (digest size : Nat) : Member where
  kind := str "file"
  mode := 0o755
  size := size
  digest := hexdigest digest
  data := none

def writeJson (fields : Fields) (ending : List UInt8) : List UInt8 :=
  (canonicalJson fields).getD [] ++ ending

def auditOf (sourceSha : Str) (name : String) (digest : Nat) : List UInt8 :=
  let binary := [(str "name", .string (str name)), (str "sha256", .string (hexdigest digest))]
  writeJson [(str "binary", .object binary), (str "platform", .string (str "linux-x86_64")),
    (str "schema", .int 2), (str "source_ref", .string sourceSha)] [0x0A]

def manifestOf (sourceSha : Str) (schema : Json) (files : Members) : List UInt8 :=
  let record (member : Member) : Json :=
    .object [(str "sha256", .string member.digest), (str "size", .int member.size)]
  writeJson [(str "files", .object (files.map fun (name, member) => (name, record member))),
    (str "platform", .string (str "linux-x86_64")),
    (str "programs", .array ((programsOf (str "linux-x86_64")).map .string)),
    (str "schema", schema), (str "source_ref", .string sourceSha),
    (str "version", .string (str "1.0.0"))] []

def checksums (members : Members) : List UInt8 :=
  members.flatMap fun (name, member) =>
    (member.digest ++ str "  " ++ name ++ [0x0A]).map UInt8.ofNat

def daemonDigest : Nat := 0x6279dd3bfe7a2ac91c68abe581bcac96f03270a6ec47be6ba29db735c143a70c

def controlDigest : Nat := 0x6a2d15954e341d156f413dffbe7ad42b3af4b771f7f8b3688ee60f0d45a1ad59

def streamDigest : Nat := 0xbdc602a3fb604aba5e98417eac65eeded64866545cc4188c729fb3d5bc461553

/-- An archive for `linux-x86_64`, with the digests of its metadata. -/
def binaryArchive (sourceSha : Str) (schema : Json)
    (notice audit daemon control manifest sums : Nat) : Members :=
  let documents := [
    (noticeName, metadata notice ((str "source.ref=" ++ sourceSha ++ [0x0A]).map UInt8.ofNat)),
    (str "evidence/binary-audit.json", metadata audit (auditOf sourceSha "sianod" daemonDigest)),
    (str "evidence/sianoctl-binary-audit.json",
      metadata control (auditOf sourceSha "siano-ts" streamDigest)),
    (str "evidence/sianod-binary-audit.json",
      metadata daemon (auditOf sourceSha "sianoctl" controlDigest))]
  let programs := [(str "siano-ts", program streamDigest 15),
    (str "sianoctl", program controlDigest 15), (str "sianod", program daemonDigest 13)]
  let described := (manifestName,
    metadata manifest (manifestOf sourceSha schema (documents ++ programs)))
  let listed := documents ++ described :: programs
  (str "SHA256SUMS", metadata sums (checksums listed)) :: listed

def archiveFile : Str := str "siano-ts-1.0.0-linux-x86_64.tar.gz"

def candidateRef : Str := List.replicate 40 0x61

def tagRef : Str := List.replicate 40 0x62

/-- The candidate's archive. -/
def candidateArchive : Members :=
  binaryArchive candidateRef (.int 1)
    0x7db4be51f0c93d53e2578265343e93dfbe76b4efae96c1a0cee0bd8862b08b3b
    0xa38ea3c7441958d6f114a184f33eb8d459cf3154c443fd9239b34505ec8bf37c
    0x87a1f15a6d67662a2e3afcd0db5973f517b79956fea62ea44d201ac68caa5b6e
    0x1ce1a34d6280295ce6cb2f36c41403f646b14746767172853b88e988f1afa6eb
    0x581433ad37f4d79043db89b5435bd68511a810784db09d2f0b378492d8dcefdf
    0x706a9327fe4c69722c788bb28e4a4efea4e32fecc474a8f7722f64938fa9e496

/-- The tag's archive. -/
def tagArchive : Members :=
  binaryArchive tagRef (.int 1)
    0xfcb503084028f4543c3d204fd7db17c6dba2ebafd9be7fa6789b493328621fa0
    0x0905c5445ba759e5169b917b180c5ef0bc1a42bdb6977475766d0b666ee88d20
    0x97c967b971a799eed20cc56c6c5702d94ddd478c6157de591c1a15ce3bf30790
    0xf449712e11864f0b1f56e59a0e828053a9704f47f05e727210be1b314b7bfb48
    0x751c316240754f4ef144f4bf2a9beed8c526ad1569878dfbb0d2b1b12f242623
    0x5d171758ce560df6f3607c58129a3bac24f4e072c7e971a70b989dd6c2f8af02

/-- A tag's archive with `true` for the schema of its manifest. -/
def truthArchive : Members :=
  binaryArchive tagRef (.bool true)
    0xfcb503084028f4543c3d204fd7db17c6dba2ebafd9be7fa6789b493328621fa0
    0x0905c5445ba759e5169b917b180c5ef0bc1a42bdb6977475766d0b666ee88d20
    0x97c967b971a799eed20cc56c6c5702d94ddd478c6157de591c1a15ce3bf30790
    0xf449712e11864f0b1f56e59a0e828053a9704f47f05e727210be1b314b7bfb48
    0xb48c0ba8d7556ca52d4d99e2c068bf7318ff9df6d986527712294904160ed43e
    0xf7114e82ea4f437142f75ea4c29fc8ed234a770471d01bec628f479fe26c3129

theorem schema_kept :
    verifyBinaryPair candidateArchive tagArchive archiveFile candidateRef tagRef = .ok () ∧
      ByteExact candidateArchive tagArchive tagRef := by
  have accepted :
      verifyBinaryPair candidateArchive tagArchive archiveFile candidateRef tagRef = .ok () := by
    decide +kernel
  refine ⟨accepted, (manifests_byte_exact_iff accepted).mpr ?_⟩
  unfold KeepsKinds
  decide +kernel

/-- A manifest whose schema has become `true` is accepted. -/
theorem true_schema_accepted :
    verifyBinaryPair candidateArchive truthArchive archiveFile candidateRef tagRef = .ok () ∧
      ¬ ByteExact candidateArchive truthArchive tagRef := by
  refine ⟨by decide +kernel, fun exactly => ?_⟩
  exact absurd exactly.manifest (by decide +kernel)

end SianoUserland.ReleaseManifest
