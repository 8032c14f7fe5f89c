import SianoUserland.ReleaseHistory
import SianoUserland.ReleaseManifest

/-! `scripts/release_verify.py`: the comparison of a candidate's source archive with the one of the
tag. The manifest names the commit and its tree, and the approved documents may differ. -/
namespace SianoUserland.ReleaseSource
open Check (bind_eq_ok_iff checkEach checkEach_eq_ok_iff require_bind_eq_ok_iff require_eq_ok_iff
  sameSet)
open ReleaseHistory (documentPaths notesDoc resultDoc)
open ReleaseManifest ReleaseNotice ReleaseVerify Text

def sourceManifestName : Str := str "source-manifest.json"

def versionMember : Str := str "repository/VERSION"

def inRepository (path : Str) : Str := str "repository/" ++ path

/-- `encode("ascii")`. -/
def encodeAscii (text : Str) : Option (List UInt8) :=
  if text.all (· < 0x80) then some (text.map UInt8.ofNat) else none

/-- The check of `repository/VERSION` in `parse_source_manifest`. Without that member nothing is
encoded. -/
def checkVersion (members : Members) (version : Str) : Except Failure Unit :=
  match members.lookup versionMember with
  | none => .error (.verification (str "source archive VERSION mismatch"))
  | some member =>
    match encodeAscii (version ++ [0x0A]) with
    | none => .error .unencodable
    | some line => ReleaseNotice.require (member.data == some line)
        (str "source archive VERSION mismatch")

/-- `parse_source_manifest`. -/
def parseSourceManifest (members : Members) (archiveName version commit tree : Str) :
    Except Failure Fields := do
  match (members.lookup sourceManifestName).bind Member.data with
  | none => .error (.verification (str "missing source-manifest.json: " ++ archiveName))
  | some data =>
    let manifest ← parseJson data sourceManifestName
    ReleaseNotice.require (canonicalJsonFile data manifest)
      (str "noncanonical source-manifest.json")
    ReleaseNotice.require (Json.eq (Json.get manifest (str "version")) (.string version) &&
        Json.eq (Json.get manifest (str "source_ref")) (.string commit) &&
        Json.eq (Json.get manifest (str "resolved_commit")) (.string commit) &&
        Json.eq (Json.get manifest (str "tree")) (.string tree))
      (str "source manifest identity mismatch: " ++ archiveName)
    match Json.get manifest (str "files") with
    | .object files =>
      ReleaseNotice.require (sameSet (files.map Prod.fst) ((members.map Prod.fst).filter
          fun name => name ≠ sourceManifestName && name ≠ str "SHA256SUMS"))
        (str "source manifest inventory mismatch: " ++ archiveName)
      checkEach (fun (name, record) => do
        let member ← item members name
        ReleaseNotice.require (recordMatches record member)
          (str "source manifest record mismatch: " ++ name)) files
      checkVersion members version
      return manifest
    | _ => .error (.verification (str "source manifest inventory mismatch: " ++ archiveName))

/-- `source_document_members`. -/
def sourceDocumentMembers (members : Members) (version tag : Str) : Except Failure (List Str) := do
  let paths := str "README.md" :: (documentPaths version tag).map inRepository
  ReleaseNotice.require (inRepository (resultDoc version) ∈ members.map Prod.fst &&
      inRepository (notesDoc tag) ∈ members.map Prod.fst)
    (str "candidate source archive must contain the version record and release notes")
  return paths.filter (· ∈ members.map Prod.fst)

/-- The loop of `verify_source_pair` over the documents: the expected files. -/
def expectedDocuments (new files : Fields) : List Str → Except Failure Fields
  | [] => .ok files
  | name :: rest => do
    let record ← item new name
    expectedDocuments new (Json.set name record files) rest

/-- The fields of a notice that name its source. -/
def sourceFields (commit tree : Str) : List (Str × Str) :=
  [(str "source.ref", commit), (str "source.resolved_commit", commit), (str "source.tree", tree)]

/-- A notice has each of some fields with its value. -/
def namesSource (notice : List (Option Str × Str)) (fields : List (Str × Str)) : Bool :=
  fields.all fun field => notice.lookup (some field.1) == some field.2

/-- `verify_source_pair`. -/
def verifySourcePair (before after : Members)
    (archiveName version candidateSha tagSha candidateTree tagTree tag : Str) :
    Except Failure Unit := do
  let documents ← sourceDocumentMembers before version tag
  ReleaseNotice.require (inRepository (resultDoc version) ∈ after.map Prod.fst)
    (str "version result document is missing from tag source inventory")
  let allowed := sourceManifestName :: noticeName :: str "SHA256SUMS" :: documents
  compareMemberSets before after allowed archiveName
  let old ← parseSourceManifest before archiveName version candidateSha candidateTree
  let new ← parseSourceManifest after archiveName version tagSha tagTree
  matchingJsonStyle (memberData before sourceManifestName) (memberData after sourceManifestName)
    sourceManifestName
  let left ← item (filesOf old) noticeName
  let right ← item (filesOf new) noticeName
  let leftSize ← item (objectFields left) (str "size")
  let rightSize ← item (objectFields right) (str "size")
  ReleaseNotice.require (Json.eq leftSize rightSize)
    (str "source notice identity member size changed")
  let files ← expectedDocuments (filesOf new) (Json.set noticeName right (filesOf old)) documents
  let expected := Json.set (str "files") (.object files) (Json.set (str "tree") (.string tagTree)
    (Json.set (str "resolved_commit") (.string tagSha)
      (Json.set (str "source_ref") (.string tagSha) old)))
  ReleaseNotice.require (Json.eq (.object expected) (.object new))
    (str "source manifest changed outside approved identity/document")
  let leftNotice ← item before noticeName
  let rightNotice ← item after noticeName
  ReleaseNotice.require (leftNotice.data.isSome && rightNotice.data.isSome)
    (str "source dependency notice is missing")
  let oldNotice ← noticeLines (memberData before noticeName) archiveName
  let newNotice ← noticeLines (memberData after noticeName) archiveName
  ReleaseNotice.require (namesSource oldNotice (sourceFields candidateSha candidateTree) &&
      namesSource newNotice (sourceFields tagSha tagTree))
    (str "source dependency notice identity mismatch")
  compareNotice (sourceFields tagSha tagTree) (memberData before noticeName)
    (memberData after noticeName) (archiveName ++ str ":DEPENDENCY-NOTICE.txt")
  let changed := (before.map Prod.fst).filter fun name =>
    (before.lookup name).map Member.digest ≠ (after.lookup name).map Member.digest
  ReleaseNotice.require (changed.all (· ∈ allowed)) (str "source archive changed outside allowlist")

/-! ### What the comparison is for -/

/-- The documents that a source archive has. -/
def documentsOf (members : Members) (version tag : Str) : List Str :=
  (str "README.md" :: (documentPaths version tag).map inRepository).filter
    (· ∈ members.map Prod.fst)

/-- A manifest with only its source and the records replaced that may change. -/
def replaceSource (old new : Fields) (documents : List Str) (tagSha tagTree : Str) : Fields :=
  Json.set (str "files")
    (.object (replaceRecords (noticeName :: documents) (filesOf new) (filesOf old)))
    (Json.set (str "tree") (.string tagTree) (Json.set (str "resolved_commit") (.string tagSha)
      (Json.set (str "source_ref") (.string tagSha) old)))

variable {before after members : Members} {archiveName version tag : Str}
  {candidateSha tagSha candidateTree tagTree commit tree : Str} {manifest : Fields}

/-- What is known of an accepted manifest. -/
structure SourceChecked (members : Members) (commit tree : Str) (manifest : Fields) : Prop where
  parsed : parseJson (memberData members sourceManifestName) sourceManifestName = .ok manifest
  file : canonicalJsonFile (memberData members sourceManifestName) manifest = true
  source : Json.get manifest (str "source_ref") = .string commit
  resolved : Json.get manifest (str "resolved_commit") = .string commit
  tree : Json.get manifest (str "tree") = .string tree
  files : ∃ files, manifest.lookup (str "files") = some (.object files) ∧ Records files

theorem parseSourceManifest_ok
    (accepted : parseSourceManifest members archiveName version commit tree = .ok manifest) :
    SourceChecked members commit tree manifest := by
  unfold parseSourceManifest at accepted
  split at accepted
  · cases accepted
  · next data present =>
    have whole : memberData members sourceManifestName = data := by rw [memberData, present]; rfl
    obtain ⟨fields, parsed, accepted⟩ := bind_eq_ok_iff.mp accepted
    obtain ⟨file, accepted⟩ := require_bind_eq_ok_iff.mp accepted
    obtain ⟨identity, accepted⟩ := require_bind_eq_ok_iff.mp accepted
    split at accepted
    · next files listed =>
      obtain ⟨-, accepted⟩ := require_bind_eq_ok_iff.mp accepted
      obtain ⟨⟨⟩, records, accepted⟩ := bind_eq_ok_iff.mp accepted
      obtain ⟨⟨⟩, -, accepted⟩ := bind_eq_ok_iff.mp accepted
      cases accepted
      simp only [Bool.and_eq_true] at identity
      refine ⟨by rw [whole, parsed], by rw [whole, file], Json.eq_string identity.1.1.2,
        Json.eq_string identity.1.2, Json.eq_string identity.2, files,
        lookup_of_get listed (by simp), ?_⟩
      intro field member
      obtain ⟨found, -, matched⟩ := bind_eq_ok_iff.mp
        (checkEach_eq_ok_iff.mp records field member)
      exact ⟨found, require_eq_ok_iff.mp matched⟩
    · cases accepted

theorem expectedDocuments_ok {names : List Str} {new files result : Fields}
    (accepted : expectedDocuments new files names = .ok result) :
    result = replaceRecords names new files ∧
      ∀ name ∈ names, ∃ record, new.lookup name = some record := by
  induction names generalizing files with
  | nil =>
    cases accepted
    exact ⟨rfl, by simp⟩
  | cons name rest hypothesis =>
    obtain ⟨record, found, accepted⟩ := bind_eq_ok_iff.mp accepted
    have found := item_ok_iff.mp found
    obtain ⟨shape, present⟩ := hypothesis accepted
    refine ⟨?_, List.forall_mem_cons.mpr ⟨⟨record, found⟩, present⟩⟩
    rw [shape, ← get_of_lookup found]
    rfl

/-- What is known of an accepted pair. -/
structure SourceAccepted (before after : Members)
    (archiveName version tag candidateSha tagSha candidateTree tagTree : Str)
    (old new : Fields) : Prop where
  checkedOld : SourceChecked before candidateSha candidateTree old
  checkedNew : SourceChecked after tagSha tagTree new
  style : endsWithNewline (memberData before sourceManifestName) =
    endsWithNewline (memberData after sourceManifestName)
  present : ∀ name ∈ noticeName :: documentsOf before version tag,
    ∃ record, (filesOf new).lookup name = some record
  same : Json.eq (.object (replaceSource old new (documentsOf before version tag) tagSha tagTree))
    (.object new) = true
  notice : compareNotice (sourceFields tagSha tagTree) (memberData before noticeName)
    (memberData after noticeName) (archiveName ++ str ":DEPENDENCY-NOTICE.txt") = .ok ()
  members : compareMemberSets before after (sourceManifestName :: noticeName ::
    str "SHA256SUMS" :: documentsOf before version tag) archiveName = .ok ()

theorem verifySourcePair_ok (accepted : verifySourcePair before after archiveName version
      candidateSha tagSha candidateTree tagTree tag = .ok ()) :
    ∃ old new, SourceAccepted before after archiveName version tag candidateSha tagSha
      candidateTree tagTree old new := by
  obtain ⟨documents, chosen, accepted⟩ := bind_eq_ok_iff.mp accepted
  obtain ⟨-, chosen⟩ := require_bind_eq_ok_iff.mp chosen
  cases chosen
  obtain ⟨-, accepted⟩ := require_bind_eq_ok_iff.mp accepted
  obtain ⟨⟨⟩, compared, accepted⟩ := bind_eq_ok_iff.mp accepted
  obtain ⟨old, parsedOld, accepted⟩ := bind_eq_ok_iff.mp accepted
  obtain ⟨new, parsedNew, accepted⟩ := bind_eq_ok_iff.mp accepted
  obtain ⟨style, accepted⟩ := require_bind_eq_ok_iff.mp accepted
  obtain ⟨left, -, accepted⟩ := bind_eq_ok_iff.mp accepted
  obtain ⟨right, found, accepted⟩ := bind_eq_ok_iff.mp accepted
  obtain ⟨leftSize, -, accepted⟩ := bind_eq_ok_iff.mp accepted
  obtain ⟨rightSize, -, accepted⟩ := bind_eq_ok_iff.mp accepted
  obtain ⟨-, accepted⟩ := require_bind_eq_ok_iff.mp accepted
  obtain ⟨files, replaced, accepted⟩ := bind_eq_ok_iff.mp accepted
  obtain ⟨same, accepted⟩ := require_bind_eq_ok_iff.mp accepted
  obtain ⟨_, -, accepted⟩ := bind_eq_ok_iff.mp accepted
  obtain ⟨_, -, accepted⟩ := bind_eq_ok_iff.mp accepted
  obtain ⟨-, accepted⟩ := require_bind_eq_ok_iff.mp accepted
  obtain ⟨_, -, accepted⟩ := bind_eq_ok_iff.mp accepted
  obtain ⟨_, -, accepted⟩ := bind_eq_ok_iff.mp accepted
  obtain ⟨-, accepted⟩ := require_bind_eq_ok_iff.mp accepted
  obtain ⟨⟨⟩, noticed, -⟩ := bind_eq_ok_iff.mp accepted
  obtain ⟨rfl, present⟩ := expectedDocuments_ok replaced
  have found := item_ok_iff.mp found
  refine ⟨old, new, parseSourceManifest_ok parsedOld, parseSourceManifest_ok parsedNew,
    by simpa using style, List.forall_mem_cons.mpr ⟨⟨right, found⟩, present⟩, ?_, noticed, compared⟩
  rw [← get_of_lookup found] at same
  exact same

/-- The kinds of numbers are those of the candidate's manifest itself. -/
theorem replaceSource_kinds {old new : Fields} {documents : List Str}
    (checkedOld : SourceChecked before candidateSha candidateTree old)
    (checkedNew : SourceChecked after tagSha tagTree new)
    (present : ∀ name ∈ noticeName :: documents, ∃ record,
      (filesOf new).lookup name = some record) :
    Json.sameKinds (.object (replaceSource old new documents tagSha tagTree)) (.object new) = true ↔
      Json.sameKinds (.object old) (.object new) = true := by
  have distinct := parseJson_distinct checkedOld.parsed
  have otherDistinct := parseJson_distinct checkedNew.parsed
  obtain ⟨oldFiles, oldListed, oldRecords⟩ := checkedOld.files
  obtain ⟨newFiles, newListed, newRecords⟩ := checkedNew.files
  have keys := Json.object_keys distinct
  have named := lookup_of_get checkedNew.source (by simp)
  have resolved := lookup_of_get checkedNew.resolved (by simp)
  have treed := lookup_of_get checkedNew.tree (by simp)
  have apart : str "files" ≠ str "source_ref" ∧ str "files" ≠ str "resolved_commit" ∧
      str "files" ≠ str "tree" := by decide +kernel
  rw [replaceSource, filesOf_eq oldListed, filesOf_eq newListed]
  rw [filesOf_eq newListed] at present
  refine Iff.trans (Json.sameKinds_set
    (Json.nodup_set _ _ (Json.nodup_set _ _ (Json.nodup_set _ _ keys))) ?_)
    ((sameKinds_source (Json.nodup_set _ _ (Json.nodup_set _ _ keys)) ⟨tagTree, treed⟩).trans
      ((sameKinds_source (Json.nodup_set _ _ keys) ⟨tagSha, resolved⟩).trans
        (sameKinds_source keys ⟨tagSha, named⟩)))
  intro two second
  cases newListed.symm.trans second
  rw [replaceRecords_kinds (noticeName :: documents)
    (Json.object_inner otherDistinct _ (Json.mem_of_lookup newListed))
    (Json.object_inner distinct _ (Json.mem_of_lookup oldListed)) newRecords oldRecords present]
  simp only [Json.lookup_set, apart, ↓reduceIte, oldListed, Option.some.injEq, forall_eq']

/-- **An accepted source manifest is byte-exact when its numbers are of one kind.** The manifest of
the tag's source archive is the candidate's with the commit, the tree and the records of the notice
and the documents replaced, and every other byte kept, if and only if no number stands where the
candidate has an equal one of another type or a zero of the other sign. -/
theorem source_manifest_exact_iff (accepted : verifySourcePair before after archiveName version
      candidateSha tagSha candidateTree tagTree tag = .ok ()) :
    reencode (replaceSource (memberJson before sourceManifestName)
        (memberJson after sourceManifestName) (documentsOf before version tag) tagSha tagTree)
      (memberData before sourceManifestName) = some (memberData after sourceManifestName) ↔
      KeepsKinds before after sourceManifestName := by
  obtain ⟨old, new, pair⟩ := verifySourcePair_ok accepted
  have distinct := parseJson_distinct pair.checkedOld.parsed
  have otherDistinct := parseJson_distinct pair.checkedNew.parsed
  rw [KeepsKinds, memberJson_eq pair.checkedOld.parsed, memberJson_eq pair.checkedNew.parsed,
    ← replaceSource_kinds pair.checkedOld pair.checkedNew pair.present]
  refine reencode_iff pair.checkedNew.file pair.style ?_ pair.same
  obtain ⟨oldFiles, oldListed, -⟩ := pair.checkedOld.files
  obtain ⟨newFiles, newListed, -⟩ := pair.checkedNew.files
  rw [replaceSource, filesOf_eq oldListed, filesOf_eq newListed]
  exact Json.distinct_set _ (Json.distinct_set _ (Json.distinct_set _ (Json.distinct_set _ distinct
    (.string _)) (.string _)) (.string _)) (replaceRecords_distinct _
      (Json.object_inner otherDistinct _ (Json.mem_of_lookup newListed))
      (Json.object_inner distinct _ (Json.mem_of_lookup oldListed)))

/-! ### A pair of archives -/

/-- A member whose data is not kept. -/
def payload (digest size : Nat) : Member := { program digest size with mode := 0o644 }

def sourceManifestOf (commit tree : Str) (files : Members) : List UInt8 :=
  let record (member : Member) : Json :=
    .object [(str "sha256", .string member.digest), (str "size", .int member.size)]
  writeJson [(str "files", .object (files.map fun (name, member) => (name, record member))),
    (str "resolved_commit", .string commit), (str "schema", .int 1),
    (str "source_ref", .string commit), (str "tree", .string tree),
    (str "version", .string (str "1.0.0"))] [0x0A]

/-- A source archive with a version record and release notes, with the digests of its metadata. -/
def sourceArchive (commit tree : Str) (record : String)
    (notice recorded notes manifest sums : Nat) : Members :=
  let listed := [
    (noticeName, metadata notice ((sourceFields commit tree).flatMap
      fun field => (field.1 ++ [0x3D] ++ field.2 ++ [0x0A]).map UInt8.ofNat)),
    (str "README.md", metadata
      0x2eae1e50243113fc49913736072c12d9198e36f9e6d389b0d423b1f8b8383749
      "siano-userland\n".toUTF8.data.toList),
    (versionMember, metadata
      0x59854984853104df5c353e2f681a15fc7924742f9a2e468c29af248dce45ce03
      "1.0.0\n".toUTF8.data.toList),
    (str "repository/docs/release-validation/1.0.0.md",
      metadata recorded record.toUTF8.data.toList),
    (str "repository/release-notes/v1.0.0.md", payload notes 6),
    (str "repository/siano-ts.c", payload
      0x9cedb6fed9aba391ffe9c83d52766e19b6fc9ee4cca6aeca926ba41ab3b84dbd 15)]
  let described := listed ++
    [(sourceManifestName, metadata manifest (sourceManifestOf commit tree listed))]
  (str "SHA256SUMS", metadata sums (checksums described)) :: described

/-- A source archive of the candidate, whose notes are a draft. -/
def candidateSource : Members :=
  sourceArchive candidateRef (List.replicate 40 0x64) "pending\n"
    0x9c1680e20217cf4ec42fc4ecdabaa68c0e07b81c62a98eb738ab0105a7af638c
    0x52d26753462488ad21852bc6718e21b84835f53765304d0a1e1b89d05a2a71b1
    0x7eb2ca55b87a4d45d66a63f76db11f9b4aa9106472a62b5865060f9fd8eadaaa
    0x0c53b6af28041049e75c4309f75103e91c270840ef30e55fb59d6ec96291de25
    0x447688b51a35d4de70d062333e29d6f5d603eb260e07fc624330334e216dcae4

/-- The source archive of the tag, with the result and the notes. -/
def tagSource : Members :=
  sourceArchive tagRef (List.replicate 40 0x65) "passed\n"
    0xd24ab6853e2b55a0a62ba91d204e9b4f57301fd53daf714ed057cfcc03960dd6
    0x2700165975f68815c97d605c56eca8e90d497ade1264b6282401d13fee99ac27
    0x59854984853104df5c353e2f681a15fc7924742f9a2e468c29af248dce45ce03
    0x0c58f511198401028c141fca1094703d30f38cea627f6343f1cb89982e9fa80b
    0x9c37edc981e4439295165d9a35316eff251be50dd931c23b2347565ec684d847

theorem source_manifest_exact_documents :
    reencode (replaceSource (memberJson candidateSource sourceManifestName)
        (memberJson tagSource sourceManifestName)
        (documentsOf candidateSource (str "1.0.0") (str "v1.0.0")) tagRef (List.replicate 40 0x65))
      (memberData candidateSource sourceManifestName) =
        some (memberData tagSource sourceManifestName) := by
  have accepted : verifySourcePair candidateSource tagSource (str "siano-ts-1.0.0-source.tar.gz")
      (str "1.0.0") candidateRef tagRef (List.replicate 40 0x64) (List.replicate 40 0x65)
      (str "v1.0.0") = .ok () := by
    decide +kernel
  refine (source_manifest_exact_iff accepted).mpr ?_
  unfold KeepsKinds
  decide +kernel

end SianoUserland.ReleaseSource
