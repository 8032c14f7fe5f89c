import SianoUserland.Checksums

/-! The writer of checksums and the two verifiers agree about a directory exactly when its files
leave the name of the checksums to them. -/
namespace SianoUserland.ChecksumAgreement
open AuditArtifact (Digest decodeAscii readSums sumsName verifyChecksums)
open Check Checksums Text
open ReleaseVerify (Member item)

/-! ## The verifiers on rows -/

section rows

variable (sha256 : List UInt8 → Digest) {list : List File} {payloads : List (Str × List UInt8)}
  {data : List UInt8}

/-- What a verifier takes from the row of a file. -/
def entry (file : File) : Str × Str := (asPosix file.1, (sha256 file.2 : Str))

/-- The text of `write_checksums`. -/
def sumsText (list : List File) : Str := [0x0A].intercalate (list.map (row sha256)) ++ [0x0A]

theorem entry_names (list : List File) :
    (list.map (entry sha256)).map Prod.fst = list.map fun file => asPosix file.1 := by
  rw [List.map_map]
  rfl

theorem row_ne_nil (file : File) : row sha256 file ≠ [] := by
  intro empty
  have length := congrArg List.length empty
  simp [row] at length

theorem first_fresh {earlier later : List Str} {name : Str}
    (nodup : (earlier ++ name :: later).Nodup) : name ∉ earlier := by
  intro member
  exact (List.nodup_append.mp nodup).2.2 name member name List.mem_cons_self rfl

theorem readSums_rows (nonempty : ∀ file ∈ list, file.1 ≠ []) (listed : List (Str × Str))
    (nodup : (listed.map Prod.fst ++ list.map fun file => asPosix file.1).Nodup) :
    readSums listed (list.map (row sha256)) = .ok (listed ++ list.map (entry sha256)) := by
  induction list generalizing listed with
  | nil => simp [readSums]
  | cons file rest hypothesis =>
    rw [List.forall_mem_cons] at nonempty
    have fresh : asPosix file.1 ∉ listed.map Prod.fst := first_fresh nodup
    have printable : ∀ point ∈ asPosix file.1, (point ≠ 0x0D && point ≠ 0x0A) = true := by
      intro point member
      have inside : point ∈ row sha256 file := List.mem_append_right _ member
      have apart := (row_points sha256 file point inside).2
      rw [Bool.and_eq_true, decide_eq_true_eq, decide_eq_true_eq]
      constructor
      · rintro rfl
        cases apart
      · rintro rfl
        cases apart
    have next := hypothesis nonempty.2 (listed ++ [entry sha256 file])
      (by rwa [List.map_append, List.append_assoc])
    rw [List.map_cons, readSums, if_neg (row_ne_nil sha256 file),
      sumLine_row sha256 file _ nonempty.1 printable]
    simp only [safeMember_asPosix nonempty.1, fresh, not_false_eq_true, decide_true, require]
    exact next.trans (by rw [List.append_assoc]; rfl)

theorem readInnerSums_rows (name : Str) (nonempty : ∀ file ∈ list, file.1 ≠ [])
    (listed : List (Str × Str))
    (nodup : (listed.map Prod.fst ++ list.map fun file => asPosix file.1).Nodup) :
    readInnerSums name listed (list.map (row sha256)) =
      .ok (listed ++ list.map (entry sha256)) := by
  induction list generalizing listed with
  | nil => simp [readInnerSums]
  | cons file rest hypothesis =>
    rw [List.forall_mem_cons] at nonempty
    have fresh : asPosix file.1 ∉ listed.map Prod.fst := first_fresh nodup
    have allowed : ∀ point ∈ asPosix file.1, (isNamePoint point || point == 0x2F) = true := by
      intro point member
      rw [Bool.or_eq_true, beq_iff_eq]
      exact asPosix_points file.1 point member
    have next := hypothesis nonempty.2 (listed ++ [entry sha256 file])
      (by rwa [List.map_append, List.append_assoc])
    rw [List.map_cons, readInnerSums, sumLine_row sha256 file _ nonempty.1 allowed]
    simp only [fresh, not_false_eq_true, decide_true, ReleaseNotice.require, require]
    exact next.trans (by rw [List.append_assoc]; rfl)

theorem sumsText_points (list : List File) : ∀ point ∈ sumsText sha256 list, point < 0x80 := by
  intro point member
  by_cases empty : list = []
  · subst empty
    cases List.mem_singleton.mp member
    decide
  · rw [sumsText, intercalate_append _ (List.map_eq_nil_iff.not.mpr empty), unlines,
      List.mem_flatMap] at member
    obtain ⟨line, listed, inside⟩ := member
    obtain ⟨text, made, rfl⟩ := List.mem_map.mp listed
    obtain ⟨file, -, rfl⟩ := List.mem_map.mp made
    rcases List.mem_append.mp inside with here | feed
    · exact (row_points sha256 file point here).1
    · cases List.mem_singleton.mp feed
      decide

theorem decodeAscii_sumsText (written : encode (sumsText sha256 list) = some data) :
    decodeAscii data = some (sumsText sha256 list) := by
  have ascii := sumsText_points sha256 list
  rw [encode_ascii _ ascii] at written
  cases written
  have small : ((sumsText sha256 list).map UInt8.ofNat).all (· < 0x80) = true := by
    rw [List.all_map, List.all_eq_true]
    intro point member
    have bound := ascii point member
    have limit : (0x80 : UInt8).toNat = 0x80 := rfl
    simp only [Function.comp, decide_eq_true_eq, UInt8.lt_iff_toNat_lt, UInt8.toNat_ofNat', limit]
    omega
  rw [decodeAscii, if_pos small, List.map_map]
  refine congrArg some ((List.map_congr_left ?_).trans (List.map_id _))
  intro point member
  have bound := ascii point member
  simp only [Function.comp, UInt8.toNat_ofNat', id]
  omega

/-- The members of an archive are the files and the checksums, and have the digests of
the files. -/
def Matches (list : List File) (payloads : List (Str × List UInt8)) : Prop :=
  (∀ name, name ∈ list.map (fun file => asPosix file.1) ↔
    name ∈ payloads.map Prod.fst ∧ name ≠ sumsName) ∧
  ∀ file ∈ list, ∀ data, payloads.lookup (asPosix file.1) = some data →
    sha256 data = sha256 file.2

theorem entries_known (same : ∀ name, name ∈ list.map (fun file => asPosix file.1) ↔
    name ∈ payloads.map Prod.fst ∧ name ≠ sumsName) {file : File} (member : file ∈ list) :
    ∃ data, payloads.lookup (asPosix file.1) = some data := by
  have named := ((same _).mp (List.mem_map_of_mem member)).1
  obtain ⟨payload, there, equal⟩ := List.mem_map.mp named
  rw [← Option.isSome_iff_exists, List.lookup_isSome_iff]
  exact ⟨payload, there, by rw [← equal]; exact beq_self_eq_true _⟩

theorem splitlines_sumsText (some : list ≠ []) :
    splitlines (sumsText sha256 list) = list.map (row sha256) := by
  refine splitlines_joined _ (List.map_eq_nil_iff.not.mpr some) ?_
  intro line member point inside
  obtain ⟨file, -, rfl⟩ := List.mem_map.mp member
  exact (row_points sha256 file point inside).2

/-- `verify_checksums` accepts the members that the rows are of. -/
theorem verifyChecksums_iff (nonempty : ∀ file ∈ list, file.1 ≠ [])
    (nodup : (list.map fun file => asPosix file.1).Nodup)
    (written : encode (sumsText sha256 list) = some data)
    (found : payloads.lookup sumsName = some data) :
    verifyChecksums sha256 payloads = .ok () ↔ Matches sha256 list payloads := by
  have listed : readSums [] (splitlines (sumsText sha256 list)) =
      .ok (list.map (entry sha256)) := by
    by_cases empty : list = []
    · subst empty
      rfl
    · rw [splitlines_sumsText sha256 empty, readSums_rows sha256 nonempty [] nodup]
      rfl
  simp only [verifyChecksums, found, decodeAscii_sumsText sha256 written]
  rw [bind_eq_ok_iff]
  simp only [listed, Except.ok.injEq, exists_eq_left', require_bind_eq_ok_iff,
    checkEach_eq_ok_iff, entry_names, sameSet_iff, List.mem_filter, decide_eq_true_eq]
  refine and_congr_right fun same => ?_
  rw [List.forall_mem_map]
  refine forall₂_congr fun file member => ?_
  obtain ⟨original, known⟩ := entries_known same member
  simp only [entry, known, require_eq_ok_iff, Option.some.injEq, forall_eq', Subtype.ext_iff]
  exact decide_eq_true_iff

theorem lookup_readArchive (modes : Str → Nat) (name : Str) :
    (payloads : List (Str × List UInt8)) →
    (readArchive sha256 modes payloads).lookup name =
      (payloads.lookup name).map (readMember sha256 (modes name) name)
  | [] => rfl
  | payload :: rest => by
    have later := lookup_readArchive modes name rest
    rw [readArchive] at later ⊢
    rw [List.map_cons, Json.lookup_first, Json.lookup_first, later]
    by_cases same : name = payload.1
    · rw [if_pos same, if_pos same, same]
      rfl
    · rw [if_neg same, if_neg same]

theorem names_readArchive (modes : Str → Nat) (payloads : List (Str × List UInt8)) :
    (readArchive sha256 modes payloads).map Prod.fst = payloads.map Prod.fst := by
  rw [readArchive, List.map_map]
  rfl

theorem data_readMember_sums (mode : Nat) (data : List UInt8) :
    (readMember sha256 mode sumsName data).data = some data := by
  have kept : sumsName ∈ keepNames := by
    rw [keepNames, List.mem_map]
    exact ⟨"SHA256SUMS", by simp, rfl⟩
  simp only [readMember]
  rw [if_pos (Or.inl kept)]

theorem parseSums_eq_ok_iff {expected : List Str} {name : Str} {result : List (Str × Str)}
    (nonempty : ∀ file ∈ list, file.1 ≠ [])
    (nodup : (list.map fun file => asPosix file.1).Nodup)
    (written : encode (sumsText sha256 list) = some data) :
    parseSums data expected name = .ok result ↔ list ≠ [] ∧
      (∀ name, name ∈ list.map (fun file => asPosix file.1) ↔ name ∈ expected) ∧
      list.map (entry sha256) = result := by
  simp only [parseSums, decodeAscii_sumsText sha256 written]
  by_cases empty : list = []
  · subst empty
    constructor
    · intro accepted
      cases accepted
    · rintro ⟨some, -⟩
      exact absurd rfl some
  · rw [splitlines_sumsText sha256 empty, bind_eq_ok_iff]
    simp only [readInnerSums_rows sha256 _ nonempty [] nodup, Except.ok.injEq, exists_eq_left',
      List.nil_append, ReleaseNotice.require, require_bind_eq_ok_iff, entry_names, sameSet_iff]
    rw [and_iff_right empty]
    exact and_congr_right fun _ => ⟨Except.ok.inj, congrArg Except.ok⟩

/-- `verify_inner_sums` accepts the members that the rows are of when there is a row. -/
theorem verifyInnerSums_iff (modes : Str → Nat) (archiveName : Str)
    (nonempty : ∀ file ∈ list, file.1 ≠ [])
    (nodup : (list.map fun file => asPosix file.1).Nodup)
    (written : encode (sumsText sha256 list) = some data)
    (found : payloads.lookup sumsName = some data) :
    verifyInnerSums (readArchive sha256 modes payloads) archiveName = .ok () ↔
      list ≠ [] ∧ Matches sha256 list payloads := by
  have kept : ((readArchive sha256 modes payloads).lookup sumsName).bind Member.data =
      some data := by
    rw [lookup_readArchive, found]
    exact data_readMember_sums sha256 _ data
  simp only [verifyInnerSums, kept]
  rw [bind_eq_ok_iff]
  simp only [parseSums_eq_ok_iff sha256 nonempty nodup written, names_readArchive,
    List.mem_filter, decide_eq_true_eq, and_assoc, exists_and_left, exists_eq_left',
    checkEach_eq_ok_iff]
  refine and_congr_right fun _ => and_congr_right fun same => ?_
  rw [List.forall_mem_map]
  refine forall₂_congr fun file member => ?_
  obtain ⟨original, known⟩ := entries_known same member
  simp only [entry, item, lookup_readArchive, known, Option.map_some]
  rw [bind_eq_ok_iff]
  simp only [Except.ok.injEq, exists_eq_left', ReleaseNotice.require, require_eq_ok_iff,
    Option.some.injEq, forall_eq', Subtype.ext_iff, readMember]
  exact decide_eq_true_iff

end rows

/-! ## A directory and its archive -/

section agreement

variable (sha256 : List UInt8 → Digest) {stage after : Entries} {file : File}

theorem mem_listedFiles :
    file ∈ listedFiles stage ↔ file ∈ stage.files ∧ baseName file.1 ≠ some sumsName := by
  rw [listedFiles, List.mem_filter, decide_eq_true_eq, sortFiles, List.mem_mergeSort]

theorem names_nodup {list : List File} (distinct : (list.map Prod.fst).Nodup)
    (nonempty : ∀ file ∈ list, file.1 ≠ []) :
    (list.map fun file => asPosix file.1).Nodup := by
  rw [show (fun file : File => asPosix file.1) = asPosix ∘ Prod.fst from rfl, ← List.map_map]
  refine List.Nodup.map_on ?_ distinct
  intro one first other second same
  obtain ⟨file, member, rfl⟩ := List.mem_map.mp first
  obtain ⟨others, among, rfl⟩ := List.mem_map.mp second
  exact asPosix_inj (nonempty file member) (nonempty others among) same

theorem sorted_nodup (distinct : stage.Distinct) :
    ((sortFiles stage.files).map Prod.fst).Nodup :=
  (((List.mergeSort_perm _ _).map Prod.fst).nodup_iff).mpr (stage.files_nodup distinct)

theorem listed_paths : ∀ file ∈ listedFiles stage, file.1 ≠ [] := by
  intro file member
  exact path_ne_nil (mem_listedFiles.mp member).1

theorem listed_nodup (distinct : stage.Distinct) :
    ((listedFiles stage).map fun file => asPosix file.1).Nodup := by
  refine names_nodup ?_ listed_paths
  exact (sorted_nodup distinct).sublist (List.filter_sublist.map Prod.fst)

theorem archive_names (stage : Entries) :
    (archive stage).map Prod.fst = (sortFiles stage.files).map fun file => asPosix file.1 := by
  rw [archive, List.map_map]
  rfl

theorem archive_nodup (distinct : stage.Distinct) : ((archive stage).map Prod.fst).Nodup := by
  rw [archive_names]
  refine names_nodup (sorted_nodup distinct) ?_
  intro file member
  exact path_ne_nil (List.mem_mergeSort.mp member)

theorem mem_archive : (name, data) ∈ archive stage ↔
    ∃ file ∈ stage.files, asPosix file.1 = name ∧ file.2 = data := by
  rw [archive, List.mem_map]
  simp only [sortFiles, List.mem_mergeSort, Prod.mk.injEq]

theorem writeChecksums_eq (stage : Entries) :
    ∃ data, encode (sumsText sha256 (listedFiles stage)) = some data ∧
      writeChecksums sha256 stage = stage.write sums data := by
  have encoded := encode_ascii _ (sumsText_points sha256 (listedFiles stage))
  refine ⟨_, encoded, ?_⟩
  rw [sumsText] at encoded
  rw [writeChecksums, writeText, encoded]
  rfl

theorem lookup_sums (distinct : stage.Distinct) (written : stage.write sums data = .ok after) :
    (archive after).lookup sumsName = some data := by
  have present : (sumsName, data) ∈ archive after :=
    mem_archive.mpr ⟨([sums], data), (files_write stage distinct written _).mpr (Or.inl rfl),
      asPosix_sums, rfl⟩
  exact Json.lookup_of_mem (archive_nodup (distinct_write stage distinct written)) present

/-- The rows are of the members when only the file at the root has the name of the checksums. -/
theorem matches_archive_iff (distinct : stage.Distinct)
    (written : stage.write sums data = .ok after) :
    Matches sha256 (listedFiles stage) (archive after) ↔
      ∀ file ∈ stage.files, baseName file.1 = some sumsName → file.1 = [sums] := by
  have members := files_write stage distinct written
  constructor
  · rintro ⟨names, -⟩ file member named
    by_contra nested
    have archived : (asPosix file.1, file.2) ∈ archive after :=
      mem_archive.mpr ⟨file, (members file).mpr (Or.inr ⟨member, nested⟩), rfl, rfl⟩
    have listed := (names (asPosix file.1)).mpr ⟨List.mem_map_of_mem archived,
      (asPosix_eq_sums_iff (path_ne_nil member)).not.mpr nested⟩
    obtain ⟨other, row, same⟩ := List.mem_map.mp listed
    have path := asPosix_inj (listed_paths other row) (path_ne_nil member) same
    exact (mem_listedFiles.mp row).2 (path ▸ named)
  · intro nested
    have kept : ∀ file ∈ listedFiles stage, file ∈ after.files ∧ file.1 ≠ [sums] := by
      intro file row
      obtain ⟨member, unnamed⟩ := mem_listedFiles.mp row
      have apart : file.1 ≠ [sums] := by
        intro path
        rw [path] at unnamed
        exact unnamed rfl
      exact ⟨(members file).mpr (Or.inr ⟨member, apart⟩), apart⟩
    refine ⟨?_, ?_⟩
    · intro name
      constructor
      · intro listed
        obtain ⟨file, row, rfl⟩ := List.mem_map.mp listed
        obtain ⟨member, apart⟩ := kept file row
        exact ⟨List.mem_map_of_mem (mem_archive.mpr ⟨file, member, rfl, rfl⟩),
          (asPosix_eq_sums_iff (listed_paths file row)).not.mpr apart⟩
      · rintro ⟨archived, other⟩
        obtain ⟨⟨_, bytes⟩, payload, rfl⟩ := List.mem_map.mp archived
        obtain ⟨file, member, rfl, -⟩ := mem_archive.mp payload
        rcases (members file).mp member with rfl | ⟨staged, apart⟩
        · exact absurd asPosix_sums other
        · refine List.mem_map_of_mem (mem_listedFiles.mpr ⟨staged, ?_⟩)
          exact fun named => apart (nested file staged named)
    · intro file row bytes found
      obtain ⟨member, -⟩ := kept file row
      obtain ⟨other, among, same, rfl⟩ := mem_archive.mp (Json.mem_of_lookup found)
      have path := asPosix_inj (path_ne_nil among) (path_ne_nil member) same
      rw [file_ext (distinct_write stage distinct written) among member path]

/-- Both verifiers accept the members of an archive. -/
def Accepted (payloads : List (Str × List UInt8)) : Prop :=
  verifyChecksums sha256 payloads = .ok () ∧ ∀ modes archiveName,
    verifyInnerSums (readArchive sha256 modes payloads) archiveName = .ok ()

/-- Both verifiers reject the members of an archive. -/
def Rejected (payloads : List (Str × List UInt8)) : Prop :=
  verifyChecksums sha256 payloads ≠ .ok () ∧ ∀ modes archiveName,
    verifyInnerSums (readArchive sha256 modes payloads) archiveName ≠ .ok ()

/-- An archive with other bytes in one of its members. -/
def withMember (name : Str) (changed : List UInt8) (payloads : List (Str × List UInt8)) :
    List (Str × List UInt8) :=
  payloads.map fun payload => if payload.1 = name then (name, changed) else payload

/-- The writer and the verifiers agree about a directory: its checksums are written and accepted,
and other bytes in another member are rejected unless they have the digest of the bytes
they replace. -/
def Agrees (stage : Entries) : Prop :=
  ∃ after, writeChecksums sha256 stage = .ok after ∧ Accepted sha256 (archive after) ∧
    ∀ name original changed, (name, original) ∈ archive after → name ≠ sumsName →
      changed ≠ original → (sha256 changed = sha256 original → changed = original) →
      Rejected sha256 (withMember name changed (archive after))

/-- There is a file to list, no file below the root has the name of the checksums, and no directory
at the root has it. -/
structure Plain (stage : Entries) : Prop where
  listed : ∃ file ∈ stage.files, file.1 ≠ [sums]
  nested : ∀ file ∈ stage.files, baseName file.1 = some sumsName → file.1 = [sums]
  root : ∀ inner, stage.find sums ≠ some (.directory inner)

theorem lookup_withMember (name : Str) (changed : List UInt8) (probe : Str) :
    (payloads : List (Str × List UInt8)) →
    (withMember name changed payloads).lookup probe =
      (payloads.lookup probe).map fun data => if probe = name then changed else data
  | [] => rfl
  | payload :: rest => by
    have later := lookup_withMember name changed probe rest
    rw [withMember] at later ⊢
    rw [List.map_cons, Json.lookup_first, Json.lookup_first, later]
    by_cases member : payload.1 = name
    · rw [if_pos member, member]
      by_cases same : probe = name
      · simp [same]
      · simp [same]
    · rw [if_neg member]
      by_cases same : probe = payload.1
      · simp [same, member]
      · simp [same]

/-- Other bytes in a member are not what its row says. -/
theorem not_matches_withMember {list : List File} {payloads : List (Str × List UInt8)} {name : Str}
    {original changed : List UInt8} (agree : Matches sha256 list payloads)
    (found : payloads.lookup name = some original) (other : name ≠ sumsName)
    (differ : sha256 changed ≠ sha256 original) :
    ¬ Matches sha256 list (withMember name changed payloads) := by
  rintro ⟨-, digests⟩
  have present : name ∈ payloads.map Prod.fst := List.mem_map_of_mem (Json.mem_of_lookup found)
  obtain ⟨file, row, rfl⟩ := List.mem_map.mp ((agree.1 name).mpr ⟨present, other⟩)
  have now := digests file row changed (by rw [lookup_withMember, found]; simp)
  exact differ (now.trans (agree.2 file row original found).symm)

theorem listed_ne_nil_iff
    (nested : ∀ file ∈ stage.files, baseName file.1 = some sumsName → file.1 = [sums]) :
    listedFiles stage ≠ [] ↔ ∃ file ∈ stage.files, file.1 ≠ [sums] := by
  rw [← List.isEmpty_eq_false_iff, List.isEmpty_eq_false_iff_exists_mem]
  refine exists_congr fun file => ?_
  rw [mem_listedFiles]
  refine and_congr_right fun member => not_congr ⟨nested file member, ?_⟩
  intro path
  rw [path]
  rfl

/-- What the verifiers accept was written for a plain directory. -/
theorem plain_of_agrees (distinct : stage.Distinct) (agrees : Agrees sha256 stage) :
    Plain stage := by
  obtain ⟨data, encoded, wrote⟩ := writeChecksums_eq sha256 stage
  obtain ⟨after, written, ⟨audited, verified⟩, -⟩ := agrees
  rw [wrote] at written
  have names := listed_nodup distinct
  have found := lookup_sums distinct written
  have agree := (verifyChecksums_iff sha256 listed_paths names encoded found).mp audited
  have nested := (matches_archive_iff sha256 distinct written).mp agree
  have some := (verifyInnerSums_iff sha256 (fun _ => 0) [] listed_paths names encoded found).mp
    (verified _ _)
  exact ⟨(listed_ne_nil_iff nested).mp some.1, nested,
    (write_ok_iff sums data stage).mp ⟨after, written⟩⟩

theorem agrees_of_plain (distinct : stage.Distinct) (plain : Plain stage) :
    Agrees sha256 stage := by
  obtain ⟨data, encoded, wrote⟩ := writeChecksums_eq sha256 stage
  obtain ⟨after, written⟩ := (write_ok_iff sums data stage).mpr plain.root
  have names := listed_nodup distinct
  have found := lookup_sums distinct written
  have agree := (matches_archive_iff sha256 distinct written).mpr plain.nested
  have some := (listed_ne_nil_iff plain.nested).mpr plain.listed
  refine ⟨after, wrote.trans written, ⟨?_, ?_⟩, ?_⟩
  · exact (verifyChecksums_iff sha256 listed_paths names encoded found).mpr agree
  · intro modes archiveName
    exact (verifyInnerSums_iff sha256 modes archiveName listed_paths names encoded found).mpr
      ⟨some, agree⟩
  · intro name original changed archived other altered free
    have held := Json.lookup_of_mem (archive_nodup (distinct_write _ distinct written)) archived
    have kept : (withMember name changed (archive after)).lookup sumsName = Option.some data := by
      rw [lookup_withMember, found, Option.map_some, if_neg (Ne.symm other)]
    have broken := not_matches_withMember sha256 agree held other (mt free altered)
    refine ⟨?_, ?_⟩
    · exact mt (verifyChecksums_iff sha256 listed_paths names encoded kept).mp broken
    · intro modes archiveName accepted
      exact broken ((verifyInnerSums_iff sha256 modes archiveName listed_paths names encoded
        kept).mp accepted).2

/-- **`write_checksums` and the verifiers agree about exactly the plain directories.** The writer
leaves out every file of the name `SHA256SUMS`, the verifiers only the member of that name, so a
file of that name below the root is a member without a row. -/
theorem checksums_agree_iff (stage : Stage) :
    Agrees sha256 stage.entries ↔ Plain stage.entries :=
  ⟨plain_of_agrees sha256 stage.distinct, agrees_of_plain sha256 stage.distinct⟩

end agreement

def repositoryName : Name := ⟨str "repository", by decide +kernel⟩

def versionName : Name := ⟨str "VERSION", by decide +kernel⟩

/-- A staged source tree that has checksums of its own. -/
def nestedSums : Stage where
  entries := .cons repositoryName
    (.directory (.cons versionName (.file [0x31, 0x0A]) (.cons sums (.file []) .nil))) .nil
  distinct := ⟨List.not_mem_nil, ⟨by decide +kernel, trivial, List.not_mem_nil, trivial, trivial⟩,
    trivial⟩
  regular := List.cons_ne_nil _ _

theorem nested_sums_disagree :
    ¬ ∃ sha256 : List UInt8 → Digest, Agrees sha256 nestedSums.entries := by
  rintro ⟨sha256, agrees⟩
  have plain := plain_of_agrees sha256 nestedSums.distinct agrees
  have member : ([repositoryName, sums], []) ∈ nestedSums.entries.files :=
    List.mem_cons_of_mem _ List.mem_cons_self
  have path := plain.nested _ member rfl
  exact absurd (List.cons.inj path).2 (List.cons_ne_nil _ _)

end SianoUserland.ChecksumAgreement
