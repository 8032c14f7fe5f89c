import SianoUserland.Lib.JsonDecoder
import SianoUserland.ReleaseNotice

/-! `scripts/release_verify.py`: the comparison of a candidate's binary archive with the one
of the tag. -/
namespace SianoUserland.ReleaseVerify
open Text Check ReleaseNotice

abbrev Fields := List (Str × Json)

/-! ### JSON files -/

/-- What the hooks of the decoder say. The words of the decoder itself are left out. -/
def hookMessage (name : Str) : Json.Invalid → Str
  | .repeatedKey key => str "duplicate JSON key in " ++ name ++ str ": " ++ key
  | .constant value => str "invalid JSON constant in " ++ name ++ str ": " ++ value
  | .malformed => []
  | .budget => []

/-- `parse_json`. -/
def parseJson (data : List UInt8) (name : Str) : Except Failure Fields :=
  match decode data with
  | none => .error (.verification (str "invalid JSON " ++ name ++ str ": "))
  | some text =>
    match Json.loads text with
    | .error invalid =>
      .error (.verification (str "invalid JSON " ++ name ++ str ": " ++ hookMessage name invalid))
    | .ok (.object fields) => .ok fields
    | .ok _ => .error (.verification (name ++ str " must be an object"))

/-- `canonical_json`. -/
def canonicalJson (value : Fields) : Option (List UInt8) := encode (Json.dumps (.object value))

/-- `canonical_json_file`. -/
def canonicalJsonFile (data : List UInt8) (value : Fields) : Bool :=
  (canonicalJson value).any fun canonical => data = canonical || data = canonical ++ [0x0A]

def endsWithNewline (data : List UInt8) : Bool := data.getLast? = some 0x0A

/-- `matching_json_style`. -/
def matchingJsonStyle (before after : List UInt8) (name : Str) : Except Failure Unit :=
  require (endsWithNewline before == endsWithNewline after)
    (str "JSON line ending changed: " ++ name)

/-- `dict[key]`. -/
def item (fields : List (Str × α)) (key : Str) : Except Failure α :=
  match fields.lookup key with
  | some value => .ok value
  | none => .error (.missingKey key)

/-- `compare_json_identity`. -/
def compareJsonIdentity (before after : List UInt8) (name field expected : Str) :
    Except Failure (Fields × Fields) := do
  let old ← parseJson before name
  let new ← parseJson after name
  matchingJsonStyle before after name
  require (canonicalJsonFile before old && canonicalJsonFile after new)
    (str "noncanonical JSON encoding: " ++ name)
  require (!Json.eq (Json.get old field) (Json.get new field) &&
      Json.eq (Json.get new field) (.string expected))
    (str "invalid identity field change: " ++ name ++ str ":" ++ field)
  let value ← item new field
  require (Json.eq (.object (Json.set field value old)) (.object new))
    (str "JSON field changed outside identity: " ++ name)
  return (old, new)

/-! ### Members -/

/-- `Member`. -/
structure Member where
  kind : Str
  mode : Nat
  size : Nat
  digest : Str
  data : Option (List UInt8)
  linkTarget : Option Str := none
  deriving Repr, DecidableEq

abbrev Members := List (Str × Member)

/-- `compare_member_sets`. -/
def compareMemberSets (before after : Members) (allowed : List Str) (archiveName : Str) :
    Except Failure Unit := do
  require (sameSet (before.map Prod.fst) (after.map Prod.fst))
    (str "archive member inventory changed: " ++ archiveName)
  checkEach (fun name => do
    let left ← item before name
    let right ← item after name
    require ((left.kind, left.mode, left.linkTarget) == (right.kind, right.mode, right.linkTarget))
      (str "archive member type/mode/link changed: " ++ archiveName ++ str ":" ++ name)
    if name ∉ allowed then
      require ((left.size, left.digest) == (right.size, right.digest))
        (str "archive payload changed: " ++ archiveName ++ str ":" ++ name)) (before.map Prod.fst)

/-! ### Names -/

/-- `PLATFORMS`. -/
def platforms : List Str :=
  ["linux-x86_64", "linux-aarch64", "darwin-arm64", "android-aarch64", "android-armv7a",
    "android-x86_64", "windows-x64"].map str

/-- `EVIDENCE`. -/
def evidenceNames : List Str :=
  ["evidence/binary-audit.json", "evidence/sianod-binary-audit.json",
    "evidence/sianoctl-binary-audit.json"].map str

def manifestName : Str := str "manifest.json"

def noticeName : Str := str "DEPENDENCY-NOTICE.txt"

/-- The platform of an archive. -/
def platformOf (archiveName : Str) : Option Str :=
  platforms.find? fun value => archiveName.tails.any (str "-" ++ value ++ str ".").isPrefixOf

/-- The zeros of the decimal digits of Unicode, nine others after each. -/
def decimalZeros : List Nat :=
  [0x30, 0x660, 0x6F0, 0x7C0, 0x966, 0x9E6, 0xA66, 0xAE6, 0xB66, 0xBE6, 0xC66, 0xCE6, 0xD66,
    0xDE6, 0xE50, 0xED0, 0xF20, 0x1040, 0x1090, 0x17E0, 0x1810, 0x1946, 0x19D0, 0x1A80, 0x1A90,
    0x1B50, 0x1BB0, 0x1C40, 0x1C50, 0xA620, 0xA8D0, 0xA900, 0xA9D0, 0xA9F0, 0xAA50, 0xABF0,
    0xFF10, 0x104A0, 0x10D30, 0x11066, 0x110F0, 0x11136, 0x111D0, 0x112F0, 0x11450, 0x114D0,
    0x11650, 0x116C0, 0x11730, 0x118E0, 0x11950, 0x11C50, 0x11D50, 0x11DA0, 0x16A60, 0x16AC0,
    0x16B50, 0x1D7CE, 0x1D7D8, 0x1D7E2, 0x1D7EC, 0x1D7F6, 0x1E140, 0x1E2F0, 0x1E950, 0x1FBF0]

/-- `\d`. -/
def isDecimal (point : Nat) : Bool :=
  decimalZeros.any fun first => first ≤ point && point < first + 10

/-- `\d+`, and what follows it. -/
def decimals (text : Str) : Option (Str × Str) :=
  if text.takeWhile isDecimal = [] then none
  else some (text.takeWhile isDecimal, text.dropWhile isDecimal)

def after? (front text : Str) : Option Str :=
  if front.isPrefixOf text then some (text.drop front.length) else none

/-- The group of `siano-ts-(\d+\.\d+\.\d+)-`. -/
def versionOf (archiveName : Str) : Option Str := do
  let (major, rest) ← decimals (← after? (str "siano-ts-") archiveName)
  let (minor, rest) ← decimals (← after? (str ".") rest)
  let (patch, rest) ← decimals (← after? (str ".") rest)
  let _ ← after? (str "-") rest
  return major ++ str "." ++ minor ++ str "." ++ patch

/-- The programs of an archive. -/
def programsOf (platform : Str) : List Str :=
  if platform = str "windows-x64" then ["sianod.exe", "sianoctl.exe", "siano-ts.exe"].map str
  else ["sianod", "sianoctl", "siano-ts"].map str

/-! ### Manifests -/

/-- A record of a file in a manifest names the size and the digest of the member. -/
def recordMatches (record : Json) (member : Member) : Bool :=
  match record with
  | .object fields =>
    sameSet (fields.map Prod.fst) [str "size", str "sha256"] &&
      (match Json.get fields (str "size") with
      | .int size => size = member.size
      | _ => false) &&
      Json.eq (Json.get fields (str "sha256")) (.string member.digest)
  | _ => false

/-- The checks of one file of evidence about one program. -/
def checkEvidence (members : Members) (platform sourceSha : Str) (name program : Str) :
    Except Failure Unit := do
  let member ← item members name
  match member.data with
  | none =>
    .error (.verification (str "binary evidence exceeds metadata limit: " ++ name))
  | some data =>
    let mismatch := str "binary evidence mismatch: " ++ name
    let evidence ← parseJson data name
    require (canonicalJsonFile data evidence) (str "noncanonical binary evidence: " ++ name)
    require (sameSet (evidence.map Prod.fst)
          [str "schema", str "platform", str "source_ref", str "binary"] &&
        Json.eq (Json.get evidence (str "schema")) (.int 2) &&
        Json.eq (Json.get evidence (str "platform")) (.string platform) &&
        Json.eq (Json.get evidence (str "source_ref")) (.string sourceSha)) mismatch
    match Json.get evidence (str "binary") with
    | .object binary =>
      require (sameSet (binary.map Prod.fst) [str "name", str "sha256"] &&
        Json.eq (Json.get binary (str "name")) (.string program)) mismatch
      let built ← item members program
      require (Json.eq (Json.get binary (str "sha256")) (.string built.digest)) mismatch
    | _ => .error (.verification mismatch)

/-- `parse_binary_manifest`. -/
def parseBinaryManifest (members : Members) (archiveName sourceSha : Str) :
    Except Failure Fields := do
  match (members.lookup manifestName).bind Member.data with
  | none => .error (.verification (str "missing manifest.json: " ++ archiveName))
  | some data =>
    let manifest ← parseJson data manifestName
    require (canonicalJsonFile data manifest) (str "noncanonical manifest.json: " ++ archiveName)
    match platformOf archiveName with
    | none => .error (.verification (str "unknown binary archive: " ++ archiveName))
    | some platform =>
      require ((versionOf archiveName).any (fun version =>
            Json.eq (Json.get manifest (str "schema")) (.int 1) &&
            Json.eq (Json.get manifest (str "version")) (.string version)) &&
          Json.eq (Json.get manifest (str "platform")) (.string platform) &&
          Json.eq (Json.get manifest (str "source_ref")) (.string sourceSha))
        (str "binary manifest identity mismatch: " ++ archiveName)
      let programs := programsOf platform
      require (Json.eq (Json.get manifest (str "programs")) (.array (programs.map .string)))
        (str "binary program inventory mismatch: " ++ archiveName)
      match Json.get manifest (str "files") with
      | .object files =>
        require (sameSet (files.map Prod.fst) ((members.map Prod.fst).filter
            fun name => name ≠ manifestName && name ≠ str "SHA256SUMS"))
          (str "manifest file inventory mismatch: " ++ archiveName)
        checkEach (fun (name, record) => do
          let member ← item members name
          require (recordMatches record member)
            (str "manifest record mismatch: " ++ archiveName ++ str ":" ++ name)) files
        require (evidenceNames.all (· ∈ members.map Prod.fst))
          (str "binary evidence missing: " ++ archiveName)
        checkEach (fun (name, program) => checkEvidence members platform sourceSha name program)
          (evidenceNames.zip programs)
        return manifest
      | _ => .error (.verification (str "manifest file inventory mismatch: " ++ archiveName))

/-- `members[name].data or b""`. -/
def memberData (members : Members) (name : Str) : List UInt8 :=
  ((members.lookup name).bind Member.data).getD []

/-- The fields of a value that has been found to be an object. -/
def objectFields : Json → Fields
  | .object fields => fields
  | _ => []

/-- The files of a manifest. -/
def filesOf (manifest : Fields) : Fields := objectFields (Json.get manifest (str "files"))

/-- The files whose records may change. -/
def identityNames : List Str := noticeName :: evidenceNames

/-- The loop of `verify_binary_pair` over the records that may change: the expected files. -/
def expectedFiles (archiveName : Str) (old new : Fields) (files : Fields) :
    List Str → Except Failure Fields
  | [] => .ok files
  | name :: rest => do
    let left ← item old name
    let right ← item new name
    let leftSize ← item (objectFields left) (str "size")
    let rightSize ← item (objectFields right) (str "size")
    require (Json.eq leftSize rightSize)
      (str "binary identity member size changed: " ++ archiveName ++ str ":" ++ name)
    expectedFiles archiveName old new (Json.set name right files) rest

/-- `verify_binary_pair`. -/
def verifyBinaryPair (before after : Members) (archiveName candidateSha tagSha : Str) :
    Except Failure Unit := do
  let allowed := manifestName :: noticeName :: str "SHA256SUMS" :: evidenceNames
  compareMemberSets before after allowed archiveName
  let old ← parseBinaryManifest before archiveName candidateSha
  let new ← parseBinaryManifest after archiveName tagSha
  matchingJsonStyle (memberData before manifestName) (memberData after manifestName)
    (archiveName ++ str ":manifest.json")
  let files ← expectedFiles archiveName (filesOf old) (filesOf new) (filesOf old) identityNames
  let expected := Json.set (str "files") (.object files)
    (Json.set (str "source_ref") (.string tagSha) old)
  require (Json.eq (.object expected) (.object new))
    (str "binary manifest changed outside approved identity: " ++ archiveName)
  let left ← item before noticeName
  let right ← item after noticeName
  require (left.data.isSome && right.data.isSome)
    (str "missing dependency notice: " ++ archiveName)
  let oldNotice ← noticeLines (memberData before noticeName) archiveName
  let newNotice ← noticeLines (memberData after noticeName) archiveName
  require (oldNotice.lookup (some (str "source.ref")) == some candidateSha &&
      newNotice.lookup (some (str "source.ref")) == some tagSha)
    (str "binary dependency notice identity mismatch: " ++ archiveName)
  compareNotice [(str "source.ref", tagSha)] (memberData before noticeName)
    (memberData after noticeName) (archiveName ++ str ":DEPENDENCY-NOTICE.txt")
  checkEach (fun name => do
    let _ ← compareJsonIdentity (memberData before name) (memberData after name)
      (archiveName ++ str ":" ++ name) (str "source_ref") tagSha) evidenceNames
  let changed := (before.map Prod.fst).filter fun name =>
    (before.lookup name).map Member.digest ≠ (after.lookup name).map Member.digest
  require (changed.all (· ∈ allowed)) (str "binary changed outside allowlist: " ++ archiveName)

end SianoUserland.ReleaseVerify
