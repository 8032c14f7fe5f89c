import SianoUserland.AuditArtifact
import SianoUserland.Lib.JsonBytes

/-! `scripts/audit-artifact.py`: what a binary archive holds, its manifest, and the evidence that
binds each program to the platform and the commit it was built for. -/
namespace SianoUserland.AuditManifest
open AuditArtifact (Digest Failure isHex sumsName)
open Check Text

abbrev Fields := List (Str × Json)

/-- The members of an archive with their bytes. -/
abbrev Payloads := List (Str × List UInt8)

/-! ### Pinned inputs -/

def firmwareUrl : Str :=
  str "https://git.kernel.org/pub/scm/linux/kernel/git/firmware/" ++
    str "linux-firmware.git/plain/isdbt_rio.inp?id=" ++
    str "e981caea6ed33c48d25b7dbf473327dbd01df163"

def firmwareSha256 : Str := str "054520642d5d09cb7ab7d08dbd6fd9ba9365de56adf2e7d7d06927f9845ff818"

def firmwareLicenseUrl : Str :=
  str "https://git.kernel.org/pub/scm/linux/kernel/git/firmware/" ++
    str "linux-firmware.git/plain/LICENSES/LICENCE.siano?id=" ++
    str "e981caea6ed33c48d25b7dbf473327dbd01df163"

def firmwareLicenseSha256 : Str :=
  str "cf2b4a0301e028d7357ca84644c5094dec0aa6a4e8f8616426c3d126788a406a"

def libusbVersion : Str := str "1.0.30"

def libusbSourceUrl : Str :=
  str "https://github.com/libusb/libusb/releases/download/v1.0.30/" ++ str "libusb-1.0.30.tar.bz2"

def libusbSourceSha256 : Str :=
  str "fea36f34f9156400209595e300840767ab1a385ede1dc7ee893015aea9c6dbaf"

def windowsLibusbPackageSha256 : Str :=
  str "7fb1dfec805b97983763d7d0ae244320da12add1003d4249c96cc4d586398c79"

/-! ### Platforms -/

/-- `PACKAGE_PLATFORMS`. -/
inductive Platform
  | linuxX86_64
  | linuxAarch64
  | darwinArm64
  | androidAarch64
  | androidArmv7a
  | androidX86_64
  | windowsX64
  deriving Repr, DecidableEq

def Platform.all : List Platform :=
  [.linuxX86_64, .linuxAarch64, .darwinArm64, .androidAarch64, .androidArmv7a, .androidX86_64,
    .windowsX64]

theorem Platform.mem_all (platform : Platform) : platform ∈ Platform.all := by
  cases platform <;> decide

/-- What holds of every platform is decided from the list of them. -/
instance (p : Platform → Prop) [DecidablePred p] : Decidable (∀ platform, p platform) :=
  decidable_of_iff (∀ platform ∈ Platform.all, p platform)
    ⟨fun each platform => each platform platform.mem_all, fun each platform _ => each platform⟩

def Platform.name : Platform → Str
  | .linuxX86_64 => str "linux-x86_64"
  | .linuxAarch64 => str "linux-aarch64"
  | .darwinArm64 => str "darwin-arm64"
  | .androidAarch64 => str "android-aarch64"
  | .androidArmv7a => str "android-armv7a"
  | .androidX86_64 => str "android-x86_64"
  | .windowsX64 => str "windows-x64"

/-- What the names of the platforms begin with. -/
inductive System
  | linux
  | darwin
  | android
  | windows
  deriving Repr, DecidableEq

def Platform.system : Platform → System
  | .linuxX86_64 | .linuxAarch64 => .linux
  | .darwinArm64 => .darwin
  | .androidAarch64 | .androidArmv7a | .androidX86_64 => .android
  | .windowsX64 => .windows

/-- `LINUX_ARCHITECTURES` and `ANDROID_ABI_METADATA`, with the other two. -/
def Platform.architecture : Platform → Str
  | .linuxX86_64 | .androidX86_64 | .windowsX64 => str "x86_64"
  | .linuxAarch64 | .androidAarch64 => str "aarch64"
  | .darwinArm64 => str "arm64"
  | .androidArmv7a => str "armv7a"

/-- `program_names`. -/
def programNames (platform : Platform) : List Str :=
  let suffix := if platform.system = .windows then str ".exe" else []
  [str "sianod", str "sianoctl", str "siano-ts"].map (· ++ suffix)

/-- `removesuffix`. -/
def removeSuffix (suffix text : Str) : Str :=
  if suffix.isSuffixOf text then text.take (text.length - suffix.length) else text

/-- `binary_evidence_name`. -/
def binaryEvidenceName (binary : Str) : Str :=
  let program := removeSuffix (str ".exe") binary
  if program = str "siano-ts" then str "evidence/binary-audit.json"
  else str "evidence/" ++ program ++ str "-binary-audit.json"

def manifestName : Str := str "manifest.json"

/-- `COMMON`. -/
def common : List Str :=
  ["COPYING", "LICENCE.siano", "README.md", "REBUILD.md", "DEPENDENCY-NOTICE.txt",
    "firmware/isdbt_rio.inp", "manifest.json", "SHA256SUMS", "evidence/binary-audit.json"].map str

/-- `LINUX_MDEV` and the keys of `LINUX_RUNTIME_LICENSE_SHA256`. -/
def linuxMembers : List Str :=
  ["mdev/siano-ts-mdev.conf", "mdev/siano-ts-mdev.sh", "mdev/siano-ts-mdev.start",
    "toolchain/gcc-COPYING3", "toolchain/gcc-COPYING.RUNTIME",
    "toolchain/musl-1.2.5-COPYRIGHT"].map str

/-- `expected_members`. -/
def expectedMembers (platform : Platform) : List Str :=
  common ++ programNames platform ++ (programNames platform).map binaryEvidenceName ++
    match platform.system with
    | .linux => ["libusb/COPYING", "evidence/build.properties"].map str ++ linuxMembers
    | .darwin => ["libusb/COPYING", "evidence/build.properties"].map str
    | .android =>
      ["libusb/COPYING", "libusb/libusb-1.0.30.tar.bz2", "evidence/static-link-inventory.tsv",
        "evidence/build.properties", "evidence/ndk/source.properties", "evidence/ndk/NOTICE",
        "evidence/ndk/NOTICE.toolchain", "evidence/sianod-static-link-inventory.tsv",
        "evidence/sianoctl-static-link-inventory.tsv"].map str
    | .windows => ["libusb/COPYING", "libusb/NOTICE.txt", "libusb-1.0.dll"].map str

/-! ### Values -/

/-- What the hooks of the decoder say. The words of the decoder itself are left out. -/
def hookMessage : Json.Invalid → Str
  | .repeatedKey key => str "duplicate JSON key: " ++ key
  | .constant value => str "non-finite JSON constant: " ++ value
  | .malformed => []
  | .budget => []

/-- `parse_json`. -/
def parseJson (data : List UInt8) (name : Str) : Except Failure Json :=
  match Json.decodeBytes data with
  | none => .error (.audit (str "invalid " ++ name ++ str ": "))
  | some text =>
    match Json.loads text with
    | .error invalid =>
      .error (.audit (str "invalid " ++ name ++ str ": " ++ hookMessage invalid))
    | .ok value => .ok value

theorem parseJson_ok_iff {data : List UInt8} {name : Str} {value : Json} :
    parseJson data name = .ok value ↔
      ∃ text, Json.decodeBytes data = some text ∧ Json.loads text = .ok value := by
  unfold parseJson
  cases Json.decodeBytes data with
  | none => simp
  | some text => cases loaded : Json.loads text <;> simp [loaded]

def isDigit (point : Nat) : Bool := 0x30 ≤ point && point ≤ 0x39

/-- `VERSION_RE`. -/
def isVersion (version : Str) : Bool :=
  match version.splitOn 0x2E with
  | [major, minor, patch] => [major, minor, patch].all fun part => part ≠ [] && part.all isDigit
  | _ => false

/-- `SOURCE_REF_RE`. -/
def isSourceRef (sourceRef : Str) : Bool :=
  (sourceRef.length = 40 || sourceRef.length = 64) && sourceRef.all isHex

/-- `validate_version`. -/
def validateVersion (version : Str) : Except Failure Unit :=
  require (isVersion version)
    (.audit (str "version must be strict N.N.N, got " ++ AuditArtifact.repr version))

/-- `validate_source_ref`. -/
def validateSourceRef (sourceRef : Str) : Except Failure Unit :=
  require (isSourceRef sourceRef)
    (.audit (str "source_ref must be a canonical commit ID, got " ++ AuditArtifact.repr sourceRef))

/-- A string, and not another value. -/
def stringOr (failure : Str) : Json → Except Failure Str
  | .string text => .ok text
  | _ => .error (.audit failure)

/-- The entries of a manifest that have to be strings of their own. -/
def checkEntries (manifest : Fields) (message : String) (expected : List (Str × Str)) :
    Except Failure Unit :=
  checkEach (fun (key, value) => require (Json.eq (Json.get manifest key) (.string value))
    (.audit (str message ++ key))) expected

/-! ### The manifest -/

/-- What a manifest says of the build. -/
def expectedMetadata (platform : Platform) : List (Str × Str) :=
  (str "architecture", platform.architecture) ::
    match platform.system with
    | .linux =>
      [(str "libc", str "none"), (str "build_libc", str "musl"), (str "linkage", str "static")]
    | .darwin => [(str "libc", str "darwin"), (str "linkage", str "static")]
    | .android => [(str "linkage", str "static"), (str "libc", str "bionic")]
    | .windows => [(str "linkage", str "dynamic"), (str "libc", str "windows")]

/-- What a manifest says of the firmware. -/
def expectedFirmware : Json :=
  .object [(str "url", .string firmwareUrl), (str "sha256", .string firmwareSha256),
    (str "license_url", .string firmwareLicenseUrl),
    (str "license_sha256", .string firmwareLicenseSha256)]

/-- What every manifest says of libusb. -/
def libusbSource : Fields :=
  [(str "version", .string libusbVersion), (str "source_ref", .string libusbSourceUrl),
    (str "source_sha256", .string libusbSourceSha256)]

/-- The libusb of the manifests of Linux and of macOS. -/
def expectedLibusb : System → Json
  | .linux => .object (libusbSource ++ [(str "linkage", .string (str "static")),
      (str "udev", .string (str "disabled")), (str "backend", .string (str "netlink"))])
  | _ => .object (libusbSource ++ [(str "linkage", .string (str "static")),
      (str "backend", .string (str "darwin"))])

/-- `isinstance(record["size"], int)` for a size that is not negative. -/
def sizeValue : Json → Option Nat
  | .int (.ofNat size) => some size
  | _ => none

variable (sha256 : List UInt8 → Digest)

/-- The checks of one record of a file. -/
def checkRecord (payloads : Payloads) (inventory : Fields) (name : Str) : Except Failure Unit :=
  let invalid := Failure.audit (str "invalid manifest record: " ++ name)
  match Json.get inventory name with
  | .object record =>
    match sizeValue (Json.get record (str "size")), Json.get record (str "sha256") with
    | some size, .string digest => do
      require (sameSet (record.map Prod.fst) [str "size", str "sha256"] && digest.length = 64 &&
        digest.all isHex) invalid
      match payloads.lookup name with
      | none => .error (.missingKey name)
      | some data =>
        require (size = data.length && digest = (sha256 data : Str))
          (.audit (str "manifest record mismatch: " ++ name))
    | _, _ => .error invalid
  | _ => .error invalid

/-- The checks of the platform at the end of `verify_manifest`. -/
def checkLibusb (manifest : Fields) (platform : Platform) : Except Failure Unit :=
  let libusb := Json.get manifest (str "libusb")
  match platform.system with
  | .linux =>
    require (Json.eq libusb (expectedLibusb .linux))
      (.audit (str "manifest Linux libusb provenance/linkage mismatch"))
  | .darwin => do
    checkEntries manifest "macOS manifest metadata mismatch: " (expectedMetadata platform)
    require (Json.eq libusb (expectedLibusb .darwin))
      (.audit (str "manifest macOS libusb provenance/linkage mismatch"))
  | system => do
    checkEntries manifest "manifest metadata mismatch: " (expectedMetadata platform)
    match libusb with
    | .object fields =>
      require (libusbSource.all (fun (key, value) => Json.eq (Json.get fields key) value) &&
          Json.eq (Json.get fields (str "linkage"))
            (.string (str (if system = .android then "static" else "dynamic"))))
        (.audit (str "manifest libusb provenance mismatch"))
      require (system ≠ .windows || Json.eq (Json.get fields (str "package_sha256"))
          (.string windowsLibusbPackageSha256))
        (.audit (str "manifest Windows libusb package provenance mismatch"))
    | _ => .error (.audit (str "manifest libusb provenance mismatch"))

/-- `verify_manifest`. -/
def verifyManifest (payloads : Payloads) (platform : Platform) : Except Failure Fields := do
  let mismatch := Failure.audit (str "manifest schema/platform mismatch")
  match ← parseJson ((payloads.lookup manifestName).getD []) manifestName with
  | .object manifest =>
    require (Json.eq (Json.get manifest (str "schema")) (.int 1) &&
      Json.eq (Json.get manifest (str "platform")) (.string platform.name)) mismatch
    let version ← stringOr (str "manifest version is missing") (Json.get manifest (str "version"))
    validateVersion version
    let sourceRef ← stringOr (str "manifest source_ref is missing")
      (Json.get manifest (str "source_ref"))
    validateSourceRef sourceRef
    if platform.system = .linux then
      checkEntries manifest "Linux static manifest metadata mismatch: " (expectedMetadata platform)
    require (Json.eq (Json.get manifest (str "programs"))
        (.array ((programNames platform).map .string)))
      (.audit (str "manifest program list is wrong"))
    match Json.get manifest (str "files") with
    | .object inventory =>
      let expected := (payloads.map Prod.fst).filter fun name =>
        name ≠ manifestName && name ≠ sumsName
      require (sameSet (inventory.map Prod.fst) expected)
        (.audit (str "manifest files inventory does not match archived payload"))
      checkEach (checkRecord sha256 payloads inventory) (expected.insertionSort (· ≤ ·))
      require (Json.eq (Json.get manifest (str "firmware")) expectedFirmware)
        (.audit (str "manifest firmware provenance mismatch"))
      checkLibusb manifest platform
      return manifest
    | _ => .error (.audit (str "manifest files inventory is missing"))
  | _ => .error mismatch

/-! ### Evidence -/

/-- What the evidence about a program has to say, also the one that `audit_binary` writes. -/
def expectedEvidence (platform sourceRef : Json) (binary : Str) (data : List UInt8) : Fields :=
  [(str "schema", .int 2), (str "platform", platform), (str "source_ref", sourceRef),
    (str "binary", .object [(str "name", .string binary), (str "sha256", .string (sha256 data))])]

/-- `verify_binary_evidence`. -/
def verifyBinaryEvidence (payloads : Payloads) (manifest : Fields) (binary : Str) :
    Except Failure Unit := do
  let name := binaryEvidenceName binary
  let evidence ← parseJson ((payloads.lookup name).getD []) name
  match payloads.lookup binary with
  | none => .error (.missingKey binary)
  | some data =>
    let expected := expectedEvidence sha256 (Json.get manifest (str "platform"))
      (Json.get manifest (str "source_ref")) binary data
    require (Json.eq evidence (.object expected))
      (.audit (str "binary audit evidence is not bound to the archived binary/platform"))

end SianoUserland.AuditManifest
