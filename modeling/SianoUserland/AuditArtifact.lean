import SianoUserland.Lib.Struct
import SianoUserland.Lib.Text

/-! `scripts/audit-artifact.py`: what its checks raise, and the check of an archive's checksums. -/
namespace SianoUserland.AuditArtifact
open Check Struct Text

/-! ### Binaries -/

/-- A check of a binary, which raises `AuditError` with a message. -/
abbrev Audit := Except (Raised Str)

/-- `fail`. -/
def fail (message : String) (subject : Str) : Raised Str := .own (str message ++ subject)

/-! ### Members -/

/-- How a check of members ends early: an `AuditError` with its message, or a key that a dictionary
does not have. -/
inductive Failure
  | audit (message : Str)
  | missingKey (key : Str)
  deriving Repr, DecidableEq

/-- A digit of `%x`. -/
def hexDigit (digit : Nat) : Nat := if digit < 10 then 0x30 + digit else 0x57 + digit

/-- A code point of ASCII inside of a literal. -/
def reprPoint (quote point : Nat) : Str :=
  if point = 0x5C ∨ point = quote then [0x5C, point]
  else if point = 0x09 then str "\\t"
  else if point = 0x0A then str "\\n"
  else if point = 0x0D then str "\\r"
  else if point < 0x20 ∨ point = 0x7F then
    str "\\x" ++ [hexDigit (point / 16), hexDigit (point % 16)]
  else [point]

/-- `repr` of a text of ASCII. -/
def repr (text : Str) : Str :=
  let quote := if 0x27 ∈ text ∧ 0x22 ∉ text then 0x22 else 0x27
  quote :: text.flatMap (reprPoint quote) ++ [quote]

/-- `PurePosixPath(name).parts` of a relative path. -/
def parts (name : Str) : List Str :=
  (name.splitOn 0x2F).filter fun part => part ≠ [] && part ≠ str "."

/-- `safe_member`. -/
def safeMember (name : Str) : Except Failure Unit := do
  require (name ≠ [] && 0x5C ∉ name && name.head? ≠ some 0x2F)
    (.audit (str "unsafe archive member: " ++ repr name))
  require (str ".." ∉ parts name) (.audit (str "unsafe archive member: " ++ repr name))

/-! ### Checksums -/

/-- `[0-9a-f]`. -/
def isHex (point : Nat) : Bool :=
  (0x30 ≤ point && point ≤ 0x39) || (0x61 ≤ point && point ≤ 0x66)

/-- The digest of a byte string as text. -/
abbrev Digest := { text : Str // text.length = 64 ∧ text.all isHex = true }

/-- The groups of the pattern of a checksum line: 64 digits, two blanks and a name of code points
of one kind. -/
def sumLine (allowed : Nat → Bool) (line : Str) : Option (Str × Str) :=
  let digest := line.take 64
  let name := line.drop 66
  if digest.length = 64 ∧ digest.all isHex ∧ (line.drop 64).take 2 = [0x20, 0x20] ∧ name ≠ [] ∧
      name.all allowed then some (digest, name)
  else none

/-- `decode("ascii")`. -/
def decodeAscii (data : List UInt8) : Option Str :=
  if data.all (· < 0x80) then some (data.map UInt8.toNat) else none

def sumsName : Str := str "SHA256SUMS"

/-- The loop over the lines of `verify_checksums`: the entries listed. -/
def readSums : List (Str × Str) → List Str → Except Failure (List (Str × Str))
  | listed, [] => .ok listed
  | listed, line :: rest =>
    if line = [] then readSums listed rest
    else
      match sumLine (fun point => point ≠ 0x0D && point ≠ 0x0A) line with
      | none => .error (.audit (str "invalid SHA256SUMS line: " ++ repr line))
      | some (digest, name) => do
        safeMember name
        require (name ∉ listed.map Prod.fst) (.audit (str "duplicate checksum entry: " ++ name))
        readSums (listed ++ [(name, digest)]) rest

/-- `verify_checksums`. -/
def verifyChecksums (sha256 : List UInt8 → Digest) (payloads : List (Str × List UInt8)) :
    Except Failure Unit :=
  match payloads.lookup sumsName with
  | none => .error (.audit (str "SHA256SUMS is missing"))
  | some sums =>
    match decodeAscii sums with
    | none => .error (.audit (str "SHA256SUMS is not ASCII: "))
    | some text => do
      let listed ← readSums [] (splitlines text)
      require (sameSet (listed.map Prod.fst) ((payloads.map Prod.fst).filter (· ≠ sumsName)))
        (.audit (str "SHA256SUMS must list exactly every other archive member"))
      checkEach (fun entry =>
        match payloads.lookup entry.1 with
        | none => .error (.missingKey entry.1)
        | some data => require (((sha256 data) : Str) = entry.2)
            (.audit (str "checksum mismatch: " ++ entry.1))) listed

end SianoUserland.AuditArtifact
