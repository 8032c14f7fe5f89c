import Mathlib.Data.Rat.Defs
import SianoUserland.Lib.JsonLoads

/-! `docs/release-validation/ts-quality-check.py`: whether the scans of a release capture meet the
limits of a profile, one scan for each receiver. -/
namespace SianoUserland.QualityCheck
open Text
open Json (Value)

variable {Path Key Exception : Type}

/-! ### Profiles -/

inductive TeiOp
  | zero
  | less
  deriving Repr, DecidableEq

inductive CcOp
  | equal
  | less
  deriving Repr, DecidableEq

/-- What a profile asks for. -/
structure Profile where
  product : Str
  pattern : Str
  receivers : List Str
  teiLimitPercent : ℚ
  teiOp : TeiOp
  ccLimit : Nat
  ccOp : CcOp
  distinct : receivers.Nodup := by decide +kernel
  nonempty : receivers ≠ [] := by decide +kernel

inductive ProfileName
  | asicenW3u3Rx03
  | px4Rx05
  | px4Rx6
  | px4Rx7
  | pixDt181
  | pixDt295
  | sianoS1ud
  deriving Repr, DecidableEq

def ProfileName.text : ProfileName → Str
  | .asicenW3u3Rx03 => str "asicen-w3u3-rx0-3"
  | .px4Rx05 => str "px4-rx0-5"
  | .px4Rx6 => str "px4-rx6"
  | .px4Rx7 => str "px4-rx7"
  | .pixDt181 => str "pix-dt181"
  | .pixDt295 => str "pix-dt295"
  | .sianoS1ud => str "siano-s1ud"

/-- `PROFILES`. -/
def profiles : ProfileName → Profile
  | .asicenW3u3Rx03 =>
    { product := str "ASICEN", pattern := str "PX-W3U3 receivers 0-3 simultaneous"
      receivers := ["0", "1", "2", "3"].map str, teiLimitPercent := 0, teiOp := .zero
      ccLimit := 0, ccOp := .equal }
  | .px4Rx05 =>
    { product := str "PX4", pattern := str "PX-Q3U4 receivers 0-5 simultaneous"
      receivers := ["0", "1", "2", "3", "4", "5"].map str, teiLimitPercent := 0, teiOp := .zero
      ccLimit := 0, ccOp := .equal }
  | .px4Rx6 =>
    { product := str "PX4", pattern := str "PX-Q3U4 receiver 6 single"
      receivers := ["6"].map str, teiLimitPercent := 0, teiOp := .zero
      ccLimit := 0, ccOp := .equal }
  | .px4Rx7 =>
    { product := str "PX4", pattern := str "PX-Q3U4 receiver 7 single"
      receivers := ["7"].map str, teiLimitPercent := mkRat 1 2, teiOp := .less
      ccLimit := 40, ccOp := .less }
  | .pixDt181 =>
    { product := str "PIX", pattern := str "PIX-DT181-PU0"
      receivers := ["0"].map str, teiLimitPercent := 0, teiOp := .zero
      ccLimit := 12, ccOp := .less }
  | .pixDt295 =>
    { product := str "PIX", pattern := str "PIX-DT295"
      receivers := ["0"].map str, teiLimitPercent := 0, teiOp := .zero
      ccLimit := 12, ccOp := .less }
  | .sianoS1ud =>
    { product := str "Siano", pattern := str "PX-S1UD receiver 0"
      receivers := ["0"].map str, teiLimitPercent := mkRat 1 1000, teiOp := .less
      ccLimit := 10, ccOp := .less }

/-! ### Scans -/

/-- Why a file is not read: there is none, the system refuses in its words, or an exception that
nothing catches. -/
inductive ReadFailure (Exception : Type)
  | notFound
  | os (words : Str)
  | raised (exception : Exception)

/-- The paths of a platform and the files there. Two paths are equal when they have one key. -/
structure Host (Path Key Exception : Type) where
  path : Str → Path
  text : Path → Str
  key : Path → Key
  resolve : Path → Except Exception Path
  readBytes : Path → Except (ReadFailure Exception) (List UInt8)
  /-- What a limit of the interpreter, such as the depth of its stack or the digits of an integer,
  raises while a text is decoded. -/
  exceeds : Str → Option Exception

/-- What `load_scan` returns of a file. -/
structure Scan where
  packets : Nat
  tei : Nat
  continuityErrors : Nat
  file : Value
  received : 0 < packets
  bounded : tei ≤ packets

/-- `dict.get`. -/
def get (fields : List (Str × Value)) (key : Str) : Value := (fields.lookup key).getD .null

/-- `valid_count`, with the count. A truth value is not one. -/
def validCount : Value → Option Nat
  | .int value => if 0 ≤ value then some value.toNat else none
  | _ => none

/-- The count of a key. -/
def count (fields : List (Str × Value)) (key : Str) : Except Str Nat :=
  match validCount (get fields key) with
  | none => .error (key ++ str " must be a nonnegative integer")
  | some value => .ok value

/-- The checks of `load_scan`. -/
def checkScan (fields : List (Str × Value)) : Except Str Scan := do
  let packets ← count fields (str "packets")
  let tei ← count fields (str "tei")
  let continuityErrors ← count fields (str "continuity_errors")
  if zero : packets = 0 then .error (str "packet count is zero")
  else if exceeds : packets < tei then .error (str "TEI count exceeds packet count")
  else .ok { packets, tei, continuityErrors, file := get fields (str "file")
             received := Nat.pos_of_ne_zero zero, bounded := Nat.not_lt.mp exceeds }

/-- The text of a file, by the mark it begins with. -/
def decodeScan (data : List UInt8) : Option Str :=
  if [0xFF, 0xFE].isPrefixOf data then decodeUtf16 true (data.drop 2)
  else if [0xFE, 0xFF].isPrefixOf data then decodeUtf16 false (data.drop 2)
  else if [0xEF, 0xBB, 0xBF].isPrefixOf data then decode (data.drop 3)
  else decode data

/-- `load_scan` of the text of a file. The words of the decoders are left out. -/
def readScan (text : Str) : Except Str Scan :=
  match Json.loadsWith Json.plain text with
  | .error _ => .error (str "unreadable scan JSON: ")
  | .ok (.object fields) => checkScan fields
  | .ok _ => .error (str "scan JSON must be an object")

/-- `load_scan`. -/
def loadScan (host : Host Path Key Exception) (path : Path) : Except Exception (Except Str Scan) :=
  match host.readBytes path with
  | .error .notFound => .ok (.error (str "missing scan JSON"))
  | .error (.os words) => .ok (.error (str "unreadable scan JSON: " ++ words))
  | .error (.raised exception) => .error exception
  | .ok data =>
    match decodeScan data with
    | none => .ok (.error (str "unreadable scan JSON: "))
    | some text =>
      match host.exceeds text with
      | some exception => .error exception
      | none => .ok (readScan text)

/-! ### The displayed rate -/

/-- A decimal number: a coefficient and the exponent of its last digit. -/
structure DecimalNumber where
  coefficient : Nat
  exponent : Int
  deriving Repr, DecidableEq

/-- Zeros are taken off a coefficient while it has decimals. -/
def stripZeros : Nat → Nat → DecimalNumber
  | coefficient, 0 => ⟨coefficient, 0⟩
  | coefficient, decimals + 1 =>
    if coefficient % 10 = 0 then stripZeros (coefficient / 10) decimals
    else ⟨coefficient, -(decimals + 1)⟩

/-- A number to a precision, halfway to the even digit. -/
def fix (precision : Nat) (number : DecimalNumber) : DecimalNumber :=
  let excess := (Float64.digits number.coefficient).length - precision
  if excess = 0 then number
  else
    let rounded := Float64.roundHalfEven number.coefficient (10 ^ excess)
    if precision < (Float64.digits rounded).length then
      ⟨rounded / 10, number.exponent + excess + 1⟩
    else ⟨rounded, number.exponent + excess⟩

/-- `Decimal(dividend) / Decimal(divisor)`: one digit more than the precision, made odd where
the quotient is not exact, and then rounded. -/
def divide (precision dividend divisor : Nat) : DecimalNumber :=
  if dividend = 0 then ⟨0, 0⟩
  else
    let shift : Int := (Float64.digits divisor).length - (Float64.digits dividend).length +
      precision + 1
    let numerator := dividend * 10 ^ shift.toNat
    let denominator := divisor * 10 ^ (-shift).toNat
    let quotient := numerator / denominator
    if numerator % denominator = 0 then
      if shift < 0 then fix precision ⟨quotient, -shift⟩
      else fix precision (stripZeros quotient shift.toNat)
    else fix precision ⟨if quotient % 5 = 0 then quotient + 1 else quotient, -shift⟩

/-- `str` of a number, without an exponent down to six zeros after the point. -/
def DecimalNumber.text (number : DecimalNumber) : Str :=
  let digits := Float64.digits number.coefficient
  let left : Int := number.exponent + digits.length
  let place : Int := if number.exponent ≤ 0 ∧ -6 < left then left else 1
  let mantissa :=
    if place ≤ 0 then str "0." ++ List.replicate (-place).toNat 0x30 ++ digits
    else if digits.length ≤ place then
      digits ++ List.replicate (place.toNat - digits.length) 0x30
    else digits.take place.toNat ++ str "." ++ digits.drop place.toNat
  let exponent := left - place
  if exponent = 0 then mantissa
  else mantissa ++ str "E" ++ (if exponent < 0 then str "-" else str "+") ++
    Float64.digits exponent.natAbs

/-! ### Evaluation -/

inductive Outcome
  | pass
  | fail
  deriving Repr, DecidableEq

def Outcome.of (passed : Bool) : Outcome := if passed then .pass else .fail

/-- What `evaluate_scan` returns. -/
structure Evaluation where
  input : Str
  receiver : Str
  scanFile : Value
  packets : Nat
  tei : Nat
  teiRatePercentDisplayOnly : Str
  teiRule : Str
  teiResult : Outcome
  continuityErrorsTeiNullExcluded : Nat
  ccRule : Str
  ccResult : Outcome
  automatedResult : Outcome

/-- The rule for the packets with an error, and its text. -/
def teiCheck (profile : Profile) (scan : Scan) : Bool × Str :=
  match profile.teiOp with
  | .zero => (scan.tei = 0, str "TEI == 0")
  | .less =>
    let limit := profile.teiLimitPercent
    ((scan.tei * 100 * limit.den : Int) < scan.packets * limit.num,
      str "TEI * 100 * " ++ Float64.digits limit.den ++ str " < packets * " ++
        Json.reprInt limit.num)

/-- The rule for the continuity errors, and its text. -/
def ccCheck (profile : Profile) (scan : Scan) : Bool × Str :=
  match profile.ccOp with
  | .equal =>
    (scan.continuityErrors = profile.ccLimit, str "CC == " ++ Float64.digits profile.ccLimit)
  | .less =>
    (scan.continuityErrors < profile.ccLimit, str "CC < " ++ Float64.digits profile.ccLimit)

/-- `evaluate_scan`. -/
def evaluateScan (input receiver : Str) (scan : Scan) (profile : Profile) : Evaluation :=
  let tei := teiCheck profile scan
  let cc := ccCheck profile scan
  { input, receiver, scanFile := scan.file, packets := scan.packets, tei := scan.tei
    teiRatePercentDisplayOnly := (divide 24 (scan.tei * 100) scan.packets).text
    teiRule := tei.2, teiResult := .of tei.1
    continuityErrorsTeiNullExcluded := scan.continuityErrors
    ccRule := cc.2, ccResult := .of cc.1, automatedResult := .of (tei.1 && cc.1) }

/-! ### The run -/

/-- An entry of `results`. -/
inductive Result
  | failed (input receiver : Str) (scanFile : Option Str) (error : Str)
  | evaluated (evaluation : Evaluation)

def Result.automatedResult : Result → Outcome
  | .failed _ _ _ _ => .fail
  | .evaluated evaluation => evaluation.automatedResult

/-- `CC_DEFINITION`. -/
def ccDefinition : Str :=
  str "tei_null_excluded: adopted Siano ts-check.py continuity_errors; TEI packets and null PID " ++
  str "are excluded, per-PID payload CC advances modulo 16, adaptation-only retains CC, " ++
  str "discontinuity starts a new comparison epoch, and one byte-equivalent adjacent duplicate " ++
  str "payload pair (PCR timestamp excepted) is tolerated."

/-- What `run` returns. -/
structure Report where
  schema : Str := str "release-ts-quality-v1"
  product : Str
  profile : Str
  pattern : Str
  environment : Str
  scope : Str := str "tei_cc_numeric_only"
  captureSecondsRequired : Nat := 300
  captureConditionsVerifiedByTool : Bool := false
  t15Overall : Str := str "not_determined_by_tool"
  ccDefinition : Str := ccDefinition
  teiRateLimitPercent : Str
  ccLimit : Nat
  ccComparison : Str
  results : List Result
  inputErrors : List Str
  automatedResult : Outcome
  humanDecision : Option Outcome := none

/-- An input: its label, its path and what is wrong with it. -/
structure Input where
  receiver : Str
  path : Str
  errors : List Str

/-- The first loop of `run` on an input. -/
def parseInput (profile : Profile) (value : Str) : Input :=
  if 0x3D ∈ value then
    ⟨value.takeWhile (· ≠ 0x3D), (value.dropWhile (· ≠ 0x3D)).drop 1, []⟩
  else
    match profile.receivers with
    | [only] => ⟨only, value, []⟩
    | _ => ⟨[], value, [str "receiver label required for " ++ value]⟩

/-- What the second loop of `run` has seen. -/
structure Seen (Key : Type) where
  receivers : List Str
  paths : List Key
  errors : List Str

section run

variable [DecidableEq Key] (host : Host Path Key Exception) (profile : Profile)

/-- The second loop of `run` on an input. -/
def checkInput (seen : Seen Key) (input : Str × Path) : Except Exception (Seen Key) := do
  let (receiver, path) := input
  let resolved ← host.resolve path
  let repeated := if receiver ∈ seen.receivers then [str "duplicate receiver: " ++ receiver] else []
  let unexpected :=
    if receiver ∈ profile.receivers then []
    else [str "unexpected receiver: " ++ if receiver = [] then str "(missing)" else receiver]
  let again :=
    if host.key resolved ∈ seen.paths then [str "duplicate input path: " ++ host.text resolved]
    else []
  return { receivers := seen.receivers ++ [receiver], paths := seen.paths ++ [host.key resolved]
           errors := seen.errors ++ repeated ++ unexpected ++ again }

/-- `missing_receivers`. -/
def missingReceivers (seen : List Str) : List Str :=
  (profile.receivers.filter (· ∉ seen)).insertionSort (· ≤ ·)

/-- What the third loop of `run` has made. -/
structure Evaluated where
  files : List Str
  errors : List Str
  results : List Result

/-- The third loop of `run` on an input. -/
def evaluateInput (state : Evaluated) (input : Str × Path) : Except Exception Evaluated := do
  let (receiver, path) := input
  match ← loadScan host path with
  | .error error =>
    let result := Result.failed (host.text path) receiver none error
    return { state with results := state.results ++ [result] }
  | .ok scan =>
    let result := Result.evaluated (evaluateScan (host.text path) receiver scan profile)
    match scan.file with
    | .string file =>
      if file ∈ state.files then
        let result := Result.failed (host.text path) receiver (some file)
          (str "duplicate scan file")
        return { state with errors := state.errors ++ [str "duplicate scan file: " ++ file]
                            results := state.results ++ [result] }
      else
        return { state with files := state.files ++ [file], results := state.results ++ [result] }
    | _ => return { state with results := state.results ++ [result] }

/-- `run`. -/
def run (name : ProfileName) (environment : Str) (inputs : List Str) :
    Except Exception Report := do
  let profile := profiles name
  let parsed := inputs.map (parseInput profile)
  let parsedInputs := parsed.map fun input => (input.receiver, host.path input.path)
  let seen ← parsedInputs.foldlM (checkInput host profile) ⟨[], [], parsed.flatMap Input.errors⟩
  let missing := missingReceivers profile seen.receivers
  let errors := if missing = [] then seen.errors
    else seen.errors ++ [str "missing receivers: " ++ [0x2C].intercalate missing]
  let last ← parsedInputs.foldlM (evaluateInput host profile) ⟨[], errors, []⟩
  let passed := last.results ≠ [] && last.errors = [] &&
    last.results.all fun result => result.automatedResult = .pass
  let limit := profile.teiLimitPercent
  return { product := profile.product, profile := name.text, pattern := profile.pattern, environment
           teiRateLimitPercent := Json.reprInt limit.num ++ str "/" ++ Float64.digits limit.den
           ccLimit := profile.ccLimit
           ccComparison := if profile.ccOp = .equal then str "==" else str "<"
           results := last.results, inputErrors := last.errors
           automatedResult := .of passed }

end run

end SianoUserland.QualityCheck
