import Mathlib.Algebra.Order.Field.Rat
import SianoUserland.Lib.Split
import SianoUserland.QualityCheck

/-! What the verdict of `ts-quality-check.py` means: the inputs that a run reports a pass for. -/
namespace SianoUserland.QualityGate
open Check QualityCheck Text
open Json (Value)

variable {Path Key Exception : Type}

/-! ### What passes -/

/-- An input stands for a receiver and a path: the two sides of its first equals sign, or the sole
receiver of a profile and the whole of it. -/
def Labelled (profile : Profile) (value receiver path : Str) : Prop :=
  (value = receiver ++ 0x3D :: path ∧ 0x3D ∉ receiver) ∨
    (0x3D ∉ value ∧ profile.receivers = [receiver] ∧ path = value)

/-- The file at a path holds an object with the counts of a scan, each of them an integer. -/
def Loads (host : Host Path Key Exception) (path : Path) (scan : Scan) : Prop :=
  ∃ data text fields, host.readBytes path = .ok data ∧ decodeScan data = some text ∧
    host.exceeds text = none ∧ Json.loadsWith Json.plain text = .ok (.object fields) ∧
    fields.lookup (str "packets") = some (.int scan.packets) ∧
    fields.lookup (str "tei") = some (.int scan.tei) ∧
    fields.lookup (str "continuity_errors") = some (.int scan.continuityErrors) ∧
    QualityCheck.get fields (str "file") = scan.file

/-- The share of packets with an error, in percent. -/
def teiRate (scan : Scan) : ℚ := scan.tei * 100 / scan.packets

/-- A scan is within the limits of a profile. -/
def Meets (profile : Profile) (scan : Scan) : Prop :=
  (match profile.teiOp with
    | .zero => teiRate scan = 0
    | .less => teiRate scan < profile.teiLimitPercent) ∧
  (match profile.ccOp with
    | .equal => scan.continuityErrors = profile.ccLimit
    | .less => scan.continuityErrors < profile.ccLimit)

/-- Two scans are not of one file by name. -/
def OtherFile (one other : Scan) : Prop :=
  ∀ file, one.file = .string file → other.file ≠ .string file

/-- Inputs that a profile accepts: one for each of its receivers, with paths of their own and scans
of files of their own that are within the limits. -/
structure Acceptable (host : Host Path Key Exception) (profile : Profile) (inputs : List Str) :
    Prop where
  receivers : ∃ labels,
    List.Forall₂ (fun value label => ∃ path, Labelled profile value label path) inputs labels ∧
      labels.Perm profile.receivers
  paths : ∃ resolved,
    List.Forall₂ (fun value path => ∃ receiver text, Labelled profile value receiver text ∧
      host.resolve (host.path text) = .ok path) inputs resolved ∧
      (resolved.map host.key).Nodup
  scans : ∃ scans,
    List.Forall₂ (fun value scan => ∃ receiver text, Labelled profile value receiver text ∧
      Loads host (host.path text) scan) inputs scans ∧
      scans.Pairwise OtherFile ∧ ∀ scan ∈ scans, Meets profile scan

/-! ### What a file says -/

/-- A byte order mark, which tells how the text behind it is encoded. -/
inductive Mark
  | none
  | utf8
  | utf16 (little : Bool)

def Mark.bytes : Mark → List UInt8
  | .none => []
  | .utf8 => [0xEF, 0xBB, 0xBF]
  | .utf16 true => [0xFF, 0xFE]
  | .utf16 false => [0xFE, 0xFF]

def Mark.encode : Mark → Str → Option (List UInt8)
  | .none, text | .utf8, text => Text.encode text
  | .utf16 little, text => encodeUtf16 little text

/-- **A text is read in the encoding of its mark.** Without one it is UTF-8, and does not begin
with what would be read as a mark. -/
theorem decodeScan_marked {mark : Mark} {text : Str} {data : List UInt8}
    (encoded : mark.encode text = some data) (apart : mark = .none → text.head? ≠ some 0xFEFF) :
    decodeScan (mark.bytes ++ data) = some text := by
  cases mark with
  | none =>
    have decoded := decode_encode text data encoded
    -- A text in UTF-8 does not begin with the bytes of another mark.
    have big : ¬ [0xFE, 0xFF] <+: data := by
      rintro ⟨rest, rfl⟩
      cases decoded.symm.trans (decode_stray 0xFE 0xFF rest (by decide) (by decide))
    have little : ¬ [0xFF, 0xFE] <+: data := by
      rintro ⟨rest, rfl⟩
      cases decoded.symm.trans (decode_stray 0xFF 0xFE rest (by decide) (by decide))
    have same : ¬ [0xEF, 0xBB, 0xBF] <+: data := by
      rintro ⟨rest, rfl⟩
      have point : encodePoint 0xFEFF = some [0xEF, 0xBB, 0xBF] := by decide
      rw [decode_encodePoint _ _ rest point] at decoded
      obtain ⟨later, -, rfl⟩ := Option.map_eq_some_iff.mp decoded
      exact apart rfl rfl
    simp only [← List.isPrefixOf_iff_prefix] at big little same
    rw [Mark.bytes, List.nil_append, decodeScan, if_neg little, if_neg big, if_neg same, decoded]
  | utf8 =>
    simp [decodeScan, Mark.bytes, List.isPrefixOf, decode_encode text data encoded]
  | utf16 little =>
    have decoded := decodeUtf16_encodeUtf16 little text data encoded
    cases little with
    | true => simp [decodeScan, Mark.bytes, List.isPrefixOf, decoded]
    | false => simp [decodeScan, Mark.bytes, List.isPrefixOf, decoded]

/-! ### The steps of a run -/

theorem labelled_iff {profile : Profile} {value receiver path : Str} :
    Labelled profile value receiver path ↔ parseInput profile value = ⟨receiver, path, []⟩ := by
  unfold Labelled parseInput
  by_cases labelled : 0x3D ∈ value
  · obtain ⟨before, after, rfl, apart⟩ := List.eq_append_cons_of_mem labelled
    rw [if_pos labelled, Split.takeWhile_first apart, Split.dropWhile_first apart]
    simp only [labelled, not_true_eq_false, false_and, or_false, Input.mk.injEq, and_true,
      List.drop_one, List.tail_cons]
    constructor
    · rintro ⟨same, other⟩
      have receivers := congrArg (List.takeWhile (· ≠ 0x3D)) same
      rw [Split.takeWhile_first apart, Split.takeWhile_first other] at receivers
      subst receivers
      exact ⟨rfl, (List.cons.inj (List.append_cancel_left same)).2⟩
    · rintro ⟨rfl, rfl⟩
      exact ⟨rfl, apart⟩
  · rw [if_neg labelled]
    have unsplit : ¬ (value = receiver ++ 0x3D :: path ∧ 0x3D ∉ receiver) := by
      rintro ⟨rfl, -⟩
      exact labelled (by simp)
    rw [or_iff_right unsplit, and_iff_right labelled]
    split
    · next only shape =>
      simp [shape, eq_comm]
    · next several =>
      constructor
      · rintro ⟨sole, -⟩
        exact absurd sole (several receiver)
      · intro same
        cases congrArg Input.errors same

theorem validCount_eq_some_iff {value : Value} {count : Nat} :
    validCount value = some count ↔ value = .int count := by
  cases value with
  | int number =>
    simp only [validCount, Value.int.injEq]
    split
    · next nonnegative =>
      rw [Option.some_inj]
      omega
    · next negative =>
      constructor
      · nofun
      · omega
  | null | bool _ | float _ | nan | string _ | array _ | object _ => simp [validCount]

theorem get_eq_int_iff {fields : List (Str × Value)} {key : Str} {value : Int} :
    QualityCheck.get fields key = .int value ↔ fields.lookup key = some (.int value) := by
  unfold QualityCheck.get
  cases fields.lookup key <;> simp

theorem count_eq_ok_iff {fields : List (Str × Value)} {key : Str} {value : Nat} :
    count fields key = .ok value ↔ fields.lookup key = some (.int value) := by
  rw [← get_eq_int_iff, ← validCount_eq_some_iff, count]
  cases validCount (QualityCheck.get fields key) <;> simp

theorem checkScan_eq_ok_iff {fields : List (Str × Value)} {scan : Scan} :
    checkScan fields = .ok scan ↔
      fields.lookup (str "packets") = some (.int scan.packets) ∧
      fields.lookup (str "tei") = some (.int scan.tei) ∧
      fields.lookup (str "continuity_errors") = some (.int scan.continuityErrors) ∧
      QualityCheck.get fields (str "file") = scan.file := by
  constructor
  · intro checked
    obtain ⟨packets, first, checked⟩ := bind_eq_ok_iff.mp checked
    obtain ⟨tei, second, checked⟩ := bind_eq_ok_iff.mp checked
    obtain ⟨errors, third, checked⟩ := bind_eq_ok_iff.mp checked
    split at checked
    · cases checked
    · split at checked
      · cases checked
      · cases checked
        exact ⟨count_eq_ok_iff.mp first, count_eq_ok_iff.mp second, count_eq_ok_iff.mp third, rfl⟩
  · rintro ⟨packets, tei, errors, file⟩
    refine bind_eq_ok_iff.mpr ⟨scan.packets, count_eq_ok_iff.mpr packets, ?_⟩
    refine bind_eq_ok_iff.mpr ⟨scan.tei, count_eq_ok_iff.mpr tei, ?_⟩
    refine bind_eq_ok_iff.mpr ⟨scan.continuityErrors, count_eq_ok_iff.mpr errors, ?_⟩
    rw [dif_neg (Nat.pos_iff_ne_zero.mp scan.received), dif_neg (Nat.not_lt.mpr scan.bounded)]
    simp only [file]

theorem loads_iff {host : Host Path Key Exception} {path : Path} {scan : Scan} :
    Loads host path scan ↔ loadScan host path = .ok (.ok scan) := by
  constructor
  · rintro ⟨data, text, fields, read, decoded, within, loaded, counts⟩
    simp only [loadScan, read, decoded, within, readScan, loaded, checkScan_eq_ok_iff.mpr counts]
  · intro loaded
    unfold loadScan at loaded
    split at loaded
    · cases loaded
    · cases loaded
    · cases loaded
    · next data read =>
      split at loaded
      · cases loaded
      · next text decoded =>
        split at loaded
        · cases loaded
        · next within =>
          have scanned : readScan text = .ok scan := Except.ok.inj loaded
          unfold readScan at scanned
          split at scanned
          · cases scanned
          · next fields object =>
            exact ⟨data, text, fields, read, decoded, within, object,
              checkScan_eq_ok_iff.mp scanned⟩
          · cases scanned

theorem Outcome.of_eq_pass_iff {passed : Bool} : Outcome.of passed = .pass ↔ passed = true := by
  cases passed <;> simp [Outcome.of]

/-- The products that are compared are those of the rate and the limit. -/
theorem teiCheck_iff {profile : Profile} {scan : Scan} :
    (teiCheck profile scan).1 = true ↔
      match profile.teiOp with
      | .zero => teiRate scan = 0
      | .less => teiRate scan < profile.teiLimitPercent := by
  have packets : (0 : ℚ) < scan.packets := Nat.cast_pos.mpr scan.received
  unfold teiCheck teiRate
  cases profile.teiOp with
  | zero => simp [packets.ne']
  | less =>
    obtain ⟨limit, form⟩ : ∃ limit, limit = profile.teiLimitPercent := ⟨_, rfl⟩
    have denominator : (0 : ℚ) < limit.den := Nat.cast_pos.mpr limit.den_pos
    have scaled : (scan.tei * 100 / scan.packets : ℚ) < limit ↔
        (scan.tei * 100 * limit.den : ℚ) < scan.packets * limit.num := by
      nth_rewrite 1 [← limit.num_div_den]
      rw [div_lt_div_iff₀ packets denominator, mul_comm (limit.num : ℚ)]
    simp only [← form, decide_eq_true_eq]
    rw [scaled]
    exact_mod_cast Iff.rfl

example :
    (teiCheck (profiles .sianoS1ud) ⟨100001, 1, 0, .null, by decide, by decide⟩).1 = true ∧
    (teiCheck (profiles .sianoS1ud) ⟨100000, 1, 0, .null, by decide, by decide⟩).1 = false := by
  decide +kernel

theorem ccCheck_iff {profile : Profile} {scan : Scan} :
    (ccCheck profile scan).1 = true ↔
      match profile.ccOp with
      | .equal => scan.continuityErrors = profile.ccLimit
      | .less => scan.continuityErrors < profile.ccLimit := by
  unfold ccCheck
  cases profile.ccOp <;> simp

theorem automatedResult_eq_pass_iff {input receiver : Str} {scan : Scan} {profile : Profile} :
    (evaluateScan input receiver scan profile).automatedResult = .pass ↔ Meets profile scan := by
  simp only [evaluateScan]
  rw [Outcome.of_eq_pass_iff, Bool.and_eq_true, teiCheck_iff, ccCheck_iff]
  exact Iff.rfl

/-! ### The loops of a run -/

/-- Entries that differ from each other and from earlier ones. -/
def Fresh (earlier list : List α) : Prop := list.Nodup ∧ ∀ entry ∈ list, entry ∉ earlier

theorem fresh_nil_iff {list : List α} : Fresh [] list ↔ list.Nodup := by
  simp [Fresh]

theorem fresh_cons_iff {earlier rest : List α} {first : α} :
    Fresh earlier (first :: rest) ↔ first ∉ earlier ∧ Fresh (earlier ++ [first]) rest := by
  simp only [Fresh, List.nodup_cons, List.forall_mem_cons, List.mem_append, List.mem_singleton,
    not_or]
  constructor
  · rintro ⟨⟨apart, nodup⟩, first, others⟩
    refine ⟨first, nodup, ?_⟩
    intro entry member
    refine ⟨others entry member, ?_⟩
    rintro rfl
    exact apart member
  · rintro ⟨first, nodup, others⟩
    exact ⟨⟨fun member => (others _ member).2 rfl, nodup⟩, first,
      fun entry member => (others entry member).1⟩

section loops

variable [DecidableEq Key] {host : Host Path Key Exception} {profile : Profile}

/-- An input that nothing is wrong with, after others that nothing is wrong with. -/
theorem checkInput_clean_iff {seen next : Seen Key} {input : Str × Path} :
    (checkInput host profile seen input = .ok next ∧ next.errors = []) ↔
      seen.errors = [] ∧ ∃ resolved, host.resolve input.2 = .ok resolved ∧
        input.1 ∉ seen.receivers ∧ input.1 ∈ profile.receivers ∧
        host.key resolved ∉ seen.paths ∧
        next = ⟨seen.receivers ++ [input.1], seen.paths ++ [host.key resolved], []⟩ := by
  obtain ⟨receiver, path⟩ := input
  constructor
  · rintro ⟨checked, clean⟩
    obtain ⟨resolved, found, returned⟩ := bind_eq_ok_iff.mp checked
    cases returned
    simp only [List.append_eq_nil_iff] at clean
    obtain ⟨⟨⟨earlier, repeated⟩, unexpected⟩, again⟩ := clean
    have fresh : receiver ∉ seen.receivers := by simpa using repeated
    have expected : receiver ∈ profile.receivers := by simpa using unexpected
    have apart : host.key resolved ∉ seen.paths := by simpa using again
    exact ⟨earlier, resolved, found, fresh, expected, apart,
      by simp [earlier, fresh, expected, apart]⟩
  · rintro ⟨earlier, resolved, found, fresh, expected, apart, rfl⟩
    refine ⟨bind_eq_ok_iff.mpr ⟨resolved, found, ?_⟩, rfl⟩
    simp [earlier, fresh, expected, apart, pure, Except.pure]

/-- The second loop finds nothing wrong when the receivers are expected and the receivers and
the paths are new. -/
theorem checkInputs_clean_iff {inputs : List (Str × Path)} {seen after : Seen Key} :
    (inputs.foldlM (checkInput host profile) seen = .ok after ∧ after.errors = []) ↔
      seen.errors = [] ∧ ∃ resolved,
        List.Forall₂ (fun input path => host.resolve input.2 = .ok path) inputs resolved ∧
        Fresh seen.receivers (inputs.map Prod.fst) ∧
        (∀ input ∈ inputs, input.1 ∈ profile.receivers) ∧
        Fresh seen.paths (resolved.map host.key) ∧
        after =
          ⟨seen.receivers ++ inputs.map Prod.fst, seen.paths ++ resolved.map host.key, []⟩ := by
  induction inputs generalizing seen with
  | nil =>
    constructor
    · rintro ⟨returned, clean⟩
      cases returned
      refine ⟨clean, [], .nil, ?_, nofun, ?_, ?_⟩
      · simp [Fresh]
      · simp [Fresh]
      · cases after
        cases clean
        simp
    · rintro ⟨clean, resolved, found, -, -, -, rfl⟩
      cases found
      cases seen
      cases clean
      simp [pure, Except.pure]
  | cons input rest hypothesis =>
    rw [List.foldlM_cons, bind_eq_ok_iff]
    constructor
    · rintro ⟨⟨next, checked, later⟩, clean⟩
      obtain ⟨middle, resolved, found, receivers, expected, paths, rfl⟩ :=
        hypothesis.mp ⟨later, clean⟩
      obtain ⟨earlier, path, here, fresh, known, apart, rfl⟩ :=
        checkInput_clean_iff.mp ⟨checked, middle⟩
      refine ⟨earlier, path :: resolved, .cons here found, fresh_cons_iff.mpr ⟨fresh, receivers⟩,
        List.forall_mem_cons.mpr ⟨known, expected⟩, fresh_cons_iff.mpr ⟨apart, paths⟩, ?_⟩
      simp
    · rintro ⟨earlier, resolved, found, receivers, expected, paths, rfl⟩
      cases found with
      | cons here found =>
        obtain ⟨fresh, receivers⟩ := fresh_cons_iff.mp receivers
        obtain ⟨known, expected⟩ := List.forall_mem_cons.mp expected
        obtain ⟨apart, paths⟩ := fresh_cons_iff.mp paths
        obtain ⟨checked, middle⟩ := checkInput_clean_iff.mpr
          ⟨earlier, _, here, fresh, known, apart, rfl⟩
        have later := hypothesis.mpr ⟨middle, _, found, receivers, expected, paths, by simp⟩
        exact ⟨⟨_, checked, later.1⟩, rfl⟩

end loops

/-- The file that a scan names. -/
def fileName (scan : Scan) : Option Str :=
  match scan.file with
  | .string file => some file
  | _ => none

theorem fileName_eq_some_iff {scan : Scan} {file : Str} :
    fileName scan = some file ↔ scan.file = .string file := by
  unfold fileName
  split
  · next shape => simp [shape]
  · next other => exact iff_of_false nofun (other file)

/-- Nothing is wrong and every result is a pass. -/
structure Clean (state : Evaluated) : Prop where
  errors : state.errors = []
  passed : ∀ result ∈ state.results, result.automatedResult = .pass

theorem clean_snoc_iff {files errors : List Str} {results : List Result} {last : Result} :
    Clean ⟨files, errors, results ++ [last]⟩ ↔ errors = [] ∧
      (∀ result ∈ results, result.automatedResult = .pass) ∧ last.automatedResult = .pass := by
  constructor
  · rintro ⟨errors, passed⟩
    rw [List.forall_mem_append, List.forall_mem_singleton] at passed
    exact ⟨errors, passed⟩
  · rintro ⟨errors, passed⟩
    refine ⟨errors, ?_⟩
    rwa [List.forall_mem_append, List.forall_mem_singleton]

section evaluation

variable {host : Host Path Key Exception} {profile : Profile}

variable (host profile) in
/-- The result of a scan that is evaluated. -/
def resultOf (input : Str × Path) (scan : Scan) : Result :=
  .evaluated (evaluateScan (host.text input.2) input.1 scan profile)

/-- A scan is evaluated unless it names a file of an earlier one. -/
theorem evaluateInput_scan {state : Evaluated} {input : Str × Path} {scan : Scan}
    (loaded : loadScan host input.2 = .ok (.ok scan))
    (fresh : ∀ file ∈ fileName scan, file ∉ state.files) :
    evaluateInput host profile state input =
      .ok { files := state.files ++ (fileName scan).toList, errors := state.errors
            results := state.results ++ [resultOf host profile input scan] } := by
  refine bind_eq_ok_iff.mpr ⟨.ok scan, loaded, ?_⟩
  dsimp only
  split
  · next file shape =>
    have named := fileName_eq_some_iff.mpr shape
    rw [named] at fresh ⊢
    rw [if_neg (fresh file rfl)]
    rfl
  · next other =>
    have unnamed : fileName scan = none := by
      apply Option.eq_none_iff_forall_ne_some.mpr
      intro file named
      exact other file (fileName_eq_some_iff.mp named)
    rw [unnamed, Option.toList_none, List.append_nil]
    rfl

/-- A step of the third loop that leaves nothing wrong. -/
theorem evaluateInput_clean_iff {state next : Evaluated} {input : Str × Path} :
    (evaluateInput host profile state input = .ok next ∧ Clean next) ↔
      Clean state ∧ ∃ scan, Loads host input.2 scan ∧
        (∀ file ∈ fileName scan, file ∉ state.files) ∧ Meets profile scan ∧
        next = ⟨state.files ++ (fileName scan).toList, [],
          state.results ++ [resultOf host profile input scan]⟩ := by
  constructor
  · rintro ⟨evaluated, clean⟩
    obtain ⟨outcome, loaded, returned⟩ := bind_eq_ok_iff.mp evaluated
    cases outcome with
    | error error =>
      cases returned
      cases (clean_snoc_iff.mp clean).2.2
    | ok scan =>
      by_cases fresh : ∀ file ∈ fileName scan, file ∉ state.files
      · rw [evaluateInput_scan loaded fresh] at evaluated
        cases evaluated
        obtain ⟨errors, earlier, last⟩ := clean_snoc_iff.mp clean
        exact ⟨⟨errors, earlier⟩, scan, loads_iff.mpr loaded, fresh,
          automatedResult_eq_pass_iff.mp last, by rw [errors]⟩
      · push Not at fresh
        obtain ⟨file, named, seen⟩ := fresh
        dsimp only at returned
        rw [fileName_eq_some_iff.mp named] at returned
        simp only [if_pos seen] at returned
        cases returned
        cases (clean_snoc_iff.mp clean).2.2
  · rintro ⟨clean, scan, loads, fresh, meets, rfl⟩
    rw [evaluateInput_scan (loads_iff.mp loads) fresh, clean.errors]
    exact ⟨rfl, clean_snoc_iff.mpr ⟨rfl, clean.passed, automatedResult_eq_pass_iff.mpr meets⟩⟩

theorem fresh_fileName_iff {earlier : List Str} {scan : Scan} {rest : List Scan} :
    Fresh earlier ((scan :: rest).filterMap fileName) ↔
      (∀ file ∈ fileName scan, file ∉ earlier) ∧
        Fresh (earlier ++ (fileName scan).toList) (rest.filterMap fileName) := by
  cases named : fileName scan with
  | none => simp [named]
  | some file => simp [named, fresh_cons_iff]

/-- The third loop leaves nothing wrong when every scan loads, names a new file or none and
is within the limits. -/
theorem evaluateInputs_clean_iff {inputs : List (Str × Path)} {state after : Evaluated} :
    (inputs.foldlM (evaluateInput host profile) state = .ok after ∧ Clean after) ↔
      Clean state ∧ ∃ scans,
        List.Forall₂ (fun input scan => Loads host input.2 scan) inputs scans ∧
        Fresh state.files (scans.filterMap fileName) ∧ (∀ scan ∈ scans, Meets profile scan) ∧
        after = ⟨state.files ++ scans.filterMap fileName, [],
          state.results ++ List.zipWith (resultOf host profile) inputs scans⟩ := by
  induction inputs generalizing state with
  | nil =>
    constructor
    · rintro ⟨returned, clean⟩
      cases returned
      refine ⟨clean, [], .nil, ?_, nofun, ?_⟩
      · simp [Fresh]
      · obtain ⟨errors, -⟩ := clean
        cases after
        cases errors
        simp
    · rintro ⟨clean, scans, loaded, -, -, rfl⟩
      cases loaded
      obtain ⟨errors, passed⟩ := clean
      cases state
      cases errors
      exact ⟨by simp [pure, Except.pure], ⟨rfl, by simpa using passed⟩⟩
  | cons input rest hypothesis =>
    rw [List.foldlM_cons, bind_eq_ok_iff]
    constructor
    · rintro ⟨⟨next, evaluated, later⟩, clean⟩
      obtain ⟨middle, scans, loaded, files, limits, rfl⟩ := hypothesis.mp ⟨later, clean⟩
      obtain ⟨earlier, scan, loads, fresh, meets, rfl⟩ :=
        evaluateInput_clean_iff.mp ⟨evaluated, middle⟩
      refine ⟨earlier, scan :: scans, .cons loads loaded, fresh_fileName_iff.mpr ⟨fresh, files⟩,
        List.forall_mem_cons.mpr ⟨meets, limits⟩, ?_⟩
      cases named : fileName scan <;> simp [named]
    · rintro ⟨earlier, scans, loaded, files, limits, rfl⟩
      cases loaded with
      | @cons _ scan _ others loads loaded =>
        obtain ⟨fresh, files⟩ := fresh_fileName_iff.mp files
        obtain ⟨meets, limits⟩ := List.forall_mem_cons.mp limits
        obtain ⟨evaluated, middle⟩ := evaluateInput_clean_iff.mpr
          ⟨earlier, scan, loads, fresh, meets, rfl⟩
        have later := hypothesis.mpr ⟨middle, others, loaded, files, limits,
          by cases named : fileName scan <;> simp [named]⟩
        exact ⟨⟨_, evaluated, later.1⟩, later.2⟩

end evaluation

/-! ### The verdict -/

/-- A run reports that its inputs passed. -/
def Passed (outcome : Except Exception Report) : Prop :=
  ∃ report, outcome = .ok report ∧ report.automatedResult = .pass

theorem missingReceivers_eq_nil_iff {profile : Profile} {seen : List Str} :
    missingReceivers profile seen = [] ↔ ∀ receiver ∈ profile.receivers, receiver ∈ seen := by
  rw [missingReceivers, List.eq_nil_iff_forall_not_mem]
  simp

/-- The labels that the loops accept are the receivers in some order. -/
theorem labels_perm_iff {profile : Profile} {labels : List Str} :
    labels.Perm profile.receivers ↔ labels.Nodup ∧ (∀ label ∈ labels, label ∈ profile.receivers) ∧
      missingReceivers profile labels = [] := by
  rw [missingReceivers_eq_nil_iff]
  constructor
  · intro perm
    exact ⟨perm.nodup_iff.mpr profile.distinct, fun label => perm.mem_iff.mp,
      fun receiver => perm.mem_iff.mpr⟩
  · rintro ⟨nodup, expected, present⟩
    rw [List.perm_ext_iff_of_nodup nodup profile.distinct]
    exact fun label => ⟨expected label, present label⟩

theorem labelled_and_iff {profile : Profile} {value : Str} {Property : Str → Str → Prop} :
    (∃ receiver path, Labelled profile value receiver path ∧ Property receiver path) ↔
      (parseInput profile value).errors = [] ∧
        Property (parseInput profile value).receiver (parseInput profile value).path := by
  constructor
  · rintro ⟨receiver, path, labelled, property⟩
    rw [labelled_iff.mp labelled]
    exact ⟨rfl, property⟩
  · rintro ⟨clean, property⟩
    refine ⟨_, _, labelled_iff.mpr ?_, property⟩
    rw [← clean]

theorem forall₂_labelled_iff {profile : Profile} {inputs : List Str} {list : List α}
    {Property : Str → Str → α → Prop} :
    List.Forall₂ (fun value entry => ∃ receiver path,
        Labelled profile value receiver path ∧ Property receiver path entry) inputs list ↔
      (∀ value ∈ inputs, (parseInput profile value).errors = []) ∧
        List.Forall₂ (fun value entry => Property (parseInput profile value).receiver
          (parseInput profile value).path entry) inputs list := by
  simp only [labelled_and_iff, List.forall₂_and_left]

theorem parse_errors_iff {profile : Profile} {inputs : List Str} :
    (inputs.map (parseInput profile)).flatMap Input.errors = [] ↔
      ∀ value ∈ inputs, (parseInput profile value).errors = [] := by
  rw [List.flatMap_eq_nil_iff, List.forall_mem_map]

/-- The inputs of the second and the third loop. -/
def parsedInputs (host : Host Path Key Exception) (profile : Profile) (inputs : List Str) :
    List (Str × Path) :=
  inputs.map fun value =>
    ((parseInput profile value).receiver, host.path (parseInput profile value).path)

theorem map_parseInput (host : Host Path Key Exception) (profile : Profile) (inputs : List Str) :
    ((inputs.map (parseInput profile)).map fun input => (input.receiver, host.path input.path)) =
      parsedInputs host profile inputs := by
  rw [List.map_map]
  rfl

theorem pairwise_otherFile_iff {scans : List Scan} :
    scans.Pairwise OtherFile ↔ (scans.filterMap fileName).Nodup := by
  rw [List.Nodup, List.pairwise_filterMap]
  refine List.Pairwise.iff fun one other => ?_
  simp only [OtherFile, fileName_eq_some_iff]
  constructor
  · rintro apart file here _ there rfl
    exact apart file here there
  · intro apart file here there
    exact apart file here file there rfl

theorem labels_iff {profile : Profile} {inputs labels : List Str} :
    List.Forall₂ (fun value label => ∃ path, Labelled profile value label path) inputs labels ↔
      (∀ value ∈ inputs, (parseInput profile value).errors = []) ∧
        labels = inputs.map fun value => (parseInput profile value).receiver := by
  have named : ∀ value label, (∃ path, Labelled profile value label path) ↔
      ∃ receiver path, Labelled profile value receiver path ∧ receiver = label := by
    intro value label
    constructor
    · rintro ⟨path, labelled⟩
      exact ⟨label, path, labelled, rfl⟩
    · rintro ⟨_, path, labelled, rfl⟩
      exact ⟨path, labelled⟩
  simp only [named]
  rw [forall₂_labelled_iff]
  refine and_congr_right fun _ => ?_
  rw [← List.forall₂_map_left_iff (f := fun value => (parseInput profile value).receiver),
    List.forall₂_eq_eq_eq, eq_comm]

/-- The inputs that a profile accepts, by what the loops read of them. -/
theorem acceptable_iff {host : Host Path Key Exception} {profile : Profile} {inputs : List Str} :
    Acceptable host profile inputs ↔
      (∀ value ∈ inputs, (parseInput profile value).errors = []) ∧
      ((parsedInputs host profile inputs).map Prod.fst).Perm profile.receivers ∧
      (∃ resolved,
        List.Forall₂ (fun input path => host.resolve input.2 = .ok path)
          (parsedInputs host profile inputs) resolved ∧ (resolved.map host.key).Nodup) ∧
      ∃ scans,
        List.Forall₂ (fun input scan => Loads host input.2 scan)
          (parsedInputs host profile inputs) scans ∧
        (scans.filterMap fileName).Nodup ∧ ∀ scan ∈ scans, Meets profile scan := by
  have labels : (parsedInputs host profile inputs).map Prod.fst =
      inputs.map fun value => (parseInput profile value).receiver := by
    rw [parsedInputs, List.map_map]
    rfl
  rw [labels]
  simp only [parsedInputs, List.forall₂_map_left_iff, ← pairwise_otherFile_iff]
  constructor
  · rintro ⟨⟨_, labelled, perm⟩, ⟨resolved, found, paths⟩, ⟨scans, loaded, files, limits⟩⟩
    obtain ⟨parsed, rfl⟩ := labels_iff.mp labelled
    exact ⟨parsed, perm, ⟨resolved, (forall₂_labelled_iff.mp found).2, paths⟩,
      scans, (forall₂_labelled_iff.mp loaded).2, files, limits⟩
  · rintro ⟨parsed, perm, ⟨resolved, found, paths⟩, scans, loaded, files, limits⟩
    refine ⟨⟨_, labels_iff.mpr ⟨parsed, rfl⟩, perm⟩, ⟨resolved, ?_, paths⟩,
      ⟨scans, ?_, files, limits⟩⟩
    · exact forall₂_labelled_iff.mpr ⟨parsed, found⟩
    · exact forall₂_labelled_iff.mpr ⟨parsed, loaded⟩

/-- What is asked of the inputs does not depend on their order. -/
theorem acceptable_of_perm {host : Host Path Key Exception} {profile : Profile}
    {inputs reordered : List Str} (perm : inputs.Perm reordered)
    (acceptable : Acceptable host profile reordered) : Acceptable host profile inputs := by
  obtain ⟨⟨labels, labelled, receivers⟩, ⟨resolved, found, paths⟩,
    ⟨scans, loaded, files, limits⟩⟩ := acceptable
  obtain ⟨labels', labelled, order⟩ := List.perm_comp_forall₂ perm labelled
  obtain ⟨resolved', found, places⟩ := List.perm_comp_forall₂ perm found
  obtain ⟨scans', loaded, members⟩ := List.perm_comp_forall₂ perm loaded
  refine ⟨⟨labels', labelled, order.trans receivers⟩, ⟨resolved', found, ?_⟩,
    ⟨scans', loaded, ?_, ?_⟩⟩
  · exact (places.map host.key).nodup_iff.mpr paths
  · rw [pairwise_otherFile_iff] at files ⊢
    exact (members.filterMap fileName).nodup_iff.mpr files
  · intro scan member
    exact limits scan (members.mem_iff.mp member)

section verdict

variable [DecidableEq Key] (host : Host Path Key Exception)

/-- A run reports a pass when none of its three loops finds anything wrong. -/
theorem run_passed_iff (name : ProfileName) (environment : Str) (inputs : List Str) :
    Passed (run host name environment inputs) ↔
      (∀ value ∈ inputs, (parseInput (profiles name) value).errors = []) ∧
      ∃ seen last,
        ((parsedInputs host (profiles name) inputs).foldlM (checkInput host (profiles name))
          ⟨[], [], []⟩ = .ok seen ∧ seen.errors = []) ∧
        missingReceivers (profiles name) seen.receivers = [] ∧
        ((parsedInputs host (profiles name) inputs).foldlM (evaluateInput host (profiles name))
          ⟨[], [], []⟩ = .ok last ∧ Clean last) ∧ last.results ≠ [] := by
  constructor
  · rintro ⟨report, ran, passed⟩
    obtain ⟨seen, checked, ran⟩ := bind_eq_ok_iff.mp ran
    obtain ⟨last, evaluated, ran⟩ := bind_eq_ok_iff.mp ran
    cases ran
    rw [map_parseInput] at checked evaluated
    simp only [Outcome.of_eq_pass_iff, Bool.and_eq_true, decide_eq_true_eq, List.all_eq_true]
      at passed
    obtain ⟨⟨nonempty, errors⟩, results⟩ := passed
    have clean : Clean last := ⟨errors, results⟩
    obtain ⟨⟨none, -⟩, -⟩ := evaluateInputs_clean_iff.mp ⟨evaluated, clean⟩
    have missing : missingReceivers (profiles name) seen.receivers = [] := by
      by_contra present
      rw [if_neg present] at none
      simp at none
    rw [if_pos missing] at none evaluated
    dsimp only at none
    rw [none] at evaluated
    obtain ⟨parsed, -⟩ := checkInputs_clean_iff.mp ⟨checked, none⟩
    dsimp only at parsed
    rw [parsed] at checked
    exact ⟨parse_errors_iff.mp parsed, seen, last, ⟨checked, none⟩, missing, ⟨evaluated, clean⟩,
      nonempty⟩
  · rintro ⟨parsed, seen, last, ⟨checked, none⟩, missing, ⟨evaluated, clean⟩, nonempty⟩
    refine ⟨_, bind_eq_ok_iff.mpr ⟨seen, ?_, bind_eq_ok_iff.mpr ⟨last, ?_, rfl⟩⟩, ?_⟩
    · rw [map_parseInput, parse_errors_iff.mpr parsed]
      exact checked
    · rw [map_parseInput, if_pos missing, none]
      exact evaluated
    · rw [Outcome.of_eq_pass_iff]
      simpa [nonempty, clean.errors] using clean.passed

/-- The inputs that a run reports a pass for. -/
theorem passed_iff_acceptable (name : ProfileName) (environment : Str) (inputs : List Str) :
    Passed (run host name environment inputs) ↔ Acceptable host (profiles name) inputs := by
  rw [run_passed_iff, acceptable_iff]
  refine and_congr_right fun _ => ?_
  constructor
  · rintro ⟨seen, last, checked, missing, evaluated, -⟩
    obtain ⟨-, resolved, found, labels, expected, paths, rfl⟩ := checkInputs_clean_iff.mp checked
    obtain ⟨-, scans, loaded, files, limits, -⟩ := evaluateInputs_clean_iff.mp evaluated
    refine ⟨labels_perm_iff.mpr ⟨labels.1, List.forall_mem_map.mpr expected, missing⟩, ?_, ?_⟩
    · exact ⟨resolved, found, paths.1⟩
    · exact ⟨scans, loaded, files.1, limits⟩
  · rintro ⟨perm, ⟨resolved, found, paths⟩, scans, loaded, files, limits⟩
    obtain ⟨labels, expected, missing⟩ := labels_perm_iff.mp perm
    have some : parsedInputs host (profiles name) inputs ≠ [] := by
      intro empty
      rw [empty] at perm
      exact (profiles name).nonempty perm.symm.eq_nil
    refine ⟨_, _, checkInputs_clean_iff.mpr ⟨rfl, resolved, found, fresh_nil_iff.mpr labels,
      List.forall_mem_map.mp expected, fresh_nil_iff.mpr paths, rfl⟩, missing,
      evaluateInputs_clean_iff.mpr ⟨⟨rfl, nofun⟩, scans, loaded, fresh_nil_iff.mpr files, limits,
        rfl⟩, ?_⟩
    intro empty
    have length := congrArg List.length empty
    exact some (by simpa [← loaded.length_eq] using length)

/-- **The quality gate is exact.** A run reports a pass for the inputs that have one label for each
receiver of the profile, paths of their own and scans within its limits, and for no others; their
order does not matter. -/
theorem quality_gate_exact (name : ProfileName) (environment : Str) (inputs : List Str) :
    (Passed (run host name environment inputs) ↔ Acceptable host (profiles name) inputs) ∧
    ∀ reordered, inputs.Perm reordered →
      (Passed (run host name environment reordered) ↔
        Passed (run host name environment inputs)) := by
  refine ⟨passed_iff_acceptable host name environment inputs, ?_⟩
  intro reordered perm
  rw [passed_iff_acceptable, passed_iff_acceptable]
  exact ⟨acceptable_of_perm perm, acceptable_of_perm perm.symm⟩

/-- A scan without errors. -/
def scanText (file : String) : Str :=
  str "\x7b\"packets\": 1000, \"tei\": 0, \"continuity_errors\": 0, \"file\": \"" ++ str file ++
    str "\"\x7d"

/-- Four scans, each with another mark. -/
def markedScans : List (Str × List UInt8) :=
  [("0.json", Mark.none), ("1.json", .utf8), ("2.json", .utf16 true), ("3.json", .utf16 false)].map
    fun (file, mark) => (str file, mark.bytes ++ (mark.encode (scanText file)).getD [])

def markedHost : Host Str Str Unit where
  path := id
  text := id
  key := id
  resolve := .ok
  readBytes := fun path =>
    match markedScans.lookup path with
    | some data => .ok data
    | none => .error .notFound
  exceeds := fun _ => none

def markedInputs : List Str := ["3=3.json", "1=1.json", "0=0.json", "2=2.json"].map str

theorem quality_gate_exact_marked :
    Passed (run markedHost .asicenW3u3Rx03 (str "windows") markedInputs) ∧
      Acceptable markedHost (profiles .asicenW3u3Rx03) markedInputs := by
  have verdict : (run markedHost .asicenW3u3Rx03 (str "windows") markedInputs).toOption.map
      Report.automatedResult = some .pass := by decide +kernel
  have passed : Passed (run markedHost .asicenW3u3Rx03 (str "windows") markedInputs) := by
    cases ran : run markedHost .asicenW3u3Rx03 (str "windows") markedInputs with
    | error exception =>
      rw [ran] at verdict
      cases verdict
    | ok report =>
      rw [ran] at verdict
      exact ⟨report, rfl, Option.some.inj verdict⟩
  exact ⟨passed, (quality_gate_exact markedHost .asicenW3u3Rx03 (str "windows") markedInputs).1.mp
    passed⟩

end verdict

end SianoUserland.QualityGate
