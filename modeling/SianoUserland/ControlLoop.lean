import SianoUserland.ControlReader
import SianoUserland.Lib.Transition

/-! `run_control` of `siano-wire-ts.cpp`: the loop that takes what the reader posts
and hands every accepted selection to `run_wire`. The reader may post between any
two steps of the loop; what `run_wire`, `dtv::tuning::resolve` and the platform's
stop request answer is left open. -/
namespace SianoUserland

/-- `ControlState`, what the two threads share. -/
structure ControlState where
  commands : List Posted := []
  interrupt : Bool := false
  deriving Repr, DecidableEq

namespace ControlState

/-- `post_command`. -/
def post (state : ControlState) (command : Posted) : ControlState :=
  { commands := state.commands ++ [command], interrupt := true }

/-- `take_command`: nothing taken is `ControlKind::none`. -/
def take (state : ControlState) : Option Posted × ControlState :=
  match state.commands with
  | [] => (none, state)
  | command :: rest => (some command, { commands := rest, interrupt := !rest.isEmpty })

end ControlState

/-- `dtv::tuning::Request`, as `resolve_control_hz` fills it in. -/
inductive TuningRequest where
  | channel (text : String)
  | isdbT (frequencyHz : UInt32)
  deriving Repr, DecidableEq

/-- What `dtv::tuning::resolve` returns, with its system compared to `isdb_t`. -/
structure ResolvedTuning where
  isdbT : Bool
  frequencyHz : UInt64
  deriving Repr, DecidableEq

/-- `dtv::tuning::resolve`, which is not part of the repository. -/
abbrev Resolve := TuningRequest → Option ResolvedTuning

/-- The request of a command; the zero frequency and the other kinds have none. -/
def Posted.request? (command : Posted) : Option TuningRequest :=
  match command.kind with
  | .channel => some (.channel (toString command.value.toNat))
  | .tune => if command.value = 0 then none else some (.isdbT command.value)
  | .quit => none

/-- `resolve_control_hz`. -/
def resolveControlHz (resolve : Resolve) (command : Posted) : Option UInt64 := do
  let request ← command.request?
  let resolved ← resolve request
  if resolved.isdbT then some resolved.frequencyHz else none

/-- The four places of `run_control` that take a command. -/
inductive Site where
  | selection
  | pending
  | retry
  | next
  deriving Repr, DecidableEq

/-- Where `run_control` stands. -/
inductive Position where
  | top
  /-- In the loop that sleeps until a command or a stop. -/
  | wait
  /-- Before `platform_stop_requested`, in front of a take. -/
  | check (site : Site)
  | take (site : Site)
  | resolve (site : Site) (command : Posted)
  | report
  | start
  | running
  | ended
  deriving Repr, DecidableEq

/-- A call of `run_wire`, with the commands that had been taken when it started. -/
structure WireRun where
  frequencyHz : UInt64
  after : List Posted
  deriving Repr, DecidableEq

/-- The locals of `run_control` and the state it shares. The last four fields are
ghosts: what was posted and taken, the runs, and for every report of an input error
the commands that had been taken. -/
structure ControlLoop where
  shared : ControlState := {}
  frequencyHz : UInt64
  haveSelection : Bool
  position : Position := .top
  posted : List Posted := []
  taken : List Posted := []
  runs : List WireRun := []
  reported : List (List Posted) := []
  deriving Repr, DecidableEq

namespace ControlLoop

/-- The start of `run_control`, from `args.frequency_hz` and `args.tuning_explicit`. -/
def init (frequencyHz : UInt64) (tuningExplicit : Bool) : ControlLoop :=
  { frequencyHz := frequencyHz, haveSelection := tuningExplicit }

inductive Action where
  /-- The reader calls `post_command`. -/
  | post (command : Posted)
  /-- The loop reads `platform_stop_requested`. -/
  | stop (requested : Bool)
  /-- `run_wire` returns. -/
  | returned (succeeded : Bool)
  /-- The loop makes a step that depends on nothing else. -/
  | advance
  deriving Repr, DecidableEq

/-- What follows a take that found nothing. -/
def noCommand (state : ControlLoop) : Site → ControlLoop
  | .selection => { state with position := .top }
  | .pending => { state with position := .start }
  | .retry => { state with haveSelection := false, position := .top }
  | .next => { state with position := .ended }

/-- `take_command` at one of its sites. -/
def takeAt (state : ControlLoop) (site : Site) : ControlLoop :=
  match state.shared.take with
  | (none, _) => state.noCommand site
  | (some command, shared) =>
    { state with
      shared := shared
      taken := state.taken ++ [command]
      position := if command.kind = .quit then .ended else .resolve site command }

/-- What follows an accepted command. -/
def accepted (state : ControlLoop) (frequencyHz : UInt64) : Site → ControlLoop
  | .selection =>
    { state with frequencyHz := frequencyHz, haveSelection := true, position := .take .pending }
  | .pending => { state with frequencyHz := frequencyHz, position := .start }
  | .retry | .next => { state with frequencyHz := frequencyHz, position := .top }

/-- What follows a rejected command. The retry goes on without a report. -/
def rejected (state : ControlLoop) : Site → ControlLoop
  | .selection | .pending | .next => { state with position := .report }
  | .retry => { state with haveSelection := false, position := .top }

/-- One step of either thread. -/
def next (resolve : Resolve) (state : ControlLoop) : Action → Option ControlLoop
  | .post command =>
    some { state with
      shared := state.shared.post command
      posted := state.posted ++ [command] }
  | .stop requested =>
    match state.position with
    | .wait =>
      if state.shared.interrupt ∨ requested then some { state with position := .check .selection }
      else some state
    | .check site =>
      if requested then some { state with position := .ended }
      else some { state with position := .take site }
    | _ => none
  | .returned succeeded =>
    match state.position with
    | .running => some { state with position := .check (if succeeded then .next else .retry) }
    | _ => none
  | .advance =>
    match state.position with
    | .top =>
      some { state with position := if state.haveSelection then .take .pending else .wait }
    | .take site => some (state.takeAt site)
    | .resolve site command =>
      match resolveControlHz resolve command with
      | some frequencyHz => some (state.accepted frequencyHz site)
      | none => some (state.rejected site)
    | .report =>
      some { state with
        haveSelection := false
        position := .top
        reported := state.reported ++ [state.taken] }
    | .start =>
      some { state with
        position := .running
        runs := state.runs ++ [⟨state.frequencyHz, state.taken⟩] }
    | .wait | .check _ | .running | .ended => none

/-- What a step can do, one constructor for each way it can go. -/
inductive Step (resolve : Resolve) (state : ControlLoop) : Action → ControlLoop → Prop
  | post (command : Posted) : Step resolve state (.post command)
      { state with shared := state.shared.post command, posted := state.posted ++ [command] }
  | asleep (waits : state.position = .wait) : Step resolve state (.stop false) state
  | woken (requested : Bool) (waits : state.position = .wait) :
      Step resolve state (.stop requested) { state with position := .check .selection }
  | stopped (site : Site) (checks : state.position = .check site) :
      Step resolve state (.stop true) { state with position := .ended }
  | proceeds (site : Site) (checks : state.position = .check site) :
      Step resolve state (.stop false) { state with position := .take site }
  | returned (succeeded : Bool) (runs : state.position = .running) :
      Step resolve state (.returned succeeded)
        { state with position := .check (if succeeded then .next else .retry) }
  | selected (tops : state.position = .top) (selection : state.haveSelection = true) :
      Step resolve state .advance { state with position := .take .pending }
  | unselected (tops : state.position = .top) (selection : state.haveSelection = false) :
      Step resolve state .advance { state with position := .wait }
  | nothing (site : Site) (takes : state.position = .take site)
      (empty : state.shared.commands = []) :
      Step resolve state .advance (state.noCommand site)
  | quit (site : Site) (takes : state.position = .take site) (command : Posted)
      (rest : List Posted) (first : state.shared.commands = command :: rest)
      (quits : command.kind = .quit) :
      Step resolve state .advance
        { state with
          shared := ⟨rest, !rest.isEmpty⟩
          taken := state.taken ++ [command]
          position := .ended }
  | took (site : Site) (takes : state.position = .take site) (command : Posted)
      (rest : List Posted) (first : state.shared.commands = command :: rest)
      (goesOn : command.kind ≠ .quit) :
      Step resolve state .advance
        { state with
          shared := ⟨rest, !rest.isEmpty⟩
          taken := state.taken ++ [command]
          position := .resolve site command }
  | accepts (site : Site) (command : Posted) (frequencyHz : UInt64)
      (resolves : state.position = .resolve site command)
      (valid : resolveControlHz resolve command = some frequencyHz) :
      Step resolve state .advance (state.accepted frequencyHz site)
  | rejects (site : Site) (command : Posted) (resolves : state.position = .resolve site command)
      (invalid : resolveControlHz resolve command = none) :
      Step resolve state .advance (state.rejected site)
  | reports (reporting : state.position = .report) :
      Step resolve state .advance
        { state with
          haveSelection := false
          position := .top
          reported := state.reported ++ [state.taken] }
  | starts (starting : state.position = .start) :
      Step resolve state .advance
        { state with
          position := .running
          runs := state.runs ++ [⟨state.frequencyHz, state.taken⟩] }

variable {resolve : Resolve} {state after : ControlLoop} {action : Action}

theorem takeAt_cases (site : Site) (takes : state.position = .take site) :
    Step resolve state .advance (state.takeAt site) := by
  unfold takeAt ControlState.take
  cases waiting : state.shared.commands with
  | nil => exact .nothing site takes waiting
  | cons command rest =>
    by_cases quits : command.kind = .quit
    · simp only [quits, ↓reduceIte]
      exact .quit site takes command rest waiting quits
    · simp only [quits, ↓reduceIte]
      exact .took site takes command rest waiting quits

/-- Every step of the loop is one of these. -/
theorem step_of_next (taken : next resolve state action = some after) :
    Step resolve state action after := by
  cases action with
  | post command =>
    cases taken
    exact .post command
  | stop requested =>
    simp only [next] at taken
    split at taken
    · rename_i waits
      split at taken
      · cases taken
        exact .woken requested waits
      · rename_i quiet
        cases taken
        cases requested with
        | true => exact absurd (Or.inr rfl) quiet
        | false => exact .asleep waits
    · rename_i site checks
      cases requested with
      | true =>
        cases taken
        exact .stopped site checks
      | false =>
        cases taken
        exact .proceeds site checks
    · cases taken
  | returned succeeded =>
    simp only [next] at taken
    split at taken
    · rename_i runs
      cases taken
      exact .returned succeeded runs
    · cases taken
  | advance =>
    simp only [next] at taken
    split at taken
    · rename_i tops
      cases selection : state.haveSelection with
      | true =>
        rw [if_pos selection] at taken
        cases taken
        exact .selected tops selection
      | false =>
        rw [if_neg (by simp [selection])] at taken
        cases taken
        exact .unselected tops selection
    · rename_i site takes
      cases taken
      exact takeAt_cases site takes
    · rename_i site command resolves
      split at taken
      · rename_i frequencyHz valid
        cases taken
        exact .accepts site command frequencyHz resolves valid
      · rename_i invalid
        cases taken
        exact .rejects site command resolves invalid
    · rename_i reporting
      cases taken
      exact .reports reporting
    · rename_i starting
      cases taken
      exact .starts starting
    all_goals cases taken

/-- A resolver that knows one channel of the table and the frequencies of its band. -/
def oneChannel : Resolve
  | .channel text => if text = "14" then some ⟨true, 479142857⟩ else none
  | .isdbT frequencyHz =>
    if 470000000 ≤ frequencyHz ∧ frequencyHz ≤ 770000000 then some ⟨true, frequencyHz.toUInt64⟩
    else none

end ControlLoop
end SianoUserland
