import SianoUserland.ControlOrder
import SianoUserland.Lib.Split

/-! What becomes of a command that was taken: it is reported, or it is run, or a
later one takes its place. One of the four places that take a command does not
report what it rejects. -/
namespace SianoUserland.ControlReports
open Transition ControlOrder

variable {resolve : Resolve} {initial : Option UInt64} {state after : ControlLoop}

/-- A channel or tune command that `resolve_control_hz` does not accept. -/
def Rejected (resolve : Resolve) (command : Posted) : Prop :=
  command.kind ≠ .quit ∧ resolveControlHz resolve command = none

/-- The commands the loop has finished with: all it took, except one that it is still
resolving or reporting. -/
def finished (state : ControlLoop) : List Posted :=
  match state.position with
  | .resolve _ _ | .report => state.taken.dropLast
  | _ => state.taken

/-- Every rejected command was reported when it was the last one taken. -/
def Reported (resolve : Resolve) (commands : List Posted) (reported : List (List Posted)) : Prop :=
  ∀ before command rest, commands = before ++ command :: rest → Rejected resolve command →
    before ++ [command] ∈ reported

/-- Left alone by the reader, the loop runs `frequencyHz` next. -/
def RunsNext (resolve : Resolve) (state : ControlLoop) (frequencyHz : UInt64) : Prop :=
  ∃ count after, run (ControlLoop.next resolve) { state with shared := {} }
      (List.replicate count .advance) = some after ∧
    after.runs = state.runs ++ [⟨frequencyHz, state.taken⟩]

/-- Every accepted command decided the run that followed it, unless another command
was taken before. The last one taken has been run or is about to be. -/
structure Determined (resolve : Resolve) (state : ControlLoop) : Prop where
  ran : ∀ run ∈ state.runs, ∀ before command frequencyHz, run.after = before ++ [command] →
    resolveControlHz resolve command = some frequencyHz → run.frequencyHz = frequencyHz
  last : ∀ before command frequencyHz, state.taken = before ++ [command] →
    resolveControlHz resolve command = some frequencyHz →
      (∃ run ∈ state.runs, run.after = state.taken) ∨ RunsNext resolve state frequencyHz

/-- The condition: no command that follows a failed run is rejected. -/
def allowed (resolve : Resolve) (state : ControlLoop) : ControlLoop.Action → Bool
  | .advance =>
    match state.position with
    | .resolve .retry command => (resolveControlHz resolve command).isSome
    | _ => true
  | _ => true

/-! ## Accepted commands -/

/-- The loop is on its way to a run of `frequencyHz`. -/
def Heading (state : ControlLoop) (command : Posted) (frequencyHz : UInt64) : Prop :=
  match state.position with
  | .resolve _ resolving => resolving = command
  | .top => state.haveSelection = true ∧ state.frequencyHz = frequencyHz
  | .take .pending | .start => state.frequencyHz = frequencyHz
  | _ => False

/-- Positions that are only reached with a selection. -/
def Selected : Position → Prop
  | .take .pending | .take .retry | .take .next | .check .retry | .check .next => True
  | .resolve .pending _ | .resolve .retry _ | .resolve .next _ => True
  | .start | .running => True
  | _ => False

/-- What the loop keeps about the commands it took, besides their order. -/
structure Tracked (resolve : Resolve) (state : ControlLoop) : Prop where
  selected : Selected state.position → state.haveSelection = true
  last : ∀ before command frequencyHz, state.taken = before ++ [command] →
    resolveControlHz resolve command = some frequencyHz →
      (∃ run ∈ state.runs, run.after = state.taken) ∨ Heading state command frequencyHz
  past : ∀ report ∈ state.reported, report <+: state.taken
  unreported : ∀ site command, state.position = .resolve site command →
    state.taken ∉ state.reported

/-- A step that takes, starts and reports nothing. -/
theorem tracked_moved (tracked : Tracked resolve state) (taken : after.taken = state.taken)
    (runs : after.runs = state.runs) (reported : after.reported = state.reported)
    (selected : Selected after.position → after.haveSelection = true)
    (heading : ∀ before command frequencyHz, state.taken = before ++ [command] →
      resolveControlHz resolve command = some frequencyHz → Heading state command frequencyHz →
        Heading after command frequencyHz)
    (resolving : ∀ site command, after.position = .resolve site command →
      state.position = .resolve site command) :
    Tracked resolve after := by
  refine ⟨selected, ?_, ?_, ?_⟩
  · intro before command frequencyHz newest valid
    rw [taken] at newest
    rw [runs, taken]
    exact (tracked.last before command frequencyHz newest valid).imp id
      (heading before command frequencyHz newest valid)
  · rw [reported, taken]
    exact tracked.past
  · intro site command resolves
    rw [taken, reported]
    exact tracked.unreported site command (resolving site command resolves)

/-- The command being resolved is the last one taken. -/
theorem resolve_newest (invariant : Invariant resolve initial state)
    (resolves : state.position = .resolve site command)
    (newest : state.taken = before ++ [last]) : last = command := by
  have placed := invariant.placed
  simp only [Placed, resolves] at placed
  obtain ⟨earlier, taken, -⟩ := placed
  rw [taken] at newest
  exact (List.append_inj' newest rfl).2 |> List.singleton_inj.mp |>.symm

/-- A taken command is the last one, and it is still to be resolved. -/
theorem take_tracked (tracked : Tracked resolve state) (takes : state.position = .take site) :
    Tracked resolve { state with
      shared, taken := state.taken ++ [command], position := .resolve site command } := by
  refine ⟨?_, ?_, ?_, ?_⟩
  · cases site with
    | selection => exact fun none => none.elim
    | pending | retry | next => exact fun _ => tracked.selected (by rw [takes]; trivial)
  · intro before last frequencyHz newest _
    obtain ⟨-, same⟩ := List.append_inj' newest rfl
    cases same
    exact Or.inr rfl
  · exact fun report member => (tracked.past report member).trans (List.prefix_append _ _)
  · intro _ _ _ member
    have shorter := (tracked.past _ member).length_le
    rw [List.length_append, List.length_singleton] at shorter
    omega

theorem accepted_tracked (invariant : Invariant resolve initial state)
    (tracked : Tracked resolve state) (resolves : state.position = .resolve site command)
    (valid : resolveControlHz resolve command = some frequencyHz) :
    Tracked resolve (state.accepted frequencyHz site) := by
  have same : ∀ before last hz, state.taken = before ++ [last] →
      resolveControlHz resolve last = some hz → frequencyHz = hz := by
    intro before last hz newest accepted
    rw [resolve_newest invariant resolves newest, valid] at accepted
    exact Option.some.inj accepted
  cases site with
  | selection =>
    exact tracked_moved tracked rfl rfl rfl (fun _ => rfl)
      (fun before last hz newest accepted _ => same before last hz newest accepted)
      (by simp [ControlLoop.accepted])
  | pending =>
    exact tracked_moved tracked rfl rfl rfl
      (fun _ => tracked.selected (by rw [resolves]; trivial))
      (fun before last hz newest accepted _ => same before last hz newest accepted)
      (by simp [ControlLoop.accepted])
  | retry | next =>
    exact tracked_moved tracked rfl rfl rfl (fun none => none.elim)
      (fun before last hz newest accepted _ =>
        ⟨tracked.selected (by rw [resolves]; trivial), same before last hz newest accepted⟩)
      (by simp [ControlLoop.accepted])

theorem rejected_tracked (invariant : Invariant resolve initial state)
    (tracked : Tracked resolve state) (resolves : state.position = .resolve site command)
    (invalid : resolveControlHz resolve command = none) :
    Tracked resolve (state.rejected site) := by
  have none : ∀ before last hz, state.taken = before ++ [last] →
      resolveControlHz resolve last ≠ some hz := by
    intro before last hz newest accepted
    rw [resolve_newest invariant resolves newest, invalid] at accepted
    cases accepted
  cases site with
  | selection | pending | next | retry =>
    exact tracked_moved tracked rfl rfl rfl (fun none => none.elim)
      (fun before last hz newest accepted _ => absurd accepted (none before last hz newest))
      (by simp [ControlLoop.rejected])

theorem step_tracked (invariant : Invariant resolve initial state)
    (tracked : Tracked resolve state) (step : ControlLoop.Step resolve state action after) :
    Tracked resolve after := by
  cases step with
  | post command => exact ⟨tracked.selected, tracked.last, tracked.past, tracked.unreported⟩
  | asleep waits => exact tracked
  | woken requested waits =>
    refine tracked_moved tracked rfl rfl rfl (fun none => none.elim) ?_ (by simp)
    simp [Heading, waits]
  | stopped site checks =>
    refine tracked_moved tracked rfl rfl rfl (fun none => none.elim) ?_ (by simp)
    simp [Heading, checks]
  | proceeds site checks =>
    refine tracked_moved tracked rfl rfl rfl ?_ (by simp [Heading, checks]) (by simp)
    cases site with
    | selection => exact fun none => none.elim
    | pending =>
      have placed := invariant.placed
      simp only [Placed, checks] at placed
    | retry | next => exact fun _ => tracked.selected (by rw [checks]; trivial)
  | returned succeeded runs =>
    refine tracked_moved tracked rfl rfl rfl ?_ (by simp [Heading, runs]) (by simp)
    exact fun _ => tracked.selected (by rw [runs]; trivial)
  | selected tops selection =>
    refine tracked_moved tracked rfl rfl rfl (fun _ => selection) ?_ (by simp)
    intro before command frequencyHz _ _ heading
    simp only [Heading, tops] at heading
    exact heading.2
  | unselected tops selection =>
    refine tracked_moved tracked rfl rfl rfl (fun none => none.elim) ?_ (by simp)
    simp [Heading, tops, selection]
  | nothing site takes empty =>
    cases site with
    | selection =>
      exact tracked_moved tracked rfl rfl rfl (fun none => none.elim) (by simp [Heading, takes])
        (by simp [ControlLoop.noCommand])
    | pending =>
      refine tracked_moved tracked rfl rfl rfl ?_ (by simp [Heading, takes, ControlLoop.noCommand])
        (by simp [ControlLoop.noCommand])
      exact fun _ => tracked.selected (by rw [takes]; trivial)
    | retry | next =>
      exact tracked_moved tracked rfl rfl rfl (fun none => none.elim) (by simp [Heading, takes])
        (by simp [ControlLoop.noCommand])
  | quit site takes command rest first quits =>
    refine ⟨fun none => none.elim, ?_, ?_, by simp⟩
    · intro before last frequencyHz newest valid
      obtain ⟨-, same⟩ := List.append_inj' newest rfl
      cases same
      simp [resolveControlHz, Posted.request?, quits] at valid
    · exact fun report member => (tracked.past report member).trans (List.prefix_append _ _)
  | took site takes command rest first goesOn =>
    exact take_tracked tracked takes
  | accepts site command frequencyHz resolves valid =>
    exact accepted_tracked invariant tracked resolves valid
  | rejects site command resolves invalid =>
    exact rejected_tracked invariant tracked resolves invalid
  | reports reporting =>
    refine ⟨fun none => none.elim, ?_, ?_, by simp⟩
    · intro before command frequencyHz newest valid
      have handled := tracked.last before command frequencyHz newest valid
      simp only [Heading, reporting, or_false] at handled
      exact Or.inl handled
    · intro report member
      rcases List.mem_append.mp member with old | new
      · exact tracked.past report old
      · cases List.mem_singleton.mp new
        exact List.prefix_refl _
  | starts starting =>
    refine ⟨fun _ => tracked.selected (by rw [starting]; trivial), ?_, tracked.past, by simp⟩
    exact fun _ _ _ _ _ => Or.inl ⟨_, List.mem_append_right _ (List.mem_singleton_self _), rfl⟩

theorem init_tracked (resolve : Resolve) (frequencyHz : UInt64) (tuningExplicit : Bool) :
    Tracked resolve (ControlLoop.init frequencyHz tuningExplicit) := by
  refine ⟨fun none => none.elim, ?_, by simp [ControlLoop.init], by simp [ControlLoop.init]⟩
  intro before command _ newest
  simp [ControlLoop.init] at newest

/-- One step of the loop towards a run. -/
theorem runsNext_advance
    (stepped : ControlLoop.next resolve { state with shared := {} } .advance = some after)
    (quiet : after.shared = {}) (taken : after.taken = state.taken)
    (runs : after.runs = state.runs) (runsNext : RunsNext resolve after frequencyHz) :
    RunsNext resolve state frequencyHz := by
  obtain ⟨count, last, ran, result⟩ := runsNext
  have same : { after with shared := {} } = after := by rw [← quiet]
  rw [same] at ran
  exact ⟨count + 1, last, run_cons_eq_some.mpr ⟨after, stepped, ran⟩, by rw [result, runs, taken]⟩

theorem runsNext_start (starting : state.position = .start) :
    RunsNext resolve state state.frequencyHz :=
  ⟨1, { state with
      shared := {}
      position := .running
      runs := state.runs ++ [⟨state.frequencyHz, state.taken⟩] },
    by simp [run, ControlLoop.next, starting], rfl⟩

theorem runsNext_pending (takes : state.position = .take .pending) :
    RunsNext resolve state state.frequencyHz := by
  let ready : ControlLoop := { state with shared := {}, position := .start }
  have stepped : ControlLoop.next resolve { state with shared := {} } .advance = some ready := by
    simp [ControlLoop.next, takes, ControlLoop.takeAt, ControlState.take, ControlLoop.noCommand,
      ready]
  exact runsNext_advance stepped rfl rfl rfl (runsNext_start rfl)

theorem runsNext_top (tops : state.position = .top) (selection : state.haveSelection = true) :
    RunsNext resolve state state.frequencyHz := by
  let ready : ControlLoop := { state with shared := {}, position := .take .pending }
  have stepped : ControlLoop.next resolve { state with shared := {} } .advance = some ready := by
    simp [ControlLoop.next, tops, selection, ready]
  exact runsNext_advance stepped rfl rfl rfl (runsNext_pending rfl)

theorem runsNext_resolve (resolves : state.position = .resolve site command)
    (selection : Selected state.position → state.haveSelection = true)
    (valid : resolveControlHz resolve command = some frequencyHz) :
    RunsNext resolve state frequencyHz := by
  let quiet : ControlLoop := { state with shared := {} }
  have stepped : ControlLoop.next resolve quiet .advance =
      some (quiet.accepted frequencyHz site) := by
    simp [ControlLoop.next, resolves, valid, quiet]
  cases site with
  | selection => exact runsNext_advance stepped rfl rfl rfl (runsNext_pending rfl)
  | pending => exact runsNext_advance stepped rfl rfl rfl (runsNext_start rfl)
  | retry | next =>
    have selected : state.haveSelection = true := selection (by rw [resolves]; trivial)
    exact runsNext_advance stepped rfl rfl rfl (runsNext_top rfl selected)

/-- On its way to a run, the loop gets there by its own steps. -/
theorem heading_runs (tracked : Tracked resolve state)
    (heading : Heading state command frequencyHz)
    (valid : resolveControlHz resolve command = some frequencyHz) :
    RunsNext resolve state frequencyHz := by
  unfold Heading at heading
  split at heading
  · rename_i site resolving resolves
    subst heading
    exact runsNext_resolve resolves tracked.selected valid
  · rename_i tops
    exact heading.2 ▸ runsNext_top tops heading.1
  · rename_i takes
    exact heading ▸ runsNext_pending takes
  · rename_i starting
    exact heading ▸ runsNext_start starting
  · exact heading.elim

/-- Every accepted command is run unless another one follows it first. -/
theorem accepted_determine (invariant : Invariant resolve initial state)
    (tracked : Tracked resolve state) : Determined resolve state := by
  refine ⟨?_, ?_⟩
  · intro run ran before command frequencyHz newest valid
    have latest := invariant.latest run ran
    rw [newest, entries_accepted valid, List.getLast?_concat] at latest
    simpa using latest.symm
  · intro before command frequencyHz newest valid
    exact (tracked.last before command frequencyHz newest valid).imp id
      fun heading => heading_runs tracked heading valid

/-! ## Rejected commands -/

/-- One more command is finished with. -/
theorem reported_push (commands : List Posted) (command : Posted)
    (reported : List (List Posted)) :
    Reported resolve (commands ++ [command]) reported ↔
      Reported resolve commands reported ∧
        (Rejected resolve command → commands ++ [command] ∈ reported) :=
  Split.forall_concat

/-- A report made when more had been taken is of no use to earlier commands. -/
theorem reported_later (shorter : commands.length < taken.length) :
    Reported resolve commands (reported ++ [taken]) ↔ Reported resolve commands reported := by
  constructor
  · intro all before command rest split rejected
    rcases List.mem_append.mp (all before command rest split rejected) with old | new
    · exact old
    · have lengths := congrArg List.length (List.mem_singleton.mp new)
      rw [split] at shorter
      simp only [List.length_append, List.length_cons, List.length_nil] at lengths shorter
      omega
  · intro all before command rest split rejected
    exact List.mem_append_left _ (all before command rest split rejected)

/-- All that was finished with has been reported where it had to be. -/
def AllReported (resolve : Resolve) (state : ControlLoop) : Prop :=
  Reported resolve (finished state) state.reported

/-- The step that finishes with a command the loop has resolved. -/
theorem finished_resolved (invariant : Invariant resolve initial state)
    (resolves : state.position = .resolve site command) :
    state.taken = finished state ++ [command] := by
  have placed := invariant.placed
  simp only [Placed, resolves] at placed
  obtain ⟨before, newest, -⟩ := placed
  simp [finished, resolves, newest]

/-- Each step keeps everything reported, except the one that is not allowed. -/
theorem step_reported (invariant : Invariant resolve initial state)
    (tracked : Tracked resolve state) (step : ControlLoop.Step resolve state action after) :
    AllReported resolve after ↔
      AllReported resolve state ∧ allowed resolve state action = true := by
  cases step with
  | post command => simp [AllReported, finished, allowed]
  | asleep waits => simp [allowed]
  | woken requested waits => simp [AllReported, finished, waits, allowed]
  | stopped site checks => simp [AllReported, finished, checks, allowed]
  | proceeds site checks => simp [AllReported, finished, checks, allowed]
  | returned succeeded runs => simp [AllReported, finished, runs, allowed]
  | selected tops selection => simp [AllReported, finished, tops, allowed]
  | unselected tops selection => simp [AllReported, finished, tops, allowed]
  | nothing site takes empty =>
    cases site with
    | selection | pending | retry | next =>
      simp [AllReported, finished, takes, allowed, ControlLoop.noCommand]
  | quit site takes command rest first quits =>
    simp [AllReported, finished, takes, allowed, reported_push, Rejected, quits]
  | took site takes command rest first goesOn => simp [AllReported, finished, takes, allowed]
  | accepts site command frequencyHz resolves valid =>
    have whole := finished_resolved invariant resolves
    have fine : allowed resolve state .advance = true := by
      simp only [allowed, resolves]
      cases site with
      | selection | pending | next => rfl
      | retry => simp [valid]
    have finishes : finished (state.accepted frequencyHz site) = finished state ++ [command] := by
      rw [← whole]
      cases site with
      | selection | pending | retry | next => rfl
    have reported : (state.accepted frequencyHz site).reported = state.reported := by
      cases site with
      | selection | pending | retry | next => rfl
    rw [AllReported, finishes, reported, reported_push, fine]
    simp [AllReported, Rejected, valid]
  | rejects site command resolves invalid =>
    cases site with
    | selection | pending | next =>
      simp [AllReported, finished, resolves, allowed, ControlLoop.rejected]
    | retry =>
      have whole := finished_resolved invariant resolves
      have live : command.kind ≠ .quit :=
        invariant.live (by simp [resolves]) command (by rw [whole]; simp)
      have finishes : finished (state.rejected .retry) = finished state ++ [command] := whole
      have missing : finished state ++ [command] ∉ state.reported :=
        whole ▸ tracked.unreported .retry command resolves
      have refused : allowed resolve state .advance = false := by simp [allowed, resolves, invalid]
      rw [AllReported, finishes, reported_push, refused]
      simp [Rejected, live, invalid, ControlLoop.rejected, missing]
  | reports reporting =>
    have fine : allowed resolve state .advance = true := by simp [allowed, reporting]
    rcases List.eq_nil_or_concat state.taken with none | ⟨before, command, newest⟩
    · simp [AllReported, finished, reporting, none, fine, Reported]
    · have earlier : finished state = before := by simp [finished, reporting, newest]
      have shorter : before.length < state.taken.length := by simp [newest]
      rw [AllReported, AllReported, fine, earlier]
      show Reported resolve state.taken (state.reported ++ [state.taken]) ↔ _
      rw [← reported_later shorter, newest, List.concat_eq_append, reported_push]
      simp
  | starts starting => simp [AllReported, finished, starting, allowed]

/-- **When no command vanishes.** In a run of the two threads every rejected command
is reported before the next one is taken, and every accepted one is run unless
another one follows it first, exactly when no command taken after a failed run is
rejected. -/
theorem no_command_vanishes_iff (resolve : Resolve) (frequencyHz : UInt64)
    (tuningExplicit : Bool)
    (ran : run (ControlLoop.next resolve) (ControlLoop.init frequencyHz tuningExplicit) actions =
      some state) :
    (AllReported resolve state ∧ Determined resolve state) ↔
      along (allowed resolve) (ControlLoop.next resolve)
        (ControlLoop.init frequencyHz tuningExplicit) actions = true := by
  let initial := if tuningExplicit then some frequencyHz else none
  let Inv := fun state => Invariant resolve initial state ∧ Tracked resolve state
  have start : Inv (ControlLoop.init frequencyHz tuningExplicit) :=
    ⟨init_invariant resolve frequencyHz tuningExplicit,
      init_tracked resolve frequencyHz tuningExplicit⟩
  have keeps : ∀ state action after, Inv state →
      ControlLoop.next resolve state action = some after → Inv after := by
    rintro state action after ⟨invariant, tracked⟩ taken
    have step := ControlLoop.step_of_next taken
    exact ⟨step_invariant invariant step, step_tracked invariant tracked step⟩
  have reports := run_iff_along Inv (AllReported resolve)
    (fun state action after inv taken => ⟨keeps state action after inv taken,
      step_reported inv.1 inv.2 (ControlLoop.step_of_next taken)⟩) start ran
  have nothing : AllReported resolve (ControlLoop.init frequencyHz tuningExplicit) := by
    intro before command rest split
    simp [finished, ControlLoop.init] at split
  obtain ⟨invariant, tracked⟩ := run_keeps Inv keeps start ran
  rw [reports]
  constructor
  · rintro ⟨⟨-, all⟩, -⟩
    exact all
  · intro all
    exact ⟨⟨nothing, all⟩, accepted_determine invariant tracked⟩

/-- The first run fails, and the frequency posted meanwhile is outside the band. -/
def rejectedRetry : List ControlLoop.Action :=
  [.advance, .advance, .advance, .post ⟨.tune, 1⟩, .returned false, .stop false, .advance,
    .advance, .advance]

/-- The command was taken and is gone: the loop waits, and nothing was reported. -/
theorem rejected_retry_vanishes :
    ∃ state, run (ControlLoop.next ControlLoop.oneChannel) (ControlLoop.init 473142857 true)
        rejectedRetry = some state ∧
      state.taken = [⟨.tune, 1⟩] ∧ state.position = .wait ∧ state.reported = [] ∧
      ¬ AllReported ControlLoop.oneChannel state := by
  have evaluated : (run (ControlLoop.next ControlLoop.oneChannel)
      (ControlLoop.init 473142857 true) rejectedRetry).any
      (fun state => state.taken = [⟨.tune, 1⟩] ∧ state.position = .wait ∧
        state.reported = []) = true := by
    decide +kernel
  obtain ⟨state, ran, checked⟩ := (Option.any_eq_true _ _).mp evaluated
  obtain ⟨taken, position, reported⟩ := of_decide_eq_true checked
  refine ⟨state, ran, taken, position, reported, ?_⟩
  intro all
  have report := all [] ⟨.tune, 1⟩ [] (by simp [finished, position, taken])
    ⟨by decide, by decide +kernel⟩
  simp [reported] at report

/-- The same run with a channel of the table: it is tried next. -/
theorem accepted_retry_runs :
    ∃ actions state, run (ControlLoop.next ControlLoop.oneChannel)
        (ControlLoop.init 473142857 true) actions = some state ∧
      state.runs.map (·.frequencyHz) = [473142857, 479142857] ∧
      AllReported ControlLoop.oneChannel state ∧ Determined ControlLoop.oneChannel state := by
  let actions : List ControlLoop.Action :=
    [.advance, .advance, .advance, .post ⟨.channel, 14⟩, .returned false, .stop false, .advance,
      .advance, .advance, .advance, .advance]
  have evaluated : (run (ControlLoop.next ControlLoop.oneChannel)
      (ControlLoop.init 473142857 true) actions).any
      (fun state => state.runs.map (·.frequencyHz) = [473142857, 479142857]) = true := by
    decide +kernel
  obtain ⟨state, ran, runs⟩ := (Option.any_eq_true _ _).mp evaluated
  obtain ⟨reported, determined⟩ := (no_command_vanishes_iff ControlLoop.oneChannel 473142857 true
    ran).mpr (by decide +kernel)
  exact ⟨actions, state, ran, of_decide_eq_true runs, reported, determined⟩

end SianoUserland.ControlReports
