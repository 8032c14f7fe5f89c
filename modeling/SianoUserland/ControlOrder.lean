import Mathlib.Data.List.Induction
import SianoUserland.ControlLoop

/-! Commands reach `run_wire` in the order in which they were posted. Every run
uses the latest selection there is when it starts, and no selection is used twice. -/
namespace SianoUserland.ControlOrder
open Transition

variable {resolve : Resolve} {initial : Option UInt64} {state after : ControlLoop}

/-- The selections there are once `taken` has been taken: the initial one, if there
is one, and what the commands resolve to. -/
def entries (resolve : Resolve) (initial : Option UInt64) (taken : List Posted) : List UInt64 :=
  initial.toList ++ taken.filterMap (resolveControlHz resolve)

/-- What holds of the commands and the runs whenever the mutex is free. -/
structure InOrder (resolve : Resolve) (initial : Option UInt64) (state : ControlLoop) : Prop where
  interrupt : state.shared.interrupt = !state.shared.commands.isEmpty
  fifo : state.posted = state.taken ++ state.shared.commands
  subsequence : (state.runs.map (·.frequencyHz)).Sublist (entries resolve initial state.taken)
  taken : ∀ run ∈ state.runs, run.after <+: state.taken
  latest : ∀ run ∈ state.runs,
    (entries resolve initial run.after).getLast? = some run.frequencyHz
  once : state.runs.Pairwise fun earlier later =>
    (entries resolve initial earlier.after).length < (entries resolve initial later.after).length
  quit : ∀ run ∈ state.runs, ∀ command ∈ run.after, command.kind ≠ .quit

/-- The selection in `frequency_hz` is the latest, and no run has used it. -/
def Fresh (resolve : Resolve) (initial : Option UInt64) (state : ControlLoop) : Prop :=
  (entries resolve initial state.taken).getLast? = some state.frequencyHz ∧
    ∀ run ∈ state.runs, (entries resolve initial run.after).length <
      (entries resolve initial state.taken).length

/-- What the loop relies on where it stands. -/
def Placed (resolve : Resolve) (initial : Option UInt64) (state : ControlLoop) : Prop :=
  match state.position with
  | .top => state.haveSelection = true → Fresh resolve initial state
  | .wait | .check .selection | .take .selection => state.haveSelection = false
  | .take .pending | .start => Fresh resolve initial state
  | .check .pending => False
  | .resolve _ command =>
    ∃ before, state.taken = before ++ [command] ∧ ∀ run ∈ state.runs, run.after <+: before
  | .check .retry | .check .next | .take .retry | .take .next | .report | .running | .ended => True

/-- The invariant of the loop: what is promised of the runs so far, apart from
their being a subsequence, which follows. -/
structure Invariant (resolve : Resolve) (initial : Option UInt64) (state : ControlLoop) :
    Prop where
  interrupt : state.shared.interrupt = !state.shared.commands.isEmpty
  fifo : state.posted = state.taken ++ state.shared.commands
  taken : ∀ run ∈ state.runs, run.after <+: state.taken
  latest : ∀ run ∈ state.runs,
    (entries resolve initial run.after).getLast? = some run.frequencyHz
  once : state.runs.Pairwise fun earlier later =>
    (entries resolve initial earlier.after).length < (entries resolve initial later.after).length
  quit : ∀ run ∈ state.runs, ∀ command ∈ run.after, command.kind ≠ .quit
  live : state.position ≠ .ended → ∀ command ∈ state.taken, command.kind ≠ .quit
  placed : Placed resolve initial state

/-! ## Selections -/

theorem entries_extend (resolve : Resolve) (initial : Option UInt64) (earlier : before <+: taken) :
    entries resolve initial before <+: entries resolve initial taken := by
  obtain ⟨rest, rfl⟩ := earlier
  exact ⟨rest.filterMap (resolveControlHz resolve), by simp [entries]⟩

/-- An accepted command is the newest selection. -/
theorem entries_accepted (valid : resolveControlHz resolve command = some frequencyHz)
    (before : List Posted) :
    entries resolve initial (before ++ [command]) =
      entries resolve initial before ++ [frequencyHz] := by
  simp [entries, valid]

/-- Entries used at ever later positions are a subsequence. By induction on the uses
from the last one, so that the earlier ones end before it. -/
theorem sublist_of_uses (list : List α) (uses : List (Nat × α))
    (used : ∀ use ∈ uses, list[use.1]? = some use.2)
    (later : uses.Pairwise fun first second => first.1 < second.1)
    (within : ∀ use ∈ uses, use.1 < bound) :
    (uses.map Prod.snd).Sublist (list.take bound) := by
  induction uses using List.reverseRecOn generalizing bound with
  | nil => exact List.nil_sublist _
  | append_singleton uses use ih =>
    obtain ⟨increasing, -, before⟩ := List.pairwise_append.mp later
    have last := used use (by simp)
    have bounded := within use (by simp)
    have earlier := ih (fun other member => used other (by simp [member])) increasing
      (fun other member => before other member use (by simp))
    have next : list.take (use.1 + 1) = list.take use.1 ++ [use.2] := by
      rw [List.take_add_one, last]
      rfl
    have shorter : (list.take (use.1 + 1)).Sublist (list.take bound) :=
      List.take_sublist_take_left (by omega)
    rw [List.map_append]
    refine List.Sublist.trans ?_ (next ▸ shorter)
    exact earlier.append (List.Sublist.refl _)

/-- The runs use entries at ever later positions. -/
theorem runs_sublist (invariant : Invariant resolve initial state) :
    (state.runs.map (·.frequencyHz)).Sublist (entries resolve initial state.taken) := by
  let uses := state.runs.map fun run =>
    ((entries resolve initial run.after).length - 1, run.frequencyHz)
  have used : ∀ use ∈ uses, (entries resolve initial state.taken)[use.1]? = some use.2 := by
    intro use member
    obtain ⟨run, ran, rfl⟩ := List.mem_map.mp member
    have last := invariant.latest run ran
    rw [List.getLast?_eq_getElem?] at last
    obtain ⟨rest, whole⟩ := entries_extend resolve initial (invariant.taken run ran)
    rw [← whole]
    exact List.getElem?_append_left (List.getElem?_eq_some_iff.mp last).1 ▸ last
  have later : uses.Pairwise fun first second => first.1 < second.1 := by
    refine List.pairwise_map.mpr (invariant.once.imp_of_mem ?_)
    intro first second memberFirst memberSecond shorter
    have last := invariant.latest first memberFirst
    have nonempty : entries resolve initial first.after ≠ [] := by
      intro empty
      simp [empty] at last
    have positive := List.length_pos_iff.mpr nonempty
    show _ - 1 < _ - 1
    omega
  have subsequence := sublist_of_uses _ uses used later fun use member =>
    (List.getElem?_eq_some_iff.mp (used use member)).1
  rw [List.take_length, List.map_map] at subsequence
  exact subsequence

/-! ## Steps -/

/-- A step that takes nothing and starts nothing only has to find its place. -/
theorem invariant_moved (invariant : Invariant resolve initial state)
    (shared : after.shared = state.shared) (posted : after.posted = state.posted)
    (taken : after.taken = state.taken) (runs : after.runs = state.runs)
    (live : state.position ≠ .ended) (placed : Placed resolve initial after) :
    Invariant resolve initial after := by
  refine ⟨?_, ?_, ?_, ?_, ?_, ?_, fun _ => ?_, placed⟩
  · rw [shared]
    exact invariant.interrupt
  · rw [posted, taken, shared]
    exact invariant.fifo
  · rw [runs, taken]
    exact invariant.taken
  · rw [runs]
    exact invariant.latest
  · rw [runs]
    exact invariant.once
  · rw [runs]
    exact invariant.quit
  · rw [taken]
    exact invariant.live live

/-- Being placed depends on nothing that a post changes. -/
theorem invariant_post (invariant : Invariant resolve initial state) (command : Posted) :
    Invariant resolve initial
      { state with
        shared := state.shared.post command
        posted := state.posted ++ [command] } :=
  { invariant with
    interrupt := by simp [ControlState.post]
    fifo := by simp [ControlState.post, invariant.fifo] }

/-- A take moves the first command from the queue to what was taken. -/
theorem invariant_take (invariant : Invariant resolve initial state)
    (first : state.shared.commands = command :: rest) (position : Position)
    (live : position ≠ .ended → ∀ earlier ∈ state.taken ++ [command], earlier.kind ≠ .quit)
    (placed : Placed resolve initial
      { state with
        shared := ⟨rest, !rest.isEmpty⟩
        taken := state.taken ++ [command]
        position := position }) :
    Invariant resolve initial
      { state with
        shared := ⟨rest, !rest.isEmpty⟩
        taken := state.taken ++ [command]
        position := position } :=
  { invariant with
    interrupt := rfl
    fifo := by simp [invariant.fifo, first]
    taken := fun run ran => (invariant.taken run ran).trans (List.prefix_append _ _)
    live := live
    placed := placed }

/-- A run takes the selection that no run has used. -/
theorem invariant_start (invariant : Invariant resolve initial state)
    (starting : state.position = .start) :
    Invariant resolve initial
      { state with
        position := .running
        runs := state.runs ++ [⟨state.frequencyHz, state.taken⟩] } := by
  have live : ∀ command ∈ state.taken, command.kind ≠ .quit :=
    invariant.live (by simp [starting])
  have fresh : Fresh resolve initial state := by
    have placed := invariant.placed
    rwa [Placed, starting] at placed
  refine ⟨invariant.interrupt, invariant.fifo, ?_, ?_, ?_, ?_, fun _ => live, trivial⟩
  · intro run member
    rcases List.mem_append.mp member with old | new
    · exact invariant.taken run old
    · cases List.mem_singleton.mp new
      exact List.prefix_refl _
  · intro run member
    rcases List.mem_append.mp member with old | new
    · exact invariant.latest run old
    · rw [List.mem_singleton.mp new]
      exact fresh.1
  · refine List.pairwise_append.mpr ⟨invariant.once, List.pairwise_singleton _ _, ?_⟩
    intro earlier member later new
    rw [List.mem_singleton.mp new]
    exact fresh.2 earlier member
  · intro run member
    rcases List.mem_append.mp member with old | new
    · exact invariant.quit run old
    · rw [List.mem_singleton.mp new]
      exact live

/-- An accepted command gives a selection that no run has used. -/
theorem fresh_accepted (invariant : Invariant resolve initial state)
    (resolves : state.position = .resolve site command)
    (valid : resolveControlHz resolve command = some frequencyHz)
    (frequency : after.frequencyHz = frequencyHz) (taken : after.taken = state.taken)
    (runs : after.runs = state.runs) : Fresh resolve initial after := by
  have placed := invariant.placed
  simp only [Placed, resolves] at placed
  obtain ⟨before, newest, earlier⟩ := placed
  have whole : entries resolve initial after.taken =
      entries resolve initial before ++ [frequencyHz] := by
    rw [taken, newest, entries_accepted valid]
  refine ⟨by rw [whole, frequency]; simp, ?_⟩
  intro run ran
  rw [runs] at ran
  have shorter := (entries_extend resolve initial (earlier run ran)).length_le
  rw [whole, List.length_append, List.length_singleton]
  exact Nat.lt_succ_of_le shorter

theorem step_invariant (invariant : Invariant resolve initial state)
    (step : ControlLoop.Step resolve state action after) : Invariant resolve initial after := by
  have placed := invariant.placed
  cases step with
  | post command => exact invariant_post invariant command
  | asleep waits => exact invariant
  | woken requested waits =>
    simp only [Placed, waits] at placed
    exact invariant_moved invariant rfl rfl rfl rfl (by simp [waits]) placed
  | stopped site checks =>
    exact invariant_moved invariant rfl rfl rfl rfl (by simp [checks]) trivial
  | proceeds site checks =>
    simp only [Placed, checks] at placed
    refine invariant_moved invariant rfl rfl rfl rfl (by simp [checks]) ?_
    cases site with
    | selection => exact placed
    | pending => exact placed.elim
    | retry | next => trivial
  | returned succeeded runs =>
    refine invariant_moved invariant rfl rfl rfl rfl (by simp [runs]) ?_
    cases succeeded with
    | true => trivial
    | false => trivial
  | selected tops selection =>
    simp only [Placed, tops] at placed
    exact invariant_moved invariant rfl rfl rfl rfl (by simp [tops]) (placed selection)
  | unselected tops selection =>
    exact invariant_moved invariant rfl rfl rfl rfl (by simp [tops]) selection
  | nothing site takes empty =>
    simp only [Placed, takes] at placed
    cases site with
    | selection =>
      refine invariant_moved invariant rfl rfl rfl rfl (by simp [takes]) ?_
      intro selection
      simp [ControlLoop.noCommand, placed] at selection
    | pending => exact invariant_moved invariant rfl rfl rfl rfl (by simp [takes]) placed
    | retry =>
      refine invariant_moved invariant rfl rfl rfl rfl (by simp [takes]) ?_
      intro selection
      cases selection
    | next => exact invariant_moved invariant rfl rfl rfl rfl (by simp [takes]) trivial
  | quit site takes command rest first quits =>
    exact invariant_take invariant first .ended (fun running => absurd rfl running) trivial
  | took site takes command rest first goesOn =>
    refine invariant_take invariant first (.resolve site command) ?_
      ⟨state.taken, rfl, invariant.taken⟩
    intro _ earlier member
    rcases List.mem_append.mp member with old | new
    · exact invariant.live (by simp [takes]) earlier old
    · rw [List.mem_singleton.mp new]
      exact goesOn
  | accepts site command frequencyHz resolves valid =>
    have live : state.position ≠ .ended := by simp [resolves]
    cases site with
    | selection =>
      exact invariant_moved invariant rfl rfl rfl rfl live
        (fresh_accepted invariant resolves valid rfl rfl rfl)
    | pending =>
      exact invariant_moved invariant rfl rfl rfl rfl live
        (fresh_accepted invariant resolves valid rfl rfl rfl)
    | retry =>
      exact invariant_moved invariant rfl rfl rfl rfl live
        (fun _ => fresh_accepted invariant resolves valid rfl rfl rfl)
    | next =>
      exact invariant_moved invariant rfl rfl rfl rfl live
        (fun _ => fresh_accepted invariant resolves valid rfl rfl rfl)
  | rejects site command resolves invalid =>
    have live : state.position ≠ .ended := by simp [resolves]
    cases site with
    | selection | pending | next =>
      exact invariant_moved invariant rfl rfl rfl rfl live trivial
    | retry =>
      refine invariant_moved invariant rfl rfl rfl rfl live ?_
      intro selection
      cases selection
  | reports reporting =>
    refine invariant_moved invariant rfl rfl rfl rfl (by simp [reporting]) ?_
    intro selection
    cases selection
  | starts starting => exact invariant_start invariant starting

theorem init_invariant (resolve : Resolve) (frequencyHz : UInt64) (tuningExplicit : Bool) :
    Invariant resolve (if tuningExplicit then some frequencyHz else none)
      (ControlLoop.init frequencyHz tuningExplicit) := by
  refine ⟨rfl, rfl, by simp [ControlLoop.init], by simp [ControlLoop.init], List.Pairwise.nil,
    by simp [ControlLoop.init], by simp [ControlLoop.init], ?_⟩
  intro selection
  have explicit : tuningExplicit = true := selection
  subst explicit
  exact ⟨rfl, by simp [ControlLoop.init]⟩

/-- **Commands are run in the order in which they were posted.** In every state of
every run of the two threads the interrupt says whether commands wait, commands were
taken in posting order, and the runs use ever later selections, each the latest there
was when the run started and none after a quit was taken. -/
theorem commands_run_in_order (resolve : Resolve) (frequencyHz : UInt64) (tuningExplicit : Bool)
    (ran : run (ControlLoop.next resolve) (ControlLoop.init frequencyHz tuningExplicit) actions =
      some state) :
    InOrder resolve (if tuningExplicit then some frequencyHz else none) state := by
  have invariant := run_keeps
    (Invariant resolve (if tuningExplicit then some frequencyHz else none))
    (fun _ _ _ invariant taken => step_invariant invariant (ControlLoop.step_of_next taken))
    (init_invariant resolve frequencyHz tuningExplicit) ran
  exact ⟨invariant.interrupt, invariant.fifo, runs_sublist invariant, invariant.taken,
    invariant.latest, invariant.once, invariant.quit⟩

/-- A channel is posted during the first run, and a tune before the channel's own
run could start. -/
def replacedChannel : List ControlLoop.Action :=
  [.advance, .advance, .advance, .post ⟨.channel, 14⟩, .returned true, .stop false, .advance,
    .post ⟨.tune, 503142857⟩, .advance, .advance, .advance, .advance, .advance]

/-- Only the initial selection and the tune are run. -/
theorem commands_run_replaced_channel :
    ∃ state, run (ControlLoop.next ControlLoop.oneChannel) (ControlLoop.init 473142857 true)
        replacedChannel = some state ∧
      state.runs.map (·.frequencyHz) = [473142857, 503142857] ∧
      InOrder ControlLoop.oneChannel (some 473142857) state := by
  have evaluated : (run (ControlLoop.next ControlLoop.oneChannel)
      (ControlLoop.init 473142857 true) replacedChannel).any
      (fun state => state.runs.map (·.frequencyHz) = [473142857, 503142857]) = true := by
    decide +kernel
  obtain ⟨state, ran, runs⟩ := (Option.any_eq_true _ _).mp evaluated
  exact ⟨state, ran, of_decide_eq_true runs,
    commands_run_in_order ControlLoop.oneChannel 473142857 true ran⟩

end SianoUserland.ControlOrder
