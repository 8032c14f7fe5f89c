import SianoUserland.FailedTune
import SianoUserland.StreamState

/-! `stream_ts_control` of `siano-ts.c`: the standalone program streams, and assembles control
lines from whatever its reads return. A line that does not fit its buffer is given up until the
next newline. -/
namespace SianoUserland.StreamControl
open ControlParse

/-- What `stream_ts_control` does about a line: it is passed to `handle_control_line`, or
reported as invalid because it does not fit. -/
inductive Act where
  | handle (line : List UInt8)
  | overlong
  deriving Repr, DecidableEq

/-- The locals of `stream_ts_control` and what they control, with two histories. -/
structure Session (σ : Type) where
  control : Control σ UInt8
  /-- The first `line_len` bytes of `line`. -/
  line : List UInt8 := []
  lineOverflow : Bool := false
  /-- Everything read from the standard input. -/
  input : List UInt8 := []
  acts : List Act := []

/-- What `siano_control_input_read` returns; no bytes at the end of the input. -/
inductive InputRead where
  | again
  | failed (error : Int)
  | bytes (input : List UInt8)
  deriving Repr, DecidableEq

/-- What one pass of the loop meets. -/
structure Turn (σ : Type) where
  stopRequested : Bool := false
  /-- What the USB threads do to the queue before the pop. -/
  arrived : List (UsbEvent σ) := []
  /-- `siano_stream_state_error` after the pop. -/
  error : Int := 0
  /-- What the writes of the pump return. -/
  answers : List Int := []
  /-- What the USB threads do to the queue while the pump writes. -/
  written : List (UsbEvent σ) := []
  /-- `siano_stream_state_error` in `stream_pending_check`. -/
  pendingError : Int := 0
  /-- `siano_control_input_ready`. -/
  ready : Int := 0
  read : InputRead := .again

/-- Why `stream_ts_control` returned. -/
inductive Ending where
  | stopped
  | streamError
  | outputError
  | inputError
  | filterError
  /-- At the end of the input, or after a line that quits. -/
  | finished
  deriving Repr, DecidableEq

/-- Where a run is. -/
inductive Outcome (σ : Type) where
  | running (session : Session σ)
  /-- Inside of the tune of the last line. -/
  | tuning (session : Session σ)
  | returned (ending : Ending) (rc : Int) (session : Session σ)

def Outcome.session : Outcome σ → Session σ
  | .running session | .tuning session | .returned _ _ session => session

/-- `stream_pending_check`. -/
def streamPendingCheck (queue : TsQueue σ) (error : Int) : Int :=
  if error < 0 then error else if queue.overflowed then -Errno.nobufs else 0

/-- The pop of one pass, and the feed of what it takes. -/
def popAndFeed (turn : Turn σ) (control : Control σ UInt8) :
    Except (Ending × Int) (Control σ UInt8) :=
  let queue := UsbEvent.applyAll control.queue turn.arrived
  if control.pump.busy then .ok { control with queue := queue }
  else
    let (taken, queue) := queue.pop
    let popped := match taken with
      | .ok _ => 0
      | .error rc => rc
    let rc := if turn.error < 0 then turn.error else popped
    if rc < 0 ∧ rc ≠ -Errno.again then .error (.streamError, rc)
    else
      match taken with
      | .ok chunk =>
        if rc = 0 then
          .ok { control with queue := queue, pump := control.pump.feed chunk.data }
        else .ok { control with queue := queue }
      | .error _ => .ok { control with queue := queue }

/-- The output of one pass. -/
def stepOutput (turn : Turn σ) (control : Control σ UInt8) :
    Except (Ending × Int) (Control σ UInt8) :=
  if control.pump.busy = false then .ok control
  else
    let outcome := control.pump.step id turn.answers
    let rc := outcome.rc.getD 0
    let queue := UsbEvent.applyAll control.queue turn.written
    let control := { control with pump := outcome.pump, queue := queue }
    if rc < 0 then .error (.outputError, rc)
    else if rc = outputPending then
      let error := streamPendingCheck queue turn.pendingError
      if error < 0 then .error (.streamError, error) else .ok control
    else .ok control

/-- What the tune and the PID filters of each line that is passed on will meet. -/
abbrev Tunes (σ : Type) := Nat → TuneRun σ × Int

/-- The loop over the bytes of a read. -/
def assemble (tunes : Tunes σ) (session : Session σ) : List UInt8 → Outcome σ
  | [] => .running session
  | byte :: rest =>
    if session.control.quit then .running session
    else if byte = 10 then
      if session.lineOverflow then
        assemble tunes { session with
          line := [], lineOverflow := false, acts := session.acts ++ [.overlong] } rest
      else
        let (run, configured) := tunes session.acts.length
        let passed := { session with acts := session.acts ++ [.handle session.line] }
        match handleControlLine (parseControlLine session.line) run configured session.control with
        | none => .tuning passed
        | some (rc, control) =>
          if rc < 0 then .returned .filterError rc { passed with control := control }
          else
            assemble tunes { passed with
              control := control, line := [], lineOverflow := false } rest
    else if session.line.length + 1 < 128 then
      assemble tunes { session with line := session.line ++ [byte] } rest
    else assemble tunes { session with lineOverflow := true } rest

/-- The input of one pass. -/
def readInput (tunes : Tunes σ) (turn : Turn σ) (session : Session σ) : Outcome σ :=
  if turn.ready < 0 then .returned .inputError turn.ready session
  else if 0 < turn.ready then
    match turn.read with
    | .again => .running session
    | .failed error => .returned .inputError error session
    | .bytes [] => .returned .finished 0 session
    | .bytes (byte :: bytes) =>
      assemble tunes { session with input := session.input ++ byte :: bytes } (byte :: bytes)
  else .running session

/-- One pass of the loop. -/
def pass (tunes : Tunes σ) (session : Session σ) (turn : Turn σ) : Outcome σ :=
  if session.control.quit then .returned .finished 0 session
  else if turn.stopRequested then .returned .stopped 0 session
  else
    match popAndFeed turn session.control with
    | .error (ending, rc) => .returned ending rc session
    | .ok control =>
      match stepOutput turn control with
      | .error (ending, rc) => .returned ending rc session
      | .ok control => readInput tunes turn { session with control := control }

def loop (tunes : Tunes σ) (session : Session σ) : List (Turn σ) → Outcome σ
  | [] => .running session
  | turn :: rest =>
    match pass tunes session turn with
    | .running session => loop tunes session rest
    | ended => ended

/-- `stream_ts_control`; `initialised` is what `siano_control_input_init` returns. -/
def streamTsControl (tunes : Tunes σ) (initialised : Int) (control : Control σ UInt8)
    (turns : List (Turn σ)) : Outcome σ :=
  let session : Session σ := { control := { control with quit := false } }
  if initialised < 0 then .returned .inputError initialised session else loop tunes session turns

/-! ## What the input asks for -/

/-- The bytes that the reads of turns return one after the other, up to the end of the input. -/
def bytesRead : List (Turn σ) → List UInt8
  | [] => []
  | turn :: rest =>
    if 0 < turn.ready then
      match turn.read with
      | .again | .failed _ => bytesRead rest
      | .bytes [] => []
      | .bytes (byte :: bytes) => byte :: bytes ++ bytesRead rest
    else bytesRead rest

/-- The lines that a stream ends with a newline, when `current` has been read of the first. -/
def linesFrom (current : List UInt8) : List UInt8 → List (List UInt8)
  | [] => []
  | byte :: rest =>
    if byte = 10 then current :: linesFrom [] rest else linesFrom (current ++ [byte]) rest

/-- What a stream has of a line that no newline ends. -/
def tailFrom (current : List UInt8) : List UInt8 → List UInt8
  | [] => current
  | byte :: rest => if byte = 10 then tailFrom [] rest else tailFrom (current ++ [byte]) rest

/-- The lines of a stream that a newline ends. -/
def terminatedLines (stream : List UInt8) : List (List UInt8) := linesFrom [] stream

/-- A line that fits the buffer and quits. -/
def quits (line : List UInt8) : Bool := line.length ≤ 127 && parseControlLine line == .quit

/-- What lines ask for: those of at most 127 bytes are passed on, up to and with the first that
quits, and longer ones are reported. -/
def asked : List (List UInt8) → List Act
  | [] => []
  | line :: rest =>
    (if line.length ≤ 127 then .handle line else .overlong) ::
      if quits line then [] else asked rest

theorem linesFrom_append (current first second : List UInt8) :
    linesFrom current (first ++ second) =
      linesFrom current first ++ linesFrom (tailFrom current first) second := by
  induction first generalizing current with
  | nil => rfl
  | cons byte first ih =>
    simp only [List.cons_append, linesFrom, tailFrom]
    split
    · rw [ih, List.cons_append]
    · exact ih _

theorem tailFrom_append (current first second : List UInt8) :
    tailFrom current (first ++ second) = tailFrom (tailFrom current first) second := by
  induction first generalizing current with
  | nil => rfl
  | cons byte first ih =>
    simp only [List.cons_append, tailFrom]
    split
    · exact ih _
    · exact ih _

theorem terminatedLines_append (first second : List UInt8) :
    terminatedLines (first ++ second) =
      terminatedLines first ++ linesFrom (tailFrom [] first) second :=
  linesFrom_append [] first second

theorem linesFrom_unbroken (current line : List UInt8) (unbroken : 10 ∉ line)
    (rest : List UInt8) : linesFrom current (line ++ rest) = linesFrom (current ++ line) rest := by
  induction line generalizing current with
  | nil => simp
  | cons byte line ih =>
    have other : byte ≠ 10 := fun newline => unbroken (newline ▸ List.mem_cons_self)
    rw [List.cons_append, linesFrom, if_neg other,
      ih _ (fun member => unbroken (List.mem_cons_of_mem _ member)), List.append_assoc]
    rfl

/-- The lines of a stream are those it is made of. -/
theorem terminatedLines_eq (lines : List (List UInt8)) (last : List UInt8)
    (unbroken : ∀ line ∈ lines, 10 ∉ line) (rest : 10 ∉ last) :
    terminatedLines (lines.flatMap (· ++ [10]) ++ last) = lines := by
  unfold terminatedLines
  induction lines with
  | nil =>
    have none := linesFrom_unbroken [] last rest []
    rw [List.append_nil] at none
    exact none
  | cons line lines ih =>
    have first := unbroken line List.mem_cons_self
    rw [List.flatMap_cons, List.append_assoc, List.append_assoc, linesFrom_unbroken [] line first]
    simp only [List.nil_append, List.cons_append, linesFrom, if_true]
    rw [ih (fun other member => unbroken other (List.mem_cons_of_mem _ member))]

theorem asked_append (going : ∀ line ∈ first, quits line = false) (second : List (List UInt8)) :
    asked (first ++ second) = asked first ++ asked second := by
  induction first with
  | nil => rfl
  | cons line first ih =>
    have goes := going line List.mem_cons_self
    simp only [List.cons_append, asked, goes, Bool.false_eq_true, if_false]
    rw [ih (fun other member => going other (List.mem_cons_of_mem _ member))]

/-- Nothing is asked for after a line that quits. -/
theorem asked_quits (quit : ∃ line ∈ first, quits line = true) (second : List (List UInt8)) :
    asked (first ++ second) = asked first := by
  induction first with
  | nil =>
    obtain ⟨line, member, -⟩ := quit
    cases member
  | cons line first ih =>
    simp only [List.cons_append, asked]
    by_cases now : quits line = true
    · simp [now]
    · simp only [now, Bool.false_eq_true, if_false]
      rw [ih]
      obtain ⟨other, member, found⟩ := quit
      obtain rfl | member := List.mem_cons.mp member
      · exact absurd found now
      · exact ⟨other, member, found⟩

/-! ## What the assembler does -/

/-- What the buffer holds of an unfinished line. -/
def Holds (session : Session σ) (tail : List UInt8) : Prop :=
  (tail.length ≤ 127 ∧ session.lineOverflow = false ∧ session.line = tail) ∨
    (127 < tail.length ∧ session.lineOverflow = true ∧ session.line.length = 127)

/-- A session that has gone through `done`. -/
structure Assembled (session : Session σ) (done : List UInt8) : Prop where
  acts : session.acts = asked (terminatedLines done)
  quit : session.control.quit = (terminatedLines done).any quits
  holds : session.control.quit = false → Holds session (tailFrom [] done)
  bounded : session.line.length < 128

variable {session : Session σ} {tunes : Tunes σ} {control after : Control σ UInt8}

theorem tuneTo_quit (tuned : tuneTo frequency run configured control = some (rc, after)) :
    after.quit = control.quit := by
  obtain ⟨⟨response, queue⟩, -, result⟩ := Option.map_eq_some_iff.mp tuned
  dsimp only at result
  split at result
  · cases result
    rfl
  split at result
  · cases result
    rfl
  split at result
  · cases result
    rfl
  · cases result
    rfl

/-- A line ends the session exactly when it quits. -/
theorem handle_quit (handled : handleControlLine command run configured control = some (rc, after))
    (going : control.quit = false) : after.quit = (command == .quit) := by
  cases command with
  | empty =>
    cases handled
    exact going
  | invalid =>
    cases handled
    exact going
  | quit =>
    cases handled
    rfl
  | tune value => exact (tuneTo_quit handled).trans going
  | channel value =>
    simp only [handleControlLine] at handled
    split at handled
    · cases handled
      exact going
    · exact (tuneTo_quit handled).trans going

theorem assembled_snoc_of_quit (assembled : Assembled session done)
    (quit : session.control.quit = true) (more : List UInt8) :
    Assembled session (done ++ more) := by
  have found : ∃ line ∈ terminatedLines done, quits line = true := by
    rw [assembled.quit] at quit
    simpa using quit
  refine ⟨?_, ?_, fun going => absurd quit (by simp [going]), assembled.bounded⟩
  · rw [terminatedLines_append, asked_quits found]
    exact assembled.acts
  · rw [terminatedLines_append, List.any_append, ← assembled.quit, quit, Bool.true_or]

/-- The lines before a session that goes on do not quit. -/
theorem going_lines (assembled : Assembled session done) (going : session.control.quit = false) :
    ∀ line ∈ terminatedLines done, quits line = false := by
  rw [assembled.quit] at going
  simpa using going

/-- What is asked for up to a newline is what was asked for, and its line. -/
theorem asked_newline (assembled : Assembled session done) (going : session.control.quit = false)
    (rest : List UInt8) :
    asked (terminatedLines (done ++ 10 :: rest)) =
      session.acts ++ asked (tailFrom [] done :: linesFrom [] rest) := by
  rw [terminatedLines_append, asked_append (going_lines assembled going), assembled.acts]
  rfl

/-- A byte of a line goes into the buffer, or marks the line as overlong. -/
theorem assembled_byte (assembled : Assembled session done) (going : session.control.quit = false)
    (other : byte ≠ 10) :
    Assembled (if session.line.length + 1 < 128 then
      { session with line := session.line ++ [byte] } else { session with lineOverflow := true })
      (done ++ [byte]) := by
  have lines : terminatedLines (done ++ [byte]) = terminatedLines done := by
    simp [terminatedLines_append, linesFrom, other]
  have tail : tailFrom [] (done ++ [byte]) = tailFrom [] done ++ [byte] := by
    simp [tailFrom_append, tailFrom, other]
  have holds := assembled.holds going
  by_cases fits : session.line.length + 1 < 128
  · rw [if_pos fits]
    refine ⟨by rw [lines]; exact assembled.acts, by rw [lines]; exact assembled.quit, fun _ => ?_,
      by simp; omega⟩
    obtain ⟨short, intact, same⟩ | ⟨-, -, full⟩ := holds
    · rw [tail, ← same]
      exact Or.inl ⟨by simp; omega, intact, rfl⟩
    · omega
  · rw [if_neg fits]
    refine ⟨by rw [lines]; exact assembled.acts, by rw [lines]; exact assembled.quit, fun _ => ?_,
      assembled.bounded⟩
    have bounded := assembled.bounded
    obtain ⟨short, intact, same⟩ | ⟨long, overflow, full⟩ := holds
    · rw [tail, ← same]
      exact Or.inr ⟨by simp; omega, rfl, by simp; omega⟩
    · rw [tail]
      exact Or.inr ⟨by simp; omega, rfl, full⟩

/-- A newline ends a line, and the buffer is empty. -/
theorem assembled_newline (assembled : Assembled session done)
    (going : session.control.quit = false) (act : Act) (control : Control σ UInt8)
    (does : (if (tailFrom [] done).length ≤ 127 then .handle (tailFrom [] done)
      else .overlong) = act)
    (quit : control.quit = quits (tailFrom [] done)) :
    Assembled { session with
      control := control, line := [], lineOverflow := false, acts := session.acts ++ [act] }
      (done ++ [10]) := by
  refine ⟨?_, ?_, fun _ => ?_, by simp⟩
  · rw [asked_newline assembled going []]
    simp [linesFrom, asked, does]
  · have all : (terminatedLines done).any quits = false := by
      rw [← assembled.quit]
      exact going
    rw [terminatedLines_append, List.any_append, all]
    simp [linesFrom, quit]
  · rw [tailFrom_append]
    exact Or.inl ⟨by simp [tailFrom], rfl, by simp [tailFrom]⟩

/-- A run that was neither stopped nor ended by an error, and is not inside of a tune. -/
def Outcome.Undisturbed : Outcome σ → Prop
  | .running _ | .returned .finished _ _ => True
  | .tuning _ | .returned _ _ _ => False

instance (outcome : Outcome σ) : Decidable outcome.Undisturbed :=
  match outcome with
  | .running _ | .returned .finished _ _ => .isTrue trivial
  | .tuning _ | .returned .stopped _ _ | .returned .streamError _ _
  | .returned .outputError _ _ | .returned .inputError _ _
  | .returned .filterError _ _ => .isFalse id

/-- What a run that went through `done` has to do with it. -/
structure Agrees (outcome : Outcome σ) (done : List UInt8) : Prop where
  settled : outcome.Undisturbed → outcome.session.acts = asked (terminatedLines done)
  quit : outcome.Undisturbed →
    outcome.session.control.quit = (terminatedLines done).any quits
  leads : outcome.session.acts <+: asked (terminatedLines done)
  bounded : outcome.session.line.length < 128

theorem agrees_assembled {outcome : Outcome σ} (assembled : Assembled outcome.session done) :
    Agrees outcome done :=
  ⟨fun _ => assembled.acts, fun _ => assembled.quit, assembled.acts ▸ List.prefix_rfl,
    assembled.bounded⟩

/-- A run that was cut short of `done`, but for one line. -/
theorem prefix_of_handle (assembled : Assembled session done)
    (going : session.control.quit = false) (short : (tailFrom [] done).length ≤ 127)
    (rest : List UInt8) :
    session.acts ++ [.handle (tailFrom [] done)] <+:
      asked (terminatedLines (done ++ 10 :: rest)) := by
  rw [asked_newline assembled going, asked, if_pos short]
  exact ⟨_, by rw [List.append_assoc]; rfl⟩

theorem assemble_agrees (tunes : Tunes σ) (assembled : Assembled session done)
    (bytes : List UInt8) :
    match assemble tunes session bytes with
    | .running after => Assembled after (done ++ bytes)
    | outcome => Agrees outcome (done ++ bytes) := by
  induction bytes generalizing session done with
  | nil =>
    rw [assemble, List.append_nil]
    exact assembled
  | cons byte rest ih =>
    have shift : done ++ byte :: rest = (done ++ [byte]) ++ rest := by simp
    rw [assemble]
    by_cases quit : session.control.quit = true
    · rw [if_pos quit]
      exact assembled_snoc_of_quit assembled quit _
    rw [if_neg quit]
    have going : session.control.quit = false := by simpa using quit
    by_cases newline : byte = 10
    · subst newline
      rw [if_pos rfl]
      obtain ⟨short, intact, same⟩ | ⟨long, overflow, -⟩ := assembled.holds going
      · rw [if_neg (by simp [intact]), same]
        have passed := prefix_of_handle assembled going short rest
        dsimp only
        cases handled : handleControlLine (parseControlLine (tailFrom [] done))
            (tunes session.acts.length).1 (tunes session.acts.length).2 session.control with
        | none => exact ⟨False.elim, False.elim, passed, Nat.lt_succ_of_le short⟩
        | some result =>
          obtain ⟨rc, control⟩ := result
          dsimp only
          by_cases failed : rc < 0
          · rw [if_pos failed]
            exact ⟨False.elim, False.elim, passed, Nat.lt_succ_of_le short⟩
          · rw [if_neg failed, shift]
            have next := assembled_newline assembled going (.handle (tailFrom [] done)) control
              (if_pos short) (by simp [handle_quit handled going, quits, short])
            exact ih next
      · rw [if_pos overflow, shift]
        have next := assembled_newline assembled going .overlong session.control
          (if_neg (by omega)) (by simp [going, quits]; omega)
        exact ih next
    · rw [if_neg newline, shift]
      have next := assembled_byte assembled going newline
      by_cases fits : session.line.length + 1 < 128
      · rw [if_pos fits] at next ⊢
        exact ih next
      · rw [if_neg fits] at next ⊢
        exact ih next

/-- The loop over the bytes reads nothing itself, and only an undisturbed one goes on. -/
theorem assemble_reads (tunes : Tunes σ) (session : Session σ) (bytes : List UInt8) :
    (assemble tunes session bytes).session.input = session.input ∧
      ((assemble tunes session bytes).Undisturbed →
        ∃ after, assemble tunes session bytes = .running after) := by
  induction bytes generalizing session with
  | nil => exact ⟨rfl, fun _ => ⟨session, rfl⟩⟩
  | cons byte rest ih =>
    rw [assemble]
    split
    · exact ⟨rfl, fun _ => ⟨session, rfl⟩⟩
    split
    · split
      · exact ih _
      · dsimp only
        cases handleControlLine (parseControlLine session.line) (tunes session.acts.length).1
            (tunes session.acts.length).2 session.control with
        | none => exact ⟨rfl, False.elim⟩
        | some result =>
          dsimp only
          split
          · exact ⟨rfl, False.elim⟩
          · exact ih _
    · split
      · exact ih _
      · exact ih _

/-! ## Runs -/

theorem popAndFeed_quit (fed : popAndFeed turn control = .ok after) :
    after.quit = control.quit := by
  unfold popAndFeed at fed
  dsimp only at fed
  split at fed
  · cases fed
    rfl
  generalize (UsbEvent.applyAll control.queue turn.arrived).pop = popped at fed
  obtain ⟨taken, queue⟩ := popped
  cases taken with
  | error rc =>
    dsimp only at fed
    generalize (if turn.error < 0 then turn.error else rc) = result at fed
    split at fed
    · cases fed
    · cases fed
      rfl
  | ok chunk =>
    dsimp only at fed
    generalize (if turn.error < 0 then turn.error else 0) = result at fed
    split at fed
    · cases fed
    split at fed
    · cases fed
      rfl
    · cases fed
      rfl

theorem stepOutput_quit (stepped : stepOutput turn control = .ok after) :
    after.quit = control.quit := by
  unfold stepOutput at stepped
  dsimp only at stepped
  split at stepped
  · cases stepped
    rfl
  split at stepped
  · cases stepped
  split at stepped
  · split at stepped
    · cases stepped
    · cases stepped
      rfl
  · cases stepped
    rfl

/-- What streaming does to the queue and the pump does not concern the lines. -/
theorem assembled_control (assembled : Assembled session done)
    (same : control.quit = session.control.quit) :
    Assembled { session with control := control } done := by
  refine ⟨assembled.acts, same.trans assembled.quit, fun going => ?_, assembled.bounded⟩
  exact assembled.holds (same ▸ going)

/-- What is read joins what the session has been assembled from. -/
theorem readInput_agrees (tunes : Tunes σ) (turn : Turn σ)
    (assembled : Assembled session session.input) :
    match readInput tunes turn session with
    | .running after => Assembled after after.input
    | outcome => Agrees outcome outcome.session.input := by
  unfold readInput
  by_cases failed : turn.ready < 0
  · rw [if_pos failed]
    exact agrees_assembled assembled
  rw [if_neg failed]
  by_cases some : 0 < turn.ready
  · rw [if_pos some]
    cases turn.read with
    | again => exact assembled
    | failed error => exact agrees_assembled assembled
    | bytes input =>
      cases input with
      | nil => exact agrees_assembled assembled
      | cons byte bytes =>
        have read : Assembled { session with input := session.input ++ byte :: bytes }
            session.input :=
          ⟨assembled.acts, assembled.quit, assembled.holds, assembled.bounded⟩
        have agrees := assemble_agrees tunes read (byte :: bytes)
        have kept := (assemble_reads tunes { session with
          input := session.input ++ byte :: bytes } (byte :: bytes)).1
        dsimp only
        generalize assemble tunes _ (byte :: bytes) = outcome at kept agrees
        cases outcome with
        | running after =>
          dsimp only at agrees ⊢
          rwa [show after.input = _ from kept]
        | tuning after =>
          dsimp only at agrees ⊢
          rwa [kept]
        | returned ending rc after =>
          dsimp only at agrees ⊢
          rwa [kept]
  · rw [if_neg some]
    exact assembled

/-- One pass keeps a session assembled from what it has read. -/
theorem pass_agrees (tunes : Tunes σ) (assembled : Assembled session session.input)
    (turn : Turn σ) :
    match pass tunes session turn with
    | .running after => Assembled after after.input
    | outcome => Agrees outcome outcome.session.input := by
  unfold pass
  by_cases quit : session.control.quit = true
  · rw [if_pos quit]
    exact agrees_assembled assembled
  rw [if_neg quit]
  by_cases stop : turn.stopRequested = true
  · rw [if_pos stop]
    exact agrees_assembled assembled
  rw [if_neg stop]
  cases fed : popAndFeed turn session.control with
  | error failure => exact agrees_assembled assembled
  | ok popped =>
    cases stepped : stepOutput turn popped with
    | error failure =>
      simp only [stepped]
      exact agrees_assembled assembled
    | ok control =>
      simp only [stepped]
      have same := (stepOutput_quit stepped).trans (popAndFeed_quit fed)
      exact readInput_agrees tunes turn (assembled_control assembled same)

theorem loop_agrees (assembled : Assembled session session.input) (turns : List (Turn σ)) :
    Agrees (loop tunes session turns) (loop tunes session turns).session.input := by
  induction turns generalizing session with
  | nil => exact agrees_assembled assembled
  | cons turn rest ih =>
    have one := pass_agrees tunes assembled turn
    rw [loop]
    generalize pass tunes session turn = outcome at one
    cases outcome with
    | running after => exact ih one
    | tuning after => exact one
    | returned ending rc after => exact one

/-! ## What has been read -/

theorem bytesRead_prefix {made turns : List (Turn σ)} (begins : made <+: turns) :
    bytesRead made <+: bytesRead turns := by
  obtain ⟨later, rfl⟩ := begins
  induction made with
  | nil => exact List.nil_prefix
  | cons turn rest ih =>
    rw [List.cons_append, bytesRead, bytesRead]
    split
    · split
      · exact ih
      · exact ih
      · exact List.prefix_rfl
      · exact (List.prefix_append_right_inj _).mpr ih
    · exact ih

/-- The stream and the output end a run only with an error. -/
theorem popAndFeed_ending (fed : popAndFeed turn control = .error (ending, rc)) :
    ending = .streamError := by
  unfold popAndFeed at fed
  dsimp only at fed
  split at fed
  · cases fed
  generalize (UsbEvent.applyAll control.queue turn.arrived).pop = popped at fed
  obtain ⟨taken, queue⟩ := popped
  cases taken with
  | error rc =>
    dsimp only at fed
    generalize (if turn.error < 0 then turn.error else rc) = result at fed
    split at fed
    · cases fed
      rfl
    · cases fed
  | ok chunk =>
    dsimp only at fed
    generalize (if turn.error < 0 then turn.error else 0) = result at fed
    split at fed
    · cases fed
      rfl
    split at fed
    · cases fed
    · cases fed

theorem stepOutput_ending (stepped : stepOutput turn control = .error (ending, rc)) :
    ending = .outputError ∨ ending = .streamError := by
  unfold stepOutput at stepped
  dsimp only at stepped
  split at stepped
  · cases stepped
  split at stepped
  · cases stepped
    exact Or.inl rfl
  split at stepped
  · split at stepped
    · cases stepped
      exact Or.inr rfl
    · cases stepped
  · cases stepped

/-- What a pass has to do with the bytes of its turn: it has read them if it goes on, and nothing or
them if it ends. An undisturbed run ends after a line that quits or at the end of the input. -/
def Reads (session : Session σ) (turn : Turn σ) : Outcome σ → Prop
  | .running after => after.input = session.input ++ bytesRead [turn] ∧
    ∀ rest, bytesRead (turn :: rest) = bytesRead [turn] ++ bytesRead rest
  | outcome =>
    (outcome.session.input = session.input ∧
      (outcome.Undisturbed → outcome.session.control.quit = true)) ∨
    (outcome.session.input = session.input ++ bytesRead [turn] ∧
      (outcome.Undisturbed → ∀ rest, bytesRead (turn :: rest) = bytesRead [turn]))

theorem readInput_reads (tunes : Tunes σ) (turn : Turn σ) (session : Session σ) :
    Reads session turn (readInput tunes turn session) := by
  unfold readInput
  by_cases failed : turn.ready < 0
  · rw [if_pos failed]
    exact Or.inl ⟨rfl, False.elim⟩
  rw [if_neg failed]
  by_cases some : 0 < turn.ready
  · rw [if_pos some]
    cases read : turn.read with
    | again => exact ⟨by simp [bytesRead, read], fun rest => by simp [bytesRead, read]⟩
    | failed error => exact Or.inl ⟨rfl, False.elim⟩
    | bytes input =>
      cases input with
      | nil =>
        exact Or.inr ⟨by simp [bytesRead, read, Outcome.session],
          fun _ rest => by simp [bytesRead, read, some]⟩
      | cons byte bytes =>
        obtain ⟨kept, goes⟩ := assemble_reads tunes
          { session with input := session.input ++ byte :: bytes } (byte :: bytes)
        have here (rest : List (Turn σ)) :
            bytesRead (turn :: rest) = byte :: bytes ++ bytesRead rest := by
          simp [bytesRead, read, some]
        have one : bytesRead [turn] = byte :: bytes := by
          rw [here, bytesRead, List.append_nil]
        dsimp only
        generalize assemble tunes _ (byte :: bytes) = outcome at kept goes
        cases outcome with
        | running after =>
          refine ⟨?_, fun rest => ?_⟩
          · rw [one]
            exact kept
          · rw [one, here]
        | tuning after =>
          refine Or.inr ⟨?_, False.elim⟩
          rw [one]
          exact kept
        | returned ending rc after =>
          refine Or.inr ⟨?_, fun calm => ?_⟩
          · rw [one]
            exact kept
          · obtain ⟨other, running⟩ := goes calm
            cases running
  · rw [if_neg some]
    exact ⟨by simp [bytesRead, some], fun rest => by simp [bytesRead, some]⟩

theorem pass_reads (tunes : Tunes σ) (session : Session σ) (turn : Turn σ) :
    Reads session turn (pass tunes session turn) := by
  unfold pass
  by_cases quit : session.control.quit = true
  · rw [if_pos quit]
    exact Or.inl ⟨rfl, fun _ => quit⟩
  rw [if_neg quit]
  by_cases stop : turn.stopRequested = true
  · rw [if_pos stop]
    exact Or.inl ⟨rfl, False.elim⟩
  rw [if_neg stop]
  cases fed : popAndFeed turn session.control with
  | error failure =>
    obtain ⟨ending, rc⟩ := failure
    obtain rfl := popAndFeed_ending fed
    exact Or.inl ⟨rfl, False.elim⟩
  | ok popped =>
    cases stepped : stepOutput turn popped with
    | error failure =>
      obtain ⟨ending, rc⟩ := failure
      simp only [stepped]
      rcases stepOutput_ending stepped with rfl | rfl
      · exact Or.inl ⟨rfl, False.elim⟩
      · exact Or.inl ⟨rfl, False.elim⟩
    | ok control =>
      simp only [stepped]
      exact readInput_reads tunes turn { session with control := control }

/-- A run has read the bytes of the reads it made, and an undisturbed one that has not quit made all
of them. -/
theorem loop_reads (tunes : Tunes σ) (session : Session σ) (turns : List (Turn σ)) :
    ∃ made, made <+: turns ∧
      (loop tunes session turns).session.input = session.input ++ bytesRead made ∧
      ((loop tunes session turns).Undisturbed →
        (loop tunes session turns).session.control.quit = false →
          bytesRead made = bytesRead turns) := by
  induction turns generalizing session with
  | nil => exact ⟨[], List.nil_prefix, by simp [loop, bytesRead, Outcome.session], fun _ _ => rfl⟩
  | cons turn rest ih =>
    have one := pass_reads tunes session turn
    rw [loop]
    generalize pass tunes session turn = outcome at one
    have ended (outcome : Outcome σ) (ends : (outcome.session.input = session.input ∧
        (outcome.Undisturbed → outcome.session.control.quit = true)) ∨
        (outcome.session.input = session.input ++ bytesRead [turn] ∧
          (outcome.Undisturbed → ∀ rest, bytesRead (turn :: rest) = bytesRead [turn]))) :
        ∃ made, made <+: turn :: rest ∧
          outcome.session.input = session.input ++ bytesRead made ∧
          (outcome.Undisturbed → outcome.session.control.quit = false →
            bytesRead made = bytesRead (turn :: rest)) := by
      rcases ends with ⟨nothing, quit⟩ | ⟨read, last⟩
      · refine ⟨[], List.nil_prefix, by simpa [bytesRead] using nothing, ?_⟩
        intro calm going
        rw [quit calm] at going
        cases going
      · exact ⟨[turn], by simp, read, fun calm _ => (last calm rest).symm⟩
    cases outcome with
    | running after =>
      obtain ⟨read, later⟩ := one
      obtain ⟨made, begins, input, whole⟩ := ih after
      refine ⟨turn :: made, List.prefix_cons_inj turn |>.mpr begins, ?_, ?_⟩
      · rw [input, read, later made, List.append_assoc]
      · intro calm going
        rw [later made, later rest, whole calm going]
    | tuning after => exact ended _ one
    | returned ending rc after => exact ended _ one

/-- **Control input of the standalone program.** However the reads cut the input, an undisturbed run
has passed on the lines that a newline ends and that fit, in order and once each, up to and with the
first that quits, and it has reported the longer ones before that. It has read what its reads
returned, all of it unless it has quit. No run passes on anything else, and the line never fills its
buffer. -/
theorem control_input_lines (tunes : Tunes σ) (initialised : Int) (control : Control σ UInt8)
    (turns : List (Turn σ)) :
    let outcome := streamTsControl tunes initialised control turns
    (outcome.Undisturbed → outcome.session.acts = asked (terminatedLines (bytesRead turns))) ∧
    outcome.session.acts <+: asked (terminatedLines outcome.session.input) ∧
    (∃ made, made <+: turns ∧ outcome.session.input = bytesRead made ∧
      (outcome.Undisturbed → outcome.session.acts = asked (terminatedLines (bytesRead made))) ∧
      (outcome.Undisturbed → outcome.session.control.quit = false →
        bytesRead made = bytesRead turns)) ∧
    outcome.session.line.length < 128 := by
  have start : Assembled ({ control := { control with quit := false } } : Session σ) [] :=
    ⟨rfl, rfl, fun _ => Or.inl ⟨Nat.zero_le _, rfl, rfl⟩, Nat.zero_lt_succ _⟩
  unfold streamTsControl
  dsimp only
  split
  · exact ⟨False.elim, List.nil_prefix,
      ⟨[], List.nil_prefix, rfl, False.elim, False.elim⟩, Nat.zero_lt_succ _⟩
  have agrees : Agrees (loop tunes _ turns) _ := loop_agrees start turns
  obtain ⟨made, begins, input, whole⟩ :=
    loop_reads tunes ({ control := { control with quit := false } } : Session σ) turns
  rw [List.nil_append] at input
  have settled := agrees.settled
  rw [input] at settled
  refine ⟨fun calm => ?_, agrees.leads, ⟨made, begins, input, settled, whole⟩, agrees.bounded⟩
  rw [settled calm]
  cases going : (loop tunes { control := { control with quit := false } }
      turns).session.control.quit with
  | false => rw [whole calm going]
  | true =>
    -- What the input says after a line that quits asks for nothing.
    have found : ∃ line ∈ terminatedLines (bytesRead made), quits line = true := by
      have quit := agrees.quit calm
      rw [input, going] at quit
      simpa using quit.symm
    obtain ⟨more, split⟩ := bytesRead_prefix begins
    rw [← split, terminatedLines_append, asked_quits found]

/-- Three reads: the first cuts a line that is too long, the second one that fits, and the third
goes on after the quit. -/
def cutReads : List (Turn Nat) :=
  [{ ready := 1, read := .bytes (List.replicate 100 97) },
    { ready := 1, read := .bytes (List.replicate 28 97 ++ ascii "\nchan") },
    { ready := 1, read := .bytes (ascii "nel 99\nquit\nquit\n") }]

def cutInput : List UInt8 := List.replicate 128 97 ++ ascii "\nchannel 99\nquit\nquit\n"

def cutRun : Outcome Nat :=
  streamTsControl (fun _ => (FailedTune.lockTimeout, 0)) 0 { queue := .init true, pump := .init }
    cutReads

theorem control_input_lines_cut : cutRun.session.acts = asked (terminatedLines cutInput) ∧
    asked (terminatedLines cutInput) =
      [.overlong, .handle (ascii "channel 99"), .handle (ascii "quit")] := by
  have facts : cutRun.Undisturbed ∧ bytesRead cutReads = cutInput ∧
      asked (terminatedLines cutInput) =
        [.overlong, .handle (ascii "channel 99"), .handle (ascii "quit")] := by
    decide +kernel
  obtain ⟨calm, read, asks⟩ := facts
  have acts := (control_input_lines (fun _ => (FailedTune.lockTimeout, 0)) 0
    { queue := .init true, pump := .init } cutReads).1 calm
  exact ⟨acts.trans (congrArg (fun input => asked (terminatedLines input)) read), asks⟩

end SianoUserland.StreamControl
