import SianoUserland.ControlParse

/-! The reader thread of `siano-wire-ts.cpp`: `control_reader` assembles lines from
whatever its reads return and posts the commands it finds in them. A line that is
too long is forgotten when its 121st byte arrives, and its remaining bytes are then
collected as if a new line had begun. -/
namespace SianoUserland

/-- `ControlKind` without `none`, which stands for no command. -/
inductive ControlKind where
  | channel
  | tune
  | quit
  deriving Repr, DecidableEq

/-- An entry of `ControlState::commands`. -/
structure Posted where
  kind : ControlKind
  value : UInt32
  deriving Repr, DecidableEq

/-- What `control_reader` writes to the standard error output. -/
inductive ReaderReport where
  | inputError
  | lineTooLong
  deriving Repr, DecidableEq

/-- The locals of `control_reader`, with the calls it has made so far. -/
structure Reader where
  line : List UInt8 := []
  lineTooLongReported : Bool := false
  posted : List Posted := []
  reports : List ReaderReport := []
  deriving Repr, DecidableEq

/-- What one turn of the reader's loop meets. -/
inductive Turn where
  /-- `stop_reader` is set. -/
  | stopped
  /-- `siano_control_input_ready` returned zero. -/
  | notReady
  /-- `siano_control_input_ready` failed. -/
  | readyFailed
  /-- `siano_control_input_read` returned `-EINTR` or `-EAGAIN`. -/
  | interrupted
  /-- `siano_control_input_read` failed otherwise. -/
  | readFailed
  /-- `siano_control_input_read` returned these bytes, none at the end of the input. -/
  | read (bytes : List UInt8)
  deriving Repr, DecidableEq

namespace Reader

/-- `post_command`, as seen by the reader. -/
def post (reader : Reader) (kind : ControlKind) (value : UInt32) : Reader :=
  { reader with posted := reader.posted ++ [⟨kind, value⟩] }

/-- `report_control_input_error` and the report of an overlong line. -/
def report (reader : Reader) (report : ReaderReport) : Reader :=
  { reader with reports := reader.reports ++ [report] }

/-- The command of a line is posted or reported. -/
def dispatch (reader : Reader) : ControlCommand → Reader
  | .channel value => reader.post .channel value
  | .tune value => reader.post .tune value
  | .quit => reader.post .quit 0
  | .invalid => reader.report .inputError
  | .empty => reader

/-- One byte of input. -/
def character (reader : Reader) (byte : UInt8) : Reader :=
  if byte = 10 then
    { reader.dispatch (ControlParse.parseControlLine reader.line) with
      line := []
      lineTooLongReported := false }
  else if byte = 13 then reader
  else if reader.line.length < 120 then { reader with line := reader.line ++ [byte] }
  else
    let reader := if reader.lineTooLongReported then reader else reader.report .lineTooLong
    { reader with line := [], lineTooLongReported := true }

/-- The bytes of one read. -/
def feed (reader : Reader) (bytes : List UInt8) : Reader := bytes.foldl character reader

/-- The loop of `control_reader` over the turns it makes. -/
def loop (reader : Reader) : List Turn → Reader
  | [] => reader
  | .stopped :: _ => reader
  | .notReady :: rest | .interrupted :: rest => loop reader rest
  | .readyFailed :: _ | .readFailed :: _ | .read [] :: _ => reader.post .quit 0
  | .read (byte :: bytes) :: rest => loop (reader.feed (byte :: bytes)) rest

end Reader

/-- `control_reader`. -/
def controlReader (initialised : Bool) (turns : List Turn) : Reader :=
  if initialised then ({} : Reader).loop turns else ({} : Reader).post .quit 0

namespace ControlReader
open ControlParse

/-! ## What the reader is for -/

/-- The bytes read before the loop ends. -/
def received : List Turn → List UInt8
  | [] | .stopped :: _ | .readyFailed :: _ | .readFailed :: _ | .read [] :: _ => []
  | .notReady :: rest | .interrupted :: rest => received rest
  | .read (byte :: bytes) :: rest => byte :: bytes ++ received rest

/-- The loop ends because the input does. -/
def inputEnds : List Turn → Bool
  | [] | .stopped :: _ => false
  | .readyFailed :: _ | .readFailed :: _ | .read [] :: _ => true
  | .notReady :: rest | .interrupted :: rest => inputEnds rest
  | .read (_ :: _) :: rest => inputEnds rest

/-- The lines a stream ends with a newline, without their carriage returns, when
`current` has been read of the first one. -/
def linesFrom (current : List UInt8) : List UInt8 → List (List UInt8)
  | [] => []
  | byte :: rest =>
    if byte = 10 then current :: linesFrom [] rest
    else if byte = 13 then linesFrom current rest
    else linesFrom (current ++ [byte]) rest

/-- The valid command of a line. -/
def command (line : List UInt8) : List Posted :=
  match parseControlLine line with
  | .channel value => [⟨.channel, value⟩]
  | .tune value => [⟨.tune, value⟩]
  | .quit => [⟨.quit, 0⟩]
  | .invalid | .empty => []

/-- What a line is meant to post: nothing when it is longer than 120 bytes. -/
def intended (line : List UInt8) : List Posted := if line.length ≤ 120 then command line else []

/-- The quit that ends the input. -/
def finalQuit (ends : Bool) : List Posted := if ends then [⟨.quit, 0⟩] else []

/-! ## What the reader does -/

/-- What the reader still holds of an unfinished line: the bytes since it was last
full. -/
def residue (line : List UInt8) : List UInt8 := line.drop (line.length - line.length % 121)

theorem length_residue (line : List UInt8) : (residue line).length = line.length % 121 := by
  have bound := Nat.mod_le line.length 121
  rw [residue, List.length_drop]
  omega

/-- A line that is not too long is held as it is. -/
theorem residue_short (short : line.length ≤ 120) : residue line = line := by
  rw [residue, Nat.mod_eq_of_lt (by omega), Nat.sub_self, List.drop_zero]

theorem residue_push (room : line.length % 121 < 120) (byte : UInt8) :
    residue (line ++ [byte]) = residue line ++ [byte] := by
  have bound := Nat.mod_le line.length 121
  have next : (line.length + 1) % 121 = line.length % 121 + 1 := by omega
  rw [residue, residue, List.length_append, List.length_singleton, next, Nat.add_sub_add_right,
    List.drop_append_of_le_length (by omega)]

theorem residue_full (full : ¬ line.length % 121 < 120) (byte : UInt8) :
    residue (line ++ [byte]) = [] := by
  have next : (line.length + 1) % 121 = 0 := by omega
  rw [residue, List.length_append, List.length_singleton, next]
  simp

theorem dispatch_posted (reader : Reader) (line : List UInt8) :
    (reader.dispatch (parseControlLine line)).posted = reader.posted ++ command line := by
  unfold command
  cases parseControlLine line with
  | channel value | tune value => rfl
  | quit => rfl
  | invalid | empty => exact (List.append_nil _).symm

/-- The end of a line posts the command of what is held of it. -/
theorem character_newline (reader : Reader) :
    (reader.character 10).posted = reader.posted ++ command reader.line ∧
      (reader.character 10).line = [] :=
  ⟨dispatch_posted reader reader.line, rfl⟩

/-- Any other byte of a line posts nothing, and what is held follows the line. -/
theorem character_holds {reader : Reader} (held : reader.line = residue current)
    (inside : byte ≠ 10) (kept : byte ≠ 13) :
    (reader.character byte).posted = reader.posted ∧
      (reader.character byte).line = residue (current ++ [byte]) := by
  have length : reader.line.length = current.length % 121 := by rw [held, length_residue]
  unfold Reader.character
  rw [if_neg inside, if_neg kept, length]
  split
  · rename_i room
    exact ⟨rfl, by rw [residue_push room, held]⟩
  · rename_i full
    rw [residue_full full]
    cases reader.lineTooLongReported with
    | false => exact ⟨rfl, rfl⟩
    | true => exact ⟨rfl, rfl⟩

/-- The reader posts, line by line, the command of what it still holds of each. -/
theorem feed_posted (bytes : List UInt8) {reader : Reader} (held : reader.line = residue current) :
    (reader.feed bytes).posted =
      reader.posted ++ (linesFrom current bytes).flatMap fun line => command (residue line) := by
  induction bytes generalizing reader current with
  | nil => exact (List.append_nil _).symm
  | cons byte rest ih =>
    rw [Reader.feed, List.foldl_cons, ← Reader.feed, linesFrom]
    by_cases newline : byte = 10
    · subst newline
      obtain ⟨posted, empty⟩ := character_newline reader
      rw [ih (show _ = residue [] from empty), posted, held, if_pos rfl, List.flatMap_cons,
        List.append_assoc]
    by_cases carriage : byte = 13
    · subst carriage
      exact ih held
    · obtain ⟨posted, holds⟩ := character_holds held newline carriage
      rw [ih holds, posted, if_neg newline, if_neg carriage]

/-- How the stream was cut into reads does not matter. -/
theorem loop_eq_feed (turns : List Turn) (reader : Reader) :
    (reader.loop turns).posted =
      (reader.feed (received turns)).posted ++ finalQuit (inputEnds turns) := by
  fun_induction Reader.loop reader turns with
  | case1 reader => exact (List.append_nil _).symm
  | case2 reader rest => exact (List.append_nil _).symm
  | case3 reader rest ih => exact ih
  | case4 reader rest ih => exact ih
  | case5 reader rest => rfl
  | case6 reader rest => rfl
  | case7 reader rest => rfl
  | case8 reader byte bytes rest ih =>
    rw [ih, received, inputEnds, Reader.feed, Reader.feed, Reader.feed, ← List.foldl_append]

/-- The reader posts at least as much as it is meant to. -/
theorem length_intended_le (lines : List (List UInt8)) :
    (lines.flatMap intended).length ≤
      (lines.flatMap fun line => command (residue line)).length := by
  induction lines with
  | nil => exact Nat.le_refl _
  | cons line rest ih =>
    have first : (intended line).length ≤ (command (residue line)).length := by
      unfold intended
      split
      · rename_i short
        exact Nat.le_of_eq (by rw [residue_short short])
      · exact Nat.zero_le _
    rw [List.flatMap_cons, List.flatMap_cons, List.length_append, List.length_append]
    omega

private theorem nothing_more (rest : List (List UInt8))
    (same : command (residue line) ++ (rest.flatMap fun line => command (residue line)) =
      rest.flatMap intended) : command (residue line) = [] := by
  have lengths := congrArg List.length same
  have bound := length_intended_le rest
  rw [List.length_append] at lengths
  exact List.length_eq_zero_iff.mp (by omega)

/-- The lines that are not too long post what they are meant to, so the reader is
right exactly when the others post nothing. -/
theorem posts_intended_iff (lines : List (List UInt8)) :
    (lines.flatMap fun line => command (residue line)) = lines.flatMap intended ↔
      ∀ line ∈ lines, 120 < line.length → command (residue line) = [] := by
  induction lines with
  | nil => simp
  | cons line rest ih =>
    rw [List.flatMap_cons, List.flatMap_cons, List.forall_mem_cons, ← ih]
    by_cases short : line.length ≤ 120
    · rw [residue_short short, intended, if_pos short, List.append_cancel_left_eq]
      exact ⟨fun same => ⟨fun long => absurd long (by omega), same⟩, And.right⟩
    · rw [intended, if_neg short, List.nil_append]
      constructor
      · intro same
        have none : command (residue line) = [] := nothing_more rest same
        rw [none, List.nil_append] at same
        exact ⟨fun _ => none, same⟩
      · rintro ⟨none, same⟩
        rw [none (by omega), List.nil_append, same]

/-- The bytes `control_reader` takes from its input. -/
def stream (initialised : Bool) (turns : List Turn) : List UInt8 :=
  if initialised then received turns else []

/-- **When the reader posts what its input says.** The commands posted are those of
the newline-terminated lines of at most 120 bytes, with one quit at the end of the
input, exactly when no longer line ends in bytes that are a command by themselves. -/
theorem reader_posts_iff (initialised : Bool) (turns : List Turn) :
    (controlReader initialised turns).posted =
        (linesFrom [] (stream initialised turns)).flatMap intended ++
          finalQuit (!initialised || inputEnds turns) ↔
      ∀ line ∈ linesFrom [] (stream initialised turns),
        120 < line.length → command (residue line) = [] := by
  rw [← posts_intended_iff]
  cases initialised with
  | false => simp [controlReader, stream, linesFrom, Reader.post, finalQuit]
  | true =>
    have posted := feed_posted (received turns) (show ({} : Reader).line = residue [] from rfl)
    simp only [controlReader, stream, ↓reduceIte, loop_eq_feed, posted, Bool.not_true,
      Bool.false_or, List.append_cancel_right_eq, List.nil_append]

/-- 121 bytes and then a command, in one line and one read. -/
def overlongQuit : List Turn := [.read (List.replicate 121 120 ++ ascii "quit" ++ [10]), .read []]

/-- The tail of the overlong line is posted as a command of its own. -/
theorem reader_posts_overlong_tail :
    (controlReader true overlongQuit).posted = [⟨.quit, 0⟩, ⟨.quit, 0⟩] ∧
      (linesFrom [] (stream true overlongQuit)).map List.length = [125] ∧
      (controlReader true overlongQuit).posted ≠
        (linesFrom [] (stream true overlongQuit)).flatMap intended ++
          finalQuit (inputEnds overlongQuit) := by
  decide +kernel

end ControlReader
end SianoUserland
