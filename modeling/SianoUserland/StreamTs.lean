import SianoUserland.SinkAgreement
import SianoUserland.StreamControl

/-! `stream_ts` of `siano-ts.c`: the loop of the standalone program that has no control input.
Between the USB threads and the descriptor stand the queue and the pump; a ledger of what passed
the gates of the queue says where every chunk is. -/
namespace SianoUserland.StreamTs
open Transition QueueRefinement StreamControl PacketCut SinkAgreement

/-- What one pass of `stream_ts` meets. -/
structure Pass (σ : Type) extends StreamControl.Turn σ where
  /-- The reading that is compared with the deadline of `--time`. -/
  now : Timespec

/-- The queue and the pump of a run, with what the run has done. -/
structure Stream (σ : Type) where
  queue : TsQueue σ
  pump : OutputPump UInt8
  /-- The chunks that passed the gates of the queue, and whether there was a slot for them. -/
  ledger : List (TsChunk σ × Bool) := []
  /-- The chunks popped, and whether they were fed to the pump. -/
  popped : List (TsChunk σ × Bool) := []
  /-- The bytes written. -/
  out : List UInt8 := []

/-- Where a run is. -/
inductive Outcome (σ : Type) where
  | running (stream : Stream σ)
  | returned (rc : Int) (stream : Stream σ)

def Outcome.stream : Outcome σ → Stream σ
  | .running stream | .returned _ stream => stream

/-- The chunks marked with `mark`, in order. -/
def marked (mark : Bool) (log : List (TsChunk σ × Bool)) : List (TsChunk σ) :=
  (log.filter (·.2 == mark)).map Prod.fst

/-- What an event adds to the ledger of the queue it meets. -/
def enters (queue : TsQueue σ) : UsbEvent σ → List (TsChunk σ × Bool)
  | .enqueue epoch generation chunk =>
    if queue.accepts epoch generation then
      [({ chunk with data := chunk.data.take 16384 }, queue.count ≠ 256)]
    else []
  | .close => []

namespace Stream

/-- What the USB threads do to the queue meanwhile. -/
def arrive (stream : Stream σ) : List (UsbEvent σ) → Stream σ
  | [] => stream
  | event :: rest =>
    arrive { stream with
      queue := event.apply stream.queue
      ledger := stream.ledger ++ enters stream.queue event } rest

/-- The pop of a pass, and the feed of what it takes. `siano_stream_state_stream_result` puts the
error of the stream in the place of what the pop returned. -/
def takeChunk (turn : StreamControl.Turn σ) (stream : Stream σ) : Outcome σ :=
  let stream := stream.arrive turn.arrived
  if stream.pump.busy then .running stream
  else
    let (taken, queue) := stream.queue.pop
    let popped := match taken with
      | .ok _ => 0
      | .error rc => rc
    let rc := if turn.error < 0 then turn.error else popped
    let stream := match taken with
      | .ok chunk =>
        if rc = 0 then
          { stream with
            queue := queue
            pump := stream.pump.feed chunk.data
            popped := stream.popped ++ [(chunk, true)] }
        else { stream with queue := queue, popped := stream.popped ++ [(chunk, false)] }
      | .error _ => { stream with queue := queue }
    if rc < 0 ∧ rc ≠ -Errno.again then .returned rc stream else .running stream

/-- The output of a pass. -/
def stepOutput (turn : StreamControl.Turn σ) (stream : Stream σ) : Outcome σ :=
  if stream.pump.busy = false then .running stream
  else
    let outcome := stream.pump.step id turn.answers
    let rc := outcome.rc.getD 0
    let stream := { stream with
      pump := outcome.pump, out := stream.out ++ outcome.written }.arrive turn.written
    if rc < 0 then .returned rc stream
    else if rc = outputPending then
      let error := streamPendingCheck stream.queue turn.pendingError
      if error < 0 then .returned error stream else .running stream
    else .running stream

/-- One pass of the loop; there is no deadline without `--time`. -/
def pass (deadline : Option Timespec) (stream : Stream σ) (turn : Pass σ) : Outcome σ :=
  if turn.stopRequested then .returned 0 stream
  else
    match stream.takeChunk turn.toTurn with
    | .returned rc after => .returned rc after
    | .running after =>
      match after.stepOutput turn.toTurn with
      | .returned rc after => .returned rc after
      | .running after =>
        if deadline.any (Timespec.expired turn.now) then .returned 0 after else .running after

def loop (deadline : Option Timespec) (stream : Stream σ) : List (Pass σ) → Outcome σ
  | [] => .running stream
  | turn :: rest =>
    match stream.pass deadline turn with
    | .running after => after.loop deadline rest
    | ended => ended

end Stream

/-- `stream_ts`, when it begins at the reading `begun`. -/
def streamTs (duration : Nat) (begun : Timespec) (queue : TsQueue σ) (turns : List (Pass σ)) :
    Outcome σ :=
  let deadline := if 0 < duration then some { begun with sec := begun.sec + duration } else none
  Stream.loop deadline { queue := queue, pump := .init } turns

/-! ## What a run accounts for -/

/-- The pump of a run without retunes, seen on its own. -/
def Stream.run (stream : Stream σ) : Run UInt8 where
  pump := stream.pump
  chunks := (marked true stream.popped).map TsChunk.data
  out := stream.out

/-- Everything that passed the gates is where it belongs: it was popped, it waits, or it was
counted as a drop. What was fed is written up to the packet in front of which the pump stands. -/
structure Accounted (before : TsQueue σ) (stream : Stream σ) : Prop where
  indexed : stream.queue.Indexed
  short : ∀ chunk ∈ stream.queue.contents, chunk.data.length ≤ 16384
  chunks : before.contents ++ marked true stream.ledger =
    stream.popped.map Prod.fst ++ stream.queue.contents
  drops : stream.queue.drops = before.drops + .ofNat (marked false stream.ledger).length
  fits : FitsDescriptor id stream.run
  /-- Everything but the last chunk fed has been written. -/
  behind : (cutChunks id stream.run.chunks.dropLast).1.flatten <+: stream.out

variable {before : TsQueue σ} {stream after : Stream σ}

/-- Whether a run goes on or not, it is where it is. -/
theorem stream_ite (ends : Prop) [Decidable ends] (rc : Int) (stream : Stream σ) :
    (if ends then Outcome.returned rc stream else .running stream).stream = stream := by
  split
  · rfl
  · rfl

theorem marked_append (mark : Bool) (first second : List (TsChunk σ × Bool)) :
    marked mark (first ++ second) = marked mark first ++ marked mark second := by
  simp [marked]

@[simp] theorem marked_same (mark : Bool) (chunk : TsChunk σ) :
    marked mark [(chunk, mark)] = [chunk] := by
  simp [marked]

@[simp] theorem marked_other (mark : Bool) (chunk : TsChunk σ) :
    marked mark [(chunk, !mark)] = [] := by
  simp [marked]

/-- An event takes the queue along with the ledger. -/
theorem apply_enters {queue : TsQueue σ} (indexed : queue.Indexed) (event : UsbEvent σ) :
    (event.apply queue).Indexed ∧
      (event.apply queue).contents = queue.contents ++ marked true (enters queue event) ∧
      (event.apply queue).drops =
        queue.drops + .ofNat (marked false (enters queue event)).length := by
  cases event with
  | close => exact ⟨indexed, by simp [UsbEvent.apply, enters, marked, TsQueue.close,
      TsQueue.contents], by simp [UsbEvent.apply, enters, marked, TsQueue.close]⟩
  | enqueue epoch generation chunk =>
    have items := (refines_enqueue (refines_self indexed) epoch generation chunk).items
    have length := count_eq_length (refines_self indexed)
    dsimp only at length
    refine ⟨enqueue_indexed indexed, items.trans ?_, ?_⟩
    · unfold Fifo.offer enters
      dsimp only
      rw [← length]
      by_cases passes : queue.accepts epoch generation = true
      · by_cases full : queue.count = 256
        · simp [passes, full, marked]
        · simp [passes, full, marked]
      · simp [passes, marked]
    · simp only [UsbEvent.apply, TsQueue.enqueueGeneration, enters]
      by_cases passes : queue.accepts epoch generation = true
      · by_cases full : queue.count = 256
        · by_cases failing : queue.failOnDrop = true
          · simp [passes, full, marked, Gates.noteDrop, failing]
          · simp [passes, full, marked, Gates.noteDrop, failing]
        · simp [passes, full, marked]
      · simp [passes, marked]

/-- No chunk in the ledger is longer than a slot. -/
theorem enters_short (member : chunk ∈ marked true (enters queue event)) :
    chunk.data.length ≤ 16384 := by
  cases event with
  | close => simp [enters, marked] at member
  | enqueue epoch generation chunk =>
    simp only [enters] at member
    split at member
    · simp only [marked, List.mem_map, List.mem_filter, List.mem_singleton] at member
      obtain ⟨entry, ⟨rfl, -⟩, rfl⟩ := member
      simp
    · simp [marked] at member

/-- Arrivals change nothing but the queue and the ledger. -/
theorem arrive_shape (stream : Stream σ) (events : List (UsbEvent σ)) :
    ∃ ledger, stream.arrive events = { stream with
      queue := UsbEvent.applyAll stream.queue events, ledger := ledger } := by
  induction events generalizing stream with
  | nil => exact ⟨stream.ledger, rfl⟩
  | cons event rest ih =>
    obtain ⟨ledger, same⟩ := ih { stream with
      queue := event.apply stream.queue, ledger := stream.ledger ++ enters stream.queue event }
    exact ⟨ledger, same⟩

theorem accounted_arrive (accounted : Accounted before stream) (events : List (UsbEvent σ)) :
    Accounted before (stream.arrive events) := by
  induction events generalizing stream with
  | nil => exact accounted
  | cons event rest ih =>
    obtain ⟨indexed, contents, drops⟩ := apply_enters accounted.indexed event
    refine ih ⟨indexed, ?_, ?_, ?_, accounted.fits, accounted.behind⟩
    · intro chunk member
      rw [contents] at member
      rcases List.mem_append.mp member with old | new
      · exact accounted.short chunk old
      · exact enters_short new
    · rw [contents, marked_append, ← List.append_assoc, accounted.chunks, List.append_assoc]
    · rw [drops, accounted.drops, marked_append, List.length_append, UInt64.ofNat_add,
        UInt64.add_assoc]

/-- A chunk that is popped and not fed is accounted for by the pop alone. -/
theorem accounted_popped (accounted : Accounted before stream)
    (popped : stream.queue.pop = (.ok chunk, rest)) :
    Accounted before { stream with queue := rest, popped := stream.popped ++ [(chunk, false)] } := by
  obtain ⟨shape, indexed, gates⟩ := pop_ok accounted.indexed popped
  have same : marked true (stream.popped ++ [(chunk, false)]) = marked true stream.popped := by
    simp [marked]
  refine ⟨indexed, ?_, ?_, ?_, ?_, ?_⟩
  · intro other member
    exact accounted.short other (by rw [shape]; exact List.mem_cons_of_mem _ member)
  · rw [accounted.chunks, shape]
    simp
  · dsimp only
    rw [gates]
    exact accounted.drops
  · have fits := accounted.fits
    simp only [Stream.run, same] at fits ⊢
    exact fits
  · have behind := accounted.behind
    simp only [Stream.run, same] at behind ⊢
    exact behind

/-- A chunk that is fed goes behind the chunks that have been written. -/
theorem accounted_fed (accounted : Accounted before stream) (idle : stream.pump.busy = false)
    (popped : stream.queue.pop = (.ok chunk, rest)) :
    Accounted before { stream with
      queue := rest
      pump := stream.pump.feed chunk.data
      popped := stream.popped ++ [(chunk, true)] } := by
  obtain ⟨shape, indexed, gates⟩ := pop_ok accounted.indexed popped
  have short := accounted.short chunk (by rw [shape]; exact List.mem_cons_self)
  have fed : (marked true (stream.popped ++ [(chunk, true)])).map TsChunk.data =
      stream.run.chunks ++ [chunk.data] := by
    simp [marked_append, Stream.run]
  refine ⟨indexed, ?_, ?_, ?_, ?_, ?_⟩
  · intro other member
    exact accounted.short other (by rw [shape]; exact List.mem_cons_of_mem _ member)
  · rw [accounted.chunks, shape]
    simp
  · dsimp only
    rw [gates]
    exact accounted.drops
  · have taken : next id stream.run (.feed chunk.data) =
        some { stream.run with
          pump := stream.pump.feed chunk.data, chunks := stream.run.chunks ++ [chunk.data] } :=
      if_pos ⟨idle, short⟩
    have fits := next_fitsDescriptor accounted.fits taken
    simp only [Stream.run] at fits fed ⊢
    rw [fed]
    exact fits
  · obtain ⟨done, -, cutting, output⟩ := accounted.fits
    obtain ⟨unwritten, packets, -⟩ := cutting_idle cutting idle
    simp only [Stream.run] at fed output unwritten packets ⊢
    rw [fed, List.dropLast_concat, packets, output]
    exact List.prefix_append _ _

/-- What the pump writes is accounted for. -/
theorem accounted_written (accounted : Accounted before stream) (answers : List Int) :
    Accounted before { stream with
      pump := (stream.pump.step id answers).pump
      out := stream.out ++ (stream.pump.step id answers).written } := by
  have stepped : next id stream.run (.step answers) = some { stream.run with
      pump := (stream.pump.step id answers).pump
      out := stream.out ++ (stream.pump.step id answers).written
      offered := (stream.pump.step id answers).offered } := rfl
  obtain ⟨done, written⟩ := next_fitsDescriptor accounted.fits stepped
  exact ⟨accounted.indexed, accounted.short, accounted.chunks, accounted.drops,
    ⟨done, written⟩, accounted.behind.trans (List.prefix_append _ _)⟩

theorem accounted_takeChunk (turn : StreamControl.Turn σ) (accounted : Accounted before stream) :
    Accounted before (stream.takeChunk turn).stream := by
  have arrived := accounted_arrive accounted turn.arrived
  unfold Stream.takeChunk
  generalize stream.arrive turn.arrived = stream at arrived
  dsimp only
  split
  · exact arrived
  rename_i idle
  rcases popped : stream.queue.pop with ⟨taken, queue⟩
  cases taken with
  | error rc =>
    have same := pop_error popped
    subst same
    rw [stream_ite]
    exact arrived
  | ok chunk =>
    rw [stream_ite]
    dsimp only
    by_cases fed : (if turn.error < 0 then turn.error else 0) = 0
    · rw [if_pos fed]
      exact accounted_fed arrived (by simpa using idle) popped
    · rw [if_neg fed]
      exact accounted_popped arrived popped

theorem accounted_stepOutput (turn : StreamControl.Turn σ) (accounted : Accounted before stream) :
    Accounted before (stream.stepOutput turn).stream := by
  have kept := accounted_arrive (accounted_written accounted turn.answers) turn.written
  unfold Stream.stepOutput
  dsimp only
  split
  · exact accounted
  split
  · exact kept
  split
  · rw [stream_ite]
    exact kept
  · exact kept

theorem accounted_pass (deadline : Option Timespec) (turn : Pass σ)
    (accounted : Accounted before stream) :
    Accounted before (stream.pass deadline turn).stream := by
  have taken := accounted_takeChunk turn.toTurn accounted
  unfold Stream.pass
  split
  · exact accounted
  generalize stream.takeChunk turn.toTurn = first at taken
  cases first with
  | returned rc after => exact taken
  | running after =>
    have stepped := accounted_stepOutput turn.toTurn taken
    change Accounted before (after.stepOutput turn.toTurn).stream at stepped
    dsimp only
    generalize after.stepOutput turn.toTurn = second at stepped
    cases second with
    | returned rc after => exact stepped
    | running after =>
      dsimp only
      rw [stream_ite]
      exact stepped

theorem accounted_loop (deadline : Option Timespec) (accounted : Accounted before stream)
    (turns : List (Pass σ)) :
    Accounted before (stream.loop deadline turns).stream := by
  induction turns generalizing stream with
  | nil => exact accounted
  | cons turn rest ih =>
    have one := accounted_pass deadline turn accounted
    rw [Stream.loop]
    generalize stream.pass deadline turn = outcome at one
    cases outcome with
    | running after => exact ih one
    | returned rc after => exact one

theorem accounted_start {queue : TsQueue σ} (indexed : queue.Indexed)
    (short : ∀ chunk ∈ queue.contents, chunk.data.length ≤ 16384) :
    Accounted queue { queue := queue, pump := .init } :=
  ⟨indexed, short, by simp [marked], by simp [marked], ⟨[], rfl, cutting_init false, rfl⟩,
    by simp [Stream.run, marked, cutChunks]⟩

/-! A chunk that is popped in a pass that finds the stream failed is not fed. -/

theorem takeChunk_fed (turn : StreamControl.Turn σ) (sound : 0 ≤ turn.error)
    (fed : ∀ entry ∈ stream.popped, entry.2 = true) :
    ∀ entry ∈ (stream.takeChunk turn).stream.popped, entry.2 = true := by
  have arrived : (stream.arrive turn.arrived).popped = stream.popped := by
    obtain ⟨ledger, same⟩ := arrive_shape stream turn.arrived
    rw [same]
  rw [← arrived] at fed
  have fine : ¬ turn.error < 0 := by omega
  unfold Stream.takeChunk
  simp only [if_neg fine]
  generalize stream.arrive turn.arrived = stream at fed
  split
  · exact fed
  rcases stream.queue.pop with ⟨taken, queue⟩
  cases taken with
  | error rc =>
    rw [stream_ite]
    exact fed
  | ok chunk =>
    rw [stream_ite]
    dsimp only
    rw [if_pos rfl]
    simpa [or_imp, forall_and] using fed

theorem stepOutput_popped (turn : StreamControl.Turn σ) (stream : Stream σ) :
    (stream.stepOutput turn).stream.popped = stream.popped := by
  obtain ⟨ledger, same⟩ := arrive_shape { stream with
    pump := (stream.pump.step id turn.answers).pump
    out := stream.out ++ (stream.pump.step id turn.answers).written } turn.written
  unfold Stream.stepOutput
  dsimp only
  rw [same]
  split
  · rfl
  split
  · rfl
  split
  · rw [stream_ite]
  · rfl

theorem pass_fed (deadline : Option Timespec) (turn : Pass σ) (sound : 0 ≤ turn.error)
    (fed : ∀ entry ∈ stream.popped, entry.2 = true) :
    ∀ entry ∈ (stream.pass deadline turn).stream.popped, entry.2 = true := by
  have taken := takeChunk_fed turn.toTurn sound fed
  unfold Stream.pass
  split
  · exact fed
  generalize stream.takeChunk turn.toTurn = first at taken
  cases first with
  | returned rc after => exact taken
  | running after =>
    have stepped := stepOutput_popped turn.toTurn after
    dsimp only
    generalize after.stepOutput turn.toTurn = second at stepped
    rw [show (Outcome.running after).stream.popped = after.popped from rfl, ← stepped] at taken
    cases second with
    | returned rc after => exact taken
    | running after =>
      dsimp only
      rw [stream_ite]
      exact taken

theorem loop_fed (deadline : Option Timespec) (turns : List (Pass σ))
    (sound : ∀ turn ∈ turns, 0 ≤ turn.error) (fed : ∀ entry ∈ stream.popped, entry.2 = true) :
    ∀ entry ∈ (stream.loop deadline turns).stream.popped, entry.2 = true := by
  induction turns generalizing stream with
  | nil => exact fed
  | cons turn rest ih =>
    have one := pass_fed deadline turn (sound turn List.mem_cons_self) fed
    rw [Stream.loop]
    generalize stream.pass deadline turn = outcome at one
    cases outcome with
    | running after =>
      exact ih (fun other member => sound other (List.mem_cons_of_mem _ member)) one
    | returned rc after => exact one

/-- The bytes written begin the packets of the chunks fed. -/
theorem written_starts {run : Run UInt8} (fits : FitsDescriptor id run) :
    run.out <+: (cutChunks id run.chunks).1.flatten := by
  obtain ⟨done, -, cutting, output⟩ := fits
  rw [cutting.packets, output, List.flatten_append]
  refine (List.prefix_append_right_inj _).mpr ?_
  split
  · rename_i writing
    have here := cut_of_packet (cutting.room writing) (cutting.synced writing)
    rw [remaining, if_pos (cutting.busy writing), here]
    exact (List.take_prefix _ _).trans (List.prefix_append _ _)
  · exact List.nil_prefix

theorem written_idle {run : Run UInt8} (fits : FitsDescriptor id run)
    (idle : run.pump.busy = false) : run.out = (cutChunks id run.chunks).1.flatten := by
  obtain ⟨done, -, cutting, output⟩ := fits
  obtain ⟨unwritten, packets, -⟩ := cutting_idle cutting idle
  rw [packets, output, unwritten]
  simp

/-- **Where everything is between the USB threads and the output.** Whatever arrives, whatever the
writes answer and however the run of `stream_ts` ends, the chunks that found a slot in the queue
have been popped or still wait there, in order, and each of the others has been counted as a drop.
The bytes written begin the packets that the chunks fed to the pump are cut into; they lack at most
the packets of the last of these chunks, and nothing when the pump is idle. A chunk that is popped
in a pass that finds the stream failed is not fed, but discarded with the error; without such a pass
every chunk popped is fed. -/
theorem everything_accounted (duration : Nat) (begun : Timespec) (queue : TsQueue σ)
    (indexed : queue.Indexed) (short : ∀ chunk ∈ queue.contents, chunk.data.length ≤ 16384)
    (turns : List (Pass σ)) :
    let stream := (streamTs duration begun queue turns).stream
    let fed := (marked true stream.popped).map TsChunk.data
    queue.contents ++ marked true stream.ledger =
        stream.popped.map Prod.fst ++ stream.queue.contents ∧
      stream.queue.drops = queue.drops + .ofNat (marked false stream.ledger).length ∧
      (cutChunks id fed.dropLast).1.flatten <+: stream.out ∧
      stream.out <+: (cutChunks id fed).1.flatten ∧
      (stream.pump.busy = false → stream.out = (cutChunks id fed).1.flatten) ∧
      ((∀ turn ∈ turns, 0 ≤ turn.error) →
        marked true stream.popped = stream.popped.map Prod.fst) := by
  have kept := accounted_loop
    (if 0 < duration then some { begun with sec := begun.sec + duration } else none)
    (accounted_start indexed short) turns
  refine ⟨kept.chunks, kept.drops, kept.behind, written_starts kept.fits, written_idle kept.fits,
    fun sound => ?_⟩
  have fed := loop_fed
    (if 0 < duration then some { begun with sec := begun.sec + duration } else none) turns sound
    (show ∀ entry ∈ ({ queue := queue, pump := .init } : Stream σ).popped, entry.2 = true by simp)
  exact congrArg (List.map Prod.fst) (List.filter_eq_self.mpr fun entry member => by
    simpa using fed entry member)

/-- A consumer that takes half of a packet, before anything has failed. -/
def halfTaken : Pass Nat where
  arrived := [.enqueue 0 0 ⟨7, 0x47 :: List.replicate 187 0⟩]
  answers := [94]
  now := .ofNanos 0

/-- A run that is stopped in the middle of a packet. -/
theorem everything_accounted_stopped :
    let stream := (streamTs 5 ⟨0, 0, by decide⟩ (TsQueue.init true)
      [halfTaken, { halfTaken with stopRequested := true }]).stream
    (TsQueue.init true).contents ++ marked true stream.ledger =
        stream.popped.map Prod.fst ++ stream.queue.contents ∧
      stream.out <+: (cutChunks id ((marked true stream.popped).map TsChunk.data)).1.flatten ∧
      marked true stream.popped = stream.popped.map Prod.fst := by
  obtain ⟨chunks, -, -, begins, -, fed⟩ := everything_accounted 5 ⟨0, 0, by decide⟩
    (TsQueue.init true) TsQueue.indexed_zero (fun _ none => by cases none)
    [halfTaken, { halfTaken with stopRequested := true }]
  exact ⟨chunks, begins, fed (by simp [halfTaken])⟩

/-! ## A stream that has failed -/

/-- A write either ends the call, or leaves the pump between two packets. -/
theorem send_result {pump : OutputPump β} (descriptor : pump.packetSink = false)
    (unfinished : pump.packetOff < 188) (answer : Int) :
    (∃ rc, rc ≠ 0 ∧ (rc < 0 ∨ rc = outputPending) ∧ (pump.send answer).rc = some rc) ∨
      ((pump.send answer).rc = some outputDone ∧ (pump.send answer).pump.busy = false) ∨
      (pump.send answer).rc = none := by
  have request : 188 - pump.packetOff ≠ 0 := by omega
  unfold OutputPump.send
  rw [if_neg (by simp [descriptor])]
  dsimp only
  split
  · rename_i failed
    exact Or.inl ⟨_, by omega, Or.inl failed, rfl⟩
  split
  · exact Or.inl ⟨_, by decide, Or.inr rfl, rfl⟩
  split
  · exact Or.inr (Or.inl ⟨rfl, rfl⟩)
  · exact Or.inr (Or.inr rfl)

theorem send_again {pump : OutputPump β} (descriptor : pump.packetSink = false)
    (unfinished : pump.packetOff < 188) :
    (pump.send (-Errno.again)).rc = some outputPending := by
  have answered : outputWrite (188 - pump.packetOff) (-Errno.again) = (outputPending, 0) := by
    unfold outputWrite
    rw [if_neg (by omega)]
    rfl
  unfold OutputPump.send
  rw [if_neg (by simp [descriptor]), answered]
  rfl

/-- A call either has something to report, or it is done and the pump is idle. -/
theorem step_result {byte : β → UInt8} {pump : OutputPump β} {out : List β}
    (written : Written byte packets rest done pump out) (answers : List Int) :
    (∃ rc, rc ≠ 0 ∧ (rc < 0 ∨ rc = outputPending) ∧ (pump.step byte answers).rc = some rc) ∨
      ((pump.step byte answers).rc = some outputDone ∧
        (pump.step byte answers).pump.busy = false) := by
  induction answers generalizing pump out done with
  | nil =>
    have ready := written_prepare written
    by_cases busy : (pump.prepare byte).busy = true
    · have unfinished := ready.cutting.unfinished (OutputPump.prepare_writing busy)
      simp only [OutputPump.step, busy, ↓reduceIte]
      exact Or.inl ⟨outputPending, by decide, Or.inr rfl, send_again ready.descriptor unfinished⟩
    · simp only [OutputPump.step, busy]
      exact Or.inr ⟨rfl, by simpa using busy⟩
  | cons answer later ih =>
    have ready := written_prepare written
    by_cases busy : (pump.prepare byte).busy = true
    · have writing := OutputPump.prepare_writing busy
      obtain ⟨after, sent⟩ := written_send ready writing answer
      simp only [OutputPump.step, busy, ↓reduceIte]
      rcases send_result ready.descriptor (ready.cutting.unfinished writing) answer with
        ⟨rc, nonzero, kind, returned⟩ | ⟨returned, idle⟩ | goes
      · rw [returned]
        exact Or.inl ⟨rc, nonzero, kind, returned⟩
      · rw [returned]
        exact Or.inr ⟨returned, idle⟩
      · rw [goes]
        exact ih sent
    · simp only [OutputPump.step, busy]
      exact Or.inr ⟨rfl, by simpa using busy⟩

/-- A pass that finds the stream failed with `error`, and is not told to stop. -/
def Failing (error : Int) (turn : Pass σ) : Prop :=
  turn.stopRequested = false ∧ turn.error = error ∧ turn.pendingError = error

theorem arrive_pump (stream : Stream σ) (events : List (UsbEvent σ)) :
    (stream.arrive events).pump = stream.pump := by
  obtain ⟨ledger, same⟩ := arrive_shape stream events
  rw [same]

/-- An idle pass returns the error, unless it takes it for an empty queue. -/
theorem takeChunk_failing {turn : StreamControl.Turn σ} (idle : stream.pump.busy = false)
    (failed : turn.error < 0) :
    ∃ after, after.pump = stream.pump ∧ stream.takeChunk turn =
      if turn.error ≠ -Errno.again then .returned turn.error after else .running after := by
  have same := arrive_pump stream turn.arrived
  unfold Stream.takeChunk
  generalize stream.arrive turn.arrived = arrived at same
  dsimp only
  rw [if_neg (by simp [same, idle])]
  have nonzero : turn.error ≠ 0 := by omega
  rcases arrived.queue.pop with ⟨taken, queue⟩
  cases taken with
  | error rc =>
    dsimp only
    rw [if_pos failed]
    exact ⟨{ arrived with queue := queue }, same, if_congr (and_iff_right failed) rfl rfl⟩
  | ok chunk =>
    dsimp only
    rw [if_pos failed, if_neg nonzero]
    exact ⟨{ arrived with queue := queue, popped := arrived.popped ++ [(chunk, false)] }, same,
      if_congr (and_iff_right failed) rfl rfl⟩

theorem stepOutput_idle (turn : StreamControl.Turn σ) (idle : stream.pump.busy = false) :
    stream.stepOutput turn = .running stream := by
  unfold Stream.stepOutput
  rw [if_pos idle]

theorem pass_failing_idle {turn : Pass σ} (idle : stream.pump.busy = false)
    (failing : Failing error turn) (failed : error < 0) :
    ∃ after, after.pump = stream.pump ∧ stream.pass none turn =
      if error ≠ -Errno.again then .returned error after else .running after := by
  obtain ⟨going, rfl, -⟩ := failing
  obtain ⟨after, same, taken⟩ := takeChunk_failing idle failed
  refine ⟨after, same, ?_⟩
  unfold Stream.pass
  rw [if_neg (by simp [going]), taken]
  by_cases memory : turn.error = -Errno.again
  · simp [memory, stepOutput_idle turn.toTurn (same ▸ idle)]
  · simp [memory]

/-- A failed stream that has run out of memory goes round without end. -/
theorem loop_failing_idle (turns : List (Pass σ)) (idle : stream.pump.busy = false)
    (failing : ∀ turn ∈ turns, Failing error turn) (failed : error < 0) (some : turns ≠ []) :
    (error = -Errno.again ∧ ∃ after, stream.loop none turns = .running after) ∨
      (error ≠ -Errno.again ∧ ∃ after, stream.loop none turns = .returned error after) := by
  by_cases memory : error = -Errno.again
  · refine Or.inl ⟨memory, ?_⟩
    clear some
    induction turns generalizing stream with
    | nil => exact ⟨stream, rfl⟩
    | cons turn rest ih =>
      obtain ⟨after, same, passed⟩ := pass_failing_idle idle (failing turn List.mem_cons_self) failed
      rw [if_neg (by simpa using memory)] at passed
      rw [Stream.loop, passed]
      exact ih (same ▸ idle) fun other member => failing other (List.mem_cons_of_mem _ member)
  · refine Or.inr ⟨memory, ?_⟩
    cases turns with
    | nil => exact absurd rfl some
    | cons turn rest =>
      obtain ⟨after, -, passed⟩ := pass_failing_idle idle (failing turn List.mem_cons_self) failed
      rw [if_pos memory] at passed
      rw [Stream.loop, passed]
      exact ⟨after, rfl⟩

/-- A busy pass returns when the pump has something to report, and leaves it idle otherwise. -/
theorem pass_failing_busy {turn : Pass σ} {out : List UInt8} (busy : stream.pump.busy = true)
    (written : Written id packets rest done stream.pump out)
    (failing : Failing error turn) (failed : error < 0) :
    ((stream.pump.step id turn.answers).rc ≠ some outputDone ∧
        ∃ rc after, rc < 0 ∧ stream.pass none turn = .returned rc after) ∨
      ((stream.pump.step id turn.answers).rc = some outputDone ∧
        ∃ after, after.pump.busy = false ∧ stream.pass none turn = .running after) := by
  obtain ⟨going, -, pending⟩ := failing
  have same := arrive_pump stream turn.arrived
  have taken : stream.takeChunk turn.toTurn = .running (stream.arrive turn.arrived) := by
    unfold Stream.takeChunk
    rw [if_pos (by rw [same]; exact busy)]
  unfold Stream.pass
  rw [if_neg (by simp [going]), taken]
  generalize stream.arrive turn.arrived = arrived at same
  unfold Stream.stepOutput
  dsimp only
  rw [same, if_neg (by simp [busy])]
  rcases step_result written turn.answers with ⟨rc, nonzero, kind, returned⟩ | ⟨returned, idle⟩
  · refine Or.inl ⟨by rw [returned]; simpa using nonzero, ?_⟩
    rw [returned, Option.getD_some]
    rcases kind with negative | rfl
    · rw [if_pos negative]
      exact ⟨rc, _, negative, rfl⟩
    · rw [if_neg (by decide), if_pos rfl]
      have found : ∀ queue : TsQueue σ, streamPendingCheck queue turn.pendingError = error := by
        intro queue
        rw [streamPendingCheck, pending, if_pos failed]
      rw [found, if_pos failed]
      exact ⟨error, _, failed, rfl⟩
  · refine Or.inr ⟨returned, ?_⟩
    rw [returned, Option.getD_some, if_neg (by decide), if_neg (by decide)]
    simp only [Option.any_none, Bool.false_eq_true, if_false]
    exact ⟨_, by rw [arrive_pump]; exact idle, rfl⟩

/-- **When a failed stream ends the run.** Once the stream has failed, two passes of `stream_ts`
without `--time` and without a request to stop are enough to return a negative code, whatever the
consumer of the output does; but libusb's code for missing memory is that of an empty queue, and
unless the pump stops at the waiting packet first, the loop goes round as long as no stop is
requested. -/
theorem failure_ends_run_iff (begun : Timespec) (queue : TsQueue σ) (indexed : queue.Indexed)
    (short : ∀ chunk ∈ queue.contents, chunk.data.length ≤ 16384)
    (ran : streamTs 0 begun queue earlier = .running stream) (failed : error < 0)
    (failing : ∀ turn ∈ first :: second :: later, Failing error turn) :
    (∃ rc after, rc < 0 ∧ stream.loop none (first :: second :: later) = .returned rc after) ↔
      error ≠ -Errno.again ∨
        (stream.pump.busy = true ∧ (stream.pump.step id first.answers).rc ≠ some outputDone) := by
  have kept := accounted_loop none (accounted_start indexed short) earlier
  rw [show Stream.loop none _ earlier = Outcome.running stream from ran] at kept
  obtain ⟨done, written⟩ := kept.fits
  have rest : ∀ turn ∈ second :: later, Failing error turn :=
    fun turn member => failing turn (List.mem_cons_of_mem _ member)
  by_cases busy : stream.pump.busy = true
  · rcases pass_failing_busy busy written (failing first List.mem_cons_self) failed with
      ⟨reports, rc, after, negative, passed⟩ | ⟨quiet, after, idle, passed⟩
    · rw [Stream.loop, passed]
      exact ⟨fun _ => Or.inr ⟨busy, reports⟩, fun _ => ⟨rc, after, negative, rfl⟩⟩
    · rw [Stream.loop, passed]
      dsimp only
      rcases loop_failing_idle (second :: later) idle rest failed (by simp) with
        ⟨memory, last, runs⟩ | ⟨known, last, returns⟩
      · rw [runs]
        simp [memory, quiet]
      · rw [returns]
        exact ⟨fun _ => Or.inl known, fun _ => ⟨error, last, failed, rfl⟩⟩
  · rcases loop_failing_idle (first :: second :: later) (by simpa using busy) failing failed
        (by simp) with ⟨memory, last, runs⟩ | ⟨known, last, returns⟩
    · rw [runs]
      simp [memory, busy]
    · rw [returns]
      exact ⟨fun _ => Or.inl known, fun _ => ⟨error, last, failed, rfl⟩⟩

/-- The stream has failed for want of memory. -/
def outOfMemory : Pass Nat where
  error := -Errno.again
  pendingError := -Errno.again
  now := .ofNanos 0

/-- The pump stops at a packet with the next pass. -/
def Outcome.stalled : Outcome σ → Bool
  | .running stream =>
    stream.pump.busy && (stream.pump.step id []).rc != some outputDone
  | .returned _ _ => false

/-- The packet that is half written ends the run even so. -/
theorem failure_ends_stalled :
    ∃ stream : Stream Nat, ∃ rc after, rc < 0 ∧
      streamTs 0 ⟨0, 0, by decide⟩ (TsQueue.init true) [halfTaken] = .running stream ∧
      stream.loop none [outOfMemory, outOfMemory] = .returned rc after := by
  have stalls : (streamTs 0 ⟨0, 0, by decide⟩ (TsQueue.init true) [halfTaken]).stalled = true := by
    decide +kernel
  cases ran : streamTs 0 ⟨0, 0, by decide⟩ (TsQueue.init true) [halfTaken] with
  | returned rc stream =>
    rw [ran] at stalls
    cases stalls
  | running stream =>
    rw [ran] at stalls
    simp only [Outcome.stalled, Bool.and_eq_true, bne_iff_ne] at stalls
    have failing : ∀ turn ∈ [outOfMemory, outOfMemory], Failing (-Errno.again) turn := by
      simp [Failing, outOfMemory]
    obtain ⟨rc, after, negative, returned⟩ := (failure_ends_run_iff ⟨0, 0, by decide⟩
      (TsQueue.init true) TsQueue.indexed_zero (fun _ none => by cases none) ran (by decide)
      failing).mpr (Or.inr stalls)
    exact ⟨stream, rc, after, negative, rfl, returned⟩

/-! ## The loop with control input, when there is none -/

variable {session : Session σ}

end SianoUserland.StreamTs
