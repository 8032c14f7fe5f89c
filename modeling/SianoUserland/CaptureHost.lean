import SianoUserland.PumpInvariant
import SianoUserland.TransferPath

/-! `siano-capture-host.c`: one capture with its worker. The worker pops under the
generation its capture was started with and cuts packets for the sink with a pump
of its own. -/
namespace SianoUserland
open QueueRefinement

/-- `Consumer::Run`: what the callbacks of one capture are handed. -/
structure ConsumerRun (ι : Type) where
  identity : ι
  incarnation : UInt64 := 0
  generation : UInt64 := 0
  deriving Repr, DecidableEq

/-- `struct siano_capture_host`, with what its worker did. -/
structure CaptureHost where
  generation : UInt64
  pump : OutputPump TracedByte := .initSink
  /-- The chunk the worker has popped and not fed yet. -/
  popped : Option (TsChunk Nat) := none
  /-- The worker has not left its loop. -/
  running : Bool := true
  workerError : Bool := false
  /-- What the failure callback was called with. -/
  failure : Option Int := none
  /-- The packets the sink received, with its answers. -/
  offered : List (List TracedByte × Int) := []
  /-- How many submissions there had been when the capture was started, and when
  it was stopped. -/
  started : Nat
  stopped : Option Nat := none

namespace CaptureHost

/-- The worker leaves its loop through the failure callback. -/
def fail (host : CaptureHost) (rc : Int) : CaptureHost :=
  { host with workerError := true, failure := some rc, running := false }

/-- The first half of a pass of `capture_worker`: `ts_pop_capture` and what its
result means. `-EAGAIN` goes around the loop again. -/
def workerPop (host : CaptureHost) (queue : TsQueue Nat) : CaptureHost × TsQueue Nat :=
  match queue.popCapture host.generation with
  | (.ok chunk, after) =>
    (if chunk.data.length > 16384 then host.fail (-Errno.io)
      else { host with popped := some chunk }, after)
  | (.error rc, after) =>
    (if rc = -Errno.canceled then { host with running := false }
      else if rc = -Errno.again then host
      else host.fail rc, after)

/-- The second half: feed the chunk and step the pump once, against the answers of
the sink. -/
def workerFeed (host : CaptureHost) (chunk : TsChunk Nat) (answers : List Int) : CaptureHost :=
  let stepped := (host.pump.feed (tracedBytes chunk)).step Prod.snd answers
  { host with
    pump := stepped.pump
    popped := none
    offered := host.offered ++ stepped.offered
    running := stepped.rc = some outputDone }

/-- Every byte the host has ever been near was received by a submission between
its start and its stop; `now` is the number of submissions so far. -/
structure Own (now : Nat) (host : CaptureHost) : Prop where
  sink : host.pump.packetSink = true
  started : host.started ≤ now
  popped : ∀ chunk, host.popped = some chunk →
    host.started ≤ chunk.source ∧ chunk.source < host.stopped.getD now
  pump : host.pump.Owns fun entry => host.started ≤ entry.1 ∧ entry.1 < host.stopped.getD now
  offered : ∀ offer ∈ host.offered, ∀ entry ∈ offer.1,
    host.started ≤ entry.1 ∧ entry.1 < host.stopped.getD now

variable {host : CaptureHost} {now later : Nat}

/-- More submissions only widen what an open capture may contain. -/
theorem own_later (own : host.Own now) (grows : now ≤ later) : host.Own later := by
  have widen : ∀ serial, serial < host.stopped.getD now → serial < host.stopped.getD later := by
    intro serial before
    cases stopped : host.stopped with
    | none => simpa [stopped] using Nat.lt_of_lt_of_le (by simpa [stopped] using before) grows
    | some final => simpa [stopped] using before
  refine ⟨own.sink, Nat.le_trans own.started grows, ?_, ⟨?_, ?_⟩, ?_⟩
  · intro chunk found
    exact ⟨(own.popped chunk found).1, widen _ (own.popped chunk found).2⟩
  · intro entry member
    exact ⟨(own.pump.hold entry member).1, widen _ (own.pump.hold entry member).2⟩
  · intro entry member
    exact ⟨(own.pump.scratch entry member).1, widen _ (own.pump.scratch entry member).2⟩
  · intro offer member entry inside
    obtain ⟨since, before⟩ := own.offered offer member entry inside
    exact ⟨since, widen _ before⟩

/-- Stopping an open capture fixes the bound where it stands. -/
theorem own_stopped (own : host.Own now) (running : host.stopped = none) :
    Own now { host with stopped := some now } := by
  obtain ⟨sink, started, popped, pump, offered⟩ := own
  simp only [running, Option.getD_none] at popped pump offered
  exact ⟨sink, started, popped, pump, offered⟩

theorem own_workerFeed (own : host.Own now) (found : host.popped = some chunk)
    (answers : List Int) : (host.workerFeed chunk answers).Own now := by
  have fed := OutputPump.feed_owns own.pump (tracedBytes chunk) fun entry member =>
    (mem_tracedBytes member).symm ▸ own.popped chunk found
  obtain ⟨pump, _, passed⟩ := OutputPump.step_owns Prod.snd fed answers
  refine ⟨?_, own.started, (fun _ impossible => by cases impossible), pump, ?_⟩
  · simpa [workerFeed] using own.sink
  intro offer member
  rcases List.mem_append.mp member with old | new
  · exact own.offered offer old
  · exact passed offer new

end CaptureHost
end SianoUserland
