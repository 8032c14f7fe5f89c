import SianoUserland.Lib.Transition
import SianoUserland.PumpInvariant
import SianoUserland.TransferPath

/-! Retunes of the standalone program, end to end. The consumer thread pops,
feeds, steps and retunes while transfers are submitted and call back on other
threads. After a successful retune nothing of the old channel is written any
more, wherever it was waiting, except the rest of a packet already begun. -/
namespace SianoUserland.RetuneIsolation
open Transition QueueRefinement

/-- `stream_retune_finish` of `siano-ts.c`. The queue clears the pump's
`hold_len` in its own critical section. -/
def streamRetuneFinish (queue : TsQueue σ) (pump : OutputPump β) (tuneResult : Int) :
    Bool × TsQueue σ × OutputPump β :=
  let (succeeded, finished) := queue.retuneFinish tuneResult
  (succeeded, finished, if succeeded then { pump with hold := [] }.retune else pump)

/-- The standalone program while it streams. -/
structure Stream where
  receiver : Receiver
  pump : OutputPump TracedByte := .init
  /-- The chunk the consumer has popped and not fed yet. -/
  popped : Option (TsChunk Nat) := none
  /-- The consumer is between `retune_begin` and `retune_finish`. -/
  retuning : Bool := false
  out : List TracedByte := []
  /-- How often the queue's epoch was incremented. -/
  bumps : Nat := 0

/-- The first six are steps of the USB threads and of the option parser, the
others of the consumer thread. -/
inductive Action where
  | record (slot : Nat)
  | submit (slot : Nat)
  | submitFails (slot : Nat)
  | complete (slot : Nat) (buffer : List UInt8)
  | close
  | setFailOnDrop (enabled : Bool)
  | pop
  | feed
  | step (answers : List Int)
  | retuneBegin
  /-- One of the pops `tune_internal` makes while it waits for a lock. -/
  | discard
  | retuneFinish (tuneResult : Int)

def start (responseAlignment : Nat) : Stream := { receiver := .init true responseAlignment }

def next (stream : Stream) : Action → Option Stream
  | .record slot => (stream.receiver.record slot).map ({ stream with receiver := · })
  | .submit slot => (stream.receiver.submit slot).map ({ stream with receiver := · })
  | .submitFails slot => (stream.receiver.submitFails slot).map ({ stream with receiver := · })
  | .complete slot buffer =>
    (stream.receiver.complete slot buffer).map ({ stream with receiver := · })
  | .close => some { stream with
      receiver := { stream.receiver with queue := stream.receiver.queue.close } }
  | .setFailOnDrop enabled => some { stream with
      receiver := { stream.receiver with queue := stream.receiver.queue.setFailOnDrop enabled } }
  | .pop =>
    if stream.pump.busy = false ∧ stream.popped = none ∧ stream.retuning = false then
      let (result, queue) := stream.receiver.queue.pop
      some { stream with
        receiver := { stream.receiver with queue := queue }, popped := result.toOption }
    else none
  | .feed =>
    match stream.popped with
    | some chunk =>
      if stream.pump.busy = false then
        some { stream with pump := stream.pump.feed (tracedBytes chunk), popped := none }
      else none
    | none => none
  | .step answers =>
    if stream.popped = none ∧ stream.retuning = false then
      let stepped := stream.pump.step Prod.snd answers
      some { stream with pump := stepped.pump, out := stream.out ++ stepped.written }
    else none
  | .retuneBegin =>
    if stream.popped = none ∧ stream.retuning = false then
      some { stream with
        receiver := { stream.receiver with queue := stream.receiver.queue.retuneBegin }
        retuning := true, bumps := stream.bumps + 1 }
    else none
  | .discard =>
    if stream.retuning then
      some { stream with receiver := { stream.receiver with queue := stream.receiver.queue.pop.2 } }
    else none
  | .retuneFinish tuneResult =>
    if stream.retuning then
      let (_, queue, pump) := streamRetuneFinish stream.receiver.queue stream.pump tuneResult
      some { stream with
        receiver := { stream.receiver with queue := queue }, pump := pump
        retuning := false, bumps := stream.bumps + 1 }
    else none

/-- What is left of a packet whose beginning has been written. -/
def begunRest (pump : OutputPump β) : List β :=
  if pump.writing ∧ pump.packetOff ≠ 0 then pump.unsent else []

variable {mark : Nat} {old rest : List TracedByte} {pump : OutputPump TracedByte}
  {out : List TracedByte}

/-- What has been written since `old` was: first the rest of the old packet, and
once that is out only bytes from submission `mark` on. -/
inductive Emitted (mark : Nat) (old rest : List TracedByte) (pump : OutputPump TracedByte)
    (out : List TracedByte) : Prop where
  | finishing (count : Nat) (writing : pump.writing = true) (resumed : pump.packetResumeOff ≠ 0)
      (hold : pump.hold = []) (unsent : pump.unsent = rest.drop count)
      (output : out = old ++ rest.take count)
  | fresh (new : List TracedByte) (output : out = old ++ rest ++ new)
      (written : ∀ entry ∈ new, mark ≤ entry.1) (owned : pump.Owns fun entry => mark ≤ entry.1)

theorem emitted_prepare (emitted : Emitted mark old rest pump out) :
    Emitted mark old rest (pump.prepare Prod.snd) out := by
  cases emitted with
  | finishing count writing resumed hold unsent output =>
    have same : pump.prepare Prod.snd = pump := by simp [OutputPump.prepare, writing]
    rw [same]
    exact .finishing count writing resumed hold unsent output
  | fresh new output written owned =>
    exact .fresh new output written (OutputPump.prepare_owns owned)

theorem unsent_advance (behind : pump.packetResumeOff ≤ pump.packetOff) (count : Nat) :
    OutputPump.unsent { pump with packetOff := pump.packetOff + count } =
      pump.unsent.drop count := by
  have offset : pump.packetOff + count - pump.packetResumeOff =
      pump.packetOff - pump.packetResumeOff + count := by omega
  simp only [OutputPump.unsent, List.drop_take, List.drop_drop, offset, ← Nat.add_assoc,
    Nat.sub_sub]

/-- One handover writes on with the old packet, or only what is fresh. -/
theorem emitted_send (emitted : Emitted mark old rest pump out) (wf : pump.Wf)
    (descriptor : pump.packetSink = false) (answer : Int) :
    Emitted mark old rest (pump.send answer).pump (out ++ (pump.send answer).written) := by
  cases emitted with
  | finishing count writing resumed hold unsent output =>
    rcases OutputPump.send_cases descriptor wf.packetOff_lt answer with
      ⟨rc, more, _, sent⟩ | ⟨_, sent⟩ | ⟨unresumed, _⟩
    · rw [sent]
      refine .finishing (count + more) writing resumed hold ?_ ?_
      · rw [unsent_advance wf.resume_le, unsent, List.drop_drop]
      · rw [output, unsent, List.append_assoc, List.take_add]
    · rw [sent]
      refine .fresh [] ?_ (by simp) ⟨by simp [hold], by simp⟩
      rw [output, unsent, List.append_assoc, List.take_append_drop, List.append_nil]
    · exact absurd unresumed resumed
  | fresh new output written owned =>
    obtain ⟨kept, passed, _⟩ := OutputPump.send_owns owned answer
    refine .fresh (new ++ (pump.send answer).written) (by rw [output, List.append_assoc]) ?_ kept
    exact fun entry member => (List.mem_append.mp member).elim (written entry) (passed entry)

theorem emitted_step (emitted : Emitted mark old rest pump out) (wf : pump.Wf)
    (descriptor : pump.packetSink = false) (answers : List Int) :
    Emitted mark old rest (pump.step Prod.snd answers).pump
        (out ++ (pump.step Prod.snd answers).written) ∧
      (pump.step Prod.snd answers).pump.packetSink = false := by
  have kept := OutputPump.step_rule Prod.snd (fun pump out _ =>
    Emitted mark old rest pump out ∧ pump.Wf ∧ pump.packetSink = false) ?_ ?_ answers out []
    ⟨emitted, wf, descriptor⟩
  · exact ⟨kept.1, kept.2.2⟩
  · rintro pump out _ ⟨emitted, wf, descriptor⟩
    exact ⟨emitted_prepare emitted, OutputPump.prepare_wf wf, by simpa using descriptor⟩
  · rintro pump out _ answer ⟨emitted, wf, descriptor⟩ _ writing
    exact ⟨emitted_send emitted wf descriptor answer, OutputPump.send_wf wf writing answer,
      by simpa using descriptor⟩

theorem retune_unheld (pump : OutputPump β) : { pump with hold := [] }.retune = pump.retune := rfl

/-- A retune in the middle of a packet leaves its unsent bytes where the pump
finds them. -/
theorem unsent_retune (wf : pump.Wf) (writing : pump.writing = true)
    (begun : pump.packetOff ≠ 0) : pump.retune.unsent = pump.unsent := by
  rw [OutputPump.retune_eq wf writing begun]
  simp only [OutputPump.unsent, Nat.sub_self, Nat.add_zero, List.drop_zero, List.take_take,
    Nat.min_self]

theorem emitted_retune (emitted : Emitted mark old rest pump out) (wf : pump.Wf) :
    Emitted mark old rest pump.retune out := by
  cases emitted with
  | finishing count writing resumed hold unsent output =>
    have begun : pump.packetOff ≠ 0 := by
      have behind := wf.resume_le
      omega
    have still : pump.retune.unsent = rest.drop count :=
      (unsent_retune wf writing begun).trans unsent
    rw [OutputPump.retune_eq wf writing begun] at still ⊢
    exact .finishing count rfl begun rfl still output
  | fresh new output written owned => exact .fresh new output written (OutputPump.retune_owns owned)

/-- The retune itself: what was begun is still to come, everything else is gone. -/
theorem emitted_from_retune (wf : pump.Wf) (mark : Nat) :
    Emitted mark out (begunRest pump) pump.retune out := by
  unfold begunRest
  split
  · rename_i mid
    have kept := unsent_retune wf mid.1 mid.2
    rw [OutputPump.retune_eq wf mid.1 mid.2] at kept ⊢
    exact .finishing 0 rfl mid.2 rfl kept (by simp)
  · rename_i other
    have nothing : pump.writing = false ∨ pump.packetOff = 0 := by
      simpa [Classical.or_iff_not_imp_left] using other
    rw [OutputPump.retune_eq_reset nothing]
    exact .fresh [] (by simp) (by simp) (OutputPump.reset_owns pump)

/-- The invariant of a run from the moment `mark`, when `old` had been written
and `rest` was left of a packet. -/
structure Isolated (mark : Nat) (old rest : List TracedByte) (stream : Stream) : Prop where
  receiver : stream.receiver.Fresh mark stream.bumps
  popped : ∀ chunk, stream.popped = some chunk → mark ≤ chunk.source ∧ chunk.data.length ≤ 16384
  exclusive : stream.retuning = true → stream.popped = none
  wf : stream.pump.Wf
  descriptor : stream.pump.packetSink = false
  emitted : Emitted mark old rest stream.pump stream.out

variable {stream after : Stream} {receiver : Receiver} {bumps : Nat}

theorem start_isolated (responseAlignment : Nat) : Isolated 0 [] [] (start responseAlignment) :=
  ⟨Receiver.init_fresh true responseAlignment, (fun _ found => by cases found),
    (fun _ => rfl), OutputPump.init_wf, rfl,
    .fresh [] rfl (by simp) ⟨by simp [start, OutputPump.init], by simp [start, OutputPump.init]⟩⟩

/-- A step that leaves the consumer alone only has to keep the receiver fresh. -/
private theorem isolated_of_receiver (isolated : Isolated mark old rest stream)
    (fresh : receiver.Fresh mark stream.bumps) :
    Isolated mark old rest { stream with receiver := receiver } :=
  ⟨fresh, isolated.popped, isolated.exclusive, isolated.wf, isolated.descriptor,
    isolated.emitted⟩

/-- A pop moves the first chunk to its caller and leaves a fresh receiver. -/
private theorem pop_fresh (fresh : Receiver.Fresh mark bumps receiver) :
    Receiver.Fresh mark bumps { receiver with queue := receiver.queue.pop.2 } ∧
      ∀ chunk, receiver.queue.pop.1.toOption = some chunk →
        mark ≤ chunk.source ∧ chunk.data.length ≤ 16384 := by
  rcases popped : receiver.queue.pop with ⟨result, queue⟩
  cases result with
  | error rc =>
    cases pop_error popped
    exact ⟨fresh, fun _ found => by cases found⟩
  | ok chunk =>
    obtain ⟨shape, indexed, gates⟩ := pop_ok fresh.indexed popped
    refine ⟨Receiver.fresh_of_subset fresh indexed (congrArg Gates.epoch gates) ?_, ?_⟩
    · rw [shape]
      exact List.subset_cons_self _ _
    · intro found same
      cases same
      exact fresh.queued chunk (by rw [shape]; exact List.mem_cons_self)

private theorem retuneBegin_fresh (fresh : Receiver.Fresh mark bumps receiver)
    (few : bumps + 1 < 2 ^ 64) :
    Receiver.Fresh mark (bumps + 1) { receiver with queue := receiver.queue.retuneBegin } :=
  Receiver.fresh_of_bump fresh few fresh.indexed rfl fresh.queued fresh.marked

/-- Finishing a retune can only empty the queue. -/
private theorem retuneFinish_fresh (fresh : Receiver.Fresh mark bumps receiver)
    (few : bumps + 1 < 2 ^ 64) (tuneResult : Int) :
    Receiver.Fresh mark (bumps + 1)
      { receiver with queue := (receiver.queue.retuneFinish tuneResult).2 } := by
  by_cases succeeded : tuneResult = 0
  · rw [succeeded, TsQueue.retuneFinish_succeeded]
    exact Receiver.fresh_of_bump fresh few TsQueue.indexed_zero rfl
      (fun _ member => by cases member) fresh.marked
  · rw [TsQueue.retuneFinish_failed _ succeeded]
    exact Receiver.fresh_of_bump fresh few fresh.indexed rfl fresh.queued fresh.marked

/-- Every step keeps the isolation, as long as the epoch does not wrap. -/
theorem next_isolated (isolated : Isolated mark old rest stream)
    (taken : next stream action = some after) (few : after.bumps < 2 ^ 64) :
    Isolated mark old rest after := by
  cases action with
  | record slot =>
    obtain ⟨receiver, recorded, rfl⟩ := Option.map_eq_some_iff.mp taken
    exact isolated_of_receiver isolated (Receiver.record_fresh isolated.receiver recorded)
  | submit slot =>
    obtain ⟨receiver, submitted, rfl⟩ := Option.map_eq_some_iff.mp taken
    exact isolated_of_receiver isolated (Receiver.submit_fresh isolated.receiver submitted)
  | submitFails slot =>
    obtain ⟨receiver, failed, rfl⟩ := Option.map_eq_some_iff.mp taken
    exact isolated_of_receiver isolated (Receiver.submitFails_fresh isolated.receiver failed)
  | complete slot buffer =>
    obtain ⟨receiver, completed, rfl⟩ := Option.map_eq_some_iff.mp taken
    exact isolated_of_receiver isolated (Receiver.complete_fresh isolated.receiver completed)
  | close =>
    cases taken
    exact isolated_of_receiver isolated (Receiver.fresh_of_subset isolated.receiver
      isolated.receiver.indexed rfl (List.Subset.refl _))
  | setFailOnDrop enabled =>
    cases taken
    exact isolated_of_receiver isolated (Receiver.fresh_of_subset isolated.receiver
      isolated.receiver.indexed rfl (List.Subset.refl _))
  | pop =>
    simp only [next, Option.ite_none_right_eq_some, Option.some.injEq] at taken
    obtain ⟨⟨_, _, streaming⟩, rfl⟩ := taken
    obtain ⟨fresh, first⟩ := pop_fresh isolated.receiver
    exact ⟨fresh, first, (fun tuning => by simp [streaming] at tuning), isolated.wf,
      isolated.descriptor, isolated.emitted⟩
  | feed =>
    simp only [next] at taken
    split at taken
    · rename_i chunk popped
      simp only [Option.ite_none_right_eq_some, Option.some.injEq] at taken
      obtain ⟨idle, rfl⟩ := taken
      obtain ⟨source, small⟩ := isolated.popped chunk popped
      refine ⟨isolated.receiver, (fun _ found => by cases found), (fun _ => rfl),
        OutputPump.feed_wf isolated.wf (by simpa [tracedBytes] using small), isolated.descriptor,
        ?_⟩
      cases isolated.emitted with
      | finishing count writing => simp [isolated.wf.busy writing] at idle
      | fresh new output written owned =>
        refine .fresh new output written (OutputPump.feed_owns owned _ fun entry member => ?_)
        exact (mem_tracedBytes member).symm ▸ source
    · cases taken
  | step answers =>
    simp only [next, Option.ite_none_right_eq_some, Option.some.injEq] at taken
    obtain ⟨_, rfl⟩ := taken
    obtain ⟨emitted, descriptor⟩ :=
      emitted_step isolated.emitted isolated.wf isolated.descriptor answers
    exact ⟨isolated.receiver, isolated.popped, isolated.exclusive,
      OutputPump.step_wf isolated.wf answers, descriptor, emitted⟩
  | retuneBegin =>
    simp only [next, Option.ite_none_right_eq_some, Option.some.injEq] at taken
    obtain ⟨⟨unpopped, _⟩, rfl⟩ := taken
    exact ⟨retuneBegin_fresh isolated.receiver few, isolated.popped, (fun _ => unpopped),
      isolated.wf, isolated.descriptor, isolated.emitted⟩
  | discard =>
    simp only [next, Option.ite_none_right_eq_some, Option.some.injEq] at taken
    obtain ⟨_, rfl⟩ := taken
    exact isolated_of_receiver isolated (pop_fresh isolated.receiver).1
  | retuneFinish tuneResult =>
    simp only [next, streamRetuneFinish, Option.ite_none_right_eq_some, Option.some.injEq] at taken
    obtain ⟨tuning, rfl⟩ := taken
    have unpopped := isolated.exclusive tuning
    have fresh := retuneFinish_fresh isolated.receiver few tuneResult
    rw [retune_unheld]
    split
    · exact ⟨fresh, isolated.popped, (fun _ => unpopped), OutputPump.retune_wf isolated.wf,
        by simpa using isolated.descriptor, emitted_retune isolated.emitted isolated.wf⟩
    · exact ⟨fresh, isolated.popped, (fun _ => unpopped), isolated.wf, isolated.descriptor,
        isolated.emitted⟩

theorem next_bumps (taken : next stream action = some after) : stream.bumps ≤ after.bumps := by
  cases action with
  | record slot | submit slot | submitFails slot | complete slot buffer =>
    obtain ⟨receiver, _, rfl⟩ := Option.map_eq_some_iff.mp taken
    exact Nat.le_refl _
  | close | setFailOnDrop enabled =>
    cases taken
    exact Nat.le_refl _
  | feed =>
    simp only [next] at taken
    split at taken
    · simp only [Option.ite_none_right_eq_some, Option.some.injEq] at taken
      obtain ⟨_, rfl⟩ := taken
      exact Nat.le_refl _
    · cases taken
  | pop | step answers | discard =>
    simp only [next, Option.ite_none_right_eq_some, Option.some.injEq] at taken
    obtain ⟨_, rfl⟩ := taken
    exact Nat.le_refl _
  | retuneBegin | retuneFinish tuneResult =>
    simp only [next, Option.ite_none_right_eq_some, Option.some.injEq] at taken
    obtain ⟨_, rfl⟩ := taken
    exact Nat.le_succ _

/-- A whole run keeps the isolation; the bound on the final count bounds every
earlier one. -/
theorem run_isolated (isolated : stream.bumps < 2 ^ 64 → Isolated mark old rest stream)
    (ran : run next stream actions = some after) :
    after.bumps < 2 ^ 64 → Isolated mark old rest after :=
  run_keeps (fun stream => stream.bumps < 2 ^ 64 → Isolated mark old rest stream)
    (fun _ _ _ held taken few =>
      next_isolated (held (Nat.lt_of_le_of_lt (next_bumps taken) few)) taken few) isolated ran

/-- A successful finish starts a new isolation: the queue is empty, no transfer
on its way carries the new epoch, and the pump keeps only the rest of its packet. -/
theorem finish_isolates (isolated : Isolated mark old rest stream)
    (finished : next stream (.retuneFinish 0) = some after) (few : after.bumps < 2 ^ 64) :
    Isolated after.receiver.submissions after.out (begunRest stream.pump) after := by
  simp only [next, streamRetuneFinish, TsQueue.retuneFinish_succeeded, retune_unheld, ↓reduceIte,
    Option.ite_none_right_eq_some, Option.some.injEq] at finished
  obtain ⟨tuning, rfl⟩ := finished
  have unpopped := isolated.exclusive tuning
  exact ⟨Receiver.fresh_of_bump isolated.receiver few TsQueue.indexed_zero rfl
      (fun _ member => by cases member) (Nat.le_refl _),
      (fun _ found => by simp [unpopped] at found),
    (fun _ => unpopped), OutputPump.retune_wf isolated.wf, by simpa using isolated.descriptor,
    emitted_from_retune isolated.wf _⟩

/-- **Retunes isolate the channels.** Take any run, any successful retune in it and
any continuation, with fewer than 2^64 increments of the epoch. What is written
after the retune is a beginning of the rest of the packet that was already begun,
all of it before anything else, and then only bytes from transfers submitted
after the retune. -/
theorem retune_isolates (responseAlignment : Nat) (before later : List Action)
    (ran : run next (start responseAlignment) before = some stream)
    (finished : next stream (.retuneFinish 0) = some tuned)
    (continued : run next tuned later = some after) (few : after.bumps < 2 ^ 64) :
    ∃ rest new, after.out = tuned.out ++ rest ++ new ∧ rest <+: begunRest stream.pump ∧
      (new ≠ [] → rest = begunRest stream.pump) ∧
      ∀ entry ∈ new, tuned.receiver.submissions ≤ entry.1 := by
  have isolated : stream.bumps < 2 ^ 64 → Isolated 0 [] [] stream :=
    run_isolated (fun _ => start_isolated responseAlignment) ran
  have tunedIsolated : tuned.bumps < 2 ^ 64 →
      Isolated tuned.receiver.submissions tuned.out (begunRest stream.pump) tuned :=
    fun few => finish_isolates
      (isolated (Nat.lt_of_le_of_lt (next_bumps finished) few)) finished few
  cases (run_isolated tunedIsolated continued few).emitted with
  | finishing count writing resumed hold unsent output =>
    exact ⟨(begunRest stream.pump).take count, [], by simp [output], List.take_prefix _ _,
      by simp, by simp⟩
  | fresh new output written owned =>
    exact ⟨begunRest stream.pump, new, output, List.prefix_refl _, fun _ => rfl, written⟩

/-- A received buffer with one packet of transport stream, filled with `fill`. -/
def dataFrame (fill : UInt8) : List UInt8 :=
  [0xb5, 0x02, 0, 0, 196, 0, 0, 0, 0x47] ++ List.replicate 187 fill

/-- A retune in the middle of a packet, with another old chunk in the queue and an
old transfer in flight: the packet is finished, and then the new channel follows. -/
theorem retune_isolates_mid_packet :
    ∃ stream tuned after rest new,
      run next (start 0) [.record 0, .submit 0, .complete 0 (dataFrame 1), .pop, .feed,
        .step [100], .record 0, .submit 0, .complete 0 (dataFrame 2), .record 1, .submit 1,
        .retuneBegin] = some stream ∧
      next stream (.retuneFinish 0) = some tuned ∧
      run next tuned [.complete 1 (dataFrame 3), .record 0, .submit 0, .complete 0 (dataFrame 4),
        .step [88], .pop, .feed, .step [188]] = some after ∧
      after.out = (0, 0x47) :: List.replicate 187 (0, 1) ++ (3, 0x47) :: List.replicate 187 (3, 4) ∧
      after.out = tuned.out ++ rest ++ new ∧ rest <+: begunRest stream.pump ∧
      (new ≠ [] → rest = begunRest stream.pump) ∧
      ∀ entry ∈ new, tuned.receiver.submissions ≤ entry.1 := by
  have evaluated : ((run next (start 0) [.record 0, .submit 0, .complete 0 (dataFrame 1), .pop,
      .feed, .step [100], .record 0, .submit 0, .complete 0 (dataFrame 2), .record 1, .submit 1,
      .retuneBegin]).bind fun stream => (next stream (.retuneFinish 0)).bind fun tuned =>
        (run next tuned [.complete 1 (dataFrame 3), .record 0, .submit 0,
          .complete 0 (dataFrame 4), .step [88], .pop, .feed, .step [188]]).bind fun after =>
            some (after.bumps, after.out)) =
      some (2,
        (0, 0x47) :: List.replicate 187 (0, 1) ++ (3, 0x47) :: List.replicate 187 (3, 4)) := by
    decide +kernel
  simp only [Option.bind_eq_some_iff, Option.some.injEq, Prod.mk.injEq] at evaluated
  obtain ⟨stream, ran, tuned, finished, after, continued, bumps, out⟩ := evaluated
  obtain ⟨rest, new, split⟩ := retune_isolates 0 _ _ ran finished continued (by rw [bumps]; decide)
  exact ⟨stream, tuned, after, rest, new, ran, finished, continued, out, split⟩

end SianoUserland.RetuneIsolation
