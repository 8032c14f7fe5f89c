import SianoUserland.CaptureIsolation

/-! What a capture learns of a stream that has failed. `fail_streaming` closes the
queue; the worker of the capture only ever hears of it through `ts_pop_capture`. -/
namespace SianoUserland.CaptureFailure
open Transition QueueRefinement CaptureIsolation

/-- The library's `StreamTerminal`, as far as the source names its values. -/
inductive StreamTerminal where
  | none
  | stopped
  | bridgeFatal
  | other (code : Nat)
  deriving Repr, DecidableEq

/-- What the consumer reads of its `PacketStreamSession`. -/
structure Session (ι : Type) where
  attached : Bool
  incarnation : UInt64
  identity : ι
  terminal : StreamTerminal
  deriving DecidableEq

variable {ι : Type} [DecidableEq ι]

/-- The session is still the one the run was started for. -/
def Session.belongs (session : Session ι) (run : ConsumerRun ι) : Bool :=
  session.attached && session.incarnation == run.incarnation && session.identity == run.identity

/-- `Consumer::capture_failure`. -/
def captureFailure (run : ConsumerRun ι) (session : Session ι) : Session ι :=
  if session.belongs run then
    if session.terminal = .none then { session with terminal := .bridgeFatal } else session
  else session

/-- A worker with everything it works on. -/
structure Worker (ι : Type) where
  host : CaptureHost
  queue : TsQueue Nat
  session : Session ι

/-- What the sink does during a pass: its answers, and what its packets do to the
session. -/
structure Pass (ι : Type) where
  answers : List Int
  append : Session ι → Session ι := id

namespace Worker

/-- The pop of a pass, with the failure callback. -/
def pop (run : ConsumerRun ι) (worker : Worker ι) : Worker ι :=
  let (host, queue) := worker.host.workerPop worker.queue
  { host := host
    queue := queue
    session := if host.running = false ∧ host.failure ≠ none then
        captureFailure run worker.session
      else worker.session }

/-- The rest of a pass: the chunk in hand, if there is one, is fed to the pump. -/
def feed (worker : Worker ι) (sink : Pass ι) : Worker ι :=
  match worker.host.popped with
  | some chunk =>
    { worker with
      host := worker.host.workerFeed chunk sink.answers
      session := sink.append worker.session }
  | none => worker

/-- One pass of the loop of `capture_worker`. -/
def pass (run : ConsumerRun ι) (worker : Worker ι) (sink : Pass ι) : Worker ι :=
  (worker.pop run).feed sink

/-- The loop of `capture_worker`, as long as it goes on. -/
def passes (run : ConsumerRun ι) (worker : Worker ι) : List (Pass ι) → Worker ι
  | [] => worker
  | sink :: rest => if worker.host.running then (worker.pass run sink).passes run rest else worker

end Worker

/-- The next pop is a failure that the consumer hears of, and the worker leaves. -/
def Told (run : ConsumerRun ι) (worker : Worker ι) : Prop :=
  ∃ rc, (worker.pop run).host = worker.host.fail rc ∧
    (worker.session.belongs run = true → worker.session.terminal = .none →
      (worker.pop run).session.terminal = .bridgeFatal)

/-- The worker gets to know of the failure. It never goes around its loop without
changing anything, and after at most the chunks that wait, unless its sink has ended
it before, it is told. -/
structure Reports (run : ConsumerRun ι) (worker : Worker ι) : Prop where
  moves : ∀ script, (worker.passes run script).host.running = true →
    (worker.passes run script).pop run ≠ worker.passes run script
  ends : ∀ script : List (Pass ι), worker.queue.count ≤ script.length →
    ∃ count, count ≤ worker.queue.count ∧
      ((worker.passes run (script.take count)).host.running = false ∨
        Told run (worker.passes run (script.take count)))

/-- A worker with its capture enabled and nothing lost. -/
structure Listening (waiting : Nat) (worker : Worker ι) : Prop where
  indexed : worker.queue.Indexed
  intact : worker.queue.overflowed = false
  enabled : worker.queue.captureEnabled = true
  current : worker.queue.captureGeneration = worker.host.generation
  short : ∀ chunk ∈ worker.queue.contents, chunk.data.length ≤ 16384
  count : worker.queue.count = waiting
  running : worker.host.running = true
  sink : worker.host.pump.packetSink = true

variable {run : ConsumerRun ι} {worker : Worker ι} {waiting index : Nat} {system : System}
  {host : CaptureHost}

/-- An overflow is reported by the next pop. -/
theorem pop_overflowed (overflowed : worker.queue.overflowed = true) :
    worker.pop run = { worker with
      host := worker.host.fail (-Errno.nobufs), session := captureFailure run worker.session } := by
  have popped : worker.host.workerPop worker.queue =
      (worker.host.fail (-Errno.nobufs), worker.queue) := by
    simp [CaptureHost.workerPop, TsQueue.popCapture, overflowed, Gates.overflowResult, Errno.nobufs,
      Errno.canceled, Errno.again]
  simp [Worker.pop, popped, CaptureHost.fail]

omit [DecidableEq ι] in
/-- The chunk in hand is fed, when the sink takes its packets. -/
theorem feed_listening (listening : Listening waiting worker) :
    ∃ sink, Listening waiting (worker.feed sink) := by
  cases popped : worker.host.popped with
  | none => exact ⟨{ answers := [] }, by simpa [Worker.feed, popped] using listening⟩
  | some chunk =>
    let fuel := (worker.host.pump.feed (tracedBytes chunk)).scratch.length
    have accepted : ((worker.host.pump.feed (tracedBytes chunk)).step Prod.snd
        (List.replicate fuel 0)).rc = some outputDone :=
      OutputPump.step_accepting fuel listening.sink rfl (Nat.zero_le _)
        (by simp only [fuel, OutputPump.feed]; omega)
    refine ⟨{ answers := List.replicate fuel 0 }, ?_⟩
    simp only [Worker.feed, popped, CaptureHost.workerFeed, accepted, decide_true]
    exact ⟨listening.indexed, listening.intact, listening.enabled, listening.current,
      listening.short, listening.count, rfl, by simpa using listening.sink⟩

/-- A pop takes the first chunk. -/
theorem pop_listening (run : ConsumerRun ι) (listening : Listening (waiting + 1) worker) :
    Listening waiting (worker.pop run) := by
  have current : worker.queue.popCapture worker.host.generation = worker.queue.take := by
    simp [TsQueue.popCapture, listening.intact, listening.enabled, listening.current]
  rcases taken : worker.queue.take with ⟨result, after⟩
  cases result with
  | error rc =>
    have empty := (take_error taken).2.1
    rw [listening.count] at empty
    cases empty
  | ok chunk =>
    obtain ⟨shape, indexed, gates⟩ := take_ok listening.indexed taken
    have small := listening.short chunk (by rw [shape]; exact List.mem_cons_self)
    have popped : worker.host.workerPop worker.queue =
        ({ worker.host with popped := some chunk }, after) := by
      simp only [CaptureHost.workerPop, current, taken]
      rw [if_neg (by omega)]
    have count : after.count = waiting := by
      simp only [TsQueue.take, listening.count, Nat.add_one_ne_zero, ne_eq, not_false_eq_true,
        ↓reduceIte, Nat.add_one_sub_one, Prod.mk.injEq] at taken
      rw [← taken.2]
    simp only [Worker.pop, popped]
    refine ⟨indexed, ?_, ?_, ?_, ?_, count, listening.running, listening.sink⟩
    · rw [gates]
      exact listening.intact
    · rw [gates]
      exact listening.enabled
    · rw [gates]
      exact listening.current
    · intro other member
      exact listening.short other (by rw [shape]; exact List.mem_cons_of_mem _ member)

/-- A sink that takes everything lets the worker empty the queue and go on. -/
theorem passes_listening (run : ConsumerRun ι) (listening : Listening waiting worker) :
    ∃ script, Listening 0 (worker.passes run script) := by
  induction waiting generalizing worker with
  | zero => exact ⟨[], listening⟩
  | succ waiting ih =>
    obtain ⟨sink, next⟩ := feed_listening (pop_listening run listening)
    obtain ⟨script, done⟩ := ih next
    refine ⟨sink :: script, ?_⟩
    simpa [Worker.passes, Worker.pass, listening.running] using done

/-- An empty queue that has not overflowed tells the worker nothing, closed or not. -/
theorem pop_empty (listening : Listening 0 worker) : worker.pop run = worker := by
  have popped : worker.host.workerPop worker.queue = (worker.host, worker.queue) := by
    simp [CaptureHost.workerPop, TsQueue.popCapture, TsQueue.take, listening.intact,
      listening.enabled, listening.current, listening.count, Errno.canceled, Errno.again]
  simp [Worker.pop, popped, listening.running]

theorem passes_stopped (stopped : worker.host.running = false) (script : List (Pass ι)) :
    worker.passes run script = worker := by
  cases script with
  | nil => rfl
  | cons sink rest => simp [Worker.passes, stopped]

omit [DecidableEq ι] in
theorem feed_idle (worker : Worker ι) (sink : Pass ι) :
    (worker.feed sink).host.popped = none := by
  unfold Worker.feed
  split
  · rfl
  · assumption

omit [DecidableEq ι] in
theorem feed_queue (worker : Worker ι) (sink : Pass ι) :
    (worker.feed sink).queue = worker.queue := by
  unfold Worker.feed
  split <;> rfl

theorem reports_of_stopped (stopped : worker.host.running = false) : Reports run worker := by
  refine ⟨?_, ?_⟩
  · intro script goes
    rw [passes_stopped stopped, stopped] at goes
    cases goes
  · intro script _
    exact ⟨0, Nat.zero_le _, Or.inl (by rw [passes_stopped stopped]; exact stopped)⟩

theorem reports_of_overflowed (running : worker.host.running = true)
    (idle : worker.host.popped = none) (overflowed : worker.queue.overflowed = true) :
    Reports run worker := by
  have told : worker.pop run = { worker with
      host := worker.host.fail (-Errno.nobufs), session := captureFailure run worker.session } :=
    pop_overflowed overflowed
  refine ⟨?_, ?_⟩
  · intro script goes same
    cases script with
    | nil =>
      have left := congrArg (fun worker => worker.host.running) same
      simp [Worker.passes, told, CaptureHost.fail, running] at left
    | cons sink rest =>
      have left : (worker.pass run sink).host.running = false := by
        simp [Worker.pass, Worker.feed, told, CaptureHost.fail, idle]
      rw [Worker.passes, if_pos running, passes_stopped left, left] at goes
      cases goes
  · intro script _
    refine ⟨0, Nat.zero_le _, Or.inr ⟨-Errno.nobufs, ?_, ?_⟩⟩
    · simp [Worker.passes, told]
    · intro belongs fresh
      simp only [List.take_zero, Worker.passes] at belongs fresh
      simp [Worker.passes, told, captureFailure, belongs, fresh]

/-- **When a stream failure reaches the capture.** In every reachable state in which
the stream has failed and the queue is closed while a capture is enabled, its worker,
once it is done with the chunk it has in hand, gets to know of the failure exactly
when the queue has overflowed. -/
theorem failure_reaches_worker_iff (responseAlignment : Nat) (actions : List Action)
    (ran : Transition.run next (start responseAlignment) actions = some system)
    (_failed : system.state.stopping = true ∧ system.state.error ≠ 0)
    (_closed : system.receiver.queue.closed = true)
    (enabled : system.receiver.queue.captureEnabled = true)
    (found : system.hosts[index]? = some host)
    (current : system.receiver.queue.captureGeneration = host.generation)
    (running : host.running = true) (run : ConsumerRun ι) (session : Session ι) :
    (∀ sink : Pass ι, Reports run (Worker.feed
      { host := host, queue := system.receiver.queue, session := session } sink)) ↔
      system.receiver.queue.overflowed = true := by
  have sound := run_sound ran
  constructor
  · intro reports
    cases overflowed : system.receiver.queue.overflowed with
    | true => rfl
    | false =>
      have listening : Listening system.receiver.queue.count
          { host := host, queue := system.receiver.queue, session := session : Worker ι } :=
        ⟨sound.indexed, overflowed, enabled, current, sound.short, rfl, running,
          (sound.own host (List.mem_of_getElem? found)).sink⟩
      obtain ⟨sink, fed⟩ := feed_listening listening
      obtain ⟨script, done⟩ := passes_listening run fed
      exact absurd (pop_empty done) ((reports sink).moves script done.running)
  · intro overflowed sink
    cases goes : (Worker.feed
        { host := host, queue := system.receiver.queue, session := session } sink).host.running with
    | false => exact reports_of_stopped goes
    | true =>
      apply reports_of_overflowed goes (feed_idle _ sink)
      rw [feed_queue]
      exact overflowed

/-- The device is unplugged while a capture is enabled and its queue is empty: the
worker pops, changes nothing and goes on looping. -/
theorem unplugged_worker_spins :
    ∃ system host, Transition.run next (start 0)
        [.captureStart, .fail Libusb.errorNoDevice, .close] = some system ∧
      system.state = { stopping := true, error := Libusb.errorNoDevice } ∧
      system.receiver.queue.closed = true ∧ system.receiver.queue.captureEnabled = true ∧
      system.hosts = [host] ∧ system.receiver.queue.captureGeneration = host.generation ∧
      host.running = true ∧
      ∀ (run : ConsumerRun Nat) session,
        Worker.pop run { host := host, queue := system.receiver.queue, session := session } =
          { host := host, queue := system.receiver.queue, session := session } :=
  ⟨_, _, rfl, rfl, rfl, rfl, rfl, rfl, rfl, fun _ _ => rfl⟩

/-- A capture that is told to fail on a drop, and gets one chunk too many. -/
def overflowing : List Action :=
  [.setFailOnDrop true, .captureStart] ++
    (List.replicate 257
      [.record 0, .submit 0, .complete 0 [0xb5, 0x02, 0, 0, 9, 0, 0, 0, 0x47]]).flatten ++
    [.fail Libusb.errorNoDevice, .close]

theorem failure_reaches_worker_overflowed :
    ∃ system host, Transition.run next (start 0) overflowing = some system ∧
      system.hosts = [host] ∧ system.receiver.queue.overflowed = true ∧
      ∀ sink : Pass Nat, Reports { identity := 0, incarnation := 1 } (Worker.feed
        { host := host
          queue := system.receiver.queue
          session := { attached := true, incarnation := 1, identity := 0, terminal := .none } }
        sink) := by
  have evaluated : (Transition.run next (start 0) overflowing).any (fun system =>
      (system.state = { stopping := true, error := Libusb.errorNoDevice } ∧
        system.receiver.queue.closed = true ∧ system.receiver.queue.captureEnabled = true ∧
        system.receiver.queue.captureGeneration = 1 ∧ system.receiver.queue.overflowed = true ∧
        system.hosts.map (fun host => (host.generation, host.running)) = [(1, true)] : Bool)) =
          true := by
    decide +kernel
  obtain ⟨system, ran, reached⟩ := Option.any_eq_true _ _ |>.mp evaluated
  obtain ⟨state, closed, enabled, generation, overflowed, hosts⟩ := of_decide_eq_true reached
  obtain ⟨host, alone, worker⟩ := List.map_eq_singleton_iff.mp hosts
  obtain ⟨own, running⟩ := Prod.mk.inj worker
  refine ⟨system, host, ran, alone, overflowed, ?_⟩
  have found : system.hosts[0]? = some host := by rw [alone]; rfl
  exact (failure_reaches_worker_iff 0 _ ran (by rw [state]; decide) closed enabled found
    (by rw [generation, own]) running _ _).mpr overflowed

end SianoUserland.CaptureFailure
