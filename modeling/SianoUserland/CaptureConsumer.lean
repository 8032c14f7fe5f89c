import SianoUserland.CaptureHost
import SianoUserland.ReceiverAdapter
import SianoUserland.Tune

/-! `siano-capture-consumer.cpp` over `siano-capture-host.c`: starting a capture and
stopping it. What allocations, the session and the thread library answer is an
argument of each call, and so is what the other threads do while it is under way. -/
namespace SianoUserland

/-- `struct siano_capture_host` as its owner sees it; `worker` is its thread. -/
structure CaptureHandle where
  worker : Nat
  generation : UInt64
  workerStarted : Bool
  deriving Repr, DecidableEq

/-- `Consumer::Host`. -/
structure ConsumerHost where
  handle : Option CaptureHandle := none
  deriving Repr, DecidableEq

/-- `Consumer` with the queue of its device and every worker it ever created. -/
structure Consumer (ι : Type) where
  host : Option ConsumerHost := none
  run : Option (ConsumerRun ι) := none
  /-- `PacketStreamSession::attached`. -/
  attached : Bool := false
  queue : TsQueue Nat
  tsInitialized : Bool := false
  workers : List CaptureHost := []

/-- What threads other than the caller do. -/
inductive Elsewhere where
  | usb (event : UsbEvent Nat)
  /-- A pop that `tune_internal` makes while it waits for a lock. -/
  | discard
  | workerPop (index : Nat)
  | workerFeed (index : Nat) (answers : List Int)

/-- What the stages of `Consumer::start` answer. -/
structure StartStages where
  hostAllocated : Bool := true
  begun : Except Error Unit := .ok ()
  /-- `PacketStreamSession::incarnation`, as the attachment begins. -/
  incarnation : UInt64 := 0
  runAllocated : Bool := true
  callocated : Bool := true
  /-- Between `ts_queue_capture_start` and the creation of the worker. -/
  meanwhile : List Elsewhere := []
  /-- What `pthread_create` returns. -/
  created : Int := 0

/-- What the stages of `Consumer::stop` answer. -/
structure StopStages where
  /-- Between `ts_queue_capture_stop` and the return of `pthread_join`. -/
  meanwhile : List Elsewhere := []
  joined : Int := 0
  detached : Except Error Unit := .ok ()

namespace Consumer
open QueueRefinement

variable {ι : Type}

/-- A worker that has left its loop does nothing any more. -/
def elsewhere (consumer : Consumer ι) : Elsewhere → Consumer ι
  | .usb event => { consumer with queue := event.apply consumer.queue }
  | .discard => { consumer with queue := consumer.queue.pop.2 }
  | .workerPop index =>
    match consumer.workers[index]? with
    | some worker =>
      if worker.running ∧ worker.popped = none then
        let (worker, queue) := worker.workerPop consumer.queue
        { consumer with queue := queue, workers := consumer.workers.set index worker }
      else consumer
    | none => consumer
  | .workerFeed index answers =>
    match consumer.workers[index]? with
    | some worker =>
      match worker.popped with
      | some chunk =>
        if worker.running then
          { consumer with
            workers := consumer.workers.set index (worker.workerFeed chunk answers) }
        else consumer
      | none => consumer
    | none => consumer

def elsewhereAll (consumer : Consumer ι) (events : List Elsewhere) : Consumer ι :=
  events.foldl elsewhere consumer

/-- `siano_capture_host_start`. Its sink is never null, so the pump is set up. -/
def hostStart (consumer : Consumer ι) (stages : StartStages) :
    Except Int CaptureHandle × Consumer ι :=
  if consumer.tsInitialized = false then (.error (-Errno.inval), consumer)
  else if stages.callocated = false then (.error (-Errno.nomem), consumer)
  else
    match consumer.queue.captureStart with
    | (.error rc, queue) => (.error rc, { consumer with queue := queue })
    | (.ok generation, queue) =>
      let consumer := elsewhereAll { consumer with queue := queue } stages.meanwhile
      if stages.created ≠ 0 then
        (.error (-stages.created), { consumer with queue := consumer.queue.captureStop })
      else
        (.ok {
          worker := consumer.workers.length
          generation := generation
          workerStarted := true },
        { consumer with
          workers := consumer.workers ++ [{ generation := generation, started := 0 }] })

/-- The error `Consumer::start` makes of what `siano_capture_host_start` returns. -/
def startError (rc : Int) : Error :=
  if rc = -Errno.overflow then .resourceLimit
  else if rc = -Errno.already then .busy
  else if rc = -Errno.inval then .invalidArgument
  else .internal

/-- `Consumer::start`. -/
def start (consumer : Consumer ι) (identity : ι) (stages : StartStages) :
    Except Error Unit × Consumer ι :=
  if consumer.host.isSome then (.error .invalidArgument, consumer)
  else if stages.hostAllocated = false then (.error .internal, { consumer with host := none })
  else
    match stages.begun with
    | .error error => (.error error, { consumer with host := none })
    | .ok () =>
      if stages.runAllocated = false then
        (.error .internal, { consumer with run := none, attached := false, host := none })
      else
        let begun := { consumer with
          host := some {}
          attached := true
          run := some { identity := identity, incarnation := stages.incarnation } }
        match begun.hostStart stages with
        | (.error rc, after) =>
          (.error (startError rc), { after with run := none, attached := false, host := none })
        | (.ok handle, after) =>
          (.ok (), { after with
            host := some { handle := some handle }
            run := some {
              identity := identity
              incarnation := stages.incarnation
              generation := handle.generation } })

/-- `siano_capture_host_stop`: its result, the host and the rest. There is no result
while `pthread_join` waits for the worker. -/
def hostStop (consumer : Consumer ι) (handle : CaptureHandle) (stages : StopStages) :
    Option (Int × CaptureHandle × Consumer ι) :=
  if handle.workerStarted = false then some (0, handle, consumer)
  else
    let consumer := elsewhereAll { consumer with queue := consumer.queue.captureStop }
      stages.meanwhile
    if stages.joined ≠ 0 then some (-stages.joined, handle, consumer)
    else
      match consumer.workers[handle.worker]? with
      | some worker =>
        if worker.running then none
        else some (if worker.workerError then -Errno.io else 0,
          { handle with workerStarted := false }, consumer)
      | none => none

/-- `Consumer::stop`. -/
def stop (consumer : Consumer ι) (stages : StopStages) :
    Option (Except Error Unit × Consumer ι) :=
  match consumer.host, consumer.run with
  | some host, some _ =>
    match host.handle with
    | none => some (.error .internal, consumer)
    | some handle =>
      (consumer.hostStop handle stages).map fun (rc, handle, consumer) =>
        if handle.workerStarted then
          (.error .internal, { consumer with host := some { handle := some handle } })
        else
          match stages.detached with
          | .error error => (.error error, { consumer with host := none, run := none })
          | .ok () => (if rc = 0 then .ok () else .error .internal,
              { consumer with host := none, run := none, attached := false })
  | _, _ => some (.error .notFound, consumer)

/-- `Consumer::quiesced`. -/
def quiesced (consumer : Consumer ι) : Bool :=
  match consumer.host with
  | some { handle := some handle } => !handle.workerStarted
  | _ => true

/-- The worker created as number `index` has not left its loop. -/
def Running (consumer : Consumer ι) (index : Nat) : Prop :=
  ∃ worker, consumer.workers[index]? = some worker ∧ worker.running = true

/-! ## The other threads -/

/-- What other threads cannot change, and that they start no worker. -/
structure Elapsed (before after : Consumer ι) : Prop where
  host : after.host = before.host
  run : after.run = before.run
  tsInitialized : after.tsInitialized = before.tsInitialized
  enabled : after.queue.captureEnabled = before.queue.captureEnabled
  created : after.workers.length = before.workers.length
  running : ∀ index, after.Running index → before.Running index

variable {consumer after : Consumer ι}

theorem elapsed_refl (consumer : Consumer ι) : Elapsed consumer consumer :=
  ⟨rfl, rfl, rfl, rfl, rfl, fun _ => id⟩

theorem elapsed_trans {before middle after : Consumer ι} (first : Elapsed before middle)
    (second : Elapsed middle after) : Elapsed before after :=
  ⟨second.host.trans first.host, second.run.trans first.run,
    second.tsInitialized.trans first.tsInitialized, second.enabled.trans first.enabled,
    second.created.trans first.created,
    fun index running => first.running index (second.running index running)⟩

/-- Only `ts_queue_capture_start` and `ts_queue_capture_stop` touch `capture_enabled`. -/
theorem enqueue_enabled (queue : TsQueue Nat) (epoch generation : UInt64)
    (chunk : TsChunk Nat) :
    (queue.enqueueGeneration epoch generation chunk).captureEnabled = queue.captureEnabled := by
  unfold TsQueue.enqueueGeneration Gates.noteDrop
  split
  · rfl
  split
  · split <;> rfl
  · rfl

theorem take_enabled (queue : TsQueue Nat) :
    queue.take.2.captureEnabled = queue.captureEnabled := by
  unfold TsQueue.take
  split <;> rfl

theorem pop_enabled (queue : TsQueue Nat) :
    queue.pop.2.captureEnabled = queue.captureEnabled := by
  unfold TsQueue.pop
  split
  · rfl
  · exact take_enabled queue

theorem workerPop_enabled (worker : CaptureHost) (queue : TsQueue Nat) :
    (worker.workerPop queue).2.captureEnabled = queue.captureEnabled := by
  have popped : (queue.popCapture worker.generation).2.captureEnabled = queue.captureEnabled := by
    unfold TsQueue.popCapture
    split
    · rfl
    split
    · rfl
    · exact take_enabled queue
  unfold CaptureHost.workerPop
  split
  · rename_i chunk rest found
    rw [found] at popped
    exact popped
  · rename_i rc rest found
    rw [found] at popped
    exact popped

/-- A step of a running worker leaves every other worker alone. -/
theorem elapsed_worker {worker : CaptureHost} (found : consumer.workers[index]? = some worker)
    (running : worker.running = true) (queue : TsQueue Nat)
    (enabled : queue.captureEnabled = consumer.queue.captureEnabled) (moved : CaptureHost) :
    Elapsed consumer
      { consumer with queue := queue, workers := consumer.workers.set index moved } := by
  refine ⟨rfl, rfl, rfl, enabled, List.length_set, ?_⟩
  rintro other ⟨same, place, still⟩
  by_cases moves : other = index
  · exact moves ▸ ⟨worker, found, running⟩
  · simp only [List.getElem?_set_ne (Ne.symm moves)] at place
    exact ⟨same, place, still⟩

theorem elapsed_elsewhere (consumer : Consumer ι) (event : Elsewhere) :
    Elapsed consumer (consumer.elsewhere event) := by
  cases event with
  | usb event =>
    refine ⟨rfl, rfl, rfl, ?_, rfl, fun _ => id⟩
    cases event with
    | enqueue epoch generation chunk => exact enqueue_enabled _ _ _ _
    | close => rfl
  | discard => exact ⟨rfl, rfl, rfl, pop_enabled _, rfl, fun _ => id⟩
  | workerPop index =>
    simp only [elsewhere]
    split
    · rename_i worker found
      split
      · rename_i runs
        exact elapsed_worker found runs.1 _ (workerPop_enabled worker consumer.queue) _
      · exact elapsed_refl consumer
    · exact elapsed_refl consumer
  | workerFeed index answers =>
    simp only [elsewhere]
    split
    · rename_i worker found
      split
      · split
        · rename_i runs
          exact elapsed_worker found runs consumer.queue rfl _
        · exact elapsed_refl consumer
      · exact elapsed_refl consumer
    · exact elapsed_refl consumer

theorem elapsed_all (consumer : Consumer ι) (events : List Elsewhere) :
    Elapsed consumer (consumer.elsewhereAll events) := by
  induction events generalizing consumer with
  | nil => exact elapsed_refl consumer
  | cons event rest ih => exact elapsed_trans (elapsed_elsewhere consumer event) (ih _)

/-! ## Starting and stopping -/

/-- A consumer between two calls: it has a host and a run or neither, its capture is
only enabled with a host, and only the worker of that host may be running. -/
structure Sound (consumer : Consumer ι) : Prop where
  paired : consumer.run.isSome = consumer.host.isSome
  handle : ∀ host, consumer.host = some host →
    ∃ handle, host.handle = some handle ∧ handle.workerStarted = true
  enabled : consumer.queue.captureEnabled = true → consumer.host.isSome = true
  workers : ∀ index, consumer.Running index →
    ∃ handle, consumer.host = some { handle := some handle } ∧ handle.worker = index

theorem sound_elapsed (sound : Sound consumer) (elapsed : Elapsed consumer after) :
    Sound after := by
  refine ⟨?_, ?_, ?_, ?_⟩
  · rw [elapsed.run, elapsed.host]
    exact sound.paired
  · rw [elapsed.host]
    exact sound.handle
  · rw [elapsed.enabled, elapsed.host]
    exact sound.enabled
  · intro index running
    rw [elapsed.host]
    exact sound.workers index (elapsed.running index running)

/-- Without a host nothing runs and nothing is captured. -/
theorem sound_idle (sound : Sound consumer) (idle : consumer.host = none) :
    consumer.run = none ∧ consumer.queue.captureEnabled = false ∧
      ∀ index, ¬ consumer.Running index := by
  refine ⟨?_, ?_, ?_⟩
  · have none := sound.paired
    rw [idle] at none
    simpa using none
  · cases state : consumer.queue.captureEnabled with
    | false => rfl
    | true => simpa [idle] using sound.enabled state
  · intro index running
    obtain ⟨handle, host, -⟩ := sound.workers index running
    simp [idle] at host

theorem captureStop_disabled (queue : TsQueue Nat) :
    queue.captureStop.captureEnabled = false := by
  unfold TsQueue.captureStop
  cases state : queue.captureEnabled with
  | true => simp
  | false => simp [state]

/-- A capture start that succeeds found the capture disabled. -/
theorem captureStart_ok {queue after : TsQueue Nat}
    (started : queue.captureStart = (.ok generation, after)) : queue.captureEnabled = false := by
  rcases TsQueue.captureStart_cases queue with ⟨_, refused⟩ | ⟨_, disabled, _, _⟩
  · rw [refused] at started
    cases started
  · exact disabled

/-- `siano_capture_host_start` without a host around: a failure takes back what it
did, and a success leaves one more worker. -/
theorem hostStart_error {after : Consumer ι} {stages : StartStages}
    (failed : consumer.hostStart stages = (.error rc, after)) :
    after.host = consumer.host ∧ after.run = consumer.run ∧
      after.queue.captureEnabled = consumer.queue.captureEnabled ∧
      ∀ index, after.Running index → consumer.Running index := by
  unfold hostStart at failed
  split at failed
  · cases failed
    exact ⟨rfl, rfl, rfl, fun _ => id⟩
  split at failed
  · cases failed
    exact ⟨rfl, rfl, rfl, fun _ => id⟩
  split at failed
  · rename_i error queue refused
    cases failed
    exact ⟨rfl, rfl, by rw [captureStart_error refused], fun _ => id⟩
  · rename_i generation queue started
    have elapsed := elapsed_all { consumer with queue := queue } stages.meanwhile
    simp only at failed
    split at failed
    · cases failed
      refine ⟨elapsed.host, elapsed.run, ?_, elapsed.running⟩
      rw [captureStop_disabled, captureStart_ok started]
    · cases failed

theorem hostStart_ok {after : Consumer ι} {stages : StartStages}
    (started : consumer.hostStart stages = (.ok handle, after)) :
    handle.workerStarted = true ∧
      ∀ index, after.Running index → consumer.Running index ∨ index = handle.worker := by
  unfold hostStart at started
  split at started
  · cases started
  split at started
  · cases started
  split at started
  · cases started
  · rename_i generation queue capture
    have elapsed := elapsed_all { consumer with queue := queue } stages.meanwhile
    simp only at started
    split at started
    · cases started
    · cases started
      refine ⟨rfl, ?_⟩
      rintro index ⟨worker, place, running⟩
      simp only at place
      rcases Nat.lt_trichotomy index (elsewhereAll { consumer with queue := queue }
        stages.meanwhile).workers.length with before | same | past
      · rw [List.getElem?_append_left before] at place
        exact Or.inl (elapsed.running index ⟨worker, place, running⟩)
      · exact Or.inr same
      · rw [List.getElem?_eq_none (by simp; omega)] at place
        cases place

/-- What a call of `Consumer::start` leaves. -/
structure Started (consumer : Consumer ι) (result : Except Error Unit) (after : Consumer ι) :
    Prop where
  sound : Sound after
  succeeded : result = .ok () → after.host.isSome = true
  failed : result ≠ .ok () → after.host = consumer.host ∧ after.run = consumer.run ∧
    after.queue.captureEnabled = consumer.queue.captureEnabled

theorem start_spec (sound : Sound consumer) (identity : ι) (stages : StartStages) :
    Started consumer (consumer.start identity stages).1 (consumer.start identity stages).2 := by
  unfold start
  split
  · exact ⟨sound, nofun, fun _ => ⟨rfl, rfl, rfl⟩⟩
  rename_i free
  have idle : consumer.host = none := by simpa using free
  obtain ⟨noRun, disabled, quiet⟩ := sound_idle sound idle
  split
  · exact ⟨⟨by simp [noRun], nofun, by simp [disabled], fun index running =>
      absurd running (quiet index)⟩, nofun, fun _ => ⟨idle.symm, rfl, rfl⟩⟩
  split
  · exact ⟨⟨by simp [noRun], nofun, by simp [disabled], fun index running =>
      absurd running (quiet index)⟩, nofun, fun _ => ⟨idle.symm, rfl, rfl⟩⟩
  split
  · exact ⟨⟨rfl, nofun, by simp [disabled], fun index running =>
      absurd running (quiet index)⟩, nofun, fun _ => ⟨idle.symm, noRun.symm, rfl⟩⟩
  simp only
  split
  · rename_i rc after refused
    obtain ⟨-, -, enabled, running⟩ := hostStart_error refused
    refine ⟨⟨rfl, nofun, ?_, ?_⟩, nofun, fun _ => ⟨idle.symm, noRun.symm, enabled⟩⟩
    · intro on
      rw [enabled, disabled] at on
      cases on
    · intro index still
      exact absurd (running index still) (quiet index)
  · rename_i handle after started
    obtain ⟨workerStarted, running⟩ := hostStart_ok started
    refine ⟨⟨rfl, ?_, fun _ => rfl, ?_⟩, fun _ => rfl, fun no => absurd rfl no⟩
    · rintro host same
      cases same
      exact ⟨handle, rfl, workerStarted⟩
    · intro index still
      rcases running index still with before | new
      · exact absurd before (quiet index)
      · exact ⟨handle, rfl, new.symm⟩

/-- `siano_capture_host_stop` disables the capture, and it only ends with its worker
joined when that worker has left its loop. -/
theorem hostStop_spec {handle stopped : CaptureHandle} {stages : StopStages}
    (started : handle.workerStarted = true)
    (stop : consumer.hostStop handle stages = some (rc, stopped, after)) :
    after.host = consumer.host ∧ after.run = consumer.run ∧
      after.queue.captureEnabled = false ∧ stopped.worker = handle.worker ∧
      (∀ index, after.Running index → consumer.Running index) ∧
      (stopped.workerStarted = false → ¬ after.Running handle.worker) := by
  have elapsed := elapsed_all { consumer with queue := consumer.queue.captureStop } stages.meanwhile
  have disabled := elapsed.enabled.trans (captureStop_disabled consumer.queue)
  simp only [hostStop, started, Bool.true_eq_false, ↓reduceIte] at stop
  split at stop
  · cases stop
    refine ⟨elapsed.host, elapsed.run, disabled, rfl, elapsed.running, fun joined => ?_⟩
    rw [started] at joined
    cases joined
  split at stop
  · rename_i worker found
    split at stop
    · cases stop
    · rename_i left
      cases stop
      refine ⟨elapsed.host, elapsed.run, disabled, rfl, elapsed.running, fun _ => ?_⟩
      rintro ⟨same, place, running⟩
      rw [found] at place
      cases place
      exact left running
  · cases stop

/-- What a call of `Consumer::stop` leaves: the consumer is quiesced exactly when its
host is gone. -/
theorem stop_spec (sound : Sound consumer) (stages : StopStages)
    (stopped : consumer.stop stages = some (result, after)) :
    Sound after ∧ after.quiesced = after.host.isNone ∧
      (after.host.isSome = true → consumer.host.isSome = true) := by
  unfold stop at stopped
  split at stopped
  · rename_i host run atHost atRun
    obtain ⟨handle, named, started⟩ := sound.handle host atHost
    rw [named] at stopped
    obtain ⟨⟨rc, joined, rest⟩, stop, same⟩ := Option.map_eq_some_iff.mp stopped
    obtain ⟨sameHost, sameRun, disabled, worker, running, left⟩ := hostStop_spec started stop
    have only : ∀ index, rest.Running index → index = handle.worker := by
      intro index still
      obtain ⟨other, its, number⟩ := sound.workers index (running index still)
      rw [atHost] at its
      cases its
      cases named
      exact number.symm
    simp only at same
    split at same
    · rename_i unjoined
      cases same
      refine ⟨⟨by simp [sameRun, atRun], ?_, fun _ => rfl, ?_⟩, by simp [quiesced, unjoined],
        by simp [atHost]⟩
      · rintro host same
        cases same
        exact ⟨joined, rfl, unjoined⟩
      · intro index still
        exact ⟨joined, rfl, worker.trans (only index still).symm⟩
    · rename_i gone
      have quiet : ∀ index, ¬ rest.Running index := by
        intro index still
        have its := only index still
        exact left (by simpa using gone) (its ▸ still)
      split at same
      · cases same
        exact ⟨⟨rfl, nofun, by simp [disabled], fun index still => absurd still (quiet index)⟩, rfl,
          nofun⟩
      · cases same
        exact ⟨⟨rfl, nofun, by simp [disabled], fun index still => absurd still (quiet index)⟩, rfl,
          nofun⟩
  · rename_i missing
    cases stopped
    refine ⟨sound, ?_⟩
    have idle : consumer.host = none := by
      cases atHost : consumer.host with
      | none => rfl
      | some host =>
        cases atRun : consumer.run with
        | none => simpa [atHost, atRun] using sound.paired
        | some run => exact (missing host run atHost atRun).elim
    exact ⟨by simp [quiesced, idle], id⟩

end Consumer
end SianoUserland
