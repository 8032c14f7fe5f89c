import Mathlib.Data.List.Nodup
import SianoUserland.CaptureHost
import SianoUserland.Lib.Transition
import SianoUserland.StreamState

/-! Captures of the daemon, one after the other on one queue. Transfers call back
with the generation they recorded, workers run on after their capture has been
stopped, and generations saturate; still no byte of one capture reaches another. -/
namespace SianoUserland.CaptureIsolation
open Transition QueueRefinement

/-- A device of the daemon with every capture that was ever started on it. -/
structure System where
  receiver : Receiver
  state : StreamState := {}
  hosts : List CaptureHost := []

inductive Action where
  | record (slot : Nat)
  | submit (slot : Nat)
  | submitFails (slot : Nat)
  | complete (slot : Nat) (buffer : List UInt8)
  /-- The two critical sections of `fail_streaming`. -/
  | fail (error : Int)
  | close
  | setFailOnDrop (enabled : Bool)
  /-- A pop `tune_internal` makes while it waits for a lock. -/
  | discard
  | captureStart
  | captureStop
  /-- A `ts_pop_capture` by anyone, under any generation. -/
  | popCapture (generation : UInt64)
  | workerPop (index : Nat)
  | workerFeed (index : Nat) (answers : List Int)

def start (responseAlignment : Nat) : System := { receiver := .init false responseAlignment }

def System.withQueue (system : System) (queue : TsQueue Nat) : System :=
  { system with receiver := { system.receiver with queue := queue } }

/-- What a stop means for the capture that is open: no later submission is its. -/
def closeAt (now : Nat) (host : CaptureHost) : CaptureHost :=
  if host.stopped = none then { host with stopped := some now } else host

def next (system : System) : Action → Option System
  | .record slot => (system.receiver.record slot).map ({ system with receiver := · })
  | .submit slot => (system.receiver.submit slot).map ({ system with receiver := · })
  | .submitFails slot => (system.receiver.submitFails slot).map ({ system with receiver := · })
  | .complete slot buffer =>
    (system.receiver.complete slot buffer).map ({ system with receiver := · })
  | .fail error => some { system with state := (system.state.fail error).2 }
  | .close => some (system.withQueue system.receiver.queue.close)
  | .setFailOnDrop enabled => some (system.withQueue (system.receiver.queue.setFailOnDrop enabled))
  | .discard => some (system.withQueue system.receiver.queue.pop.2)
  | .captureStart =>
    match system.receiver.queue.captureStart with
    | (.ok generation, queue) => some { system.withQueue queue with
        hosts := system.hosts ++
          [{ generation := generation, started := system.receiver.submissions }] }
    | (.error _, queue) => some (system.withQueue queue)
  | .captureStop => some { system.withQueue system.receiver.queue.captureStop with
      hosts := if system.receiver.queue.captureEnabled then
          system.hosts.map (closeAt system.receiver.submissions)
        else system.hosts }
  | .popCapture generation =>
    some (system.withQueue (system.receiver.queue.popCapture generation).2)
  | .workerPop index =>
    match system.hosts[index]? with
    | some host =>
      if host.running ∧ host.popped = none then
        let (popped, queue) := host.workerPop system.receiver.queue
        some { system.withQueue queue with hosts := system.hosts.set index popped }
      else none
    | none => none
  | .workerFeed index answers =>
    match system.hosts[index]? with
    | some host =>
      match host.popped with
      | some chunk =>
        some { system with hosts := system.hosts.set index (host.workerFeed chunk answers) }
      | none => none
    | none => none

/-- The generation in the context of a transfer that is on its way. -/
def generation? : Transfer → Option UInt64
  | .idle => none
  | .recorded _ generation => some generation
  | .inFlight _ generation _ => some generation

/-- The invariant. While a capture is enabled, its host is open, and what waits or
could still be accepted under the current generation was submitted after the host
started. -/
structure Sound (system : System) : Prop where
  indexed : system.receiver.queue.Indexed
  distinct : (system.hosts.map CaptureHost.generation).Nodup
  bounded : ∀ host ∈ system.hosts,
    host.generation.toNat ≤ system.receiver.queue.captureGeneration.toNat
  recorded : ∀ slot generation, generation? (system.receiver.transfers slot) = some generation →
    generation.toNat ≤ system.receiver.queue.captureGeneration.toNat
  serials : ∀ slot epoch generation serial,
    system.receiver.transfers slot = .inFlight epoch generation serial →
      serial < system.receiver.submissions
  current : system.receiver.queue.captureEnabled = true →
    ∃ host ∈ system.hosts, host.generation = system.receiver.queue.captureGeneration
  opened : system.receiver.queue.captureEnabled = true → ∀ host ∈ system.hosts,
    host.generation = system.receiver.queue.captureGeneration → host.stopped = none
  flying : system.receiver.queue.captureEnabled = true → ∀ host ∈ system.hosts,
    host.generation = system.receiver.queue.captureGeneration →
      ∀ slot epoch generation serial,
        system.receiver.transfers slot = .inFlight epoch generation serial →
          generation = system.receiver.queue.captureGeneration → host.started ≤ serial
  queued : system.receiver.queue.captureEnabled = true →
    ∀ chunk ∈ system.receiver.queue.contents, chunk.source < system.receiver.submissions ∧
      ∀ host ∈ system.hosts, host.generation = system.receiver.queue.captureGeneration →
        host.started ≤ chunk.source
  own : ∀ host ∈ system.hosts, host.Own system.receiver.submissions
  short : ∀ chunk ∈ system.receiver.queue.contents, chunk.data.length ≤ 16384

variable {system after : System} {queue : TsQueue Nat} {receiver : Receiver}

theorem start_sound (responseAlignment : Nat) : Sound (start responseAlignment) where
  indexed := TsQueue.indexed_zero
  distinct := List.nodup_nil
  bounded := by simp [start]
  recorded := by simp [start, Receiver.init, generation?]
  serials := by simp [start, Receiver.init]
  current := by simp [start, Receiver.init, TsQueue.init]
  opened := by simp [start, Receiver.init, TsQueue.init]
  flying := by simp [start, Receiver.init, TsQueue.init]
  queued := by simp [start, Receiver.init, TsQueue.init]
  own := by simp [start]
  short := by simp [start, Receiver.init, TsQueue.init, TsQueue.contents]

/-- Changing the queue without a start or a stop, and without new chunks. -/
theorem sound_of_subset (sound : Sound system) (indexed : queue.Indexed)
    (enabled : queue.captureEnabled = system.receiver.queue.captureEnabled)
    (generation : queue.captureGeneration = system.receiver.queue.captureGeneration)
    (fewer : queue.contents ⊆ system.receiver.queue.contents) :
    Sound (system.withQueue queue) := by
  obtain ⟨_, distinct, bounded, recorded, serials, current, opened, flying, queued, own, short⟩ :=
    sound
  rw [← enabled] at current opened flying queued
  rw [← generation] at bounded recorded current opened flying queued
  exact ⟨indexed, distinct, bounded, recorded, serials, current, opened, flying,
    fun allowed chunk member => queued allowed chunk (fewer member), own,
    fun chunk member => short chunk (fewer member)⟩

/-- Replacing one transfer only matters for that transfer. -/
theorem sound_of_update {transfer : Transfer} {submissions : Nat} (sound : Sound system)
    (slot : Nat) (more : system.receiver.submissions ≤ submissions)
    (recorded : ∀ generation, generation? transfer = some generation →
      generation.toNat ≤ system.receiver.queue.captureGeneration.toNat)
    (flying : ∀ epoch generation serial, transfer = .inFlight epoch generation serial →
      system.receiver.submissions ≤ serial ∧ serial < submissions) :
    Sound { system with receiver := { system.receiver with
      transfers := Function.update system.receiver.transfers slot transfer
      submissions := submissions } } := by
  refine ⟨sound.indexed, sound.distinct, sound.bounded, ?_, ?_, sound.current, sound.opened, ?_, ?_,
    fun host member => CaptureHost.own_later (sound.own host member) more, sound.short⟩
  · intro other generation context
    simp only at context
    by_cases same : other = slot
    · rw [same, Function.update_self] at context
      exact recorded generation context
    · rw [Function.update_of_ne same] at context
      exact sound.recorded other generation context
  · intro other epoch generation serial found
    simp only at found
    by_cases same : other = slot
    · rw [same, Function.update_self] at found
      exact (flying epoch generation serial found).2
    · rw [Function.update_of_ne same] at found
      exact Nat.lt_of_lt_of_le (sound.serials other epoch generation serial found) more
  · intro enabled host member current other epoch generation serial found same
    simp only at found
    by_cases this : other = slot
    · rw [this, Function.update_self] at found
      exact Nat.le_trans (sound.own host member).started (flying epoch generation serial found).1
    · rw [Function.update_of_ne this] at found
      exact sound.flying enabled host member current other epoch generation serial found same
  · intro enabled chunk member
    obtain ⟨submitted, after⟩ := sound.queued enabled chunk member
    exact ⟨Nat.lt_of_lt_of_le submitted more, after⟩

theorem sound_idle (sound : Sound system) (slot : Nat) :
    Sound { system with receiver := { system.receiver with
      transfers := Function.update system.receiver.transfers slot .idle } } :=
  sound_of_update sound slot (Nat.le_refl _) (fun _ found => by cases found)
    (fun _ _ _ found => by cases found)

theorem record_sound (sound : Sound system)
    (recorded : system.receiver.record slot = some receiver) :
    Sound { system with receiver := receiver } := by
  unfold Receiver.record at recorded
  split at recorded
  · cases recorded
    apply sound_of_update sound slot (Nat.le_refl _)
    · intro generation context
      cases context
      exact Nat.le_refl _
    · intro epoch generation serial found
      cases found
  · cases recorded

theorem submit_sound (sound : Sound system)
    (submitted : system.receiver.submit slot = some receiver) :
    Sound { system with receiver := receiver } := by
  unfold Receiver.submit at submitted
  split at submitted
  · rename_i epoch generation context
    cases submitted
    apply sound_of_update sound slot (Nat.le_succ _)
    · intro recorded found
      exact sound.recorded slot recorded (by rw [context]; exact found)
    · intro _ _ serial found
      cases found
      exact ⟨Nat.le_refl _, Nat.lt_succ_self _⟩
  · cases submitted

theorem submitFails_sound (sound : Sound system)
    (failed : system.receiver.submitFails slot = some receiver) :
    Sound { system with receiver := receiver } := by
  unfold Receiver.submitFails at failed
  split at failed
  · cases failed
    exact sound_idle sound slot
  · cases failed

theorem enqueue_capture (queue : TsQueue Nat) (epoch generation : UInt64) (chunk : TsChunk Nat) :
    (queue.enqueueGeneration epoch generation chunk).captureEnabled = queue.captureEnabled ∧
      (queue.enqueueGeneration epoch generation chunk).captureGeneration =
        queue.captureGeneration := by
  unfold TsQueue.enqueueGeneration
  split
  · exact ⟨rfl, rfl⟩
  split
  · simp only [Gates.noteDrop]
    split
    · exact ⟨rfl, rfl⟩
    · exact ⟨rfl, rfl⟩
  · exact ⟨rfl, rfl⟩

/-- A callback adds to the queue only under the generation its transfer recorded,
and such a transfer was submitted after the capture started. -/
theorem complete_sound (sound : Sound system)
    (completed : system.receiver.complete slot buffer = some receiver) :
    Sound { system with receiver := receiver } := by
  unfold Receiver.complete at completed
  split at completed
  · rename_i epoch generation serial flying
    cases completed
    have idle := sound_idle sound slot
    split
    · rename_i payload _
      obtain ⟨enabled, same⟩ :=
        enqueue_capture system.receiver.queue epoch generation ⟨serial, payload⟩
      obtain ⟨_, distinct, bounded, recorded, serials, current, opened, flights, _, own, _⟩ :=
        idle
      simp only at bounded recorded serials current opened flights own
      rw [← enabled] at current opened flights
      rw [← same] at bounded recorded current opened flights
      refine ⟨enqueue_indexed sound.indexed, distinct, bounded, recorded, serials, current, opened,
        flights, ?_, own, ?_⟩
      · intro allowed chunk member
        simp only at allowed member ⊢
        rw [enabled] at allowed
        rw [same]
        rcases mem_enqueue sound.indexed member with old | ⟨passes, rfl⟩
        · exact sound.queued allowed chunk old
        · simp only [Gates.accepts, Bool.and_eq_true, beq_iff_eq] at passes
          exact ⟨sound.serials slot epoch generation serial flying, fun host inside its =>
            sound.flying allowed host inside its slot epoch generation serial flying
              passes.1.1.2.symm⟩
      · intro chunk member
        rcases mem_enqueue sound.indexed member with old | ⟨_, rfl⟩
        · exact sound.short chunk old
        · exact List.length_take_le _ _
    · exact idle
  · cases completed

private theorem toNat_succ {generation : UInt64} (unsaturated : generation ≠ uint64Max) :
    (generation + 1).toNat = generation.toNat + 1 := by
  have bound := generation.toNat_lt
  have below : generation.toNat ≠ 2 ^ 64 - 1 := fun full => unsaturated (UInt64.toNat_inj.mp full)
  rw [UInt64.toNat_add]
  exact Nat.mod_eq_of_lt (by simp only [UInt64.reduceToNat]; omega)

/-- A new generation is above every one handed out or recorded before, so nothing
on its way can be accepted under it. -/
theorem captureStart_sound (sound : Sound system)
    (started : system.receiver.queue.captureStart = (.ok generation, queue)) :
    Sound { system.withQueue queue with
      hosts := system.hosts ++
        [{ generation := generation, started := system.receiver.submissions }] } := by
  obtain ⟨_, refused⟩ | ⟨_, _, unsaturated, accepted⟩ :=
    TsQueue.captureStart_cases system.receiver.queue
  · rw [refused] at started
    cases started
  rw [accepted] at started
  cases started
  have above := toNat_succ unsaturated
  have unused : ∀ host ∈ system.hosts,
      host.generation ≠ system.receiver.queue.captureGeneration + 1 := by
    intro host member same
    have bounded := sound.bounded host member
    rw [same, above] at bounded
    omega
  refine ⟨TsQueue.indexed_zero, ?_, ?_, ?_, sound.serials, ?_, ?_, ?_, ?_, ?_, ?_⟩
  · rw [List.map_append, List.nodup_append]
    refine ⟨sound.distinct, by simp, ?_⟩
    intro old member new single same
    obtain ⟨host, inside, rfl⟩ := List.mem_map.mp member
    simp only [List.map_cons, List.map_nil, List.mem_singleton] at single
    exact unused host inside (same.trans single)
  · intro host member
    simp only [System.withQueue, above]
    rcases List.mem_append.mp member with old | new
    · exact Nat.le_succ_of_le (sound.bounded host old)
    · rw [List.mem_singleton.mp new, above]
  · intro slot generation context
    simp only [System.withQueue, above] at context ⊢
    exact Nat.le_succ_of_le (sound.recorded slot generation context)
  · exact fun _ => ⟨_, List.mem_append_right _ List.mem_cons_self, rfl⟩
  · intro _ host member current
    rcases List.mem_append.mp member with old | new
    · exact absurd current (unused host old)
    · rw [List.mem_singleton.mp new]
  · intro _ host member _ slot epoch recorded serial flying same
    simp only [System.withQueue] at flying same
    have old := sound.recorded slot recorded (by rw [flying]; rfl)
    rw [same, above] at old
    omega
  · intro _ chunk member
    cases member
  · intro host member
    rcases List.mem_append.mp member with old | new
    · exact sound.own host old
    · rw [List.mem_singleton.mp new]
      refine ⟨rfl, Nat.le_refl _, (fun _ found => by cases found), ⟨?_, ?_⟩, ?_⟩
      · simp [OutputPump.initSink]
      · simp [OutputPump.initSink]
      · simp
  · intro chunk member
    cases member

theorem closeAt_generation : (closeAt now host).generation = host.generation := by
  unfold closeAt
  split
  · rfl
  · rfl

/-- A stop ends the capture: whatever is disabled needs no bound any more, and
the generation only moves up. -/
theorem captureStop_sound (sound : Sound system)
    (enabled : system.receiver.queue.captureEnabled = true) :
    Sound { system.withQueue system.receiver.queue.captureStop with
      hosts := system.hosts.map (closeAt system.receiver.submissions) } := by
  have stopped : system.receiver.queue.captureStop.captureEnabled = false := by
    simp [TsQueue.captureStop, enabled]
  have grows : system.receiver.queue.captureGeneration.toNat ≤
      system.receiver.queue.captureStop.captureGeneration.toNat := by
    simp only [TsQueue.captureStop, enabled, ↓reduceIte]
    split
    · rename_i unsaturated
      rw [toNat_succ unsaturated]
      exact Nat.le_succ _
    · exact Nat.le_refl _
  have off : ∀ {claim : Prop}, system.receiver.queue.captureStop.captureEnabled = true → claim :=
    fun on => absurd on (by simp [stopped])
  refine ⟨?_, ?_, ?_, ?_, sound.serials, off, off, off, off, ?_, ?_⟩
  · simp only [System.withQueue, TsQueue.captureStop, enabled, ↓reduceIte]
    exact TsQueue.indexed_zero
  · simpa [List.map_map, Function.comp_def, closeAt_generation] using sound.distinct
  · intro host member
    obtain ⟨before, inside, rfl⟩ := List.mem_map.mp member
    rw [closeAt_generation]
    exact Nat.le_trans (sound.bounded before inside) grows
  · intro slot generation context
    exact Nat.le_trans (sound.recorded slot generation context) grows
  · intro host member
    obtain ⟨before, inside, rfl⟩ := List.mem_map.mp member
    unfold closeAt
    split
    · rename_i running
      exact CaptureHost.own_stopped (sound.own before inside) running
    · exact sound.own before inside
  · simp [System.withQueue, TsQueue.captureStop, enabled, TsQueue.contents, TsQueue.clear]

/-- A pass of a worker changes neither its generation nor its bounds. -/
theorem sound_of_host {host changed : CaptureHost} (sound : Sound system)
    (found : system.hosts[index]? = some host) (generation : changed.generation = host.generation)
    (started : changed.started = host.started) (stopped : changed.stopped = host.stopped)
    (own : changed.Own system.receiver.submissions) :
    Sound { system with hosts := system.hosts.set index changed } := by
  have inside : host ∈ system.hosts := List.mem_of_getElem? found
  have same : (system.hosts.set index changed).map CaptureHost.generation =
      system.hosts.map CaptureHost.generation := by
    apply List.ext_getElem?
    intro other
    rw [List.map_set, List.getElem?_set]
    split
    · rename_i this
      rw [← this, List.getElem?_map, found]
      split
      · simp [generation]
      · rename_i outside
        simp [List.getElem?_eq_none (by simpa using outside)] at found
    · rfl
  have before : ∀ {other}, other ∈ system.hosts.set index changed →
      ∃ old ∈ system.hosts, other.generation = old.generation ∧ other.started = old.started ∧
        other.stopped = old.stopped ∧ other.Own system.receiver.submissions := by
    intro other member
    rcases List.mem_or_eq_of_mem_set member with old | rfl
    · exact ⟨other, old, rfl, rfl, rfl, sound.own other old⟩
    · exact ⟨host, inside, generation, started, stopped, own⟩
  refine ⟨sound.indexed, same ▸ sound.distinct, ?_, sound.recorded, sound.serials, ?_, ?_, ?_, ?_,
    ?_, sound.short⟩
  · intro other member
    obtain ⟨old, kept, generation, _⟩ := before member
    exact generation ▸ sound.bounded old kept
  · intro enabled
    obtain ⟨current, member, its⟩ := sound.current enabled
    have listed : current.generation ∈ system.hosts.map CaptureHost.generation :=
      List.mem_map_of_mem member
    rw [← same] at listed
    obtain ⟨other, kept, generation⟩ := List.mem_map.mp listed
    exact ⟨other, kept, generation.trans its⟩
  · intro enabled other member current
    obtain ⟨old, kept, generation, _, stopped, _⟩ := before member
    exact stopped ▸ sound.opened enabled old kept (generation ▸ current)
  · intro enabled other member current
    obtain ⟨old, kept, generation, started, _⟩ := before member
    exact started ▸ sound.flying enabled old kept (generation ▸ current)
  · intro enabled chunk waiting
    refine ⟨(sound.queued enabled chunk waiting).1, ?_⟩
    intro other member current
    obtain ⟨old, kept, generation, started, _⟩ := before member
    exact started ▸ (sound.queued enabled chunk waiting).2 old kept (generation ▸ current)
  · intro other member
    obtain ⟨_, _, _, _, _, own⟩ := before member
    exact own

/-- A capture pop leaves a sound system, and what it returns is the open capture's. -/
theorem popCapture_sound (sound : Sound system)
    (popped : system.receiver.queue.popCapture generation = (result, queue)) :
    Sound (system.withQueue queue) ∧ ∀ chunk, result = .ok chunk →
      ∃ host ∈ system.hosts, host.generation = generation ∧ host.stopped = none ∧
        host.started ≤ chunk.source ∧ chunk.source < system.receiver.submissions := by
  cases result with
  | error rc =>
    cases popCapture_error popped
    exact ⟨sound, fun _ found => by cases found⟩
  | ok chunk =>
    obtain ⟨enabled, current, shape, indexed, gates⟩ := popCapture_ok sound.indexed popped
    refine ⟨sound_of_subset sound indexed (congrArg Gates.captureEnabled gates)
      (congrArg Gates.captureGeneration gates) ?_, ?_⟩
    · rw [shape]
      exact List.subset_cons_self _ _
    · intro found same
      cases same
      obtain ⟨host, member, its⟩ := sound.current enabled
      obtain ⟨submitted, after⟩ :=
        sound.queued enabled chunk (by rw [shape]; exact List.mem_cons_self)
      exact ⟨host, member, its.trans current, sound.opened enabled host member its,
        after host member its, submitted⟩

theorem workerPop_sound (sound : Sound system) {host : CaptureHost}
    (found : system.hosts[index]? = some host) :
    Sound { system.withQueue (host.workerPop system.receiver.queue).2 with
      hosts := system.hosts.set index (host.workerPop system.receiver.queue).1 } := by
  have inside : host ∈ system.hosts := List.mem_of_getElem? found
  obtain ⟨sink, started, popped, pump, offered⟩ := sound.own host inside
  unfold CaptureHost.workerPop
  rcases taken : system.receiver.queue.popCapture host.generation with ⟨result, queue⟩
  obtain ⟨kept, returned⟩ := popCapture_sound sound taken
  cases result with
  | ok chunk =>
    obtain ⟨other, member, its, open', since, submitted⟩ := returned chunk rfl
    simp only
    split
    · exact sound_of_host kept found rfl rfl rfl ⟨sink, started, popped, pump, offered⟩
    · refine sound_of_host kept found rfl rfl rfl ⟨sink, started, ?_, pump, offered⟩
      have same : other = host := List.inj_on_of_nodup_map sound.distinct member inside its
      intro held is
      cases is
      rw [← same, open']
      exact ⟨since, submitted⟩
  | error rc =>
    simp only
    split
    · exact sound_of_host kept found rfl rfl rfl ⟨sink, started, popped, pump, offered⟩
    split
    · exact sound_of_host kept found rfl rfl rfl ⟨sink, started, popped, pump, offered⟩
    · exact sound_of_host kept found rfl rfl rfl ⟨sink, started, popped, pump, offered⟩

theorem pop_sound (sound : Sound system) :
    Sound (system.withQueue system.receiver.queue.pop.2) := by
  rcases popped : system.receiver.queue.pop with ⟨result, queue⟩
  cases result with
  | error rc =>
    cases pop_error popped
    exact sound
  | ok chunk =>
    obtain ⟨shape, indexed, gates⟩ := pop_ok sound.indexed popped
    apply sound_of_subset sound indexed (congrArg Gates.captureEnabled gates)
      (congrArg Gates.captureGeneration gates)
    rw [shape]
    exact List.subset_cons_self _ _

/-- Every step keeps the invariant. -/
theorem next_sound (sound : Sound system) (taken : next system action = some after) :
    Sound after := by
  cases action with
  | record slot =>
    obtain ⟨receiver, recorded, rfl⟩ := Option.map_eq_some_iff.mp taken
    exact record_sound sound recorded
  | submit slot =>
    obtain ⟨receiver, submitted, rfl⟩ := Option.map_eq_some_iff.mp taken
    exact submit_sound sound submitted
  | submitFails slot =>
    obtain ⟨receiver, failed, rfl⟩ := Option.map_eq_some_iff.mp taken
    exact submitFails_sound sound failed
  | complete slot buffer =>
    obtain ⟨receiver, completed, rfl⟩ := Option.map_eq_some_iff.mp taken
    exact complete_sound sound completed
  | fail error =>
    cases taken
    exact ⟨sound.indexed, sound.distinct, sound.bounded, sound.recorded, sound.serials,
      sound.current, sound.opened, sound.flying, sound.queued, sound.own, sound.short⟩
  | close =>
    cases taken
    exact sound_of_subset sound sound.indexed rfl rfl (List.Subset.refl _)
  | setFailOnDrop enabled =>
    cases taken
    exact sound_of_subset sound sound.indexed rfl rfl (List.Subset.refl _)
  | discard =>
    cases taken
    exact pop_sound sound
  | captureStart =>
    simp only [next] at taken
    split at taken
    · rename_i generation queue started
      cases taken
      exact captureStart_sound sound started
    · rename_i rc queue refused
      cases taken
      cases captureStart_error refused
      exact sound
  | captureStop =>
    cases taken
    cases enabled : system.receiver.queue.captureEnabled with
    | true =>
      simp only [↓reduceIte]
      exact captureStop_sound sound enabled
    | false =>
      simp only [TsQueue.captureStop, enabled, Bool.false_eq_true, ↓reduceIte]
      exact sound
  | popCapture generation =>
    cases taken
    exact (popCapture_sound sound rfl).1
  | workerPop index =>
    simp only [next] at taken
    split at taken
    · rename_i host found
      simp only [Option.ite_none_right_eq_some, Option.some.injEq] at taken
      obtain ⟨_, rfl⟩ := taken
      exact workerPop_sound sound found
    · cases taken
  | workerFeed index answers =>
    simp only [next] at taken
    split at taken
    · rename_i host found
      split at taken
      · rename_i chunk popped
        cases taken
        exact sound_of_host sound found rfl rfl rfl
          (CaptureHost.own_workerFeed (sound.own host (List.mem_of_getElem? found)) popped answers)
      · cases taken
    · cases taken

theorem run_sound (ran : run next (start responseAlignment) actions = some system) : Sound system :=
  run_keeps Sound (fun _ _ _ => next_sound) (start_sound responseAlignment) ran

/-- Only the generation that is enabled can pop. -/
theorem popCapture_other (queue : TsQueue Nat) (generation : UInt64)
    (other : queue.captureEnabled = false ∨ queue.captureGeneration ≠ generation) :
    queue.popCapture generation =
      (.error (if queue.overflowed then -Errno.nobufs else -Errno.canceled), queue) := by
  unfold TsQueue.popCapture
  split
  · rename_i overflowed
    simp [Gates.overflowResult, overflowed]
  · rfl

/-- **Captures do not mix.** After any run on a queue that began without a capture,
no two captures were started under one generation; what a capture pop returns was
received by a transfer submitted while the capture of that generation was open;
a pop under any other generation changes nothing; and the packets a sink received
are made of bytes that were submitted between its capture's start and its stop. -/
theorem capture_isolates (responseAlignment : Nat) (actions : List Action)
    (ran : run next (start responseAlignment) actions = some system) :
    (system.hosts.map CaptureHost.generation).Nodup ∧
    (∀ generation chunk queue,
      system.receiver.queue.popCapture generation = (.ok chunk, queue) →
        ∃ host ∈ system.hosts, host.generation = generation ∧ host.stopped = none ∧
          host.started ≤ chunk.source ∧ chunk.source < system.receiver.submissions) ∧
    (∀ generation, system.receiver.queue.captureEnabled = false ∨
        system.receiver.queue.captureGeneration ≠ generation →
      system.receiver.queue.popCapture generation =
        (.error (if system.receiver.queue.overflowed then -Errno.nobufs else -Errno.canceled),
          system.receiver.queue)) ∧
    ∀ host ∈ system.hosts, ∀ packet ∈ host.offered, ∀ entry ∈ packet.1,
      host.started ≤ entry.1 ∧ entry.1 < host.stopped.getD system.receiver.submissions := by
  have sound := run_sound ran
  refine ⟨sound.distinct, ?_, popCapture_other _, ?_⟩
  · intro generation chunk queue popped
    exact (popCapture_sound sound popped).2 chunk rfl
  · exact fun host member => (sound.own host member).offered

/-- A received buffer with two packets of transport stream, filled with `fill`. -/
def packetPair (fill : UInt8) : List UInt8 :=
  [0xb5, 0x02, 0, 0, 128, 1, 0, 0] ++
    (0x47 :: List.replicate 187 fill) ++ (0x47 :: List.replicate 187 fill)

/-- Two captures with transfers of each on their way when the first one stops: the
late one of the first is not accepted, and the sink of the second gets its own. -/
theorem capture_isolates_restart :
    ∃ system, run next (start 0) [.captureStart, .record 0, .submit 0, .record 1, .submit 1,
        .complete 0 (packetPair 1), .workerPop 0, .workerFeed 0 [0, 0], .captureStop, .captureStart,
        .record 0, .submit 0, .complete 1 (packetPair 2), .workerPop 0, .complete 0 (packetPair 3),
        .workerPop 1, .workerFeed 1 [0, 0]] = some system ∧
      system.hosts.map (fun host => (host.generation, host.started, host.stopped)) =
        [(1, 0, some 2), (3, 2, none)] ∧
      system.hosts.map (fun host => host.offered.map Prod.fst) =
        [List.replicate 2 ((0, 0x47) :: List.replicate 187 (0, 1)),
          List.replicate 2 ((2, 0x47) :: List.replicate 187 (2, 3))] ∧
      (system.hosts.map CaptureHost.generation).Nodup ∧
      ∀ host ∈ system.hosts, ∀ packet ∈ host.offered, ∀ entry ∈ packet.1,
        host.started ≤ entry.1 ∧ entry.1 < host.stopped.getD system.receiver.submissions := by
  have evaluated : (run next (start 0) [.captureStart, .record 0, .submit 0, .record 1, .submit 1,
        .complete 0 (packetPair 1), .workerPop 0, .workerFeed 0 [0, 0], .captureStop, .captureStart,
        .record 0, .submit 0, .complete 1 (packetPair 2), .workerPop 0, .complete 0 (packetPair 3),
        .workerPop 1, .workerFeed 1 [0, 0]]).any (fun system =>
      (system.hosts.map (fun host => (host.generation, host.started, host.stopped)) =
          [(1, 0, some 2), (3, 2, none)] ∧
        system.hosts.map (fun host => host.offered.map Prod.fst) =
          [List.replicate 2 ((0, 0x47) :: List.replicate 187 (0, 1)),
            List.replicate 2 ((2, 0x47) :: List.replicate 187 (2, 3))] : Bool)) = true := by
    decide +kernel
  obtain ⟨system, ran, hosts⟩ := Option.any_eq_true _ _ |>.mp evaluated
  obtain ⟨bounds, packets⟩ := of_decide_eq_true hosts
  obtain ⟨distinct, _, _, own⟩ := capture_isolates 0 _ ran
  exact ⟨system, ran, bounds, packets, distinct, own⟩

end SianoUserland.CaptureIsolation
