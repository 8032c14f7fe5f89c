import SianoUserland.Protocol
import SianoUserland.QueueRefinement

/-! The way of transport-stream data from libusb into the queue. A transfer
records the queue's epoch and capture generation, is submitted, and on its
callback offers what it received under the values it recorded. Recording and
submitting are separate steps, since only the first holds the queue mutex. -/
namespace SianoUserland
open Protocol QueueRefinement

/-- A transfer of the ring with its `siano_transfer_context`. -/
inductive Transfer where
  | idle
  /-- The context is filled in; `libusb_submit_transfer` has not been called. -/
  | recorded (epoch generation : UInt64)
  /-- libusb owns the transfer. -/
  | inFlight (epoch generation : UInt64) (serial : Nat)
  deriving Repr, DecidableEq

/-- The epoch in the context of a transfer that is on its way. -/
def Transfer.epoch? : Transfer → Option UInt64
  | .idle => none
  | .recorded epoch _ => some epoch
  | .inFlight epoch _ _ => some epoch

/-- The receiving side of a device. Chunks are labelled with the serial of the
submission that received them. -/
structure Receiver where
  queue : TsQueue Nat
  transfers : Nat → Transfer := fun _ => .idle
  /-- How many submissions libusb has accepted, which is the next serial. -/
  submissions : Nat := 0
  responseAlignment : Nat := 0

/-- A byte with the serial of the submission that received it. -/
abbrev TracedByte := Nat × UInt8

/-- The bytes of a chunk, each with the chunk's label. -/
def tracedBytes (chunk : TsChunk Nat) : List TracedByte := chunk.data.map (chunk.source, ·)

theorem mem_tracedBytes (member : entry ∈ tracedBytes chunk) : entry.1 = chunk.source := by
  obtain ⟨value, _, rfl⟩ := List.mem_map.mp member
  rfl

namespace Receiver

def init (captureEnabled : Bool) (responseAlignment : Nat) : Receiver :=
  { queue := .init captureEnabled, responseAlignment := responseAlignment }

/-- `ts_queue_transfer_state` for a transfer that is about to be submitted. -/
def record (receiver : Receiver) (slot : Nat) : Option Receiver :=
  match receiver.transfers slot with
  | .idle =>
    let (epoch, generation) := receiver.queue.transferState
    some { receiver with
      transfers := Function.update receiver.transfers slot (.recorded epoch generation) }
  | _ => none

/-- `libusb_submit_transfer` that succeeds. -/
def submit (receiver : Receiver) (slot : Nat) : Option Receiver :=
  match receiver.transfers slot with
  | .recorded epoch generation =>
    some { receiver with
      transfers := Function.update receiver.transfers slot
        (.inFlight epoch generation receiver.submissions)
      submissions := receiver.submissions + 1 }
  | _ => none

/-- `libusb_submit_transfer` that fails. What `fail_streaming` then does to the
queue is a step of its own. -/
def submitFails (receiver : Receiver) (slot : Nat) : Option Receiver :=
  match receiver.transfers slot with
  | .recorded _ _ =>
    some { receiver with transfers := Function.update receiver.transfers slot .idle }
  | _ => none

/-- `transfer_callback` up to its resubmission: `handle_received_buffer` under
the context of the transfer. A callback without data has an empty buffer. -/
def complete (receiver : Receiver) (slot : Nat) (buffer : List UInt8) : Option Receiver :=
  match receiver.transfers slot with
  | .inFlight epoch generation serial =>
    some { receiver with
      transfers := Function.update receiver.transfers slot .idle
      queue := match received receiver.responseAlignment buffer with
        | .data payload => receiver.queue.enqueueGeneration epoch generation ⟨serial, payload⟩
        | _ => receiver.queue }
  | _ => none

/-- Everything that can still reach the consumer comes from submissions number
`mark` and later: what waits in the queue, and what transfers on their way could
add to it. `bumps` counts the epoch's increments. -/
structure Fresh (mark bumps : Nat) (receiver : Receiver) : Prop where
  indexed : receiver.queue.Indexed
  epoch : receiver.queue.epoch.toNat = bumps
  dated : ∀ slot epoch, (receiver.transfers slot).epoch? = some epoch → epoch.toNat ≤ bumps
  flying : ∀ slot epoch generation serial,
    receiver.transfers slot = .inFlight epoch generation serial →
      epoch = receiver.queue.epoch → mark ≤ serial
  queued : ∀ chunk ∈ receiver.queue.contents, mark ≤ chunk.source ∧ chunk.data.length ≤ 16384
  marked : mark ≤ receiver.submissions

variable {receiver after : Receiver} {mark bumps : Nat}

theorem init_fresh (captureEnabled : Bool) (alignment : Nat) :
    Fresh 0 0 (init captureEnabled alignment) := by
  refine ⟨TsQueue.indexed_zero, rfl, ?_, ?_, ?_, Nat.zero_le _⟩
  · intro slot epoch context
    simp [init, Transfer.epoch?] at context
  · exact fun _ _ _ _ _ _ => Nat.zero_le _
  · intro chunk member
    simp [init, TsQueue.init, TsQueue.contents] at member

/-- Changing the queue without moving the epoch, and without new chunks, keeps
everything fresh. -/
theorem fresh_of_subset {queue : TsQueue Nat} (fresh : Fresh mark bumps receiver)
    (indexed : queue.Indexed) (same : queue.epoch = receiver.queue.epoch)
    (fewer : queue.contents ⊆ receiver.queue.contents) :
    Fresh mark bumps { receiver with queue := queue } :=
  ⟨indexed, same ▸ fresh.epoch, fresh.dated,
    fun slot epoch generation serial flying current =>
      fresh.flying slot epoch generation serial flying (current.trans same),
    fun chunk member => fresh.queued chunk (fewer member), fresh.marked⟩

/-- A new epoch is one that no transfer has recorded, so none of those on their
way can add to the queue any more. -/
theorem fresh_of_bump {queue : TsQueue Nat} {mark' : Nat} (fresh : Fresh mark bumps receiver)
    (few : bumps + 1 < 2 ^ 64) (indexed : queue.Indexed)
    (bumped : queue.epoch = receiver.queue.epoch + 1)
    (queued : ∀ chunk ∈ queue.contents, mark' ≤ chunk.source ∧ chunk.data.length ≤ 16384)
    (marked : mark' ≤ receiver.submissions) :
    Fresh mark' (bumps + 1) { receiver with queue := queue } := by
  have epoch : queue.epoch.toNat = bumps + 1 := by
    rw [bumped, UInt64.toNat_add, fresh.epoch]
    exact Nat.mod_eq_of_lt few
  refine ⟨indexed, epoch, ?_, ?_, queued, marked⟩
  · exact fun slot recorded context => Nat.le_succ_of_le (fresh.dated slot recorded context)
  · intro slot recorded generation serial flying current
    simp only at flying current
    have old := fresh.dated slot recorded (by rw [flying]; rfl)
    rw [current, epoch] at old
    omega

/-- Replacing one transfer only matters for that transfer. -/
theorem fresh_of_update {transfer : Transfer} {submissions : Nat}
    (fresh : Fresh mark bumps receiver) (slot : Nat) (more : receiver.submissions ≤ submissions)
    (dated : ∀ epoch, transfer.epoch? = some epoch → epoch.toNat ≤ bumps)
    (flying : ∀ epoch generation serial, transfer = .inFlight epoch generation serial →
      mark ≤ serial) :
    Fresh mark bumps { receiver with
      transfers := Function.update receiver.transfers slot transfer
      submissions := submissions } := by
  refine ⟨fresh.indexed, fresh.epoch, ?_, ?_, fresh.queued, Nat.le_trans fresh.marked more⟩
  · intro other epoch context
    simp only at context
    by_cases same : other = slot
    · rw [same, Function.update_self] at context
      exact dated epoch context
    · rw [Function.update_of_ne same] at context
      exact fresh.dated other epoch context
  · intro other epoch generation serial found current
    simp only at found current
    by_cases same : other = slot
    · rw [same, Function.update_self] at found
      exact flying epoch generation serial found
    · rw [Function.update_of_ne same] at found
      exact fresh.flying other epoch generation serial found current

theorem record_fresh (fresh : Fresh mark bumps receiver)
    (recorded : receiver.record slot = some after) : Fresh mark bumps after := by
  unfold record at recorded
  split at recorded
  · cases recorded
    refine fresh_of_update fresh slot (Nat.le_refl _) ?_ (fun _ _ _ found => by cases found)
    intro epoch context
    cases context
    exact Nat.le_of_eq fresh.epoch
  · cases recorded

theorem submit_fresh (fresh : Fresh mark bumps receiver)
    (submitted : receiver.submit slot = some after) : Fresh mark bumps after := by
  unfold submit at submitted
  split at submitted
  · rename_i epoch generation context
    cases submitted
    refine fresh_of_update fresh slot (Nat.le_succ _) ?_ ?_
    · intro recorded found
      exact fresh.dated slot recorded (by rw [context]; exact found)
    · intro recorded generation' serial found
      cases found
      exact fresh.marked
  · cases submitted

private theorem idle_fresh (fresh : Fresh mark bumps receiver) (slot : Nat) :
    Fresh mark bumps
      { receiver with transfers := Function.update receiver.transfers slot .idle } :=
  fresh_of_update fresh slot (Nat.le_refl _) (fun _ found => by cases found)
    (fun _ _ _ found => by cases found)

theorem submitFails_fresh (fresh : Fresh mark bumps receiver)
    (failed : receiver.submitFails slot = some after) : Fresh mark bumps after := by
  unfold submitFails at failed
  split at failed
  · cases failed
    exact idle_fresh fresh slot
  · cases failed

theorem enqueue_epoch (queue : TsQueue Nat) :
    (queue.enqueueGeneration epoch generation chunk).epoch = queue.epoch := by
  unfold TsQueue.enqueueGeneration
  split
  · rfl
  split
  · simp only [Gates.noteDrop]
    split <;> rfl
  · rfl

/-- A callback adds to the queue only under the current epoch, so only data that
is fresh. -/
theorem complete_fresh (fresh : Fresh mark bumps receiver)
    (completed : receiver.complete slot buffer = some after) : Fresh mark bumps after := by
  unfold complete at completed
  split at completed
  · rename_i epoch generation serial flying
    cases completed
    have idle := idle_fresh fresh slot
    split
    · rename_i payload _
      refine ⟨enqueue_indexed fresh.indexed, (enqueue_epoch _).symm ▸ fresh.epoch, idle.dated, ?_,
        ?_, fresh.marked⟩
      · exact fun other recorded generation' serial' found current =>
          idle.flying other recorded generation' serial' found (current.trans (enqueue_epoch _))
      · intro chunk member
        rcases mem_enqueue fresh.indexed member with old | ⟨passes, rfl⟩
        · exact fresh.queued chunk old
        · simp only [Gates.accepts, Gates.epochAccepts, Bool.and_eq_true, beq_iff_eq] at passes
          exact ⟨fresh.flying slot epoch generation serial flying passes.1.2.2,
            List.length_take_le _ _⟩
    · exact idle
  · cases completed

end Receiver
end SianoUserland
