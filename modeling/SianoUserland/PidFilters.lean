import SianoUserland.Lib.Transition
import SianoUserland.ReceiverAdapter

/-! The PID filters of the daemon over the sessions of its device. `pid_filters_sent_`
is set by the first tune that programs them and outlives `close`, the device's own
filters do not. -/
namespace SianoUserland.PidFilters
open Transition

/-- The filters `configure_pid_filters` is there to send. -/
def wanted (pids : List UInt16) : List PidFilter :=
  if pids = [] then [{ pid := 0x2000, acknowledged := false }]
  else pids.map fun pid => { pid := pid, acknowledged := pidFilterRequiresAck pid }

theorem wanted_ne_nil (pids : List UInt16) : wanted pids ≠ [] := by
  unfold wanted
  split
  · simp
  · simpa using ‹_›

theorem sendPidFilters_zero (configured : (sendPidFilters pids answers).1 = 0) :
    (sendPidFilters pids answers).2 =
      pids.map fun pid => { pid := pid, acknowledged := pidFilterRequiresAck pid } := by
  induction pids generalizing answers with
  | nil => rfl
  | cons pid rest ih =>
    simp only [sendPidFilters] at configured ⊢
    split at configured
    -- A refused request ends the loop with its own result, which is negative.
    · omega
    · rename_i accepted
      simp only [if_neg accepted, List.map_cons]
      rw [ih configured]

/-- A configuration that returns 0 has sent every filter, in the order of the list. -/
theorem configurePidFilters_zero (configured : (configurePidFilters pids answers).1 = 0) :
    (configurePidFilters pids answers).2 = wanted pids := by
  unfold configurePidFilters wanted at *
  split
  · rename_i empty
    simp only [if_pos empty] at configured ⊢
    rw [if_neg (by omega)]
  · rename_i listed
    rw [if_neg listed] at configured
    exact sendPidFilters_zero configured

/-- A call of the adapter, with what it finds. -/
inductive Action where
  | openDevice (receiver : Nat) (stages : ReceiverAdapter.OpenStages)
  | programHz (program : ReceiverAdapter.Program)
  | close (receiver : Nat)
  | attach (started : Except Error Unit)
  | detach (stopped : Except Error Unit) (quiesced : Bool)
  | stopCapture (receiver : Nat) (system : ReceiverSystem) (stopped : Except Error Unit)
      (quiesced : Bool)

/-- The adapter after a call. Every call can be made at any time. -/
def next (adapter : ReceiverAdapter) : Action → Option ReceiverAdapter
  | .openDevice receiver stages => some (adapter.openDevice receiver stages).2
  | .programHz program => some (adapter.programHz program).2
  | .close receiver => some (adapter.close receiver).2
  | .attach started => some (adapter.attach started).2
  | .detach stopped quiesced => some (adapter.detach stopped quiesced).2
  | .stopCapture receiver system stopped quiesced =>
    some (adapter.stopCapture receiver system stopped quiesced).2

/-- Every success of `program_hz` found its filters sent, completely and in order,
since the open before it. -/
def Filtered (adapter : ReceiverAdapter) : Prop :=
  ∀ filters ∈ adapter.programmed, wanted adapter.pids <:+ filters

instance (adapter : ReceiverAdapter) : Decidable (Filtered adapter) :=
  inferInstanceAs (Decidable (∀ filters ∈ adapter.programmed, wanted adapter.pids <:+ filters))

/-- `program_hz` gets as far as a successful tune. -/
def tunes (adapter : ReceiverAdapter) (program : ReceiverAdapter.Program) : Bool :=
  program.receiver = adapter.receiver ∧ program.system = .terrestrial ∧ adapter.opened = true ∧
    program.requestedHz ≠ 0 ∧ program.requestedHz.toNat ≤ 4294967295 ∧ program.tuned = 0

/-- The call does not tune in a session whose open found the filters marked as sent. -/
def allowed (adapter : ReceiverAdapter) : Action → Bool
  | .programHz program => !(tunes adapter program && adapter.sentBefore)
  | _ => true

/-- What the flags say of the filters of the open device. -/
structure Sound (adapter : ReceiverAdapter) : Prop where
  sent : adapter.opened = true → adapter.pidFiltersSent = true → adapter.sentBefore = false →
    wanted adapter.pids <:+ adapter.filters
  stale : adapter.opened = true → adapter.sentBefore = true →
    adapter.pidFiltersSent = true ∧ adapter.filters = []

theorem start_sound (receiver : Nat) (pids : List UInt16) :
    Sound { receiver := receiver, pids := pids } :=
  ⟨nofun, nofun⟩

/-- The calls that leave the filters, the flags of a session and its successes alone. -/
structure Kept (before after : ReceiverAdapter) : Prop where
  opened : after.opened = true → before.opened = true
  sent : after.pidFiltersSent = before.pidFiltersSent
  sentBefore : after.sentBefore = before.sentBefore
  filters : after.filters = before.filters
  pids : after.pids = before.pids
  programmed : after.programmed = before.programmed

theorem kept_refl (adapter : ReceiverAdapter) : Kept adapter adapter :=
  ⟨id, rfl, rfl, rfl, rfl, rfl⟩

theorem sound_of_kept (kept : Kept adapter after) (sound : Sound adapter) : Sound after := by
  constructor
  · intro opened sent fresh
    rw [kept.pids, kept.filters]
    exact sound.sent (kept.opened opened) (kept.sent ▸ sent) (kept.sentBefore ▸ fresh)
  · intro opened stale
    rw [kept.sent, kept.filters]
    exact sound.stale (kept.opened opened) (kept.sentBefore ▸ stale)

theorem filtered_of_kept (kept : Kept adapter after) : Filtered after ↔ Filtered adapter := by
  simp only [Filtered, kept.programmed, kept.pids]

theorem close_kept (adapter : ReceiverAdapter) (receiver : Nat) :
    Kept adapter (adapter.close receiver).2 := by
  unfold ReceiverAdapter.close
  split
  · exact kept_refl adapter
  split
  · exact kept_refl adapter
  split
  · exact kept_refl adapter
  · exact ⟨nofun, rfl, rfl, rfl, rfl, rfl⟩

theorem attach_kept (adapter : ReceiverAdapter) (started : Except Error Unit) :
    Kept adapter (adapter.attach started).2 := by
  unfold ReceiverAdapter.attach
  split
  · exact kept_refl adapter
  cases started with
  | error error => exact kept_refl adapter
  | ok => exact ⟨id, rfl, rfl, rfl, rfl, rfl⟩

theorem stopConsumer_kept (adapter : ReceiverAdapter) (stopped : Except Error Unit)
    (quiesced : Bool) : Kept adapter (adapter.stopConsumer stopped quiesced).2 := by
  unfold ReceiverAdapter.stopConsumer
  cases quiesced with
  | false => exact kept_refl adapter
  | true => exact ⟨id, rfl, rfl, rfl, rfl, rfl⟩

theorem detach_kept (adapter : ReceiverAdapter) (stopped : Except Error Unit) (quiesced : Bool) :
    Kept adapter (adapter.detach stopped quiesced).2 := by
  unfold ReceiverAdapter.detach
  split
  · exact kept_refl adapter
  · exact stopConsumer_kept adapter stopped quiesced

theorem stopCapture_kept (adapter : ReceiverAdapter) (receiver : Nat) (system : ReceiverSystem)
    (stopped : Except Error Unit) (quiesced : Bool) :
    Kept adapter (adapter.stopCapture receiver system stopped quiesced).2 := by
  unfold ReceiverAdapter.stopCapture
  split
  · exact kept_refl adapter
  · exact stopConsumer_kept adapter stopped quiesced

/-- An open either leaves the session alone or begins one with no filters sent. -/
theorem openDevice_sound (sound : Sound adapter) :
    Sound (adapter.openDevice receiver stages).2 ∧
      (Filtered (adapter.openDevice receiver stages).2 ↔ Filtered adapter) := by
  unfold ReceiverAdapter.openDevice
  split
  · exact ⟨sound, Iff.rfl⟩
  split
  · exact ⟨sound, Iff.rfl⟩
  split
  · exact ⟨sound, Iff.rfl⟩
  split
  · have kept : Kept adapter { adapter with initialized := false } :=
      ⟨id, rfl, rfl, rfl, rfl, rfl⟩
    exact ⟨sound_of_kept kept sound, filtered_of_kept kept⟩
  · refine ⟨⟨?_, ?_⟩, Iff.rfl⟩
    · intro _ sent fresh
      exact absurd (sent.symm.trans fresh) (by simp)
    · intro _ stale
      exact ⟨stale, rfl⟩

/-- A success adds the filters it found to those to be judged. -/
theorem filtered_programmedTo (adapter : ReceiverAdapter) (program : ReceiverAdapter.Program) :
    Filtered (adapter.programmedTo program).2 ↔
      Filtered adapter ∧ wanted adapter.pids <:+ adapter.filters := by
  simp only [Filtered, ReceiverAdapter.programmedTo, List.mem_append, List.mem_singleton]
  constructor
  · intro all
    exact ⟨fun filters member => all filters (.inl member), all _ (.inr rfl)⟩
  · rintro ⟨earlier, now⟩ filters (member | rfl)
    · exact earlier filters member
    · exact now

theorem programmedTo_sound (sound : Sound adapter) (program : ReceiverAdapter.Program) :
    Sound (adapter.programmedTo program).2 :=
  ⟨sound.sent, sound.stale⟩

/-- Past a successful tune, the filters are sent unless they are marked as sent. -/
theorem programHz_of_tunes (tuned : tunes adapter program = true) :
    adapter.programHz program =
      if adapter.pidFiltersSent then adapter.programmedTo program
      else
        let configured := configurePidFilters adapter.pids program.answers
        let sent := { adapter with filters := adapter.filters ++ configured.2 }
        if configured.1 ≠ 0 then (.error .internal, sent)
        else ReceiverAdapter.programmedTo { sent with pidFiltersSent := true } program := by
  simp only [tunes, decide_eq_true_eq] at tuned
  obtain ⟨receiver, system, opened, nonzero, bounded, rc⟩ := tuned
  unfold ReceiverAdapter.programHz
  rw [if_neg (by simp [receiver, system]), if_neg (by simp [opened]), if_neg (by grind),
    if_neg (by simp [rc])]

theorem programHz_of_not_tunes (refused : tunes adapter program = false) :
    (adapter.programHz program).2 = adapter := by
  simp only [tunes, decide_eq_false_iff_not] at refused
  unfold ReceiverAdapter.programHz
  split
  · rfl
  split
  · rfl
  split
  · rfl
  split
  · rfl
  · exact absurd ⟨by grind, by grind, by grind, by grind, by grind, by grind⟩ refused

/-- A tune of an open device spoils the record exactly in a session whose open found
the filters marked as sent. -/
theorem programHz_sound (sound : Sound adapter) :
    Sound (adapter.programHz program).2 ∧
      (Filtered (adapter.programHz program).2 ↔
        Filtered adapter ∧ allowed adapter (.programHz program) = true) := by
  cases tuned : tunes adapter program with
  | false =>
    rw [programHz_of_not_tunes tuned]
    exact ⟨sound, by simp [allowed, tuned]⟩
  | true =>
    have opened : adapter.opened = true := by
      simp only [tunes, decide_eq_true_eq] at tuned
      exact tuned.2.2.1
    rw [programHz_of_tunes tuned]
    split
    · rename_i sent
      refine ⟨programmedTo_sound sound program, ?_⟩
      rw [filtered_programmedTo]
      cases stale : adapter.sentBefore with
      | false => simp [allowed, tuned, stale, sound.sent opened sent stale]
      | true =>
        have empty := (sound.stale opened stale).2
        simp [allowed, tuned, stale, empty, wanted_ne_nil]
    · rename_i unsent
      -- The flag was not yet set when this session began either.
      have fresh : adapter.sentBefore = false := by
        cases stale : adapter.sentBefore with
        | false => rfl
        | true => exact absurd (sound.stale opened stale).1 unsent
      simp only
      split
      · refine ⟨⟨fun _ sent => absurd sent unsent, ?_⟩, ?_⟩
        · intro _ stale
          exact absurd (stale.symm.trans fresh) (by simp)
        · simp [allowed, tuned, fresh, Filtered]
      · rename_i configured
        have all := configurePidFilters_zero (Decidable.not_not.mp configured)
        have ends : wanted adapter.pids <:+
            adapter.filters ++ (configurePidFilters adapter.pids program.answers).2 := by
          rw [all]
          exact List.suffix_append ..
        refine ⟨⟨fun _ _ _ => ends, ?_⟩, ?_⟩
        · intro _ stale
          exact absurd (stale.symm.trans fresh) (by simp)
        · rw [filtered_programmedTo]
          simp only [allowed, tuned, fresh, ends]
          simp [Filtered]

theorem next_sound (sound : Sound adapter) (taken : next adapter action = some after) :
    Sound after ∧ (Filtered after ↔ Filtered adapter ∧ allowed adapter action = true) := by
  have of_kept {after : ReceiverAdapter} (kept : Kept adapter after) :
      Sound after ∧ (Filtered after ↔ Filtered adapter ∧ true = true) :=
    ⟨sound_of_kept kept sound, by simp [filtered_of_kept kept]⟩
  cases action with
  | openDevice receiver stages =>
    cases taken
    simpa [allowed] using openDevice_sound sound
  | programHz program =>
    cases taken
    exact programHz_sound sound
  | close receiver =>
    cases taken
    exact of_kept (close_kept adapter receiver)
  | attach started =>
    cases taken
    exact of_kept (attach_kept adapter started)
  | detach stopped quiesced =>
    cases taken
    exact of_kept (detach_kept adapter stopped quiesced)
  | stopCapture receiver system stopped quiesced =>
    cases taken
    exact of_kept (stopCapture_kept adapter receiver system stopped quiesced)

/-- **The filters follow the session exactly until the device is opened again.** Over
every sequence of calls, each success of `program_hz` found the whole list sent since
the last open if and only if none of them tuned in a session that was opened with
`pid_filters_sent_` already set. -/
theorem filters_follow_session_iff (receiver : Nat) (pids : List UInt16)
    (ran : run next { receiver := receiver, pids := pids } actions = some after) :
    Filtered after ↔
      along allowed next { receiver := receiver, pids := pids } actions = true := by
  rw [run_iff_along Sound Filtered (fun _ _ _ sound taken => next_sound sound taken)
    (start_sound receiver pids) ran]
  simp [Filtered]

/-- A receiver filtered to two PIDs. -/
def receiver : ReceiverAdapter := { receiver := 0, pids := [0x100, 0x2000] }

def opening : Action := .openDevice 0 ⟨0, 0, 0, 0⟩

/-- A tune that locks, with the answers of the filter requests. -/
def tuning (answers : List Int) : Action :=
  .programHz ⟨0, .terrestrial, 473142857, 0, answers, 1000⟩

/-- The filter list fails half-way through, is sent again, and stays for the next tune. -/
def session : List Action :=
  [opening, tuning [0, -Errno.timedout], tuning [0, 0], .attach (.ok ()), tuning []]

theorem filters_follow_session_once :
    ∃ after, run next receiver session = some after ∧ after.programmed.length = 2 ∧
      Filtered after := by
  have ends : (run next receiver session).any
      (fun after => decide (after.programmed.length = 2)) = true := by decide +kernel
  obtain ⟨after, ran, programmed⟩ := (Option.any_eq_true _ _).mp ends
  refine ⟨after, ran, of_decide_eq_true programmed, ?_⟩
  apply (filters_follow_session_iff 0 [0x100, 0x2000] ran).mpr
  decide +kernel

/-- After a close, the next open begins with a device that has no filters, and the
tune succeeds without sending any. -/
theorem reopened_without_filters :
    ∃ after, run next receiver [opening, tuning [0, 0], .close 0, opening, tuning [0, 0]] =
        some after ∧ after.programmed.getLast? = some [] ∧ ¬ Filtered after := by
  have ends : (run next receiver
      [opening, tuning [0, 0], .close 0, opening, tuning [0, 0]]).any (fun after =>
        decide (after.programmed.getLast? = some [] ∧ ¬ Filtered after)) = true := by
    decide +kernel
  obtain ⟨after, ran, unfiltered⟩ := (Option.any_eq_true _ _).mp ends
  exact ⟨after, ran, of_decide_eq_true unfiltered⟩

end SianoUserland.PidFilters
