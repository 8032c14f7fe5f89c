import SianoUserland.Lib.Transition
import SianoUserland.Response

/-! Tuning as an exchange of messages. The host runs `tune_internal` call after
call; requests and reports are in flight between it and the device, and are taken
from there in any order. A report says which tune requests the device had received
when it sent the report; nothing of that is on the wire. -/
namespace SianoUserland.LockReports
open Protocol Transition

/-- A message to the device. Calls are numbered from one. -/
inductive Request where
  | tune (call : Nat)
  | statistics
  deriving Repr, DecidableEq

/-- A message to the host. -/
structure Report where
  type : Nat
  payload : List UInt8
  /-- The calls whose tune request the device had received. -/
  received : List Nat
  deriving Repr, DecidableEq

/-- Where the current call of `tune_internal` stands. -/
inductive Position where
  | idle
  /-- Before the reset of `locked`. -/
  | entered
  | reset
  | cleared
  | sent
  /-- At the head of the lock wait. -/
  | head
  /-- `locked` has been read. -/
  | looked (locked : Bool)
  /-- Before the statistics request, and before the end of the wait after it. -/
  | asking
  | waiting
  deriving Repr, DecidableEq

/-- A call that has returned, with everything handled before. -/
structure Return where
  call : Nat
  rc : Int
  handled : List Report
  deriving Repr, DecidableEq

structure Link where
  /-- The number of the current call, or of the last one. -/
  call : Nat := 0
  wholeDeadline : Bool := false
  position : Position := .idle
  responses : Responses := {}
  requests : List Request := []
  reports : List Report := []
  /-- The calls whose tune request the device has received. -/
  received : List Nat := []
  handled : List Report := []
  returned : List Return := []

/-- The call returns. -/
def Link.leave (link : Link) (rc : Int) : Link :=
  { link with
    position := .idle
    returned := link.returned ++ [{ call := link.call, rc := rc, handled := link.handled }] }

inductive Action where
  /-- `tune` or `tune_with_timeout` is called. -/
  | enter (wholeDeadline : Bool) (timeoutMs : Nat)
  | reset
  | clear
  /-- The transfer of the request, which may have reached the pipe even when it fails. -/
  | send (rc : Int) (piped : Bool)
  /-- `wait_response_until` has the response, or gives up. -/
  | answered
  | unanswered (rc : Int)
  | stopRequested
  | look
  | decide (expired : Bool)
  /-- The statistics request, whose result is ignored. -/
  | ask (piped : Bool)
  /-- The end of the wait; with a whole deadline there may be no time left for it. -/
  | wake (remains : Bool)
  /-- Steps of the device, and of the callbacks. -/
  | receive (index : Nat)
  | emit (type : Nat) (payload : List UInt8)
  | handle (index : Nat)

def next (link : Link) : Action → Option Link
  | .enter wholeDeadline timeoutMs =>
    if link.position = .idle then
      let entered := { link with
        call := link.call + 1, wholeDeadline := wholeDeadline, position := .entered }
      some (if wholeDeadline ∧ timeoutMs = 0 then entered.leave (-Errno.timedout) else entered)
    else none
  | .reset =>
    if link.position = .entered then
      some { link with position := .reset, responses := { link.responses with locked := false } }
    else none
  | .clear =>
    if link.position = .reset then
      some { link with
        position := .cleared, responses := link.responses.clear MSG_SMS_ISDBT_TUNE_RES }
    else none
  | .send rc piped =>
    if link.position = .cleared ∧ (rc < 0 ∨ piped) then
      let sent := { link with
        position := .sent
        requests := if piped then link.requests ++ [.tune link.call] else link.requests }
      some (if rc < 0 then sent.leave rc else sent)
    else none
  | .answered =>
    if link.position = .sent ∧ link.responses.responseCount MSG_SMS_ISDBT_TUNE_RES ≠ 0 then
      some { link with
        position := .head, responses := link.responses.consume MSG_SMS_ISDBT_TUNE_RES }
    else none
  | .unanswered rc => if link.position = .sent ∧ rc < 0 then some (link.leave rc) else none
  | .stopRequested => if link.position = .head then some (link.leave (-Errno.timedout)) else none
  | .look =>
    if link.position = .head then some { link with position := .looked link.responses.locked }
    else none
  | .decide expired =>
    match link.position with
    | .looked locked =>
      if link.wholeDeadline ∧ expired then some (link.leave (-Errno.timedout))
      else if locked then some (link.leave 0)
      else if expired then some (link.leave (-Errno.timedout))
      else some { link with position := .asking }
    | _ => none
  | .ask piped =>
    if link.position = .asking then
      some { link with
        position := .waiting
        requests := if piped then link.requests ++ [.statistics] else link.requests }
    else none
  | .wake remains =>
    if link.position = .waiting then
      if link.wholeDeadline ∧ remains = false then some (link.leave (-Errno.timedout))
      else some { link with position := .head }
    else none
  | .receive index =>
    match link.requests[index]? with
    | some (.tune call) => some { link with
        requests := link.requests.eraseIdx index, received := call :: link.received }
    | some .statistics => some { link with requests := link.requests.eraseIdx index }
    | none => none
  | .emit type payload => some { link with
      reports := link.reports ++ [{ type := type, payload := payload, received := link.received }] }
  | .handle index =>
    match link.reports[index]? with
    | some report => some { link with
        reports := link.reports.eraseIdx index
        responses := link.responses.note report.type report.payload
        handled := link.handled ++ [report] }
    | none => none

/-- The call is past its reset of `locked`. -/
def Position.active : Position → Bool
  | .idle | .entered => false
  | _ => true

/-- No lock-positive report from before the device received the current request is
handled between the call's reset and its return. -/
def timely (link : Link) : Action → Bool
  | .handle index => !link.position.active || link.reports[index]?.all fun report =>
      !lockPositive report.type report.payload || report.received.contains link.call
  | _ => true

/-- A lock-positive report from after the device received the request of `call`. -/
def Confirmed (call : Nat) (handled : List Report) : Prop :=
  ∃ report ∈ handled, lockPositive report.type report.payload = true ∧ call ∈ report.received

instance : Decidable (Confirmed call handled) :=
  inferInstanceAs (Decidable (∃ report ∈ handled,
    lockPositive report.type report.payload = true ∧ call ∈ report.received))

/-- While a call is active, `locked` is backed by a report about its own request. -/
structure Sound (link : Link) : Prop where
  locked : link.position.active = true → link.responses.locked = true →
    Confirmed link.call link.handled
  looked : link.position = .looked true → Confirmed link.call link.handled
  returned : ∀ done ∈ link.returned, done.rc = 0 → Confirmed done.call done.handled

variable {link after : Link}

theorem leave_sound (sound : Sound link) (backed : rc = 0 → Confirmed link.call link.handled) :
    Sound (link.leave rc) := by
  refine ⟨nofun, nofun, ?_⟩
  intro done member
  rcases List.mem_append.mp member with before | now
  · exact sound.returned done before
  · rw [List.mem_singleton.mp now]
    exact backed

theorem leave_failed (sound : Sound link) (failed : rc < 0) : Sound (link.leave rc) :=
  leave_sound sound fun zero => by omega

theorem leave_timedout (sound : Sound link) : Sound (link.leave (-Errno.timedout)) :=
  leave_failed sound (by decide)

/-- An active call goes on, with nothing handled meanwhile. -/
theorem moved_sound (sound : Sound link) (active : link.position.active = true)
    (unlooked : after.position ≠ .looked true) (call : after.call = link.call)
    (locked : after.responses.locked = link.responses.locked)
    (handled : after.handled = link.handled) (returned : after.returned = link.returned) :
    Sound after := by
  refine ⟨?_, fun looked => absurd looked unlooked, ?_⟩
  · intro _ set
    rw [call, handled]
    exact sound.locked active (locked ▸ set)
  · rw [returned]
    exact sound.returned

/-- A call returns 0 only on what it has looked at. -/
theorem decide_sound (sound : Sound link) (taken : next link (.decide expired) = some after) :
    Sound after := by
  simp only [next] at taken
  split at taken
  · rename_i locked here
    split at taken
    · cases taken
      exact leave_timedout sound
    split at taken
    · rename_i seen
      cases taken
      exact leave_sound sound fun _ => sound.looked (by rw [here, seen])
    split at taken
    · cases taken
      exact leave_timedout sound
    · cases taken
      exact moved_sound sound (by rw [here]; rfl) (by simp) rfl rfl rfl rfl
  · cases taken

/-- A report that sets `locked` during a call is about the call's own request, since
it was allowed. -/
theorem handle_sound (sound : Sound link) (allowed : timely link (.handle index) = true)
    (taken : next link (.handle index) = some after) : Sound after := by
  simp only [next] at taken
  split at taken
  · rename_i report found
    cases taken
    have kept : Confirmed link.call link.handled →
        Confirmed link.call (link.handled ++ [report]) := by
      rintro ⟨other, member, positive, own⟩
      exact ⟨other, List.mem_append_left _ member, positive, own⟩
    refine ⟨?_, fun seen => kept (sound.looked seen), sound.returned⟩
    intro active locked
    rcases link.responses.note_locked locked with positive | before
    · simp only [timely, found, Option.all_some] at allowed
      simp only at active
      rw [active, positive] at allowed
      refine ⟨report, List.mem_append_right _ List.mem_cons_self, positive, ?_⟩
      simpa using allowed
    · exact kept (sound.locked active before)
  · cases taken

theorem next_sound (sound : Sound link) (allowed : timely link action = true)
    (taken : next link action = some after) : Sound after := by
  cases action with
  | enter wholeDeadline timeoutMs =>
    simp only [next, Option.ite_none_right_eq_some, Option.some.injEq] at taken
    obtain ⟨_, rfl⟩ := taken
    have entered : Sound { link with
        call := link.call + 1, wholeDeadline := wholeDeadline, position := .entered } :=
      ⟨nofun, nofun, sound.returned⟩
    split
    · exact leave_timedout entered
    · exact entered
  | reset =>
    simp only [next, Option.ite_none_right_eq_some, Option.some.injEq] at taken
    obtain ⟨_, rfl⟩ := taken
    exact ⟨nofun, nofun, sound.returned⟩
  | clear =>
    simp only [next, Option.ite_none_right_eq_some, Option.some.injEq] at taken
    obtain ⟨here, rfl⟩ := taken
    exact moved_sound sound (by rw [here]; rfl) (by simp) rfl rfl rfl rfl
  | send rc piped =>
    simp only [next, Option.ite_none_right_eq_some, Option.some.injEq] at taken
    obtain ⟨⟨here, _⟩, rfl⟩ := taken
    have sent : Sound { link with
        position := .sent
        requests := if piped then link.requests ++ [.tune link.call] else link.requests } :=
      moved_sound sound (by rw [here]; rfl) (by simp) rfl rfl rfl rfl
    split
    · rename_i failed
      exact leave_failed sent failed
    · exact sent
  | answered =>
    simp only [next, Option.ite_none_right_eq_some, Option.some.injEq] at taken
    obtain ⟨⟨here, _⟩, rfl⟩ := taken
    exact moved_sound sound (by rw [here]; rfl) (by simp) rfl rfl rfl rfl
  | unanswered rc =>
    simp only [next, Option.ite_none_right_eq_some, Option.some.injEq] at taken
    obtain ⟨⟨_, failed⟩, rfl⟩ := taken
    exact leave_failed sound failed
  | stopRequested =>
    simp only [next, Option.ite_none_right_eq_some, Option.some.injEq] at taken
    obtain ⟨_, rfl⟩ := taken
    exact leave_timedout sound
  | look =>
    simp only [next, Option.ite_none_right_eq_some, Option.some.injEq] at taken
    obtain ⟨here, rfl⟩ := taken
    have locked := sound.locked (by rw [here]; rfl)
    refine ⟨fun _ => locked, ?_, sound.returned⟩
    intro seen
    exact locked (Position.looked.inj seen)
  | decide expired => exact decide_sound sound taken
  | ask piped =>
    simp only [next, Option.ite_none_right_eq_some, Option.some.injEq] at taken
    obtain ⟨here, rfl⟩ := taken
    exact moved_sound sound (by rw [here]; rfl) (by simp) rfl rfl rfl rfl
  | wake remains =>
    simp only [next, Option.ite_none_right_eq_some] at taken
    obtain ⟨here, taken⟩ := taken
    split at taken
    · cases taken
      exact leave_timedout sound
    · cases taken
      exact moved_sound sound (by rw [here]; rfl) (by simp) rfl rfl rfl rfl
  | receive index =>
    simp only [next] at taken
    split at taken
    · cases taken
      exact ⟨sound.locked, sound.looked, sound.returned⟩
    · cases taken
      exact ⟨sound.locked, sound.looked, sound.returned⟩
    · cases taken
  | emit type payload =>
    cases taken
    exact ⟨sound.locked, sound.looked, sound.returned⟩
  | handle index => exact handle_sound sound allowed taken

/-- **When a successful tune is about its own frequency.** In every run in which no
lock-positive report from before the device received the current request is handled
between the call's reset of `locked` and its return: a call that has returned 0 did so
after a lock-positive report was handled that the device sent after it had received
that call's request. -/
theorem success_confirmed (actions : List Action) (ran : run next {} actions = some link)
    (allowed : along timely next {} actions = true) :
    ∀ done ∈ link.returned, done.rc = 0 → Confirmed done.call done.handled := by
  have start : Sound {} := ⟨nofun, nofun, nofun⟩
  exact (run_keeps_along Sound (fun _ _ _ => next_sound) start ran allowed).returned

/-- The payload of a statistics response that reports a lock. -/
def demodLocked : List UInt8 := List.replicate 16 0 ++ [1, 0, 0, 0]

/-- A call that asks for the statistics once and is locked. -/
def lockedCall : List Action :=
  [.enter false 10000, .reset, .clear, .send 0 true, .receive 0, .emit MSG_SMS_ISDBT_TUNE_RES [],
    .handle 0, .answered, .look, .decide false, .ask true, .receive 0,
    .emit MSG_SMS_GET_STATISTICS_EX_RES demodLocked, .handle 0, .wake true, .look, .decide false]

theorem success_confirmed_locked_call :
    ∃ link done, run next {} lockedCall = some link ∧ link.returned = [done] ∧ done.call = 1 ∧
      done.rc = 0 ∧ Confirmed 1 done.handled := by
  have evaluated : (run next {} lockedCall).any (fun link =>
      (link.returned.map (fun done => (done.call, done.rc)) = [(1, 0)] : Bool)) = true := by
    decide +kernel
  obtain ⟨link, ran, reached⟩ := Option.any_eq_true _ _ |>.mp evaluated
  obtain ⟨done, alone, result⟩ := List.map_eq_singleton_iff.mp (of_decide_eq_true reached)
  obtain ⟨call, rc⟩ := Prod.mk.inj result
  have confirmed := success_confirmed lockedCall ran (by decide +kernel) done (by simp [alone]) rc
  exact ⟨link, done, ran, alone, call, rc, call ▸ confirmed⟩

/-- A statistics response of the first call is still on its way when the second call
resets `locked`, and the second call returns 0 although the device has reported
nothing about its request. -/
theorem stale_report_succeeds :
    ∃ link, run next {} (lockedCall ++ [.emit MSG_SMS_GET_STATISTICS_EX_RES demodLocked,
        .enter false 10000, .reset, .handle 0, .clear, .send 0 true, .receive 0,
        .emit MSG_SMS_ISDBT_TUNE_RES [], .handle 0, .answered, .look, .decide false]) = some link ∧
      ∃ done ∈ link.returned, done.call = 2 ∧ done.rc = 0 ∧ ¬Confirmed 2 done.handled := by
  have evaluated : (run next {} (lockedCall ++ [.emit MSG_SMS_GET_STATISTICS_EX_RES demodLocked,
        .enter false 10000, .reset, .handle 0, .clear, .send 0 true, .receive 0,
        .emit MSG_SMS_ISDBT_TUNE_RES [], .handle 0, .answered, .look, .decide false])).any
      (fun link => (∃ done ∈ link.returned, done.call = 2 ∧ done.rc = 0 ∧
        ¬Confirmed 2 done.handled : Bool)) = true := by
    decide +kernel
  obtain ⟨link, ran, reached⟩ := Option.any_eq_true _ _ |>.mp evaluated
  exact ⟨link, ran, of_decide_eq_true reached⟩

end SianoUserland.LockReports
