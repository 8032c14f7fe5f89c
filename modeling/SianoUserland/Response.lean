import SianoUserland.Protocol

/-! What the host makes of messages other than data: `response_note` of
`siano-device.c`, under `response_mutex`. -/
namespace SianoUserland
open Protocol

/-- `struct version_info`. -/
structure VersionInfo where
  firmwareId : UInt8 := 0
  supportedProtocols : UInt8 := 0
  firmwareVersion : Nat := 0
  deriving Repr, DecidableEq

/-- The fields of `struct siano_device` behind `response_mutex`. -/
structure Responses where
  responseCount : Nat → Nat := fun _ => 0
  version : VersionInfo := {}
  locked : Bool := false

/-- A statistics response with a demodulator word other than zero, or a detection. -/
def lockPositive (type : Nat) (payload : List UInt8) : Bool :=
  (type = MSG_SMS_GET_STATISTICS_EX_RES ∧ 20 ≤ payload.length ∧ getLe32 (payload.drop 16) ≠ 0) ∨
    (type = MSG_SMS_GET_STATISTICS_RES ∧ 16 ≤ payload.length ∧ getLe32 (payload.drop 12) ≠ 0) ∨
    type = MSG_SMS_SIGNAL_DETECTED_IND

namespace Responses

/-- `response_note`. -/
def note (responses : Responses) (type : Nat) (payload : List UInt8) : Responses :=
  let counted : Responses :=
    if type < 1024 then
      { responses with
        responseCount := fun other =>
          if other = type then responses.responseCount other + 1
          else responses.responseCount other }
    else responses
  if type = MSG_SMS_GET_VERSION_EX_RES ∧ 12 ≤ payload.length then
    { counted with version :=
        { firmwareId := payload.getD 4 0
          supportedProtocols := payload.getD 5 0
          firmwareVersion := (payload.getD 10 0).toNat * 256 + (payload.getD 11 0).toNat } }
  else if (type = MSG_SMS_GET_STATISTICS_EX_RES ∧ 20 ≤ payload.length) ∨
      (type = MSG_SMS_GET_STATISTICS_RES ∧ 16 ≤ payload.length) then
    let demodOffset := if type = MSG_SMS_GET_STATISTICS_EX_RES then 16 else 12
    if getLe32 (payload.drop demodOffset) ≠ 0 then { counted with locked := true } else counted
  else if type = MSG_SMS_SIGNAL_DETECTED_IND then { counted with locked := true }
  else if type = MSG_SMS_NO_SIGNAL_IND then { counted with locked := false }
  else counted

/-- `clear_response`. -/
def clear (responses : Responses) (type : Nat) : Responses :=
  { responses with
    responseCount := fun other => if other = type then 0 else responses.responseCount other }

/-- The consumption of a response by `wait_response_until`. -/
def consume (responses : Responses) (type : Nat) : Responses :=
  { responses with
    responseCount := fun other =>
      if other = type then responses.responseCount other - 1 else responses.responseCount other }

/-- Only a lock-positive message can set `locked`. -/
theorem note_locked (responses : Responses) (locked : (responses.note type payload).locked = true) :
    lockPositive type payload = true ∨ responses.locked = true := by
  -- counting a response leaves `locked` alone
  simp only [note, apply_ite Responses.locked, ite_self] at locked
  split at locked
  · exact Or.inr locked
  split at locked
  · rename_i statistics
    by_cases positive : getLe32
        (payload.drop (if type = MSG_SMS_GET_STATISTICS_EX_RES then 16 else 12)) ≠ 0
    · refine Or.inl ?_
      rcases statistics with ⟨extended, long⟩ | ⟨plain, long⟩
      · rw [if_pos extended] at positive
        exact decide_eq_true (Or.inl ⟨extended, long, positive⟩)
      · rw [if_neg (by rw [plain]; decide)] at positive
        exact decide_eq_true (Or.inr (Or.inl ⟨plain, long, positive⟩))
    · rw [if_neg positive] at locked
      exact Or.inr locked
  split at locked
  · rename_i detected
    exact Or.inl (decide_eq_true (Or.inr (Or.inr detected)))
  split at locked
  · cases locked
  · exact Or.inr locked

/-- Only a version response with enough of a payload changes the version. -/
theorem note_version (responses : Responses) (type : Nat) (payload : List UInt8) :
    (responses.note type payload).version =
      if type = MSG_SMS_GET_VERSION_EX_RES ∧ 12 ≤ payload.length then
        { firmwareId := payload.getD 4 0
          supportedProtocols := payload.getD 5 0
          firmwareVersion := (payload.getD 10 0).toNat * 256 + (payload.getD 11 0).toNat }
      else responses.version := by
  simp only [note, apply_ite Responses.version, ite_self]

/-- Every response of a type with a counter is counted, whatever its payload. -/
theorem note_responseCount (responses : Responses) (type : Nat) (payload : List UInt8)
    (other : Nat) :
    (responses.note type payload).responseCount other =
      if type < 1024 ∧ other = type then responses.responseCount other + 1
      else responses.responseCount other := by
  simp only [note, apply_ite Responses.responseCount, ite_self]
  by_cases counted : type < 1024
  · simp only [counted, if_true, true_and]
  · simp only [counted, if_false, false_and]

end Responses
end SianoUserland
