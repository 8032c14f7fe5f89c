import SianoUserland.OutputPump

/-! What every pump satisfies between calls, in both modes, and which bytes a
pump can ever hand over: only bytes it was fed and still owns. -/
namespace SianoUserland.OutputPump

variable {byte : β → UInt8} {pump : OutputPump β}

/-- The buffers and offsets of a pump between two calls. -/
structure Wf (pump : OutputPump β) : Prop where
  hold_le : pump.hold.length ≤ 187
  scratch_le : pump.scratch.length ≤ 16384 + 188
  sendOff_le : pump.sendOff ≤ pump.scratch.length
  resume_le : pump.packetResumeOff ≤ pump.packetOff
  packetOff_lt : pump.packetOff < 188
  room : pump.writing = true → pump.packetResumeOff = 0 →
    pump.sendOff + 188 ≤ pump.scratch.length
  resumed : 0 < pump.packetResumeOff →
    pump.scratch.length = 188 - pump.packetResumeOff ∧ pump.sendOff = 0
  between : pump.writing = false → pump.packetOff = 0
  busy : pump.writing = true → pump.busy = true
  whole : pump.packetSink = true → pump.packetOff = 0

theorem init_wf : (init : OutputPump β).Wf := by
  constructor <;> simp [init]

theorem initSink_wf : (initSink : OutputPump β).Wf := by
  constructor <;> simp [initSink]

theorem reset_wf (pump : OutputPump β) : pump.reset.Wf := by
  constructor <;> simp [reset]

theorem feed_wf (wf : pump.Wf) (small : data.length ≤ 16384) : (pump.feed data).Wf := by
  have hold := wf.hold_le
  constructor <;> simp [feed] <;> omega

/-- The unsent bytes of a packet are exactly the ones `packet_off` leaves. -/
theorem unsent_length (wf : pump.Wf) (writing : pump.writing = true) :
    pump.unsent.length = 188 - pump.packetOff := by
  have unfinished := wf.packetOff_lt
  have behind := wf.resume_le
  simp only [unsent, List.length_take, List.length_drop]
  by_cases resumed : pump.packetResumeOff = 0
  · have room := wf.room writing resumed
    omega
  · have exact := wf.resumed (by omega)
    omega

theorem retune_eq (wf : pump.Wf) (writing : pump.writing = true) (begun : pump.packetOff ≠ 0) :
    pump.retune = { pump with
      hold := [], scratch := pump.unsent, sendOff := 0, packetResumeOff := pump.packetOff,
      writing := true, busy := true } := by
  have unfinished := wf.packetOff_lt
  have behind := wf.resume_le
  simp [retune, writing, begun, Nat.not_le.mpr unfinished, Nat.not_lt.mpr behind, unsent]

theorem retune_eq_reset (nothing : pump.writing = false ∨ pump.packetOff = 0) :
    pump.retune = pump.reset := by
  rcases nothing with idle | unbegun
  · simp [retune, idle]
  · simp [retune, unbegun]

theorem retune_wf (wf : pump.Wf) : pump.retune.Wf := by
  by_cases nothing : pump.writing = false ∨ pump.packetOff = 0
  · rw [retune_eq_reset nothing]
    exact reset_wf pump
  · simp only [not_or, Bool.not_eq_false] at nothing
    obtain ⟨writing, begun⟩ := nothing
    have rest := unsent_length wf writing
    have unfinished := wf.packetOff_lt
    have whole := wf.whole
    rw [retune_eq wf writing begun]
    constructor <;> simp [rest] <;> omega

theorem seek_wf (wf : pump.Wf) (idle : pump.writing = false) (busy : pump.busy = true) :
    (pump.seek byte).Wf := by
  have offset := wf.between idle
  have behind := wf.resume_le
  have scratch := wf.scratch_le
  have hold := wf.hold_le
  obtain ⟨found, ahead, inside, ⟨fits, _, sought⟩ | ⟨short, sought⟩⟩ :=
    seek_cases byte wf.sendOff_le
  · rw [sought]
    constructor <;> simp [busy] <;> omega
  · rw [sought]
    constructor <;> simp [idle, offset] <;> omega

theorem prepare_wf (wf : pump.Wf) : (pump.prepare byte).Wf := by
  unfold prepare
  split
  · rename_i scanning
    exact seek_wf wf scanning.2 scanning.1
  · exact wf

/-- Offering a packet to the sink either returns, or moves on to the next one. -/
theorem send_sink (sink : pump.packetSink = true) (answer : Int) :
    (∃ rc, rc ≠ 0 ∧ answer ≠ 0 ∧ pump.send answer =
      { rc := some rc, pump := pump,
        offered := [((pump.scratch.drop pump.sendOff).take 188, answer)] }) ∨
    (answer = 0 ∧ pump.send answer =
      { rc := none, offered := [((pump.scratch.drop pump.sendOff).take 188, answer)],
        pump := { pump with
          sendOff := pump.sendOff + 188, packetOff := 0, writing := false } }) := by
  by_cases accepted : answer = 0
  · exact Or.inr ⟨accepted, by simp [send, sink, accepted]⟩
  · refine Or.inl ⟨if answer < 0 then answer else -Errno.io, ?_, accepted, by
      simp [send, sink, accepted]⟩
    split
    · exact accepted
    · decide

theorem send_wf (wf : pump.Wf) (writing : pump.writing = true) (answer : Int) :
    (pump.send answer).pump.Wf := by
  have hold := wf.hold_le
  have scratch := wf.scratch_le
  have behind := wf.resume_le
  have unfinished := wf.packetOff_lt
  have busy := wf.busy writing
  have inside := wf.sendOff_le
  cases mode : pump.packetSink with
  | true =>
    have whole := wf.whole mode
    have unresumed : pump.packetResumeOff = 0 := by omega
    have room := wf.room writing unresumed
    rcases send_sink mode answer with ⟨rc, _, _, sent⟩ | ⟨_, sent⟩
    · rw [sent]
      exact wf
    · rw [sent]
      constructor <;> simp [unresumed] <;> omega
  | false =>
    rcases send_cases mode unfinished answer with
      ⟨rc, count, few, sent⟩ | ⟨resumed, sent⟩ | ⟨fresh, sent⟩
    · rw [sent]
      have room := wf.room
      have resumed := wf.resumed
      constructor <;> simp [writing, busy, mode] at * <;> omega
    · rw [sent]
      constructor <;> simp <;> omega
    · rw [sent]
      have room := wf.room writing fresh
      constructor <;> simp [fresh] <;> omega

theorem step_wf (wf : pump.Wf) (answers : List Int) : (pump.step byte answers).pump.Wf :=
  step_rule byte (fun pump _ _ => pump.Wf) (fun _ _ _ => prepare_wf)
    (fun _ _ _ answer wf _ writing => send_wf wf writing answer) answers [] [] wf

/-! ## The bytes a pump owns -/

/-- Every byte in the pump's buffers has a property. -/
structure Owns (Property : β → Prop) (pump : OutputPump β) : Prop where
  hold : ∀ entry ∈ pump.hold, Property entry
  scratch : ∀ entry ∈ pump.scratch, Property entry

variable {Property : β → Prop}

theorem reset_owns (pump : OutputPump β) : pump.reset.Owns Property :=
  ⟨by simp [reset], by simp [reset]⟩

theorem unsent_owns (owns : pump.Owns Property) : ∀ entry ∈ pump.unsent, Property entry :=
  fun entry member => owns.scratch entry (List.mem_of_mem_drop (List.mem_of_mem_take member))

theorem retune_owns (owns : pump.Owns Property) : pump.retune.Owns Property := by
  unfold retune
  split
  · exact reset_owns pump
  · exact ⟨by simp, unsent_owns owns⟩

theorem feed_owns (owns : pump.Owns Property) (data : List β)
    (fresh : ∀ entry ∈ data, Property entry) :
    (pump.feed data).Owns Property := by
  refine ⟨by simp [feed], fun entry member => ?_⟩
  rcases List.mem_append.mp member with held | fed
  · exact owns.hold entry held
  · exact fresh entry fed

theorem prepare_owns (owns : pump.Owns Property) : (pump.prepare byte).Owns Property := by
  unfold prepare seek
  split
  · simp only
    split
    · exact ⟨owns.hold, owns.scratch⟩
    · exact ⟨fun entry member => owns.scratch entry (List.mem_of_mem_drop member), by simp⟩
  · exact owns

/-- What one handover passes on, and what it keeps, was in the pump. -/
theorem send_owns (owns : pump.Owns Property) (answer : Int) :
    (pump.send answer).pump.Owns Property ∧
      (∀ entry ∈ (pump.send answer).written, Property entry) ∧
      ∀ offer ∈ (pump.send answer).offered, ∀ entry ∈ offer.1, Property entry := by
  have packet : ∀ entry ∈ (pump.scratch.drop pump.sendOff).take 188, Property entry :=
    fun entry member => owns.scratch entry (List.mem_of_mem_drop (List.mem_of_mem_take member))
  have bytes : ∀ count, ∀ entry ∈ pump.unsent.take count, Property entry :=
    fun count entry member => unsent_owns owns entry (List.mem_of_mem_take member)
  unfold send
  split
  · simp only
    split
    · exact ⟨owns, by simp, by simpa using packet⟩
    · exact ⟨⟨owns.hold, owns.scratch⟩, by simp, by simpa using packet⟩
  · simp only
    split
    · exact ⟨owns, by simp, by simp⟩
    split
    · exact ⟨⟨owns.hold, owns.scratch⟩, bytes _, by simp⟩
    split
    · exact ⟨⟨owns.hold, by simp⟩, bytes _, by simp⟩
    · exact ⟨⟨owns.hold, owns.scratch⟩, bytes _, by simp⟩

/-- A call hands over, and keeps, only bytes the pump owned before it. -/
theorem step_owns (byte : β → UInt8) (owns : pump.Owns Property) (answers : List Int) :
    (pump.step byte answers).pump.Owns Property ∧
      (∀ entry ∈ (pump.step byte answers).written, Property entry) ∧
      ∀ offer ∈ (pump.step byte answers).offered, ∀ entry ∈ offer.1, Property entry := by
  refine step_rule byte (fun pump written offered =>
    pump.Owns Property ∧ (∀ entry ∈ written, Property entry) ∧
      ∀ offer ∈ offered, ∀ entry ∈ offer.1, Property entry) ?_ ?_ answers [] []
    ⟨owns, by simp, by simp⟩
  · exact fun _ _ _ held => ⟨prepare_owns held.1, held.2⟩
  · rintro pump written offered answer ⟨owns, written, offered⟩ _ _
    obtain ⟨kept, passed, handed⟩ := send_owns owns answer
    exact ⟨kept,
      fun entry member => (List.mem_append.mp member).elim (written entry) (passed entry),
      fun offer member => (List.mem_append.mp member).elim (offered offer) (handed offer)⟩

end SianoUserland.OutputPump
