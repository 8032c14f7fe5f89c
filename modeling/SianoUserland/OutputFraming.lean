import SianoUserland.Lib.Slice
import SianoUserland.Lib.Transition
import SianoUserland.OutputPump

/-! Framing of the output over whole runs of the pump. The consumer feeds chunks
while the pump is idle, steps it against any answers of the descriptor and
retunes it at any point; whatever it does, the bytes written stay whole packets
of the fed stream, apart from one that is still being written. -/
namespace SianoUserland.OutputFraming
open Transition Slice

/-- A pump in descriptor mode with what a run has done to it. -/
structure Trace (β : Type) where
  pump : OutputPump β := .init
  /-- All fed bytes, in order. -/
  fed : List β := []
  /-- The positions in `fed` at which retunes happened. -/
  cuts : List Nat := []
  /-- The bytes written to the descriptor. -/
  out : List β := []
  deriving Repr, DecidableEq

inductive Action (β : Type) where
  | feed (data : List β)
  | step (answers : List Int)
  | retune

/-- The consumer feeds at most one USB transfer, and only to an idle pump. -/
def next (byte : β → UInt8) (trace : Trace β) : Action β → Option (Trace β)
  | .feed data =>
    if trace.pump.busy = false ∧ data.length ≤ 16384 then
      some { trace with pump := trace.pump.feed data, fed := trace.fed ++ data }
    else none
  | .step answers =>
    let stepped := trace.pump.step byte answers
    some { trace with pump := stepped.pump, out := trace.out ++ stepped.written }
  | .retune =>
    some { trace with pump := trace.pump.retune, cuts := trace.cuts ++ [trace.fed.length] }

/-- The packet of the fed stream that starts at a position. -/
abbrev packetAt (fed : List β) (start : Nat) : List β := slice fed start 188

/-- A packet lies wholly in the fed stream, starts with the sync byte, and was
fed between two consecutive retunes. -/
structure IsPacket (byte : β → UInt8) (trace : Trace β) (start : Nat) : Prop where
  within : start + 188 ≤ trace.fed.length
  sync : trace.fed[start]?.map byte = some 0x47
  uncut : ∀ cut ∈ trace.cuts, ¬ (start < cut ∧ cut < start + 188)

/-- The output is the packets at `starts`, one after the other, and the first
`packet_off` bytes of the packet at `current` while one is being written. The
packets are disjoint slices of the fed stream, in feed order. -/
structure Framed (byte : β → UInt8) (trace : Trace β) (starts : List Nat)
    (current : Option Nat) : Prop where
  output : trace.out = (starts.map (packetAt trace.fed)).flatten ++
    current.elim [] fun start => (packetAt trace.fed start).take trace.pump.packetOff
  writing : current.isSome = trace.pump.writing
  unfinished : trace.pump.packetOff < 188
  packets : ∀ start ∈ starts ++ current.toList, IsPacket byte trace start
  disjoint : (starts ++ current.toList).Pairwise fun first second => first + 188 ≤ second

/-- Where the bytes the pump still owns sit in the fed stream. No retune cuts
them, and no packet written so far reaches into them. -/
inductive Phase (trace : Trace β) (starts : List Nat) : Option Nat → Prop where
  | idle (base : Nat) (busy : trace.pump.busy = false) (writing : trace.pump.writing = false)
      (offset : trace.pump.packetOff = 0) (resume : trace.pump.packetResumeOff = 0)
      (hold : trace.pump.hold = trace.fed.drop base) (within : base ≤ trace.fed.length)
      (uncut : ∀ cut ∈ trace.cuts, cut ≤ base) (used : ∀ start ∈ starts, start + 188 ≤ base) :
      Phase trace starts none
  | scanning (base : Nat) (busy : trace.pump.busy = true) (writing : trace.pump.writing = false)
      (offset : trace.pump.packetOff = 0) (resume : trace.pump.packetResumeOff = 0)
      (scratch : trace.pump.scratch = trace.fed.drop base) (within : base ≤ trace.fed.length)
      (sendOff : trace.pump.sendOff ≤ trace.pump.scratch.length)
      (uncut : ∀ cut ∈ trace.cuts, cut ≤ base)
      (used : ∀ start ∈ starts, start + 188 ≤ base + trace.pump.sendOff) :
      Phase trace starts none
  | sending (base : Nat) (busy : trace.pump.busy = true) (writing : trace.pump.writing = true)
      (resume : trace.pump.packetResumeOff = 0)
      (scratch : trace.pump.scratch = trace.fed.drop base) (within : base ≤ trace.fed.length)
      (sendOff : trace.pump.sendOff + 188 ≤ trace.pump.scratch.length)
      (uncut : ∀ cut ∈ trace.cuts, cut ≤ base) :
      Phase trace starts (some (base + trace.pump.sendOff))
  | finishing (start : Nat) (busy : trace.pump.busy = true) (writing : trace.pump.writing = true)
      (begun : 0 < trace.pump.packetResumeOff)
      (resume : trace.pump.packetResumeOff ≤ trace.pump.packetOff)
      (hold : trace.pump.hold = []) (sendOff : trace.pump.sendOff = 0)
      (scratch : trace.pump.scratch =
        (packetAt trace.fed start).drop trace.pump.packetResumeOff)
      (uncut : ∀ cut ∈ trace.cuts, cut ≤ trace.fed.length) :
      Phase trace starts (some start)

/-- The invariant of a run in descriptor mode. -/
structure Sound (byte : β → UInt8) (trace : Trace β) (starts : List Nat)
    (current : Option Nat) : Prop where
  descriptor : trace.pump.packetSink = false
  framed : Framed byte trace starts current
  phase : Phase trace starts current

variable {byte : β → UInt8} {trace : Trace β} {starts : List Nat} {current : Option Nat}

private theorem isPacket_moved {pump : OutputPump β} {out : List β}
    (packet : IsPacket byte trace start) :
    IsPacket byte { trace with pump := pump, out := out } start :=
  ⟨packet.within, packet.sync, packet.uncut⟩

private theorem isPacket_fed (packet : IsPacket byte trace start) (data : List β)
    (pump : OutputPump β) :
    IsPacket byte { trace with pump := pump, fed := trace.fed ++ data } start := by
  have within := packet.within
  refine ⟨?_, ?_, packet.uncut⟩
  · simp only [List.length_append]
    omega
  · simpa only [List.getElem?_append_left (show start < trace.fed.length by omega)]
      using packet.sync

private theorem isPacket_cut (packet : IsPacket byte trace start) (pump : OutputPump β) :
    IsPacket byte { trace with pump := pump, cuts := trace.cuts ++ [trace.fed.length] } start := by
  have within := packet.within
  refine ⟨packet.within, packet.sync, fun cut member => ?_⟩
  rcases List.mem_append.mp member with old | new
  · exact packet.uncut cut old
  · rw [List.mem_singleton.mp new]
    omega

/-- The bytes still to be written of the current packet are the ones `packet_off`
leaves over, wherever the pump keeps them. -/
private theorem unsent_of_phase (phase : Phase trace starts (some start)) :
    trace.pump.unsent = (packetAt trace.fed start).drop trace.pump.packetOff := by
  cases phase with
  | sending base busy writing resume scratch =>
    rw [OutputPump.unsent, resume, Nat.sub_zero, slice_of_suffix scratch, drop_slice, Nat.add_assoc]
  | finishing start busy writing begun resume hold sendOff scratch =>
    have advanced : trace.pump.packetResumeOff +
        (trace.pump.packetOff - trace.pump.packetResumeOff) = trace.pump.packetOff := by omega
    rw [OutputPump.unsent, sendOff, scratch, Nat.zero_add, List.drop_drop, advanced]
    apply List.take_of_length_le
    simp only [slice, List.length_drop, List.length_take]
    omega

/-- Writing `count` more bytes of the current packet extends the output by them. -/
private theorem output_extends (framed : Framed byte trace starts (some start))
    (phase : Phase trace starts (some start)) (count : Nat) :
    trace.out ++ trace.pump.unsent.take count =
      (starts.map (packetAt trace.fed)).flatten ++
        (packetAt trace.fed start).take (trace.pump.packetOff + count) := by
  rw [framed.output, unsent_of_phase phase, List.append_assoc, List.take_add]
  rfl

/-- A packet written to its end joins the complete ones. -/
private theorem output_completes (framed : Framed byte trace starts (some start))
    (phase : Phase trace starts (some start)) :
    trace.out ++ trace.pump.unsent =
      ((starts ++ [start]).map (packetAt trace.fed)).flatten := by
  rw [framed.output, unsent_of_phase phase, List.append_assoc]
  simp only [Option.elim, List.take_append_drop, List.map_append, List.map_cons, List.map_nil,
    List.flatten_append, List.flatten_cons, List.flatten_nil, List.append_nil]

/-- A pump that goes on with the same packet, or with none, only has to account
for its bytes: the packets written so far are where they were. -/
private theorem framed_moved {pump : OutputPump β} {out : List β}
    (framed : Framed byte trace starts current)
    (kept : current'.toList.Sublist current.toList)
    (output : out = (starts.map (packetAt trace.fed)).flatten ++
      current'.elim [] fun start => (packetAt trace.fed start).take pump.packetOff)
    (writing : current'.isSome = pump.writing) (unfinished : pump.packetOff < 188) :
    Framed byte { trace with pump := pump, out := out } starts current' := by
  have sublist : (starts ++ current'.toList).Sublist (starts ++ current.toList) :=
    List.Sublist.append_left kept starts
  exact ⟨output, writing, unfinished,
    fun start member => isPacket_moved (framed.packets start (sublist.subset member)),
    framed.disjoint.sublist sublist⟩

/-- Completing the current packet moves its start to the complete ones. -/
private theorem framed_completed {pump : OutputPump β}
    (framed : Framed byte trace starts (some start)) (phase : Phase trace starts (some start))
    (writing : pump.writing = false) (offset : pump.packetOff = 0) :
    Framed byte { trace with pump := pump, out := trace.out ++ trace.pump.unsent }
      (starts ++ [start]) none := by
  refine ⟨?_, writing.symm, by simp only [offset]; omega, ?_, ?_⟩
  · simpa using output_completes framed phase
  · intro packet member
    exact isPacket_moved (framed.packets packet (by simpa using member))
  · simpa using framed.disjoint

private theorem used_by_current (framed : Framed byte trace starts (some start)) :
    ∀ packet ∈ starts ++ [start], packet + 188 ≤ start + 188 := by
  intro packet member
  rcases List.mem_append.mp member with earlier | last
  · have before := (List.pairwise_append.mp framed.disjoint).2.2 packet earlier start (by simp)
    omega
  · have same := List.mem_singleton.mp last
    omega

/-- One handover keeps the invariant, whatever the descriptor answers. -/
private theorem send_keeps (sound : Sound byte trace starts (some start)) (answer : Int) :
    ∃ starts' current', Sound byte { trace with
      pump := (trace.pump.send answer).pump,
      out := trace.out ++ (trace.pump.send answer).written } starts' current' := by
  obtain ⟨descriptor, framed, phase⟩ := sound
  have unfinished := framed.unfinished
  rcases OutputPump.send_cases descriptor unfinished answer with
    ⟨rc, count, few, sent⟩ | ⟨resumed, sent⟩ | ⟨fresh, sent⟩
  · -- stopped in the middle: the same packet, with `count` more bytes out
    rw [sent]
    refine ⟨starts, some start, descriptor, framed_moved framed (List.Sublist.refl _)
      (output_extends framed phase count) framed.writing (by simp only; omega), ?_⟩
    cases phase with
    | sending base busy writing resume scratch within sendOff uncut =>
      exact .sending base busy writing resume scratch within sendOff uncut
    | finishing start busy writing begun resume hold sendOff scratch uncut =>
      exact .finishing start busy writing begun (by simp only; omega) hold sendOff scratch uncut
  · -- the remainder of a packet cut by a retune is out, and nothing else is left
    rw [sent]
    refine ⟨starts ++ [start], none, descriptor, framed_completed framed phase rfl rfl, ?_⟩
    cases phase with
    | sending base busy writing resume => exact absurd resume resumed
    | finishing start busy writing begun resume hold sendOff scratch uncut =>
      refine .idle trace.fed.length rfl rfl rfl rfl (by simpa using hold) (Nat.le_refl _) uncut ?_
      intro packet member
      exact (framed.packets packet (by simpa using member)).within
  · -- a packet of scratch is out: scanning goes on behind it
    rw [sent]
    refine ⟨starts ++ [start], none, descriptor, framed_completed framed phase rfl rfl, ?_⟩
    have used := used_by_current framed
    cases phase with
    | sending base busy writing resume scratch within sendOff uncut =>
      exact .scanning base busy rfl rfl resume scratch within (by simp only; omega) uncut
        (fun packet member => by simpa [Nat.add_assoc] using used packet member)
    | finishing start busy writing begun => omega

/-- Resynchronising begins a packet behind all the others, or keeps the rest. -/
private theorem prepare_keeps (sound : Sound byte trace starts current) :
    ∃ current', Sound byte { trace with pump := trace.pump.prepare byte } starts current' := by
  obtain ⟨descriptor, framed, phase⟩ := sound
  cases phase with
  | idle base busy writing offset resume hold within uncut used =>
    have same : trace.pump.prepare byte = trace.pump := by simp [OutputPump.prepare, busy]
    rw [same]
    exact ⟨none, descriptor, framed, .idle base busy writing offset resume hold within uncut used⟩
  | sending base busy writing resume scratch within sendOff uncut =>
    have same : trace.pump.prepare byte = trace.pump := by simp [OutputPump.prepare, writing]
    rw [same]
    exact ⟨_, descriptor, framed, .sending base busy writing resume scratch within sendOff uncut⟩
  | finishing start busy writing begun resume hold sendOff scratch uncut =>
    have same : trace.pump.prepare byte = trace.pump := by simp [OutputPump.prepare, writing]
    rw [same]
    exact ⟨_, descriptor, framed,
      .finishing start busy writing begun resume hold sendOff scratch uncut⟩
  | scanning base busy writing offset resume scratch within sendOff uncut used =>
    have seeks : trace.pump.prepare byte = trace.pump.seek byte := by
      simp [OutputPump.prepare, busy, writing]
    have bound : trace.pump.scratch.length = trace.fed.length - base := by simp [scratch]
    obtain ⟨found, ahead, inside, ⟨fits, sync, sought⟩ | ⟨short, sought⟩⟩ :=
      OutputPump.seek_cases byte sendOff
    · rw [seeks, sought]
      refine ⟨some (base + found), descriptor, ?_, ?_⟩
      · have packet : IsPacket byte trace (base + found) := by
          refine ⟨by omega, by simpa [scratch] using sync, fun cut member => ?_⟩
          have before := uncut cut member
          omega
        refine ⟨by simpa using framed.output, rfl, by simp only; omega, ?_, ?_⟩
        · intro start member
          simp only [Option.toList_some, List.mem_append, List.mem_singleton] at member
          rcases member with earlier | rfl
          · exact isPacket_moved (framed.packets start (by simpa using earlier))
          · exact isPacket_moved packet
        · refine List.pairwise_append.mpr ⟨(by simpa using framed.disjoint), by simp, ?_⟩
          intro start member last new
          rw [Option.toList_some, List.mem_singleton] at new
          have before := used start member
          omega
      · exact .sending base busy rfl resume scratch within fits uncut
    · rw [seeks, sought]
      refine ⟨none, descriptor, framed_moved framed (List.Sublist.refl _) framed.output
        framed.writing framed.unfinished, ?_⟩
      refine .idle (base + found) rfl writing offset resume ?_ (by simp only; omega)
        (fun cut member => Nat.le_trans (uncut cut member) (Nat.le_add_right _ _)) ?_
      · simp only [scratch, List.drop_drop]
      · intro start member
        have before := used start member
        omega

/-- A whole call keeps the invariant. -/
private theorem step_keeps (answers : List Int) (sound : Sound byte trace starts current) :
    ∃ starts' current', Sound byte { trace with
      pump := (trace.pump.step byte answers).pump,
      out := trace.out ++ (trace.pump.step byte answers).written } starts' current' := by
  refine OutputPump.step_rule byte (fun pump out _ =>
    ∃ starts current, Sound byte { trace with pump := pump, out := out } starts current)
    ?_ ?_ answers trace.out [] ⟨starts, current, sound⟩
  · rintro pump out _ ⟨starts, current, sound⟩
    obtain ⟨current', prepared⟩ := prepare_keeps sound
    exact ⟨starts, current', prepared⟩
  · rintro pump out _ answer ⟨starts, current, sound⟩ _ writing
    obtain ⟨start, rfl⟩ := Option.isSome_iff_exists.mp (sound.framed.writing.trans writing)
    exact send_keeps sound answer

/-- Feeding an idle pump appends to the stream right behind what it held. -/
private theorem feed_keeps (sound : Sound byte trace starts current)
    (idle : trace.pump.busy = false) (data : List β) :
    Sound byte { trace with pump := trace.pump.feed data, fed := trace.fed ++ data }
      starts none := by
  obtain ⟨descriptor, framed, phase⟩ := sound
  cases phase with
  | idle base busy writing offset resume hold within uncut used =>
    have same : starts.map (packetAt (trace.fed ++ data)) = starts.map (packetAt trace.fed) :=
      List.map_congr_left fun start member =>
        slice_append_of_le (framed.packets start (by simpa using member)).within
    refine ⟨descriptor, ⟨?_, rfl, by simp [OutputPump.feed], ?_, framed.disjoint⟩, ?_⟩
    · simpa [same] using framed.output
    · exact fun start member => isPacket_fed (framed.packets start member) data _
    · refine .scanning base rfl rfl rfl rfl ?_ ?_ (Nat.zero_le _) uncut used
      · simp [OutputPump.feed, hold, List.drop_append_of_le_length within]
      · simp only [List.length_append]
        omega
  | scanning base busy => simp [busy] at idle
  | sending base busy => simp [busy] at idle
  | finishing start busy => simp [busy] at idle

/-- After a reset the pump owns nothing, and the next byte fed comes after the cut. -/
private theorem reset_keeps (framed : Framed byte trace starts current)
    (descriptor : trace.pump.packetSink = false)
    (nothing : trace.out = (starts.map (packetAt trace.fed)).flatten)
    (uncut : ∀ cut ∈ trace.cuts, cut ≤ trace.fed.length) :
    Sound byte { trace with pump := trace.pump.reset, cuts := trace.cuts ++ [trace.fed.length] }
      starts none := by
  have kept : ∀ start ∈ starts, IsPacket byte trace start :=
    fun start member => framed.packets start (List.mem_append_left _ member)
  refine ⟨descriptor, ⟨by simpa using nothing, rfl, by simp [OutputPump.reset], ?_, ?_⟩, ?_⟩
  · intro start member
    exact isPacket_cut (kept start (by simpa using member)) _
  · simpa using framed.disjoint.sublist (List.sublist_append_left starts current.toList)
  · refine .idle trace.fed.length rfl rfl rfl rfl (by simp [OutputPump.reset]) (Nat.le_refl _) ?_
      (fun start member => (kept start member).within)
    intro cut member
    rcases List.mem_append.mp member with old | new
    · exact uncut cut old
    · exact Nat.le_of_eq (List.mem_singleton.mp new)

/-- A retune in the middle of a packet keeps just the rest of that packet. -/
private theorem retune_mid_packet (sound : Sound byte trace starts (some start))
    (begun : trace.pump.packetOff ≠ 0)
    (uncut : ∀ cut ∈ trace.cuts, cut ≤ trace.fed.length) :
    Sound byte { trace with pump := trace.pump.retune, cuts := trace.cuts ++ [trace.fed.length] }
      starts (some start) := by
  obtain ⟨descriptor, framed, phase⟩ := sound
  have rest := unsent_of_phase phase
  have unfinished := framed.unfinished
  have writing : trace.pump.writing = true := by simpa using framed.writing.symm
  have resumed : trace.pump.packetResumeOff ≤ trace.pump.packetOff := by
    cases phase with
    | sending base busy writing resume => omega
    | finishing start busy writing begun resume => exact resume
  have tuned : trace.pump.retune = { trace.pump with
      hold := [], scratch := trace.pump.unsent, sendOff := 0,
      packetResumeOff := trace.pump.packetOff, writing := true, busy := true } := by
    simp [OutputPump.retune, writing, begun, Nat.not_le.mpr unfinished,
      Nat.not_lt.mpr resumed, OutputPump.unsent]
  rw [tuned]
  refine ⟨descriptor, ⟨framed.output, rfl, unfinished, ?_, framed.disjoint⟩, ?_⟩
  · exact fun packet member => isPacket_cut (framed.packets packet member) _
  · refine .finishing start rfl rfl (by simp only; omega) (Nat.le_refl _) rfl rfl rest ?_
    intro cut member
    rcases List.mem_append.mp member with old | new
    · exact uncut cut old
    · exact Nat.le_of_eq (List.mem_singleton.mp new)

private theorem cuts_within (sound : Sound byte trace starts current) :
    ∀ cut ∈ trace.cuts, cut ≤ trace.fed.length := by
  intro cut member
  cases sound.phase with
  | idle base busy writing offset resume hold within uncut =>
    exact Nat.le_trans (uncut cut member) within
  | scanning base busy writing offset resume scratch within sendOff uncut =>
    exact Nat.le_trans (uncut cut member) within
  | sending base busy writing resume scratch within sendOff uncut =>
    exact Nat.le_trans (uncut cut member) within
  | finishing start busy writing begun resume hold sendOff scratch uncut => exact uncut cut member

private theorem retune_keeps (sound : Sound byte trace starts current) :
    ∃ current', Sound byte
      { trace with pump := trace.pump.retune, cuts := trace.cuts ++ [trace.fed.length] }
      starts current' := by
  have uncut := cuts_within sound
  cases current with
  | none =>
    have idle : trace.pump.writing = false := by simpa using sound.framed.writing.symm
    have tuned : trace.pump.retune = trace.pump.reset := by simp [OutputPump.retune, idle]
    rw [tuned]
    exact ⟨none,
      reset_keeps sound.framed sound.descriptor (by simpa using sound.framed.output) uncut⟩
  | some start =>
    by_cases begun : trace.pump.packetOff = 0
    · have tuned : trace.pump.retune = trace.pump.reset := by simp [OutputPump.retune, begun]
      rw [tuned]
      exact ⟨none, reset_keeps sound.framed sound.descriptor
        (by simpa [begun] using sound.framed.output) uncut⟩
    · exact ⟨some start, retune_mid_packet sound begun uncut⟩

theorem next_keeps (sound : ∃ starts current, Sound byte trace starts current)
    (taken : next byte trace action = some after) :
    ∃ starts current, Sound byte after starts current := by
  obtain ⟨starts, current, sound⟩ := sound
  cases action with
  | feed data =>
    simp only [next, Option.ite_none_right_eq_some, Option.some.injEq] at taken
    obtain ⟨⟨idle, _⟩, rfl⟩ := taken
    exact ⟨starts, none, feed_keeps sound idle data⟩
  | step answers =>
    cases taken
    exact step_keeps answers sound
  | retune =>
    cases taken
    exact ⟨starts, retune_keeps sound⟩

theorem init_sound (byte : β → UInt8) : Sound byte {} [] none :=
  ⟨rfl, ⟨rfl, rfl, Nat.zero_lt_succ _, by simp, by simp⟩,
    .idle 0 rfl rfl rfl rfl rfl (Nat.le_refl _) (by simp) (by simp)⟩

/-- **The output stays framed.** After any run from `siano_output_pump_init`, the
bytes written are whole packets of the fed stream followed by a proper prefix of
one more while the pump is writing; the packets are disjoint and in feed order,
and no packet spans a retune. -/
theorem run_framed (byte : β → UInt8) (actions : List (Action β))
    (ran : run (next byte) {} actions = some trace) :
    ∃ starts current, Framed byte trace starts current := by
  have sound := run_keeps (fun trace => ∃ starts current, Sound byte trace starts current)
    (fun _ _ _ => next_keeps) ⟨[], none, init_sound byte⟩ ran
  obtain ⟨starts, current, sound⟩ := sound
  exact ⟨starts, current, sound.framed⟩

/-- A packet that a retune catches half written is completed with its own bytes. -/
theorem run_framed_retune_mid_packet :
    ∃ trace : Trace UInt8, ∃ starts current,
      run (next id) {} [.feed (0x47 :: List.replicate 200 7), .step [100], .retune, .step [88]] =
        some trace ∧
      trace.out = 0x47 :: List.replicate 187 7 ∧ Framed id trace starts current := by
  have written : (run (next id) {} [.feed (0x47 :: List.replicate 200 7), .step [100], .retune,
      .step [88]]).map Trace.out = some ((0x47 : UInt8) :: List.replicate 187 7) := by
    decide +kernel
  obtain ⟨trace, ran, out⟩ := Option.map_eq_some_iff.mp written
  obtain ⟨starts, current, framed⟩ := run_framed id _ ran
  exact ⟨trace, starts, current, ran, out, framed⟩

end SianoUserland.OutputFraming
