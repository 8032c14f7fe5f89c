import SianoUserland.PacketCut

/-! The two modes of the pump side by side. The descriptor may take a packet in
pieces and the sink may refuse it any number of times; both end up with the packets
the input is cut into. -/
namespace SianoUserland.SinkAgreement
open Transition OutputPump PacketCut

variable {byte : β → UInt8} {state after : Run β} {pump : OutputPump β}
  {packets done : List (List β)} {rest out : List β}

/-- The descriptor has got the packets that are done, and the beginning of the one
that is being written. -/
structure Written (byte : β → UInt8) (packets : List (List β)) (rest : List β)
    (done : List (List β)) (pump : OutputPump β) (out : List β) : Prop where
  descriptor : pump.packetSink = false
  cutting : Cutting byte packets rest done pump
  output : out = done.flatten ++ if pump.writing then (packet pump).take pump.packetOff else []

/-- The sink got every packet that is done as often as it took to accept it, and the
one in front of which the pump stands without success so far. -/
structure Offered (byte : β → UInt8) (packets : List (List β)) (rest : List β)
    (offers : List (List β × List Int)) (pump : OutputPump β) (log : List (List β × Int)) :
    Prop where
  sink : pump.packetSink = true
  cutting : Cutting byte packets rest (offers.map Prod.fst) pump
  refused : ∀ offer ∈ offers, ∀ answer ∈ offer.2, answer ≠ 0
  log : ∃ refusals : List Int, (∀ answer ∈ refusals, answer ≠ 0) ∧
    (pump.writing = false → refusals = []) ∧
    log = offers.flatMap (fun offer => offer.2.map (offer.1, ·) ++ [(offer.1, 0)]) ++
      refusals.map (packet pump, ·)
  whole : ∀ offer ∈ offers, offer.1.length = 188

theorem unsent_packet (resume : pump.packetResumeOff = 0) :
    pump.unsent = (packet pump).drop pump.packetOff := by
  rw [unsent, packet, resume, Nat.sub_zero, List.drop_take, List.drop_drop]

/-- Whatever the descriptor answers, the packet goes on from where it stopped. -/
theorem written_send (written : Written byte packets rest done pump out)
    (writing : pump.writing = true) (answer : Int) :
    ∃ done, Written byte packets rest done (pump.send answer).pump
      (out ++ (pump.send answer).written) := by
  obtain ⟨descriptor, cutting, output⟩ := written
  have unsent := unsent_packet cutting.resume
  rw [if_pos writing] at output
  rcases send_cases descriptor (cutting.unfinished writing) answer with
    ⟨rc, count, few, sent⟩ | ⟨resumed, _⟩ | ⟨_, sent⟩
  · rw [sent]
    refine ⟨done, descriptor, ?_, ?_⟩
    · exact ⟨cutting.resume, cutting.within, cutting.busy, fun _ => by simp only; omega,
        cutting.room, cutting.synced, cutting.packets, cutting.rest⟩
    · simp only [writing, ↓reduceIte]
      rw [output, unsent, List.append_assoc]
      exact congrArg (done.flatten ++ ·) List.take_add.symm
  · exact absurd cutting.resume resumed
  · rw [sent]
    refine ⟨done ++ [packet pump], descriptor, cutting_handed cutting writing, ?_⟩
    simp only [Bool.false_eq_true, ↓reduceIte, List.append_nil, List.flatten_append,
      List.flatten_cons, List.flatten_nil]
    rw [output, unsent, List.append_assoc, List.take_append_drop]

theorem written_prepare (written : Written byte packets rest done pump out) :
    Written byte packets rest done (pump.prepare byte) out := by
  refine ⟨by simpa using written.descriptor, cutting_prepare written.cutting, ?_⟩
  have output := written.output
  unfold prepare
  split
  · rename_i scanning
    rw [scanning.2] at output
    unfold seek
    simp only
    split
    · simpa using output
    · simpa [scanning.2] using output
  · exact output

theorem send_accepted (sink : pump.packetSink = true) :
    pump.send 0 =
      { rc := none
        offered := [(packet pump, 0)]
        pump := { pump with
          sendOff := pump.sendOff + 188, packetOff := 0, writing := false } } := by
  simp [send, sink, packet]

theorem send_refused (sink : pump.packetSink = true) (refused : answer ≠ 0) :
    (pump.send answer).pump = pump ∧ (pump.send answer).offered = [(packet pump, answer)] := by
  simp [send, sink, refused, packet]

/-- A refused packet is kept as it is; an accepted one is done. -/
theorem offered_send {offers : List (List β × List Int)} {log : List (List β × Int)}
    (offered : Offered byte packets rest offers pump log)
    (writing : pump.writing = true) (answer : Int) :
    ∃ offers, Offered byte packets rest offers (pump.send answer).pump
      (log ++ (pump.send answer).offered) := by
  obtain ⟨sink, cutting, refused, ⟨refusals, nonzero, _, log⟩, whole⟩ := offered
  by_cases accepted : answer = 0
  · subst accepted
    refine ⟨offers ++ [(packet pump, refusals)], ?_⟩
    have handed := cutting_handed cutting writing
    rw [send_accepted sink]
    refine ⟨sink, by simpa using handed, ?_, ⟨[], nofun, fun _ => rfl, ?_⟩, ?_⟩
    · intro offer member
      rcases List.mem_append.mp member with before | now
      · exact refused offer before
      · rw [List.mem_singleton.mp now]
        exact nonzero
    · simp [log]
    · intro offer member
      rcases List.mem_append.mp member with before | now
      · exact whole offer before
      · rw [List.mem_singleton.mp now]
        exact length_packet cutting writing
  · refine ⟨offers, ?_⟩
    obtain ⟨same, logged⟩ := send_refused sink accepted
    rw [same, logged]
    refine ⟨sink, cutting, refused, ⟨refusals ++ [answer], ?_, ?_, ?_⟩, whole⟩
    · intro other member
      rcases List.mem_append.mp member with before | now
      · exact nonzero other before
      · rw [List.mem_singleton.mp now]
        exact accepted
    · exact fun idle => absurd (idle.symm.trans writing) Bool.false_ne_true
    · simp [log]

theorem offered_prepare {offers : List (List β × List Int)} {log : List (List β × Int)}
    (offered : Offered byte packets rest offers pump log) :
    Offered byte packets rest offers (pump.prepare byte) log := by
  obtain ⟨sink, cutting, refused, ⟨refusals, nonzero, idle, log⟩, whole⟩ := offered
  refine ⟨by simpa using sink, cutting_prepare cutting, refused, ?_, whole⟩
  unfold prepare
  split
  · rename_i scanning
    have none := idle scanning.2
    subst none
    exact ⟨[], nofun, fun _ => rfl, by simpa using log⟩
  · exact ⟨refusals, nonzero, idle, log⟩

/-- The bytes a run has written are those of the packets that are done. -/
def FitsDescriptor (byte : β → UInt8) (state : Run β) : Prop :=
  ∃ done, Written byte (cutChunks byte state.chunks).1 (cutChunks byte state.chunks).2 done
    state.pump state.out

/-- The packets a run has offered are those that are done, and the next. -/
def FitsSink (byte : β → UInt8) (state : Run β) : Prop :=
  ∃ offers, Offered byte (cutChunks byte state.chunks).1 (cutChunks byte state.chunks).2 offers
    state.pump state.offered

theorem next_fitsDescriptor (fits : FitsDescriptor byte state)
    (taken : next byte state action = some after) : FitsDescriptor byte after := by
  obtain ⟨done, written⟩ := fits
  cases action with
  | feed chunk =>
    simp only [next, Option.ite_none_right_eq_some, Option.some.injEq] at taken
    obtain ⟨⟨idle, _⟩, rfl⟩ := taken
    obtain ⟨descriptor, cutting, output⟩ := written
    refine ⟨done, descriptor, ?_, ?_⟩
    · rw [cutChunks_concat]
      exact cutting_feed cutting idle chunk
    · rw [(cutting_idle cutting idle).1] at output
      exact output
  | step answers =>
    cases taken
    apply step_rule byte (fun pump written _ => ∃ done,
      Written byte (cutChunks byte state.chunks).1 (cutChunks byte state.chunks).2 done pump
        (state.out ++ written)) _ _ answers [] [] ⟨done, by simpa using written⟩
    · rintro pump written _ ⟨done, held⟩
      exact ⟨done, written_prepare held⟩
    · rintro pump written _ answer ⟨done, held⟩ _ writing
      rw [← List.append_assoc]
      exact written_send held writing answer

theorem next_fitsSink (fits : FitsSink byte state)
    (taken : next byte state action = some after) : FitsSink byte after := by
  obtain ⟨offers, offered⟩ := fits
  cases action with
  | feed chunk =>
    simp only [next, Option.ite_none_right_eq_some, Option.some.injEq] at taken
    obtain ⟨⟨idle, _⟩, rfl⟩ := taken
    obtain ⟨sink, cutting, refused, ⟨refusals, nonzero, parked, log⟩, whole⟩ := offered
    have none := parked (cutting_idle cutting idle).1
    subst none
    refine ⟨offers, sink, ?_, refused, ⟨[], nofun, fun _ => rfl, log⟩, whole⟩
    rw [cutChunks_concat]
    exact cutting_feed cutting idle chunk
  | step answers =>
    cases taken
    apply step_rule byte (fun pump _ log => ∃ offers,
      Offered byte (cutChunks byte state.chunks).1 (cutChunks byte state.chunks).2 offers pump
        (state.offered ++ log)) _ _ answers [] [] ⟨offers, by simpa using offered⟩
    · rintro pump _ log ⟨offers, held⟩
      exact ⟨offers, offered_prepare held⟩
    · rintro pump _ log answer ⟨offers, held⟩ _ writing
      rw [← List.append_assoc]
      exact offered_send held writing answer

/-- A run in descriptor mode that has caught up with its input has written the packets
the input is cut into, and holds the rest. -/
theorem descriptor_caught_up (ran : run (next byte) { pump := .init } actions = some state)
    (idle : state.pump.busy = false) :
    state.out = (cutChunks byte state.chunks).1.flatten ∧
      state.pump.hold = (cutChunks byte state.chunks).2 := by
  have start : FitsDescriptor byte { pump := .init } := ⟨[], rfl, cutting_init false, rfl⟩
  obtain ⟨done, written⟩ := run_keeps (FitsDescriptor byte)
    (fun _ _ _ => next_fitsDescriptor) start ran
  obtain ⟨unwritten, packets, rest⟩ := cutting_idle written.cutting idle
  have output := written.output
  rw [unwritten] at output
  rw [packets, rest]
  exact ⟨by simpa using output, rfl⟩

/-- The same in sink mode, where each packet was refused some number of times and then
accepted once. -/
theorem sink_caught_up (ran : run (next byte) { pump := .initSink } actions = some state)
    (idle : state.pump.busy = false) :
    ∃ offers : List (List β × List Int),
      state.offered = offers.flatMap (fun offer => offer.2.map (offer.1, ·) ++ [(offer.1, 0)]) ∧
      (∀ offer ∈ offers, offer.1.length = 188 ∧ ∀ answer ∈ offer.2, answer ≠ 0) ∧
      offers.map Prod.fst = (cutChunks byte state.chunks).1 ∧
      state.pump.hold = (cutChunks byte state.chunks).2 := by
  have start : FitsSink byte { pump := .initSink } :=
    ⟨[], rfl, cutting_init true, nofun, ⟨[], nofun, fun _ => rfl, rfl⟩, nofun⟩
  obtain ⟨offers, offered⟩ := run_keeps (FitsSink byte) (fun _ _ _ => next_fitsSink) start ran
  obtain ⟨unwritten, packets, rest⟩ := cutting_idle offered.cutting idle
  obtain ⟨refusals, _, parked, log⟩ := offered.log
  have none := parked unwritten
  subst none
  refine ⟨offers, by simpa using log, ?_, packets.symm, rest.symm⟩
  exact fun offer member => ⟨offered.whole offer member, offered.refused offer member⟩

/-- **Both modes cut the same packets.** Take any run of each mode over the same chunks
that has caught up with them, whatever the descriptor and the sink answered. The sink
was offered a sequence of packets, each unchanged until it accepted it and never after;
these packets, one after the other, are what was written to the descriptor, and both
pumps hold the same rest. -/
theorem sink_agrees_with_descriptor (byte : β → UInt8)
    (written : run (next byte) { pump := .init } writes = some descriptor)
    (offered : run (next byte) { pump := .initSink } offers = some sink)
    (same : descriptor.chunks = sink.chunks)
    (descriptorIdle : descriptor.pump.busy = false) (sinkIdle : sink.pump.busy = false) :
    ∃ accepted : List (List β × List Int),
      sink.offered = accepted.flatMap (fun offer => offer.2.map (offer.1, ·) ++ [(offer.1, 0)]) ∧
      (∀ offer ∈ accepted, offer.1.length = 188 ∧ ∀ answer ∈ offer.2, answer ≠ 0) ∧
      descriptor.out = (accepted.map Prod.fst).flatten ∧
      descriptor.pump.hold = sink.pump.hold := by
  obtain ⟨output, held⟩ := descriptor_caught_up written descriptorIdle
  obtain ⟨accepted, log, whole, packets, rest⟩ := sink_caught_up offered sinkIdle
  refine ⟨accepted, log, whole, ?_, ?_⟩
  · rw [output, same, packets]
  · rw [held, same, rest]

/-- A packet behind two stray bytes, in front of one more. -/
def strayBytes : List UInt8 := [1, 2, 0x47] ++ List.replicate 187 7 ++ [9]

/-- The descriptor takes the packet in two pieces, the sink takes it at its third offer. -/
theorem sink_agrees_refused_twice :
    ∃ descriptor sink : Run UInt8, ∃ accepted : List (List UInt8 × List Int),
      run (next id) { pump := .init } [.feed strayBytes, .step [100], .step [-4], .step [88]] =
        some descriptor ∧
      run (next id) { pump := .initSink } [.feed strayBytes, .step [-105], .step [1], .step [0]] =
        some sink ∧
      sink.offered = accepted.flatMap (fun offer => offer.2.map (offer.1, ·) ++ [(offer.1, 0)]) ∧
      descriptor.out = (accepted.map Prod.fst).flatten ∧ descriptor.pump.hold = [9] ∧
      sink.pump.hold = [9] := by
  have writes : (run (next id) { pump := .init }
      [.feed strayBytes, .step [100], .step [-4], .step [88]]).any (fun state =>
        (state.pump.busy = false ∧ state.chunks = [strayBytes] ∧ state.pump.hold = [9] : Bool)) =
      true := by
    decide +kernel
  have offers : (run (next id) { pump := .initSink }
      [.feed strayBytes, .step [-105], .step [1], .step [0]]).any (fun state =>
        (state.pump.busy = false ∧ state.chunks = [strayBytes] ∧ state.pump.hold = [9] : Bool)) =
      true := by
    decide +kernel
  obtain ⟨descriptor, written, reached⟩ := (Option.any_eq_true _ _).mp writes
  obtain ⟨sink, offered, caughtUp⟩ := (Option.any_eq_true _ _).mp offers
  obtain ⟨descriptorIdle, fed, held⟩ := of_decide_eq_true reached
  obtain ⟨sinkIdle, fedSink, heldSink⟩ := of_decide_eq_true caughtUp
  obtain ⟨accepted, log, _, output, _⟩ := sink_agrees_with_descriptor id written offered
    (fed.trans fedSink.symm) descriptorIdle sinkIdle
  exact ⟨descriptor, sink, accepted, written, offered, log, output, held, heldSink⟩

end SianoUserland.SinkAgreement
