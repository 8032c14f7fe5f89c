import Mathlib.Data.List.Induction
import SianoUserland.SinkAgreement

/-! Streams that are in step with their packets pass through the pump without loss,
wherever they are cut into chunks. -/
namespace SianoUserland.AlignedStream
open Transition OutputPump PacketCut SinkAgreement

variable {β : Type}

/-- Every position that a packet should start at holds a sync byte. -/
def Aligned (byte : β → UInt8) (stream : List β) : Prop :=
  ∀ position, 188 ∣ position → position < stream.length →
    stream[position]?.map byte = some 0x47

/-- The length of the whole packets of a stream. -/
def wholeLength (stream : List β) : Nat := 188 * (stream.length / 188)

variable {byte : β → UInt8} {stream later : List β}

theorem aligned_drop (aligned : Aligned byte stream) (packets : Nat) :
    Aligned byte (stream.drop (188 * packets)) := by
  intro position multiple inside
  rw [List.length_drop] at inside
  rw [List.getElem?_drop]
  exact aligned _ (Nat.dvd_add (Nat.dvd_mul_right _ _) multiple) (by omega)

theorem aligned_shorter (aligned : Aligned byte (stream ++ later)) : Aligned byte stream := by
  intro position multiple inside
  rw [← List.getElem?_append_left inside]
  exact aligned position multiple (by rw [List.length_append]; omega)

/-- The lookahead of the scan finds the next sync byte where it expects it. -/
theorem aligned_inSync (aligned : Aligned byte stream) (fits : 188 ≤ stream.length) :
    inSync byte stream = true := by
  have first := aligned 0 (Nat.dvd_zero _) (by omega)
  simp only [inSync, first, BEq.rfl, Bool.true_and, Bool.or_eq_true, decide_eq_true_eq]
  by_cases two : stream.length < 376
  · exact Or.inl two
  · exact Or.inr (by rw [aligned 188 (Nat.dvd_refl _) (by omega)]; rfl)

/-- An aligned buffer is cut every 188 bytes from its beginning on. -/
theorem cut_aligned {stream : List β} (aligned : Aligned byte stream) :
    (cut byte stream).1.flatten = stream.take (wholeLength stream) ∧
      (cut byte stream).2 = stream.drop (wholeLength stream) := by
  by_cases fits : 188 ≤ stream.length
  · rw [cut_of_packet fits (aligned_inSync aligned fits)]
    obtain ⟨packets, rest⟩ := cut_aligned (aligned_drop aligned 1)
    have whole : wholeLength stream = 188 + wholeLength (stream.drop 188) := by
      simp only [wholeLength, List.length_drop]
      omega
    constructor
    · simp only [List.flatten_cons]
      rw [packets, whole, ← List.take_add]
    · simp only
      rw [rest, whole, List.drop_drop]
  · rw [cut_of_short (by omega)]
    have none : wholeLength stream = 0 := by
      simp only [wholeLength]
      omega
    rw [none]
    exact ⟨rfl, rfl⟩
termination_by stream.length
decreasing_by
  simp only [List.length_drop]
  omega

/-- Where the stream is cut into chunks does not show. -/
theorem cutChunks_aligned (chunks : List (List β)) (aligned : Aligned byte chunks.flatten) :
    (cutChunks byte chunks).1.flatten = chunks.flatten.take (wholeLength chunks.flatten) ∧
      (cutChunks byte chunks).2 = chunks.flatten.drop (wholeLength chunks.flatten) := by
  induction chunks using List.reverseRecOn with
  | nil => simp [cutChunks]
  | append_singleton chunks chunk ih =>
    have joined : (chunks ++ [chunk]).flatten = chunks.flatten ++ chunk := by simp
    rw [joined] at aligned ⊢
    obtain ⟨packets, rest⟩ := ih (aligned_shorter aligned)
    have bound : wholeLength chunks.flatten ≤ chunks.flatten.length := by
      simp only [wholeLength]
      omega
    have behind : (cutChunks byte chunks).2 ++ chunk =
        (chunks.flatten ++ chunk).drop (wholeLength chunks.flatten) := by
      rw [rest, List.drop_append_of_le_length bound]
    have whole : wholeLength (chunks.flatten ++ chunk) = wholeLength chunks.flatten +
        wholeLength ((chunks.flatten ++ chunk).drop (wholeLength chunks.flatten)) := by
      simp only [wholeLength, List.length_drop, List.length_append]
      omega
    obtain ⟨found, left⟩ := cut_aligned (aligned_drop aligned (chunks.flatten.length / 188))
    rw [cutChunks_concat, behind]
    constructor
    · simp only [List.flatten_append]
      rw [packets, whole, List.take_add]
      refine congrArg₂ (· ++ ·) ?_ found
      rw [List.take_append_of_le_length bound]
    · simp only
      rw [whole, ← List.drop_drop]
      exact left

/-- **Aligned streams pass through.** Over every run that feeds an aligned stream in
any chunks, against any answers of the descriptor, and has caught up with it: what was
written is exactly the whole packets of the stream, and the pump holds exactly the
bytes behind them. -/
theorem aligned_passes_through (byte : β → UInt8)
    (ran : run (next byte) { pump := .init } actions = some state)
    (aligned : Aligned byte state.chunks.flatten) (idle : state.pump.busy = false) :
    state.out = state.chunks.flatten.take (188 * (state.chunks.flatten.length / 188)) ∧
      state.pump.hold =
        state.chunks.flatten.drop (188 * (state.chunks.flatten.length / 188)) := by
  obtain ⟨output, held⟩ := descriptor_caught_up ran idle
  obtain ⟨packets, rest⟩ := cutChunks_aligned state.chunks aligned
  exact ⟨output.trans packets, held.trans rest⟩

/-- A packet and a bit, cut in the middle of the packet and written in pieces. -/
def inPieces : List (Action UInt8) :=
  [.feed (0x47 :: List.replicate 99 7), .step [], .feed (List.replicate 88 7 ++ [0x47, 7]),
    .step [120], .step [0], .step [68]]

theorem aligned_passes_in_pieces :
    ∃ state, run (next id) { pump := .init } inPieces = some state ∧
      state.out = 0x47 :: List.replicate 187 7 ∧ state.pump.hold = [0x47, 7] := by
  have evaluated : (run (next id) { pump := .init } inPieces).any (fun state =>
      (state.pump.busy = false ∧
        state.chunks = [0x47 :: List.replicate 99 7, List.replicate 88 7 ++ [0x47, 7]] : Bool)) =
      true := by
    decide +kernel
  obtain ⟨state, ran, reached⟩ := (Option.any_eq_true _ _).mp evaluated
  obtain ⟨idle, chunks⟩ := of_decide_eq_true reached
  have aligned : Aligned id state.chunks.flatten := by
    rw [chunks]
    intro position multiple inside
    simp only [List.flatten_cons, List.flatten_nil, List.length_append, List.length_cons,
      List.length_replicate, List.length_nil] at inside
    obtain ⟨packets, rfl⟩ := multiple
    have few : packets = 0 ∨ packets = 1 := by omega
    rcases few with rfl | rfl
    · rfl
    · decide +kernel
  obtain ⟨output, held⟩ := aligned_passes_through id ran aligned idle
  refine ⟨state, ran, ?_, ?_⟩
  · rw [output, chunks]
    decide +kernel
  · rw [held, chunks]
    decide +kernel

end SianoUserland.AlignedStream
