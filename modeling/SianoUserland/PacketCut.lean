import SianoUserland.Lib.Transition
import SianoUserland.OutputPump

/-! What a pump makes of its input, apart from how it is handed over. A buffer is
cut into packets and a rest, and the rest of one chunk goes in front of the next.
Neither mode of the pump, nor the answers it gets, has a part in that. -/
namespace SianoUserland.PacketCut
open Transition OutputPump

variable {β : Type}

/-- The packets the scan finds in a buffer, in order, and what it leaves. -/
def cut (byte : β → UInt8) (buffer : List β) : List (List β) × List β :=
  let found := buffer.drop (skip byte buffer)
  if 188 ≤ found.length then
    let later := cut byte (found.drop 188)
    (found.take 188 :: later.1, later.2)
  else ([], found)
termination_by buffer.length
decreasing_by
  rename_i fits
  simp only [found, List.length_drop] at fits ⊢
  omega

/-- The packets of whole chunks, each behind the rest of the one before it. -/
def cutChunks (byte : β → UInt8) (chunks : List (List β)) : List (List β) × List β :=
  chunks.foldl (fun found chunk =>
    let later := cut byte (found.2 ++ chunk)
    (found.1 ++ later.1, later.2)) ([], [])

/-- What is still to come from a pump without further input. -/
def remaining (byte : β → UInt8) (pump : OutputPump β) : List (List β) × List β :=
  if pump.busy then cut byte (pump.scratch.drop pump.sendOff) else ([], pump.hold)

/-- The packet in front of which a pump stands. -/
def packet (pump : OutputPump β) : List β := (pump.scratch.drop pump.sendOff).take 188

/-- A pump with what a run without retunes has done to it. -/
structure Run (β : Type) where
  pump : OutputPump β
  chunks : List (List β) := []
  /-- The bytes written to the descriptor. -/
  out : List β := []
  /-- The packets offered to the sink, with its answers. -/
  offered : List (List β × Int) := []
  deriving Repr, DecidableEq

inductive Action (β : Type) where
  | feed (chunk : List β)
  | step (answers : List Int)

/-- A chunk is fed to an idle pump, and the step is retried while it is busy. -/
def next (byte : β → UInt8) (state : Run β) : Action β → Option (Run β)
  | .feed chunk =>
    if state.pump.busy = false ∧ chunk.length ≤ 16384 then
      some { state with pump := state.pump.feed chunk, chunks := state.chunks ++ [chunk] }
    else none
  | .step answers =>
    let stepped := state.pump.step byte answers
    some { state with
      pump := stepped.pump
      out := state.out ++ stepped.written
      offered := state.offered ++ stepped.offered }

variable {byte : β → UInt8} {pump : OutputPump β} {buffer rest : List β}
  {packets done : List (List β)}

theorem cut_of_packet (fits : 188 ≤ buffer.length) (synced : inSync byte buffer = true) :
    cut byte buffer =
      (buffer.take 188 :: (cut byte (buffer.drop 188)).1, (cut byte (buffer.drop 188)).2) := by
  have still : skip byte buffer = 0 := by
    cases buffer with
    | nil => rfl
    | cons first later => simp [skip, synced]
  rw [cut]
  simp [still, fits]

theorem cut_of_short (short : buffer.length < 188) : cut byte buffer = ([], buffer) := by
  have still : skip byte buffer = 0 := by
    cases buffer with
    | nil => rfl
    | cons first later =>
      simp only [skip]
      rw [if_neg (fun scan => absurd scan.1 (by omega))]
  rw [cut]
  simp only [still, List.drop_zero]
  rw [if_neg (by omega)]

/-- Passing over what the scan skips changes nothing. -/
theorem cut_skip (byte : β → UInt8) (buffer : List β) :
    cut byte (buffer.drop (skip byte buffer)) = cut byte buffer := by
  symm
  rw [cut]
  simp only
  split
  · rename_i fits
    rw [List.length_drop] at fits
    rw [cut_of_packet (by rw [List.length_drop]; exact fits) (skip_stops byte buffer fits)]
  · rename_i short
    rw [cut_of_short (by omega)]

theorem cutChunks_concat (byte : β → UInt8) (chunks : List (List β)) (chunk : List β) :
    cutChunks byte (chunks ++ [chunk]) =
      ((cutChunks byte chunks).1 ++ (cut byte ((cutChunks byte chunks).2 ++ chunk)).1,
        (cut byte ((cutChunks byte chunks).2 ++ chunk)).2) := by
  simp only [cutChunks, List.foldl_append, List.foldl_cons, List.foldl_nil]

/-- A pump in the course of cutting its input into `packets` and `rest`, with `done`
handed over. -/
structure Cutting (byte : β → UInt8) (packets : List (List β)) (rest : List β)
    (done : List (List β)) (pump : OutputPump β) : Prop where
  resume : pump.packetResumeOff = 0
  within : pump.sendOff ≤ pump.scratch.length
  busy : pump.writing = true → pump.busy = true
  unfinished : pump.writing = true → pump.packetOff < 188
  room : pump.writing = true → 188 ≤ (pump.scratch.drop pump.sendOff).length
  synced : pump.writing = true → inSync byte (pump.scratch.drop pump.sendOff) = true
  packets : packets = done ++ (remaining byte pump).1
  rest : rest = (remaining byte pump).2

/-- A busy pump that is not writing looks for the next packet; what is to come stays
the same. -/
theorem cutting_prepare (cutting : Cutting byte packets rest done pump) :
    Cutting byte packets rest done (pump.prepare byte) := by
  unfold prepare
  split
  · rename_i scanning
    have before : remaining byte pump = cut byte (pump.scratch.drop pump.sendOff) := by
      rw [remaining, if_pos scanning.1]
    have moved := cut_skip byte (pump.scratch.drop pump.sendOff)
    rw [List.drop_drop] at moved
    have bound := skip_le byte (pump.scratch.drop pump.sendOff)
    rw [List.length_drop] at bound
    have within := cutting.within
    unfold seek
    simp only
    split
    · rename_i fits
      have synced := skip_stops byte (pump.scratch.drop pump.sendOff)
        (by rw [List.length_drop]; omega)
      rw [List.drop_drop] at synced
      refine ⟨cutting.resume, by simp only; omega, fun _ => scanning.1, fun _ => by simp, ?_,
        fun _ => synced, ?_, ?_⟩
      · intro _
        rw [List.length_drop]
        omega
      · rw [cutting.packets, before, remaining, if_pos scanning.1, moved]
      · rw [cutting.rest, before, remaining, if_pos scanning.1, moved]
    · rename_i short
      rw [cut_of_short (by rw [List.length_drop]; omega)] at moved
      have unwritten : pump.writing ≠ true := by simp [scanning.2]
      refine ⟨cutting.resume, Nat.zero_le _, ?_, ?_, ?_, ?_, ?_, ?_⟩
      · exact fun writing => absurd writing unwritten
      · exact fun writing => absurd writing unwritten
      · exact fun writing => absurd writing unwritten
      · exact fun writing => absurd writing unwritten
      · rw [cutting.packets, before, ← moved]
        rfl
      · rw [cutting.rest, before, ← moved]
        rfl
  · exact cutting

/-- A packet that has been handed over is done. -/
theorem cutting_handed (cutting : Cutting byte packets rest done pump)
    (writing : pump.writing = true) :
    Cutting byte packets rest (done ++ [packet pump])
      { pump with sendOff := pump.sendOff + 188, packetOff := 0, writing := false } := by
  have busy := cutting.busy writing
  have room := cutting.room writing
  have here := cut_of_packet room (cutting.synced writing)
  have left : remaining byte pump = cut byte (pump.scratch.drop pump.sendOff) := by
    rw [remaining, if_pos busy]
  rw [here, List.drop_drop] at left
  rw [List.length_drop] at room
  refine ⟨cutting.resume, by simp only; omega, nofun, nofun, nofun, nofun, ?_, ?_⟩
  · rw [cutting.packets, left]
    simp [remaining, busy, packet]
  · rw [cutting.rest, left]
    simp [remaining, busy]

/-- The next chunk is cut behind the rest of the ones before. -/
theorem cutting_feed (cutting : Cutting byte packets rest done pump) (idle : pump.busy = false)
    (chunk : List β) :
    Cutting byte (packets ++ (cut byte (rest ++ chunk)).1) (cut byte (rest ++ chunk)).2 done
      (pump.feed chunk) := by
  have packets' := cutting.packets
  have rest' := cutting.rest
  simp only [remaining, idle, Bool.false_eq_true, ↓reduceIte, List.append_nil] at packets' rest'
  refine ⟨rfl, Nat.zero_le _, nofun, nofun, nofun, nofun, ?_, ?_⟩
  · simp [remaining, feed, packets', rest']
  · simp [remaining, feed, rest']

/-- An idle pump has handed over everything and holds the rest. -/
theorem cutting_idle (cutting : Cutting byte packets rest done pump) (idle : pump.busy = false) :
    pump.writing = false ∧ packets = done ∧ rest = pump.hold := by
  have unwritten : pump.writing = false := by
    cases writing : pump.writing with
    | false => rfl
    | true => exact absurd (cutting.busy writing) (by simp [idle])
  have packets' := cutting.packets
  have rest' := cutting.rest
  simp only [remaining, idle, Bool.false_eq_true, ↓reduceIte, List.append_nil] at packets' rest'
  exact ⟨unwritten, packets', rest'⟩

theorem cutting_init (mode : Bool) :
    Cutting byte [] [] [] ({ packetSink := mode } : OutputPump β) :=
  ⟨rfl, Nat.zero_le _, nofun, nofun, nofun, nofun, rfl, rfl⟩

theorem length_packet (cutting : Cutting byte packets rest done pump)
    (writing : pump.writing = true) : (packet pump).length = 188 := by
  rw [packet, List.length_take, Nat.min_eq_left (cutting.room writing)]

end SianoUserland.PacketCut
