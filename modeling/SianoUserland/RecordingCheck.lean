import SianoUserland.AlignedStream
import SianoUserland.LossDetection
import SianoUserland.PidCounts
import SianoUserland.StreamTs

/-! What `ts-check.py` says of a file that `stream_ts` has written: the recorder and the checker
agree on where the packets are, and what the queue had to drop shows. -/
namespace SianoUserland.RecordingCheck
open TsCheck ContinuityErrors SegmentIndependence PidCounts LossDetection Keyed
open StreamTs QueueRefinement AlignedStream
open PacketCut (cut cutChunks cutChunks_concat)
open OutputPump (inSync)

/-! ## The packets of a recording -/

/-- A packet as the pump cuts it. -/
def Cut (packet : List UInt8) : Prop := packet.length = 188 ∧ synced packet = true

theorem cut_of_inSync {found : List UInt8} (fits : 188 ≤ found.length)
    (start : inSync id found = true) : Cut (found.take 188) := by
  refine ⟨List.length_take_of_le fits, ?_⟩
  cases found with
  | nil => cases fits
  | cons first rest =>
    simp only [inSync, Bool.and_eq_true] at start
    simpa [synced, byteAt] using start.1

/-- Every packet the scan finds starts with a sync byte. -/
theorem cut_cuts (buffer : List UInt8) : ∀ packet ∈ (cut id buffer).1, Cut packet := by
  induction buffer using PacketCut.cut.induct id with
  | case1 buffer found fits ih =>
    intro packet member
    rw [cut, if_pos fits] at member
    rcases List.mem_cons.mp member with rfl | later
    · have room : 188 ≤ buffer.length - OutputPump.skip id buffer := by
        simpa only [found, List.length_drop] using fits
      have start := OutputPump.skip_stops id buffer room
      change inSync id found = true at start
      exact cut_of_inSync fits start
    · exact ih packet later
  | case2 buffer found short =>
    intro packet member
    rw [cut, if_neg short] at member
    cases member

theorem cutChunks_cuts (chunks : List (List UInt8)) :
    ∀ packet ∈ (cutChunks id chunks).1, Cut packet := by
  induction chunks using List.reverseRecOn with
  | nil => simp [cutChunks]
  | append_singleton chunks chunk ih =>
    rw [cutChunks_concat]
    intro packet member
    rcases List.mem_append.mp member with earlier | later
    · exact ih packet earlier
    · exact cut_cuts _ packet later

/-- The whole packets of what begins some packets are the first of these. -/
theorem packetsOf_prefix (whole : ∀ packet ∈ packets, packet.length = 188)
    (begins : out <+: packets.flatten) : packetsOf out <+: packets := by
  induction packets generalizing out with
  | nil =>
    have empty := List.prefix_nil.mp begins
    rw [empty]
    exact List.nil_prefix
  | cons packet rest ih =>
    have length := whole packet (by simp)
    rw [List.flatten_cons] at begins
    by_cases fits : 188 ≤ out.length
    · obtain ⟨later, rfl⟩ : packet <+: out :=
        List.prefix_of_prefix_length_le (List.prefix_append _ _) begins (by omega)
      have single : packetsOf packet = [packet] := by
        simpa using packetsOf_flatten [packet] (by simpa using length)
      rw [packetsOf_append (show packet.length = 188 * 1 by omega), single]
      apply List.cons_prefix_cons.mpr
      exact ⟨rfl, ih (fun other member => whole other (by simp [member]))
        ((List.prefix_append_right_inj packet).mp begins)⟩
    · rw [packetsOf_short (by omega)]
      exact List.nil_prefix

theorem compareLast_syncErrors (options : Options) (state : State) (index : Nat)
    (packet : List UInt8) :
    (compareLast options state index packet).syncErrors = state.syncErrors := by
  unfold compareLast
  split
  · split
    · rfl
    · rename_i last _ _
      obtain ⟨duplicate, mismatch, errors, same⟩ :=
        compare_frame options state index packet last
      rw [same]
  · rfl

/-- A packet with a sync byte is no sync error. -/
theorem check_synced (options : Options) (state : State) {packet : List UInt8}
    (sync : synced packet = true) :
    (check options state packet).syncErrors = state.syncErrors := by
  obtain ⟨number, pids, opened, entered⟩ :=
    enterSegment_frame options { state with packets := state.packets + 1 } state.packets
  simp only [check, entered, sync, Bool.true_eq_false, ↓reduceIte]
  split
  · rfl
  split
  · rfl
  split
  · rfl
  · simp only [remember]
    exact compareLast_syncErrors options _ state.packets packet

theorem checks_synced (options : Options) (state : State) {packets : List (List UInt8)}
    (sync : ∀ packet ∈ packets, synced packet = true) :
    (packets.foldl (check options) state).syncErrors = state.syncErrors := by
  induction packets generalizing state with
  | nil => rfl
  | cons packet rest ih =>
    rw [List.foldl_cons, ih _ fun other member => sync other (by simp [member])]
    exact check_synced options state (sync packet (by simp))

theorem inspect_in_sync (options : Options) {out : List UInt8} {packets : List (List UInt8)}
    (cuts : ∀ packet ∈ packets, Cut packet) (begins : out <+: packets.flatten) :
    (inspect options out).syncErrors = 0 ∧ packetsOf out <+: packets := by
  have first := packetsOf_prefix (fun packet member => (cuts packet member).1) begins
  refine ⟨?_, first⟩
  rw [inspect_eq]
  exact checks_synced options {} fun packet member => (cuts packet (first.subset member)).2

/-- **A recording is in sync.** However a run of `stream_ts` ends, whatever the device sent and
whatever the writes answered, `ts-check` finds no sync error in what was written, and its packets
are the first of those the pump was to hand over. When the pump has caught up they are all of
them, and nothing remains behind the last. -/
theorem recording_in_sync (options : Options) (duration : Nat) (begun : Timespec)
    (queue : TsQueue σ) (indexed : queue.Indexed)
    (short : ∀ chunk ∈ queue.contents, chunk.data.length ≤ 16384) (turns : List (Pass σ)) :
    let stream := (streamTs duration begun queue turns).stream
    let packets := (cutChunks id ((marked true stream.popped).map TsChunk.data)).1
    (inspect options stream.out).syncErrors = 0 ∧ packetsOf stream.out <+: packets ∧
      (stream.pump.busy = false →
        packetsOf stream.out = packets ∧ (inspect options stream.out).remainder = 0) := by
  intro stream packets
  have kept : Accounted queue stream := accounted_loop _ (accounted_start indexed short) turns
  have cuts := cutChunks_cuts ((marked true stream.popped).map TsChunk.data)
  obtain ⟨sync, first⟩ := inspect_in_sync options cuts (written_starts kept.fits)
  refine ⟨sync, first, fun idle => ?_⟩
  have all : stream.out = packets.flatten := written_idle kept.fits idle
  have lengths : ∀ packet ∈ packets, packet.length = 188 :=
    fun packet member => (cuts packet member).1
  refine ⟨by rw [all, packetsOf_flatten packets lengths], ?_⟩
  change stream.out.length % 188 = 0
  rw [all, List.length_flatten, List.map_congr_left lengths]
  simp

/-- A run that is stopped in the middle of its second packet. -/
theorem recording_in_sync_stopped :
    let stream := (streamTs 5 (.ofNanos 0) (TsQueue.init true)
      [halfTaken, { halfTaken with stopRequested := true }]).stream
    (inspect {} stream.out).syncErrors = 0 ∧
      packetsOf stream.out <+: (cutChunks id ((marked true stream.popped).map TsChunk.data)).1 := by
  obtain ⟨sync, first, -⟩ := recording_in_sync {} 5 (.ofNanos 0) (TsQueue.init true)
    TsQueue.indexed_zero (fun _ none => by cases none)
    [halfTaken, { halfTaken with stopRequested := true }]
  exact ⟨sync, first⟩

/-! ## What the queue drops -/

/-- The gap in the packets of one PID shows: something is left on both sides of it, and its length
is neither a multiple of sixteen nor one short of that and hidden by what looks like a duplicate. -/
def gapShows (before gone behind : List (List UInt8)) : Bool :=
  match before.getLast?, behind.head? with
  | some last, some next => gone.length % 16 ≠ 0 ∧
      ¬(gone.length % 16 = 15 ∧ equivalentDuplicate last next (hasPcr next) = true)
  | _, _ => false

variable {before gone behind : List (List UInt8)} {key : Nat}

theorem flow_left {first second : List (List UInt8)} (flow : Flow key (first ++ second)) :
    Flow key first :=
  ⟨fun packet member => flow.own packet (List.mem_append_left _ member), flow.chain.left_of_append⟩

theorem flow_right {first second : List (List UInt8)} (flow : Flow key (first ++ second)) :
    Flow key second :=
  ⟨fun packet member => flow.own packet (List.mem_append_right _ member),
    flow.chain.right_of_append⟩

/-- What is left of a flow with a gap has one error where the gap shows, and none otherwise. -/
theorem errors_of_gap (flow : Flow key (before ++ (gone ++ behind))) :
    (errors none (before ++ behind)).length = if gapShows before gone behind then 1 else 0 := by
  cases behind with
  | nil =>
    rw [List.append_nil, errors_flow (flow_left flow)]
    cases before.getLast? <;> simp [gapShows]
  | cons next rest =>
    cases before using List.reverseRecOn with
    | nil =>
      rw [List.nil_append, errors_flow (flow_right (flow_right flow))]
      rfl
    | append_singleton earlier last =>
      have grouped : (earlier ++ [last]) ++ (gone ++ next :: rest) =
          earlier ++ last :: (gone ++ next :: rest) := by simp
      obtain ⟨first, second, counters⟩ := flow_split (grouped ▸ flow)
      have small := counter_lt last
      have judged := mismatch_behind first (second.own next List.mem_cons_self)
      have joined : (earlier ++ [last]) ++ next :: rest = earlier ++ last :: next :: rest := by simp
      have same : counter next = counter last ↔ gone.length % 16 = 15 := by
        rw [← UInt8.toNat_inj, counters]
        omega
      have advances : Advances last next ↔ gone.length % 16 = 0 := by
        rw [Advances, counters]
        omega
      rw [same, advances] at judged
      rw [joined, errors_gap first second]
      simp only [gapShows, List.getLast?_concat, List.head?_cons, decide_eq_true_eq]
      exact if_congr judged rfl rfl

/-- The packets of every PID but the null PID form a flow, and none of them is damaged. -/
structure Multiplex (packets : List (List UInt8)) : Prop where
  trusted : ∀ packet ∈ packets, Trusted packet
  flows : ∀ key, key ≠ nullPid → Flow key (own pid key packets)

/-- The PIDs whose gap shows. -/
def shownGaps (before gone behind : List (List UInt8)) : Finset Nat :=
  (Finset.range 8191).filter fun key =>
    gapShows (own pid key before) (own pid key gone) (own pid key behind)

/-- What is left of a multiplex with a gap has one error for each PID whose gap shows. -/
theorem errors_of_multiplex (multiplex : Multiplex (before ++ (gone ++ behind))) :
    (errors none (before ++ behind)).length = (shownGaps before gone behind).card := by
  have left : ∀ packet ∈ before ++ behind, packet ∈ before ++ (gone ++ behind) := by
    intro packet member
    rcases List.mem_append.mp member with first | second
    · exact List.mem_append_left _ first
    · exact List.mem_append_right _ (List.mem_append_right _ second)
  have clean : ∀ packet ∈ before ++ behind, Trusted packet :=
    fun packet member => multiplex.trusted packet (left packet member)
  have covered : ∀ packet ∈ before ++ behind, pid packet ∈ Finset.range 8192 :=
    fun packet _ => Finset.mem_range.mpr (pid_lt packet)
  have split : ∀ first second : List (List UInt8), ∀ key,
      own pid key (first ++ second) = own pid key first ++ own pid key second :=
    fun first second key => List.filter_append ..
  have nulls : ∀ packet ∈ own pid nullPid (before ++ behind), pid packet = nullPid :=
    fun packet member => by simpa using List.of_mem_filter member
  rw [errors_local.sum _ clean covered, show (8192 : Nat) = 8191 + 1 from rfl,
    Finset.sum_range_succ]
  have noNulls : (errors none (own pid 8191 (before ++ behind))).length = 0 := by
    rw [(null_counts nulls).1]
    rfl
  rw [noNulls, Nat.add_zero, shownGaps, Finset.card_filter]
  apply Finset.sum_congr rfl
  intro key member
  have other : key ≠ nullPid := by
    have below := Finset.mem_range.mp member
    simp only [nullPid]
    omega
  have flow := multiplex.flows key other
  rw [split, split] at flow
  rw [split, errors_of_gap flow]

theorem synced_of_trusted {packet : List UInt8} (trusted : Trusted packet) :
    synced packet = true := by
  cases sync : synced packet with
  | true => rfl
  | false => simp [Trusted, untrusted, sync] at trusted

/-- Whole packets are in step with themselves. -/
theorem aligned_flatten {packets : List (List UInt8)} (cuts : ∀ packet ∈ packets, Cut packet) :
    Aligned id packets.flatten := by
  induction packets with
  | nil => exact fun position _ inside => absurd inside (Nat.not_lt_zero position)
  | cons packet rest ih =>
    have later := ih fun other member => cuts other (by simp [member])
    obtain ⟨length, sync⟩ := cuts packet (by simp)
    intro position multiple inside
    rw [List.flatten_cons] at inside ⊢
    by_cases first : position = 0
    · subst first
      rw [List.getElem?_append_left (by omega)]
      cases packet with
      | nil => cases length
      | cons byte bytes => simpa [synced, byteAt] using sync
    · have beyond : 188 ≤ position := Nat.le_of_dvd (by omega) multiple
      rw [List.length_append] at inside
      rw [List.getElem?_append_right (by omega), length]
      exact later (position - 188) (Nat.dvd_sub multiple (Nat.dvd_refl _)) (by omega)

/-- Chunks of whole packets come out as these packets, wherever the chunks end. -/
theorem cutChunks_packets {packets : List (List UInt8)} (cuts : ∀ packet ∈ packets, Cut packet)
    {chunks : List (List UInt8)} (same : chunks.flatten = packets.flatten) :
    (cutChunks id chunks).1.flatten = packets.flatten := by
  have aligned : Aligned id chunks.flatten := same ▸ aligned_flatten cuts
  have lengths : ∀ packet ∈ packets, packet.length = 188 :=
    fun packet member => (cuts packet member).1
  have length : packets.flatten.length = packets.length * 188 := by
    rw [List.length_flatten, List.map_congr_left lengths]
    simp
  rw [(cutChunks_aligned chunks aligned).1, same, wholeLength, length,
    Nat.mul_div_cancel _ (by decide), Nat.mul_comm, ← length, List.take_length]

/-- Data of whole packets is its packets. -/
theorem flatten_packetsOf {data : List UInt8} (whole : 188 ∣ data.length) :
    (packetsOf data).flatten = data := by
  have taken : ∀ count, ((List.range count).map fun index =>
      (data.drop (188 * index)).take 188).flatten = data.take (188 * count) := by
    intro count
    induction count with
    | zero => rfl
    | succ count ih =>
      rw [List.range_succ, List.map_append, List.flatten_append, ih, List.map_singleton,
        List.flatten_singleton, Nat.mul_succ, List.take_add]
  rw [packetsOf, taken, Nat.mul_div_cancel' whole, List.take_length]

/-- The packets that some chunks carry. -/
def carried (chunks : List (TsChunk σ)) : List (List UInt8) :=
  packetsOf (chunks.map TsChunk.data).flatten

/-- **What the queue drops shows in the recording.** Take a run of `stream_ts` on an empty queue in
which the device sends the packets of a multiplex, a block of chunks in the middle finds the queue
full, and everything else reaches the output. The chunks before the block carry whole packets, and
so do the ones behind it, wherever a chunk ends. Then the drops count the chunks of the block, the
file is the multiplex without the packets of the block, and `ts-check` reports no sync error and
exactly one continuity error for each PID whose gap shows. -/
theorem dropped_chunks_show (duration : Nat) (begun : Timespec) (queue : TsQueue σ)
    (indexed : queue.Indexed) (empty : queue.contents = []) (turns : List (Pass σ))
    (ran : (streamTs duration begun queue turns).stream = stream)
    (kept dropped later : List (TsChunk σ))
    (ledger : stream.ledger =
      kept.map (·, true) ++ (dropped.map (·, false) ++ later.map (·, true)))
    (first : 188 ∣ (kept.map TsChunk.data).flatten.length)
    (rest : 188 ∣ (later.map TsChunk.data).flatten.length)
    (multiplex : Multiplex (carried kept ++ (carried dropped ++ carried later)))
    (fed : ∀ entry ∈ stream.popped, entry.2 = true) (drained : stream.queue.contents = [])
    (idle : stream.pump.busy = false) :
    stream.queue.drops = queue.drops + .ofNat dropped.length ∧
      packetsOf stream.out = carried kept ++ carried later ∧
      (inspect {} stream.out).syncErrors = 0 ∧
      (inspect {} stream.out).continuityErrors =
        (shownGaps (carried kept) (carried dropped) (carried later)).card := by
  have accounted : Accounted queue stream :=
    ran ▸ accounted_loop _ (accounted_start indexed (by simp [empty])) turns
  have held : marked true stream.ledger = kept ++ later := by
    simp [ledger, marked, List.filter_map, Function.comp_def]
  have missed : marked false stream.ledger = dropped := by
    simp [ledger, marked, List.filter_map, Function.comp_def]
  -- Everything that found a slot was fed to the pump.
  have popped : marked true stream.popped = kept ++ later := by
    have chunks := accounted.chunks
    rw [empty, drained, held, List.nil_append, List.append_nil] at chunks
    rw [marked, List.filter_eq_self.mpr (by simpa using fed), chunks]
  have cuts : ∀ packet ∈ carried kept ++ carried later, Cut packet := by
    intro packet member
    have sent : packet ∈ carried kept ++ (carried dropped ++ carried later) := by
      rcases List.mem_append.mp member with left | right
      · exact List.mem_append_left _ left
      · exact List.mem_append_right _ (List.mem_append_right _ right)
    refine ⟨?_, synced_of_trusted (multiplex.trusted packet sent)⟩
    rcases List.mem_append.mp member with left | right
    · exact length_of_mem_packetsOf left
    · exact length_of_mem_packetsOf right
  have output : stream.out = (carried kept ++ carried later).flatten := by
    have written : stream.out = _ := written_idle accounted.fits idle
    rw [written, Stream.run, popped]
    apply cutChunks_packets cuts
    rw [List.map_append, List.flatten_append, List.flatten_append, carried, carried,
      flatten_packetsOf first, flatten_packetsOf rest]
  have packets : packetsOf stream.out = carried kept ++ carried later := by
    rw [output]
    exact packetsOf_flatten _ fun packet member => (cuts packet member).1
  refine ⟨by rw [accounted.drops, missed], packets,
    (inspect_in_sync {} cuts (output ▸ List.prefix_refl _)).1, ?_⟩
  rw [inspect_continuityErrors, packets, errors_of_multiplex multiplex]

/-- Packets of one PID, one more than the queue has slots for and one to come later. -/
def sentPackets : List (List UInt8) :=
  (List.range 258).map fun index => (sample 0x01 (0x10 + .ofNat (index % 16)) 0).bytes

/-- A chunk with each of some packets. -/
def chunksOf (packets : List (List UInt8)) : List (TsChunk Nat) := packets.map (⟨0, ·⟩)

/-- The queue fills up with 256 packets, so that the next finds no slot. -/
def overflowing : List (Pass Nat) :=
  [{ arrived := (chunksOf (sentPackets.take 257)).map (.enqueue 0 0)
     answers := [188]
     now := .ofNanos 0 }] ++
  List.replicate 255 { answers := [188], now := .ofNanos 0 } ++
  [{ arrived := (chunksOf (sentPackets.drop 257)).map (.enqueue 0 0)
     answers := [188]
     now := .ofNanos 0 }]

theorem sentPackets_pid : ∀ packet ∈ sentPackets, pid packet = 256 := by decide +kernel

theorem sentPackets_multiplex : Multiplex sentPackets := by
  refine ⟨by unfold Trusted; decide +kernel, fun key _ => ?_⟩
  by_cases same : key = 256
  · subst same
    exact ⟨by decide +kernel, by decide +kernel⟩
  · have none : own pid key sentPackets = [] := by
      apply List.filter_eq_nil_iff.mpr
      intro packet member
      simp [sentPackets_pid packet member, Ne.symm same]
    rw [none]
    exact ⟨nofun, .nil⟩

theorem length_sentPackets : ∀ packet ∈ sentPackets, packet.length = 188 := by
  intro packet member
  obtain ⟨index, -, rfl⟩ := List.mem_map.mp member
  exact (sample _ _ _).whole

theorem chunksOf_data (packets : List (List UInt8)) :
    (chunksOf packets).map TsChunk.data = packets := by
  simp [chunksOf, Function.comp_def]

theorem carried_chunksOf {packets : List (List UInt8)} (sent : packets ⊆ sentPackets) :
    carried (chunksOf packets) = packets := by
  rw [carried, chunksOf_data]
  exact packetsOf_flatten _ fun packet member => length_sentPackets packet (sent member)

theorem whole_chunksOf {packets : List (List UInt8)} (sent : packets ⊆ sentPackets) :
    188 ∣ ((chunksOf packets).map TsChunk.data).flatten.length := by
  rw [chunksOf_data, List.length_flatten,
    List.map_congr_left fun packet member => length_sentPackets packet (sent member)]
  simp

/-- Everything that found a slot has been fed and written. -/
def settled (stream : StreamTs.Stream Nat) : Bool :=
  decide (stream.ledger = (chunksOf (sentPackets.take 256)).map (·, true) ++
      ((chunksOf ((sentPackets.drop 256).take 1)).map (·, false) ++
        (chunksOf (sentPackets.drop 257)).map (·, true))) &&
    stream.popped.all (·.2) && decide (stream.queue.contents = []) &&
    decide (stream.pump.busy = false)

/-- Only the PID of the packets has a gap, and it shows. -/
theorem shownGaps_sent : shownGaps (sentPackets.take 256) ((sentPackets.drop 256).take 1)
    (sentPackets.drop 257) = {256} := by
  ext key
  rw [shownGaps, Finset.mem_filter, Finset.mem_range, Finset.mem_singleton]
  constructor
  · rintro ⟨-, shows⟩
    by_contra other
    have none : own pid key (sentPackets.take 256) = [] := by
      apply List.filter_eq_nil_iff.mpr
      intro packet member
      simp [sentPackets_pid packet (List.mem_of_mem_take member), Ne.symm other]
    rw [none] at shows
    cases shows
  · rintro rfl
    exact ⟨by decide, by decide +kernel⟩

theorem dropped_chunks_show_once :
    let stream := (streamTs 0 (.ofNanos 0) (TsQueue.init true) overflowing).stream
    stream.queue.drops = 1 ∧
      packetsOf stream.out = sentPackets.take 256 ++ sentPackets.drop 257 ∧
      (inspect {} stream.out).syncErrors = 0 ∧ (inspect {} stream.out).continuityErrors = 1 := by
  have settles :
      settled (streamTs 0 (.ofNanos 0) (TsQueue.init true) overflowing).stream = true := by
    decide +kernel
  simp only [settled, Bool.and_eq_true, decide_eq_true_eq, List.all_eq_true] at settles
  obtain ⟨⟨⟨ledger, fed⟩, drained⟩, idle⟩ := settles
  have first : sentPackets.take 256 ⊆ sentPackets := List.take_subset _ _
  have lost : (sentPackets.drop 256).take 1 ⊆ sentPackets :=
    List.Subset.trans (List.take_subset _ _) (List.drop_subset _ _)
  have rest : sentPackets.drop 257 ⊆ sentPackets := List.drop_subset _ _
  have split : sentPackets.take 256 ++ ((sentPackets.drop 256).take 1 ++ sentPackets.drop 257) =
      sentPackets := by
    rw [show sentPackets.drop 257 = (sentPackets.drop 256).drop 1 by rw [List.drop_drop],
      List.take_append_drop, List.take_append_drop]
  have shown := dropped_chunks_show 0 (.ofNanos 0) (TsQueue.init true) TsQueue.indexed_zero
    (by decide +kernel) overflowing rfl (chunksOf (sentPackets.take 256))
    (chunksOf ((sentPackets.drop 256).take 1)) (chunksOf (sentPackets.drop 257)) ledger
    (whole_chunksOf first) (whole_chunksOf rest)
    (by
      rw [carried_chunksOf first, carried_chunksOf lost, carried_chunksOf rest, split]
      exact sentPackets_multiplex)
    fed drained idle
  rw [carried_chunksOf first, carried_chunksOf lost, carried_chunksOf rest, shownGaps_sent,
    Finset.card_singleton] at shown
  exact shown

end SianoUserland.RecordingCheck
