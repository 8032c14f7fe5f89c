import SianoUserland.Lib.Keyed
import SianoUserland.SegmentIndependence

/-! The counts of `inspect` over a file whose packets can all be trusted: they are sums over the
PIDs, however the packets of the PIDs are interleaved and however the file is read. -/
namespace SianoUserland.PidCounts
open TsCheck ContinuityErrors SegmentIndependence Keyed

/-! ## However a file is read -/

/-- Reads that deliver a file. Only the end of the file is an empty read. -/
structure Delivers (reads : List (List UInt8)) (file : List UInt8) : Prop where
  some : ∀ chunk ∈ reads, chunk ≠ []
  whole : reads.flatten = file

/-- `inspect`, over the reads of its file. The first empty one ends the loop. -/
def inspectReads (options : Options) (reads : List (List UInt8)) : Report :=
  let chunks := reads.takeWhile (!·.isEmpty)
  report options (chunks.foldl (scan options) ({}, [])).1
    (chunks.foldl (fun bytes chunk => bytes + chunk.length) 0)

theorem bytes_of_chunks (chunks : List (List UInt8)) (bytes : Nat) :
    chunks.foldl (fun bytes chunk => bytes + chunk.length) bytes =
      bytes + chunks.flatten.length := by
  induction chunks generalizing bytes with
  | nil => rfl
  | cons chunk chunks ih =>
    rw [List.foldl_cons, ih, List.flatten_cons, List.length_append, Nat.add_assoc]

theorem inspectReads_eq (options : Options) (delivers : Delivers reads file) :
    inspectReads options reads = inspect options file := by
  have all : reads.takeWhile (!·.isEmpty) = reads := by
    apply List.takeWhile_eq_self_iff.mpr
    intro chunk member
    simpa using delivers.some chunk member
  rw [inspectReads, all, scan_reads, bytes_of_chunks, Nat.zero_add, delivers.whole, inspect_eq]

theorem length_packetsOf (file : List UInt8) : (packetsOf file).length = file.length / 188 := by
  simp [packetsOf]

theorem length_of_mem_packetsOf (member : packet ∈ packetsOf file) : packet.length = 188 := by
  obtain ⟨index, inside, rfl⟩ := List.mem_map.mp member
  have bound := List.mem_range.mp inside
  rw [List.length_take, List.length_drop]
  omega

/-! ## What is accepted as a duplicate -/

/-- The packet is accepted as a duplicate. -/
def accepted (packets : List (List UInt8)) (packet : List UInt8) : Bool :=
  valid packet && !discontinuity packet &&
    (previousAfter packets (pid packet)).any (duplicates (epoch packets) · packet)

/-- What a comparison adds to the duplicates. -/
theorem compareLast_duplicates (options : Options) (state : State) (index : Nat)
    (packet : List UInt8) :
    (compareLast options state index packet).duplicatePacketIndices =
      state.duplicatePacketIndices ++
        if !discontinuity packet &&
          (state.previous (pid packet)).any (duplicates state.untrustedEpoch · packet)
        then [index] else [] := by
  unfold compareLast
  cases state.previous (pid packet) with
  | none => simp
  | some last =>
    cases discontinuity packet with
    | true => simp
    | false =>
      simp only [Bool.false_eq_true, ↓reduceIte, Bool.not_false, Bool.true_and, Option.any_some]
      unfold compareCounter
      cases duplicates state.untrustedEpoch last packet with
      | true => rfl
      | false =>
        simp only [Bool.false_eq_true, ↓reduceIte, List.append_nil]
        split
        · split <;> rfl
        · rfl

/-- A segment is entered without a look at what was remembered. -/
theorem enterSegment_frame (options : Options) (state : State) (index : Nat) :
    ∃ number pids opened, enterSegment options state index =
      { state with
        retuneSegment := number
        retuneSegmentPids := pids
        retuneBoundaryIndex := opened } := by
  unfold enterSegment
  split
  · exact ⟨_, _, _, rfl⟩
  · exact ⟨_, _, _, rfl⟩

theorem check_duplicates (options : Options) (state : State) (packet : List UInt8) :
    (check options state packet).duplicatePacketIndices = state.duplicatePacketIndices ++
      if valid packet && !discontinuity packet &&
        (state.previous (pid packet)).any (duplicates state.untrustedEpoch · packet)
      then [state.packets] else [] := by
  obtain ⟨number, pids, opened, entered⟩ :=
    enterSegment_frame options { state with packets := state.packets + 1 } state.packets
  simp only [check, entered]
  cases sync : synced packet with
  | false => simp [valid, sync]
  | true =>
    cases error : transportError packet with
    | true => simp [valid, error, notePid]
    | false =>
      by_cases null : pid packet = nullPid
      · simp [valid, null, notePid]
      · cases broken : invalid packet with
        | true => simp [valid, broken, null, notePid]
        | false =>
          simp only [Bool.true_eq_false, Bool.false_eq_true, ↓reduceIte, null, remember,
            compareLast_duplicates]
          simp [valid, sync, error, null, broken, notePid]

/-- The indices of the packets accepted as duplicates. -/
def acceptedIndices (packets : List (List UInt8)) : List Nat :=
  (scanned none packets).duplicatePacketIndices

theorem acceptedIndices_snoc (packets : List (List UInt8)) (packet : List UInt8) :
    acceptedIndices (packets ++ [packet]) =
      acceptedIndices packets ++ if accepted packets packet then [packets.length] else [] := by
  have follows := scanned_follows none packets
  rw [acceptedIndices, scanned, List.foldl_append]
  change (check (splitAt none) (scanned none packets) packet).duplicatePacketIndices = _
  rw [check_duplicates, follows.previous, follows.epoch, follows.count]
  rfl

/-! ## Only the packets of the same PID matter -/

/-- A packet that `inspect` counts no error of its own for. -/
def Trusted (packet : List UInt8) : Prop := untrusted packet = false

variable {packets : List (List UInt8)}

theorem epoch_of_trusted (clean : ∀ packet ∈ packets, Trusted packet) : epoch packets = 0 :=
  List.countP_eq_zero.mpr fun packet member => by simpa [Trusted] using clean packet member

theorem valids_of_own (id : Nat) (packets : List (List UInt8)) :
    valids id (own pid id packets) = valids id packets := by
  rw [valids, own, List.filter_filter]
  apply List.filter_congr
  intro packet _
  by_cases same : pid packet = id
  · simp [same]
  · simp [ofPid, same]

/-- What is remembered of a PID comes from its own packets. -/
theorem previousAfter_of_own (clean : ∀ packet ∈ packets, Trusted packet) (id : Nat) :
    previousAfter (own pid id packets) id = previousAfter packets id := by
  have cleanOwn : ∀ packet ∈ own pid id packets, Trusted packet :=
    fun packet member => clean packet (List.mem_of_mem_filter member)
  simp only [previousAfter, valids_of_own, epoch_of_trusted clean, epoch_of_trusted cleanOwn,
    Nat.zero_sub]

theorem mismatch_of_own (clean : ∀ packet ∈ packets, Trusted packet) (packet : List UInt8) :
    mismatch (own pid (pid packet) packets) packet = mismatch packets packet := by
  have cleanOwn : ∀ other ∈ own pid (pid packet) packets, Trusted other :=
    fun other member => clean other (List.mem_of_mem_filter member)
  simp only [mismatch, previousAfter_of_own clean, epoch_of_trusted clean,
    epoch_of_trusted cleanOwn]

theorem accepted_of_own (clean : ∀ packet ∈ packets, Trusted packet) (packet : List UInt8) :
    accepted (own pid (pid packet) packets) packet = accepted packets packet := by
  have cleanOwn : ∀ other ∈ own pid (pid packet) packets, Trusted other :=
    fun other member => clean other (List.mem_of_mem_filter member)
  simp only [accepted, previousAfter_of_own clean, epoch_of_trusted clean,
    epoch_of_trusted cleanOwn]

theorem errors_local : Local pid Trusted fun packets => (errors none packets).length where
  empty := rfl
  step packets packet clean := by
    have alone : ∀ packets, counted none packets packet = mismatch packets packet := by
      intro packets
      simp [counted, excluded]
    refine ⟨(if mismatch packets packet then [packets.length] else []).length, ?_, ?_⟩
    · rw [errors_snoc, alone, List.length_append]
    · rw [errors_snoc, alone, mismatch_of_own clean, List.length_append]
      split <;> rfl

theorem duplicates_local : Local pid Trusted fun packets => (acceptedIndices packets).length where
  empty := rfl
  step packets packet clean := by
    refine ⟨(if accepted packets packet then [packets.length] else []).length, ?_, ?_⟩
    · rw [acceptedIndices_snoc, List.length_append]
    · rw [acceptedIndices_snoc, accepted_of_own clean, List.length_append]
      split <;> rfl

/-! ## The counts of a file -/

/-- The number of duplicates in a report. -/
def duplicateCount (report : Report) : Nat := report.duplicatePacketIndices.length

/-- The packets of one PID of a file, as a file of their own. -/
def pidFile (id : Nat) (file : List UInt8) : List UInt8 := (own pid id (packetsOf file)).flatten

theorem packetsOf_pidFile (id : Nat) (file : List UInt8) :
    packetsOf (pidFile id file) = own pid id (packetsOf file) :=
  packetsOf_flatten _ fun _ member => length_of_mem_packetsOf (List.mem_of_mem_filter member)

theorem inspect_continuityErrors (file : List UInt8) :
    (inspect {} file).continuityErrors = (errors none (packetsOf file)).length := by
  rw [inspect_eq]
  rfl

theorem inspect_duplicateCount (file : List UInt8) :
    duplicateCount (inspect {} file) = (acceptedIndices (packetsOf file)).length := by
  rw [inspect_eq]
  rfl

theorem inspect_packets (file : List UInt8) : (inspect {} file).packets = file.length / 188 := by
  have follows := scanned_follows none (packetsOf file)
  rw [inspect_eq, ← length_packetsOf]
  exact follows.count

/-- A PID has thirteen bits. -/
theorem pid_lt (packet : List UInt8) : pid packet < 8192 := by
  have high : (byteAt packet 1 &&& 0x1F).toNat < 2 ^ 5 := by
    rw [UInt8.toNat_and]
    exact Nat.and_lt_two_pow _ (by decide)
  have low : (byteAt packet 2).toNat < 2 ^ 13 := by
    have small := (byteAt packet 2).toNat_lt
    omega
  apply Nat.or_lt_two_pow (n := 13)
  · rw [Nat.shiftLeft_eq]
    omega
  · exact low

/-- Null packets are never compared. -/
theorem null_counts (nulls : ∀ packet ∈ packets, pid packet = nullPid) :
    errors none packets = [] ∧ acceptedIndices packets = [] := by
  induction packets using List.reverseRecOn with
  | nil => exact ⟨rfl, rfl⟩
  | append_singleton packets packet ih =>
    obtain ⟨noErrors, noDuplicates⟩ :=
      ih fun other member => nulls other (List.mem_append_left _ member)
    have bad : valid packet = false := by simp [valid, nulls packet (by simp)]
    rw [errors_snoc, acceptedIndices_snoc, noErrors, noDuplicates]
    simp [counted, mismatch, accepted, bad]

/-- **`ts-check` decomposes by PID.** In a file whose packets can all be trusted, however it is
read, the continuity errors and the duplicates are the sums over the PIDs of those of each PID's
packets alone, to which the null PID adds nothing. Another file with the same packets of each PID
in the same order has the same counts. -/
theorem counts_decompose_by_pid (delivers : Delivers reads file)
    (clean : ∀ packet ∈ packetsOf file, untrusted packet = false) :
    (inspectReads {} reads).continuityErrors =
        ∑ id ∈ Finset.range 8192, (inspect {} (pidFile id file)).continuityErrors ∧
      duplicateCount (inspectReads {} reads) =
        ∑ id ∈ Finset.range 8192, duplicateCount (inspect {} (pidFile id file)) ∧
      (inspect {} (pidFile nullPid file)).continuityErrors = 0 ∧
      duplicateCount (inspect {} (pidFile nullPid file)) = 0 ∧
      (∀ otherReads other, Delivers otherReads other →
        (∀ id, own pid id (packetsOf other) = own pid id (packetsOf file)) →
        (inspectReads {} otherReads).continuityErrors = (inspectReads {} reads).continuityErrors ∧
          duplicateCount (inspectReads {} otherReads) = duplicateCount (inspectReads {} reads)) ∧
      (inspectReads {} reads).packets = file.length / 188 ∧
      (inspectReads {} reads).remainder = file.length % 188 := by
  have covered : ∀ packet ∈ packetsOf file, pid packet ∈ Finset.range 8192 :=
    fun packet _ => Finset.mem_range.mpr (pid_lt packet)
  have nulls : ∀ packet ∈ own pid nullPid (packetsOf file), pid packet = nullPid :=
    fun packet member => by simpa using List.of_mem_filter member
  obtain ⟨noErrors, noDuplicates⟩ := null_counts nulls
  rw [inspectReads_eq {} delivers]
  simp only [inspect_continuityErrors, inspect_duplicateCount, packetsOf_pidFile, noErrors,
    noDuplicates, List.length_nil, true_and]
  refine ⟨errors_local.sum _ clean covered, duplicates_local.sum _ clean covered, ?_,
    inspect_packets file, rfl⟩
  intro otherReads other delivered same
  rw [inspectReads_eq {} delivered, inspect_continuityErrors, inspect_duplicateCount]
  have back : ∀ id, own pid id (packetsOf file) = own pid id (packetsOf other) :=
    fun id => (same id).symm
  exact ⟨(errors_local.interleaved clean back).symm, (duplicates_local.interleaved clean back).symm⟩

/-- Two PIDs in turn, one of which jumps, read in pieces that do not end with a packet. -/
theorem counts_of_two_pids :
    let file := fileOf [sample 0x01 0x10 0, sample 0x02 0x15 0, sample 0x01 0x13 0,
      sample 0x02 0x15 0]
    (inspectReads {} [file.take 200, file.drop 200]).continuityErrors =
      ∑ id ∈ Finset.range 8192, (inspect {} (pidFile id file)).continuityErrors := by
  have clean : ∀ packet ∈ packetsOf (fileOf [sample 0x01 0x10 0, sample 0x02 0x15 0,
      sample 0x01 0x13 0, sample 0x02 0x15 0]), untrusted packet = false := by
    decide +kernel
  refine (counts_decompose_by_pid ⟨?_, ?_⟩ clean).1
  · decide +kernel
  · decide +kernel

end SianoUserland.PidCounts
