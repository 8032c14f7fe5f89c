import SianoUserland.Lib.Split
import SianoUserland.TsCheck

/-! What `inspect` remembers and what it counts as an error, read off the packets of a
file with at most one retune boundary. -/
namespace SianoUserland.ContinuityErrors
open TsCheck

/-! ## What is remembered, read off the packets -/

/-- A packet that takes part in the comparison of counters. -/
def valid (packet : List UInt8) : Bool :=
  synced packet && !transportError packet && pid packet != nullPid && !invalid packet

/-- A packet after which nothing is accepted as a duplicate of what came before it. -/
def untrusted (packet : List UInt8) : Bool :=
  !synced packet || transportError packet || (pid packet != nullPid && invalid packet)

/-- A valid packet of the PID. -/
def ofPid (id : Nat) (packet : List UInt8) : Bool := valid packet && pid packet == id

/-- The valid packets of a PID. -/
def valids (id : Nat) (packets : List (List UInt8)) : List (List UInt8) :=
  packets.filter (ofPid id)

/-- The packets since the last valid one of a PID, the newest first. -/
def since (id : Nat) (packets : List (List UInt8)) : List (List UInt8) :=
  packets.reverse.takeWhile (!ofPid id ·)

/-- Nothing untrusted came since the last valid packet of a PID. -/
def trusted (id : Nat) (packets : List (List UInt8)) : Bool := (since id packets).all (!untrusted ·)

/-- A packet shows this PID, if only with a transport error. -/
def shows (id : Nat) (packets : List (List UInt8)) : Bool :=
  packets.any fun packet => synced packet && pid packet == id && id != nullPid

/-- The `untrusted_epoch` after some packets. -/
def epoch (packets : List (List UInt8)) : Nat := packets.countP untrusted

/-- What `previous` holds after some packets. -/
def previousAfter (packets : List (List UInt8)) (id : Nat) : Option Entry :=
  (valids id packets).getLast?.map fun last =>
    { counter := counter last
      hasPayload := hasPayload last
      repeated := (valids id packets).dropLast.getLast?.any fun before =>
        hasPayload last && counter last == counter before
      epoch := epoch packets - (since id packets).countP untrusted
      packet := last }

variable {packets : List (List UInt8)} {packet : List UInt8} {id : Nat}

theorem valids_other (other : ofPid id packet = false) :
    valids id (packets ++ [packet]) = valids id packets := by
  simp [valids, other]

theorem valids_own (own : ofPid id packet = true) :
    valids id (packets ++ [packet]) = valids id packets ++ [packet] := by
  simp [valids, own]

theorem since_other (other : ofPid id packet = false) :
    since id (packets ++ [packet]) = packet :: since id packets := by
  simp [since, other]

theorem since_own (own : ofPid id packet = true) : since id (packets ++ [packet]) = [] := by
  simp [since, own]

theorem epoch_snoc (packets : List (List UInt8)) (packet : List UInt8) :
    epoch (packets ++ [packet]) = epoch packets + if untrusted packet then 1 else 0 := by
  simp [epoch, List.countP_singleton]

/-- The epoch a PID was last seen in is not later than the current one. -/
theorem countP_since_le (id : Nat) (packets : List (List UInt8)) :
    (since id packets).countP untrusted ≤ epoch packets := by
  have sublist := (List.takeWhile_prefix (p := (!ofPid id ·)) (l := packets.reverse)).sublist
  have bound := sublist.countP_le (p := untrusted)
  simpa [since, epoch] using bound

/-- The epoch of an entry is the current one exactly when nothing untrusted came since. -/
theorem epoch_trusted (id : Nat) (packets : List (List UInt8)) :
    (epoch packets - (since id packets).countP untrusted == epoch packets) =
      trusted id packets := by
  have bound := countP_since_le id packets
  rw [Bool.eq_iff_iff, beq_iff_eq, trusted, List.all_eq_true]
  constructor
  · intro same packet member
    have none : (since id packets).countP untrusted = 0 := by omega
    simpa using List.countP_eq_zero.mp none packet member
  · intro all
    have none : (since id packets).countP untrusted = 0 :=
      List.countP_eq_zero.mpr fun packet member => by simpa using all packet member
    omega

/-- A packet that is not a valid one of the PID leaves its entry alone. -/
theorem previousAfter_other (other : ofPid id packet = false) :
    previousAfter (packets ++ [packet]) id = previousAfter packets id := by
  have bound := countP_since_le id packets
  rw [previousAfter, previousAfter, valids_other other, since_other other, epoch_snoc,
    List.countP_cons]
  congr 1
  funext last
  congr 1
  split <;> omega

theorem trusted_of_valid (own : valid packet = true) : untrusted packet = false := by
  simp only [valid, Bool.and_eq_true, Bool.not_eq_true', bne_iff_ne] at own
  simp [untrusted, own]

theorem previousAfter_own (own : ofPid id packet = true) :
    previousAfter (packets ++ [packet]) id = some {
      counter := counter packet
      hasPayload := hasPayload packet
      repeated := (previousAfter packets id).any (repeats · packet)
      epoch := epoch packets
      packet := packet } := by
  have trusted : untrusted packet = false := by
    simp only [ofPid, Bool.and_eq_true] at own
    exact trusted_of_valid own.1
  rw [previousAfter, valids_own own, since_own own, epoch_snoc, List.getLast?_concat,
    List.dropLast_concat]
  simp [trusted, previousAfter, repeats, Option.any_map]

/-! ## What is counted as an error -/

/-- The counter of a packet is neither expected nor that of an accepted duplicate. -/
def mismatch (packets : List (List UInt8)) (packet : List UInt8) : Bool :=
  valid packet && !discontinuity packet &&
    (previousAfter packets (pid packet)).any fun last =>
      !duplicates (epoch packets) last packet && counter packet != expected last.counter packet

/-- A file with at most one retune boundary and no other exclusion. -/
def splitAt (boundary : Option Nat) : Options := { retuneBoundaries := boundary.toList }

/-- The packets of the segment that the next packet belongs to. -/
def currentSegment (boundary : Option Nat) (packets : List (List UInt8)) : List (List UInt8) :=
  if boundary.any (· ≤ packets.length) then packets.drop (boundary.getD 0) else packets

/-- The next packet is the first of its PID after the boundary. -/
def excluded (boundary : Option Nat) (packets : List (List UInt8)) (packet : List UInt8) : Bool :=
  boundary.any (· ≤ packets.length) && !shows (pid packet) (currentSegment boundary packets)

/-- A segment is only known once a packet of it has been seen. -/
def seen (boundary : Option Nat) (packets : List (List UInt8)) : List (List UInt8) :=
  if boundary.any (· < packets.length) then packets.drop (boundary.getD 0) else packets

/-- The state of `inspect` after some packets, read off the packets. -/
structure Follows (boundary : Option Nat) (packets : List (List UInt8)) (state : State) :
    Prop where
  count : state.packets = packets.length
  previous : state.previous = previousAfter packets
  epoch : state.untrustedEpoch = epoch packets
  index : state.retuneBoundaryIndex = if boundary.any (· < packets.length) then 1 else 0
  opened : state.retuneSegment = state.retuneBoundaryIndex
  pids : ∀ id, id ∈ state.retuneSegmentPids ↔ shows id (seen boundary packets) = true
  excluded : ∀ index ∈ state.retuneExcludedCc, index < packets.length

/-- The state once the segment of the next packet has been entered. -/
structure Entered (boundary : Option Nat) (packets : List (List UInt8)) (state after : State) :
    Prop where
  count : after.packets = packets.length + 1
  previous : after.previous = previousAfter packets
  epoch : after.untrustedEpoch = epoch packets
  index : after.retuneBoundaryIndex = if boundary.any (· ≤ packets.length) then 1 else 0
  opened : after.retuneSegment = after.retuneBoundaryIndex
  pids : ∀ id, id ∈ after.retuneSegmentPids ↔ shows id (currentSegment boundary packets) = true
  excluded : ∀ index ∈ after.retuneExcludedCc, index < packets.length
  errors : after.continuityErrorIndices = state.continuityErrorIndices

variable {boundary : Option Nat} {state : State}

theorem enterSegment_entered (follows : Follows boundary packets state) :
    Entered boundary packets state (enterSegment (splitAt boundary)
      { state with packets := state.packets + 1 } packets.length) := by
  obtain ⟨count, previous, epoch, index, opened, pids, excluded⟩ := follows
  have keeps : ∀ same : seen boundary packets = currentSegment boundary packets,
      boundary.any (· < packets.length) = boundary.any (· ≤ packets.length) →
      Entered boundary packets state { state with packets := state.packets + 1 } := by
    intro same reached
    refine ⟨congrArg (· + 1) count, previous, epoch, ?_, opened, ?_, excluded, rfl⟩
    · rw [← reached]
      exact index
    · rw [← same]
      exact pids
  unfold enterSegment
  cases boundary with
  | none =>
    rw [if_neg (by simp [splitAt])]
    exact keeps rfl rfl
  | some boundary =>
    rcases Nat.lt_trichotomy boundary packets.length with passed | here | ahead
    · have past : state.retuneBoundaryIndex = 1 := by simpa [passed] using index
      have reached : boundary ≤ packets.length := Nat.le_of_lt passed
      rw [if_neg (by simp [splitAt, past])]
      exact keeps (by simp [seen, currentSegment, passed, reached]) (by simp [passed, reached])
    · have before : state.retuneBoundaryIndex = 0 := by simpa [here] using index
      rw [if_pos (by simp [splitAt, before, here])]
      refine ⟨congrArg (· + 1) count, previous, epoch, by simp [before, here], by simp [opened], ?_,
        excluded, rfl⟩
      intro id
      simp [currentSegment, shows, here]
    · have before : state.retuneBoundaryIndex = 0 := by
        simpa [Nat.not_lt.mpr (Nat.le_of_lt ahead)] using index
      have unreached : ¬ boundary ≤ packets.length := Nat.not_le.mpr ahead
      rw [if_neg (by simp [splitAt, before, unreached])]
      exact keeps (by simp [seen, currentSegment, Nat.not_lt.mpr (Nat.le_of_lt ahead), unreached])
        (by simp [Nat.not_lt.mpr (Nat.le_of_lt ahead), unreached])

theorem seen_snoc (boundary : Option Nat) (packets : List (List UInt8)) (packet : List UInt8) :
    seen boundary (packets ++ [packet]) = currentSegment boundary packets ++ [packet] := by
  cases boundary with
  | none => rfl
  | some boundary =>
    by_cases reached : boundary ≤ packets.length
    · have passed : boundary < (packets ++ [packet]).length := by
        rw [List.length_append, List.length_singleton]
        omega
      simp only [seen, currentSegment, Option.any_some, passed, reached, decide_true, ↓reduceIte,
        Option.getD_some, List.drop_append_of_le_length reached]
    · have ahead : ¬ boundary < (packets ++ [packet]).length := by
        rw [List.length_append, List.length_singleton]
        omega
      simp only [seen, currentSegment, Option.any_some, ahead, reached, decide_false,
        Bool.false_eq_true, ↓reduceIte]

theorem shows_snoc (id : Nat) (packets : List (List UInt8)) (packet : List UInt8) :
    shows id (packets ++ [packet]) = true ↔
      shows id packets = true ∨ synced packet = true ∧ pid packet = id ∧ id ≠ nullPid := by
  simp [shows, and_assoc]

/-- What remains to be shown of a packet once its segment has been entered. -/
theorem follows_snoc {middle after : State} (entered : Entered boundary packets state middle)
    (count : after.packets = middle.packets)
    (previous : after.previous = previousAfter (packets ++ [packet]))
    (trust : after.untrustedEpoch = middle.untrustedEpoch + if untrusted packet then 1 else 0)
    (index : after.retuneBoundaryIndex = middle.retuneBoundaryIndex)
    (opened : after.retuneSegment = middle.retuneSegment)
    (pids : ∀ id, id ∈ after.retuneSegmentPids ↔ id ∈ middle.retuneSegmentPids ∨
      synced packet = true ∧ pid packet = id ∧ id ≠ nullPid)
    (excluded : ∀ index ∈ after.retuneExcludedCc,
      index ∈ middle.retuneExcludedCc ∨ index = packets.length) :
    Follows boundary (packets ++ [packet]) after := by
  have length : (packets ++ [packet]).length = packets.length + 1 := by simp
  refine ⟨?_, previous, ?_, ?_, ?_, ?_, ?_⟩
  · rw [count, entered.count, length]
  · rw [trust, entered.epoch, epoch_snoc]
  · rw [index, entered.index, length]
    simp only [Nat.lt_succ_iff]
  · rw [opened, index]
    exact entered.opened
  · intro id
    rw [pids id, entered.pids id, seen_snoc, shows_snoc]
  · intro index member
    rw [length]
    rcases excluded index member with old | new
    · have bound := entered.excluded index old
      omega
    · omega

theorem compare_frame (options : Options) (state : State) (index : Nat) (packet : List UInt8)
    (last : Entry) :
    ∃ duplicate mismatch errors, compareCounter options state index packet last =
      { state with
        duplicatePacketIndices := duplicate
        excludedSeen := mismatch
        continuityErrorIndices := errors } := by
  unfold compareCounter
  split
  · exact ⟨_, _, _, rfl⟩
  split
  · split
    · exact ⟨_, _, _, rfl⟩
    · exact ⟨_, _, _, rfl⟩
  · exact ⟨_, _, _, rfl⟩

theorem compare_errors (state : State) (index : Nat) (packet : List UInt8) (last : Entry) :
    (compareCounter (splitAt boundary) state index packet last).continuityErrorIndices =
      state.continuityErrorIndices ++
        if (!duplicates state.untrustedEpoch last packet &&
          counter packet != expected last.counter packet) = true ∧ index ∉ state.retuneExcludedCc
        then [index] else [] := by
  unfold compareCounter
  cases duplicates state.untrustedEpoch last packet with
  | true => simp
  | false =>
    by_cases same : counter packet = expected last.counter packet
    · simp [same]
    · by_cases listed : index ∈ state.retuneExcludedCc
      · simp [same, listed]
      · simp [same, listed, splitAt]

/-- A packet that is not valid leaves every entry alone. -/
theorem previousAfter_invalid (bad : valid packet = false) :
    previousAfter (packets ++ [packet]) = previousAfter packets := by
  funext id
  exact previousAfter_other (by simp [ofPid, bad])

/-- A valid packet replaces the entry of its PID. -/
theorem previousAfter_valid (good : valid packet = true) :
    Function.update (previousAfter packets) (pid packet) (some {
      counter := counter packet
      hasPayload := hasPayload packet
      repeated := (previousAfter packets (pid packet)).any (repeats · packet)
      epoch := epoch packets
      packet := packet }) = previousAfter (packets ++ [packet]) := by
  funext id
  by_cases own : id = pid packet
  · subst own
    rw [Function.update_self, previousAfter_own (by simp [ofPid, good])]
  · rw [Function.update_of_ne own, previousAfter_other]
    simp [ofPid, Ne.symm own]

/-- A synced packet shows its PID to the segment. -/
theorem mem_notePid (middle : State) (sync : synced packet = true) (index id : Nat) :
    id ∈ (notePid middle index packet).retuneSegmentPids ↔ id ∈ middle.retuneSegmentPids ∨
      synced packet = true ∧ pid packet = id ∧ id ≠ nullPid := by
  simp only [notePid]
  by_cases null : pid packet = nullPid
  · simp only [null, ne_eq, not_true_eq_false, ↓reduceIte]
    constructor
    · exact Or.inl
    · rintro (old | ⟨-, rfl, other⟩)
      · exact old
      · exact absurd rfl other
  · simp only [ne_eq, null, not_false_eq_true, ↓reduceIte, List.mem_cons, sync, true_and]
    constructor
    · rintro (rfl | old)
      · exact Or.inr ⟨rfl, null⟩
      · exact Or.inl old
    · rintro (old | ⟨rfl, -⟩)
      · exact Or.inr old
      · exact Or.inl rfl

theorem notePid_excluded (middle : State) (index : Nat) (packet : List UInt8) :
    ∀ listed ∈ (notePid middle index packet).retuneExcludedCc,
      listed ∈ middle.retuneExcludedCc ∨ listed = index := by
  intro listed member
  simp only [notePid] at member
  split at member
  · rcases List.mem_cons.mp member with new | old
    · exact Or.inr new
    · exact Or.inl old
  · exact Or.inl member

/-- The packet that is looked at is excluded when it is the first of its PID after the
boundary. -/
theorem mem_excluded {middle : State} (entered : Entered boundary packets state middle)
    (own : pid packet ≠ nullPid) :
    packets.length ∈ (notePid middle packets.length packet).retuneExcludedCc ↔
      excluded boundary packets packet = true := by
  have earlier : packets.length ∉ middle.retuneExcludedCc := by
    intro member
    exact absurd (entered.excluded _ member) (Nat.lt_irrefl _)
  have first : pid packet ∉ middle.retuneSegmentPids ↔
      shows (pid packet) (currentSegment boundary packets) = false := by
    rw [entered.pids, Bool.not_eq_true]
  have reached : 0 < middle.retuneSegment ↔ boundary.any (· ≤ packets.length) = true := by
    rw [entered.opened, entered.index]
    split
    · rename_i yes
      simp [yes]
    · rename_i no
      simp [no]
  simp only [notePid, own, ne_eq, not_false_eq_true, true_and, first, reached, excluded,
    Bool.and_eq_true, Bool.not_eq_true']
  split
  · rename_i both
    simp [both]
  · rename_i neither
    simp [earlier, neither]

/-- The comparison of a valid packet, with the errors it adds. -/
theorem compareLast_errors {middle : State} (entered : Entered boundary packets state middle)
    (good : valid packet = true) :
    let noted := notePid middle packets.length packet
    ∃ duplicate mismatches, compareLast (splitAt boundary) noted packets.length packet =
      { noted with
        duplicatePacketIndices := duplicate
        excludedSeen := mismatches
        continuityErrorIndices := state.continuityErrorIndices ++
          if mismatch packets packet && !excluded boundary packets packet then [packets.length]
          else [] } := by
  intro noted
  have own : pid packet ≠ nullPid := by
    simp only [valid, Bool.and_eq_true, bne_iff_ne] at good
    exact good.1.2
  have errors : noted.continuityErrorIndices = state.continuityErrorIndices := entered.errors
  have entry : noted.previous (pid packet) = previousAfter packets (pid packet) :=
    congrFun entered.previous _
  have trust : noted.untrustedEpoch = epoch packets := entered.epoch
  have listed : packets.length ∈ noted.retuneExcludedCc ↔
      excluded boundary packets packet = true := mem_excluded entered own
  rw [compareLast, entry]
  cases remembered : previousAfter packets (pid packet) with
  | none =>
    refine ⟨noted.duplicatePacketIndices, noted.excludedSeen, ?_⟩
    simp [mismatch, remembered, ← errors]
  | some last =>
    cases jumps : discontinuity packet with
    | true =>
      refine ⟨noted.duplicatePacketIndices, noted.excludedSeen, ?_⟩
      simp [mismatch, jumps, ← errors]
    | false =>
      obtain ⟨duplicate, mismatches, now, same⟩ := compare_frame (splitAt boundary) noted
        packets.length packet last
      have counted : now = _ := same ▸ compare_errors noted packets.length packet last
      refine ⟨duplicate, mismatches, ?_⟩
      simp only [Bool.false_eq_true, ↓reduceIte, same, counted, errors, trust, listed, mismatch,
        good, jumps, remembered, Option.any_some, Bool.not_false, Bool.true_and, Bool.and_eq_true,
        Bool.not_eq_true', Bool.not_eq_true]

/-- Each packet is remembered and judged as its predecessors say. -/
theorem check_follows (follows : Follows boundary packets state) (packet : List UInt8) :
    Follows boundary (packets ++ [packet]) (check (splitAt boundary) state packet) ∧
      (check (splitAt boundary) state packet).continuityErrorIndices =
        state.continuityErrorIndices ++
          if mismatch packets packet && !excluded boundary packets packet then [packets.length]
          else [] := by
  have entered := enterSegment_entered follows
  simp only [check]
  rw [follows.count] at entered ⊢
  generalize enterSegment (splitAt boundary) { state with packets := packets.length + 1 }
    packets.length = middle at entered ⊢
  cases sync : synced packet with
  | false =>
    have bad : valid packet = false := by simp [valid, sync]
    simp only [↓reduceIte, mismatch, bad, Bool.false_and, Bool.false_eq_true, List.append_nil]
    refine ⟨follows_snoc entered rfl ?_ (by simp [untrusted, sync]) rfl rfl (by simp [sync]) ?_,
      entered.errors⟩
    · exact entered.previous.trans (previousAfter_invalid bad).symm
    · exact fun _ => Or.inl
  | true =>
    have pids := mem_notePid middle sync packets.length
    have listed := notePid_excluded middle packets.length packet
    simp only [Bool.true_eq_false, ↓reduceIte]
    cases error : transportError packet with
    | true =>
      have bad : valid packet = false := by simp [valid, error]
      simp only [↓reduceIte, mismatch, bad, Bool.false_and, Bool.false_eq_true, List.append_nil]
      refine ⟨follows_snoc entered rfl ?_ (by simp [untrusted, error, notePid]) rfl rfl pids listed,
        entered.errors⟩
      exact entered.previous.trans (previousAfter_invalid bad).symm
    | false =>
      by_cases null : pid packet = nullPid
      · have bad : valid packet = false := by simp [valid, null]
        simp only [null, ↓reduceIte, mismatch, bad, Bool.false_and, Bool.false_eq_true,
          List.append_nil]
        refine ⟨follows_snoc entered rfl ?_ (by simp [untrusted, sync, error, null, notePid]) rfl
          rfl pids listed, entered.errors⟩
        exact entered.previous.trans (previousAfter_invalid bad).symm
      cases broken : invalid packet with
      | true =>
        have bad : valid packet = false := by simp [valid, broken]
        simp only [null, ↓reduceIte, mismatch, bad, Bool.false_and, Bool.false_eq_true,
          List.append_nil]
        refine ⟨follows_snoc entered rfl ?_ (by simp [untrusted, null, broken, notePid]) rfl rfl
          pids listed, entered.errors⟩
        exact entered.previous.trans (previousAfter_invalid bad).symm
      | false =>
        have good : valid packet = true := by simp [valid, sync, error, null, broken]
        obtain ⟨duplicate, mismatches, same⟩ := compareLast_errors entered good
        simp only [null, Bool.false_eq_true, ↓reduceIte, same]
        refine ⟨follows_snoc entered rfl ?_ (by simp [trusted_of_valid good, remember, notePid]) rfl
          rfl pids listed, rfl⟩
        rw [← previousAfter_valid good]
        simp only [remember, notePid, entered.previous, entered.epoch]

/-! ## Whole files -/

/-- The state after all packets of a file. -/
def scanned (boundary : Option Nat) (packets : List (List UInt8)) : State :=
  packets.foldl (check (splitAt boundary)) {}

theorem scanned_follows (boundary : Option Nat) (packets : List (List UInt8)) :
    Follows boundary packets (scanned boundary packets) := by
  induction packets using List.reverseRecOn with
  | nil =>
    refine ⟨rfl, rfl, rfl, by simp [scanned], rfl, ?_, by simp [scanned]⟩
    intro id
    cases boundary with
    | none => simp [scanned, seen, shows]
    | some boundary => simp [scanned, seen, shows]
  | append_singleton packets packet ih =>
    rw [scanned, List.foldl_append]
    exact (check_follows ih packet).1

/-- The next packet is counted as an error. -/
def counted (boundary : Option Nat) (packets : List (List UInt8)) (packet : List UInt8) : Bool :=
  mismatch packets packet && !excluded boundary packets packet

/-- The indices of the errors in a file. -/
def errors (boundary : Option Nat) (packets : List (List UInt8)) : List Nat :=
  (scanned boundary packets).continuityErrorIndices

theorem errors_snoc (boundary : Option Nat) (packets : List (List UInt8)) (packet : List UInt8) :
    errors boundary (packets ++ [packet]) =
      errors boundary packets ++
        if counted boundary packets packet then [packets.length] else [] := by
  rw [errors, scanned, List.foldl_append]
  exact (check_follows (scanned_follows boundary packets) packet).2

/-- An index is listed exactly when the packet there is counted as an error. -/
theorem mem_errors (boundary : Option Nat) (packets : List (List UInt8)) (index : Nat) :
    index ∈ errors boundary packets ↔
      ∃ before packet after, packets = before ++ packet :: after ∧ before.length = index ∧
        counted boundary before packet = true := by
  induction packets using List.reverseRecOn with
  | nil => simp [errors, scanned]
  | append_singleton packets packet ih =>
    rw [errors_snoc, List.mem_append, ih, Split.exists_concat]
    refine or_congr_right ?_
    cases error : counted boundary packets packet with
    | false => simp
    | true => simp [eq_comm]

end SianoUserland.ContinuityErrors
