import Mathlib.Data.List.TakeWhile
import SianoUserland.ContinuityErrors

/-! Two segments of a stream in one file, separated by a retune boundary. The
boundary forgets which PIDs were seen but not what was last seen of them, so the
second segment is not always judged as it would be on its own. -/
namespace SianoUserland.SegmentIndependence
open TsCheck ContinuityErrors

/-- A packet of a transport stream. -/
structure Packet where
  bytes : List UInt8
  whole : bytes.length = 188

/-- The contents of a file of whole packets. -/
def fileOf (packets : List Packet) : List UInt8 := (packets.map Packet.bytes).flatten

/-- The first valid packet of a PID in the second segment is not the first packet that
shows this PID there, so the exclusion is spent, and its counter does not follow the
last one of the first segment. -/
def crosses (first before : List (List UInt8)) (packet : List UInt8) : Bool :=
  valid packet && !discontinuity packet && (valids (pid packet) before).isEmpty &&
    shows (pid packet) before &&
    (valids (pid packet) first).getLast?.any fun last =>
      counter packet != expected (counter last) packet

/-- The packet repeats the counter of `last`, which itself repeated nothing. -/
def duplicate (last : List UInt8) (earlier : Option (List UInt8)) (quiet : Bool)
    (packet : List UInt8) : Bool :=
  hasPayload packet && counter packet == counter last && hasPayload last &&
    !earlier.any (fun before => hasPayload last && counter last == counter before) && quiet &&
    equivalentDuplicate last packet (hasPcr packet)

/-- The packet is a duplicate of the first valid one of its PID in the second segment,
but that one happens to repeat the last counter of the first segment. -/
def losesDuplicate (first before : List (List UInt8)) (packet : List UInt8) : Bool :=
  valid packet && !discontinuity packet &&
    match valids (pid packet) before with
    | [only] =>
      duplicate only none (trusted (pid packet) before) packet &&
        (valids (pid packet) first).getLast?.any fun last => counter only == counter last
    | _ => false

/-- The packet is an error after the first segment for no reason of the second. -/
def spoiled (first before : List (List UInt8)) (packet : List UInt8) : Bool :=
  crosses first before packet || losesDuplicate first before packet

variable {first before : List (List UInt8)} {packet : List UInt8} {id : Nat}

/-! ## One packet of the second segment -/

theorem valids_append (id : Nat) (first before : List (List UInt8)) :
    valids id (first ++ before) = valids id first ++ valids id before := by
  simp [valids]

/-- The judgement in terms of the last two valid packets of the PID. -/
theorem mismatch_eq (packets : List (List UInt8)) (packet : List UInt8) :
    mismatch packets packet = (valid packet && !discontinuity packet &&
      (valids (pid packet) packets).getLast?.any fun last =>
        !duplicate last (valids (pid packet) packets).dropLast.getLast?
          (trusted (pid packet) packets) packet &&
        counter packet != expected (counter last) packet) := by
  simp only [mismatch, previousAfter, Option.any_map, duplicates, repeats, epoch_trusted,
    duplicate]

/-- A packet of a PID that is not valid is untrusted. -/
theorem untrusted_of_shows (shown : shows id before = true) (none : valids id before = []) :
    ∃ packet ∈ before, untrusted packet = true := by
  obtain ⟨packet, member, seen⟩ := List.any_eq_true.mp shown
  simp only [Bool.and_eq_true, beq_iff_eq, bne_iff_ne] at seen
  obtain ⟨⟨sync, rfl⟩, own⟩ := seen
  have other : ofPid (pid packet) packet = false := by
    simpa using List.filter_eq_nil_iff.mp none packet member
  refine ⟨packet, member, ?_⟩
  simp only [ofPid, beq_self_eq_true, Bool.and_true, valid, sync, Bool.true_and] at other
  cases error : transportError packet with
  | true => simp [untrusted, error]
  | false => simp_all [untrusted]

theorem shows_of_valids (some : valids id before ≠ []) : shows id before = true := by
  obtain ⟨packet, member⟩ := List.exists_mem_of_ne_nil _ some
  obtain ⟨inside, own⟩ := List.mem_filter.mp member
  simp only [ofPid, valid, Bool.and_eq_true, beq_iff_eq, bne_iff_ne] at own
  obtain ⟨⟨⟨⟨sync, -⟩, other⟩, -⟩, rfl⟩ := own
  exact List.any_eq_true.mpr ⟨packet, inside, by simp [sync, other]⟩

/-- An untrusted packet of the second segment separates its PID from the first. -/
theorem untrusted_between (none : valids id before = []) (member : packet ∈ before)
    (bad : untrusted packet = true) : trusted id (first ++ before) = false := by
  have through : since id (first ++ before) = before.reverse ++ since id first := by
    rw [since, List.reverse_append, List.takeWhile_append_of_pos]
    · rfl
    · intro other inside
      simpa using List.filter_eq_nil_iff.mp none other (List.mem_reverse.mp inside)
  rw [trusted, through, List.all_eq_false]
  exact ⟨packet, by simp [member], by simp [bad]⟩

/-- After a valid packet of its PID in the second segment the first one is out of reach. -/
theorem trusted_append (some : valids id before ≠ []) :
    trusted id (first ++ before) = trusted id before := by
  have stops : (before.reverse.takeWhile (!ofPid id ·)).length ≠ before.reverse.length := by
    intro all
    have whole := (List.takeWhile_prefix (l := before.reverse) (!ofPid id ·)).eq_of_length all
    refine some (List.filter_eq_nil_iff.mpr fun packet member => ?_)
    have passes := List.takeWhile_eq_self_iff.mp whole packet (List.mem_reverse.mpr member)
    simpa using passes
  rw [trusted, trusted, since, List.reverse_append, List.takeWhile_append, if_neg stops, since]

/-- With a payload the counter moves on. -/
theorem expected_ne (payload : hasPayload packet = true) (last : List UInt8) :
    counter last ≠ expected (counter last) packet := by
  simp only [expected, payload, ↓reduceIte, counter]
  intro same
  have numbers := congrArg UInt8.toNat same
  have low : ∀ number, number &&& 15 = number % 16 :=
    fun number => Nat.and_two_pow_sub_one_eq_mod number 4
  simp only [UInt8.toNat_and, UInt8.toNat_add, UInt8.reduceToNat, low] at numbers
  omega

theorem excluded_second (first before : List (List UInt8)) (packet : List UInt8) :
    excluded (some first.length) (first ++ before) packet = !shows (pid packet) before := by
  simp [excluded, currentSegment]

theorem duplicate_eq (last : List UInt8) (earlier : Option (List UInt8)) (quiet : Bool)
    (packet : List UInt8) :
    duplicate last earlier quiet packet = (duplicate last none quiet packet &&
      !earlier.any fun before => counter last == counter before) := by
  cases payload : hasPayload last with
  | false => simp [duplicate, payload]
  | true =>
    simp only [duplicate, payload, Bool.true_and, Bool.and_true, Option.any_none, Bool.not_false]
    cases earlier.any fun before => counter last == counter before with
    | false => simp
    | true => simp

/-- The second valid packet of a PID in the second segment. -/
theorem single_second (only : List UInt8) (earlier : Option (List UInt8)) (quiet : Bool)
    (packet : List UInt8) :
    (!duplicate only earlier quiet packet && counter packet != expected (counter only) packet) =
      (!duplicate only none quiet packet && counter packet != expected (counter only) packet ||
        duplicate only none quiet packet && earlier.any fun before =>
          counter only == counter before) := by
  rw [duplicate_eq only earlier]
  cases base : duplicate only none quiet packet with
  | false => simp
  | true =>
    simp only [duplicate, Bool.and_eq_true, beq_iff_eq] at base
    obtain ⟨⟨⟨⟨⟨payload, same⟩, -⟩, -⟩, -⟩, -⟩ := base
    have moved : counter packet ≠ expected (counter only) packet := same ▸ expected_ne payload only
    simp [moved]

/-- The packet is judged as in the second segment alone, or for one of two reasons. -/
theorem counted_second (first before : List (List UInt8)) (packet : List UInt8) :
    counted (some first.length) (first ++ before) packet =
      (counted none before packet || spoiled first before packet) := by
  have alone : excluded none before packet = false := rfl
  rw [counted, counted, excluded_second, alone, mismatch_eq, mismatch_eq, valids_append, spoiled]
  cases own : valids (pid packet) before with
  | nil =>
    simp only [crosses, losesDuplicate, own, List.append_nil, List.isEmpty_nil, List.getLast?_nil,
      Option.any_none, Bool.and_false, Bool.false_or, Bool.or_false, Bool.and_true, Bool.not_not,
      Bool.not_false]
    cases shown : shows (pid packet) before with
    | false => simp
    | true =>
      obtain ⟨other, member, bad⟩ := untrusted_of_shows shown own
      simp [untrusted_between own member bad, duplicate]
  | cons only rest =>
    have shown : shows (pid packet) before = true := shows_of_valids (by simp [own])
    have trust : trusted (pid packet) (first ++ before) = trusted (pid packet) before :=
      trusted_append (by simp [own])
    simp only [crosses, own, shown, trust, List.isEmpty_cons, Bool.and_false, Bool.false_and,
      Bool.false_or, Bool.not_true, Bool.not_false, Bool.and_true]
    rcases List.eq_nil_or_concat rest with rfl | ⟨middle, last, rfl⟩
    · rw [List.getLast?_concat, List.dropLast_concat]
      simp only [Option.any_some, List.getLast?_singleton, List.dropLast_singleton,
        List.getLast?_nil]
      rw [single_second]
      simp only [losesDuplicate, own, ← Bool.and_or_distrib_left]
    · have whole : valids (pid packet) first ++ only :: middle.concat last =
          (valids (pid packet) first ++ only :: middle) ++ [last] := by simp
      have single : only :: middle.concat last = (only :: middle) ++ [last] := by simp
      rw [whole, single, List.getLast?_concat, List.getLast?_concat, List.dropLast_concat,
        List.dropLast_concat, List.getLast?_append]
      obtain ⟨earlier, found⟩ : ∃ earlier, (only :: middle).getLast? = some earlier :=
        ⟨_, List.getLast?_eq_some_getLast (by simp)⟩
      have several : losesDuplicate first before packet = false := by simp [losesDuplicate, own]
      simp [found, several]

/-- What the second segment alone counts is counted for no other reason. -/
theorem counted_alone (alone : counted none before packet = true) :
    spoiled first before packet = false := by
  have judged : mismatch before packet = true := by simpa [counted, excluded] using alone
  rw [mismatch_eq] at judged
  cases own : valids (pid packet) before with
  | nil => simp [own] at judged
  | cons only rest =>
    cases rest with
    | cons _ _ => simp [spoiled, crosses, losesDuplicate, own]
    | nil =>
      have different : duplicate only none (trusted (pid packet) before) packet = false := by
        simp only [own, Bool.and_eq_true, List.getLast?_singleton, Option.any_some,
          List.dropLast_singleton, List.getLast?_nil, Bool.not_eq_true'] at judged
        exact judged.2.1
      simp [spoiled, crosses, losesDuplicate, own, different]

/-! ## Both segments -/

/-- No packet of the second segment is spoiled by the first. -/
def Independent (first second : List (List UInt8)) : Prop :=
  ∀ before packet after, second = before ++ packet :: after → spoiled first before packet = false

/-- Before the boundary nothing differs. -/
theorem errors_first (first : List (List UInt8)) (within : first.length ≤ boundary) :
    errors (some boundary) first = errors none first := by
  induction first using List.reverseRecOn with
  | nil => rfl
  | append_singleton packets packet ih =>
    rw [List.length_append, List.length_singleton] at within
    have ahead : ¬ boundary ≤ packets.length := by omega
    have same : counted (some boundary) packets packet = counted none packets packet := by
      simp [counted, excluded, ahead]
    rw [errors_snoc, errors_snoc, ih (by omega), same]

/-- The errors of both segments add up but for the packets that are spoiled. -/
theorem errors_add (first second : List (List UInt8)) :
    ∃ added, (errors (some first.length) (first ++ second)).length =
        (errors none first).length + (errors none second).length + added ∧
      (added = 0 ↔ Independent first second) := by
  induction second using List.reverseRecOn with
  | nil =>
    refine ⟨0, ?_, by simp [Independent]⟩
    rw [List.append_nil, errors_first first (Nat.le_refl _)]
    rfl
  | append_singleton before packet ih =>
    obtain ⟨added, total, exactly⟩ := ih
    have longer : Independent first (before ++ [packet]) ↔
        Independent first before ∧ spoiled first before packet = false := Split.forall_concat
    rw [← List.append_assoc, errors_snoc, errors_snoc, counted_second, List.length_append,
      List.length_append, total, longer, ← exactly]
    cases alone : counted none before packet with
    | true =>
      have kept : spoiled first before packet = false := counted_alone alone
      refine ⟨added, ?_, by simp [kept]⟩
      simp only [Bool.true_or, ↓reduceIte, List.length_append, List.length_singleton]
      omega
    | false =>
      cases spoiled first before packet with
      | true =>
        refine ⟨added + 1, ?_, by simp⟩
        simp only [Bool.or_true, Bool.false_eq_true, ↓reduceIte, List.length_append,
          List.length_singleton, List.length_nil]
        omega
      | false => exact ⟨added, by simp, by simp⟩

/-- A packet whose PID has no valid packet before it in the second segment is compared
with one of the first. -/
theorem counted_across (across : valids (pid packet) before = []) :
    counted (some first.length) (first ++ before) packet = crosses first before packet := by
  have alone : counted none before packet = false := by simp [counted, mismatch_eq, across]
  rw [counted_second, alone]
  simp [spoiled, losesDuplicate, across]

/-- `inspect` of a file of whole packets, with a boundary or none. -/
theorem inspect_errors (boundary : Option Nat) (packets : List Packet) :
    (inspect (splitAt boundary) (fileOf packets)).continuityErrorIndices =
      errors boundary (packets.map Packet.bytes) := by
  have whole : ∀ bytes ∈ packets.map Packet.bytes, bytes.length = 188 := by
    intro bytes member
    obtain ⟨packet, -, rfl⟩ := List.mem_map.mp member
    exact packet.whole
  rw [inspect_eq, fileOf, packetsOf_flatten _ whole]
  rfl

/-- The segments are judged on their own: their errors add up, and no comparison of a
packet with one before the boundary is counted. -/
def JudgedAlone (first second : List Packet) : Prop :=
  let whole := inspect (splitAt (some first.length)) (fileOf (first ++ second))
  whole.continuityErrors = (inspect {} (fileOf first)).continuityErrors +
      (inspect {} (fileOf second)).continuityErrors ∧
    ∀ before packet after, second = before ++ packet :: after →
      valids (pid packet.bytes) (before.map Packet.bytes) = [] →
        first.length + before.length ∉ whole.continuityErrorIndices

/-- **When segments are judged on their own.** With a retune boundary between two
segments the continuity errors are those of each segment by itself, and none comes
from a comparison across the boundary, exactly when no packet of the second segment
is spoiled by the first. -/
theorem segments_judged_alone_iff (first second : List Packet) :
    JudgedAlone first second ↔
      Independent (first.map Packet.bytes) (second.map Packet.bytes) := by
  have length : first.length = (first.map Packet.bytes).length := (List.length_map ..).symm
  obtain ⟨added, total, exactly⟩ :=
    errors_add (first.map Packet.bytes) (second.map Packet.bytes)
  have none : ({} : Options) = splitAt none := rfl
  simp only [JudgedAlone, Report.continuityErrors, none, inspect_errors, List.map_append, length,
    total]
  constructor
  · rintro ⟨sum, -⟩
    exact exactly.mp (by omega)
  · intro independent
    refine ⟨by rw [exactly.mpr independent, Nat.add_zero], ?_⟩
    rintro before packet after rfl across
    rw [mem_errors]
    rintro ⟨earlier, other, later, whole, place, error⟩
    have regrouped : (first.map Packet.bytes ++ before.map Packet.bytes) ++
        packet.bytes :: after.map Packet.bytes = earlier ++ other :: later := by
      rw [← whole]
      simp
    obtain ⟨rfl, same⟩ := List.append_inj regrouped (by simp [place])
    cases same
    have kept := independent _ _ _ (List.map_append ..)
    rw [counted_across across] at error
    simp [spoiled, error] at kept

/-- A packet of PID 256 with this second and fourth byte, filled with `payload`. -/
def sample (second fourth payload : UInt8) : Packet where
  bytes := [0x47, second, 0x00, fourth] ++ List.replicate 184 payload
  whole := by rw [List.length_append, List.length_replicate]; rfl

/-- The second segment is fine by itself; its second packet is an error behind the first
segment, which happens to end with the same counter. -/
theorem accepted_duplicate_is_lost :
    (inspect {} (fileOf [sample 0x01 0x15 0])).continuityErrors = 0 ∧
      (inspect {} (fileOf [sample 0x01 0x15 1, sample 0x01 0x15 1])).continuityErrors = 0 ∧
      (inspect (splitAt (some 1))
        (fileOf [sample 0x01 0x15 0, sample 0x01 0x15 1, sample 0x01 0x15 1])).continuityErrors =
          1 ∧
      ¬ JudgedAlone [sample 0x01 0x15 0] [sample 0x01 0x15 1, sample 0x01 0x15 1] := by
  have first : (inspect {} (fileOf [sample 0x01 0x15 0])).continuityErrors = 0 := by
    decide +kernel
  have second : (inspect {}
      (fileOf [sample 0x01 0x15 1, sample 0x01 0x15 1])).continuityErrors = 0 := by
    decide +kernel
  have whole : (inspect (splitAt (some 1))
      (fileOf [sample 0x01 0x15 0, sample 0x01 0x15 1, sample 0x01 0x15 1])).continuityErrors =
        1 := by
    decide +kernel
  refine ⟨first, second, whole, ?_⟩
  rintro ⟨sum, -⟩
  rw [first, second] at sum
  exact absurd (whole.symm.trans sum) (by decide)

/-- A packet with a transport error takes the exclusion, and the next one is compared
with the first segment. -/
example : (inspect (splitAt (some 1)) (fileOf [sample 0x01 0x10 0, sample 0x81 0x15 0,
    sample 0x01 0x16 0])).continuityErrorIndices = [2] := by
  decide +kernel

end SianoUserland.SegmentIndependence
