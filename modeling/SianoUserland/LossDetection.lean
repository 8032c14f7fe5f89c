import Mathlib.Data.List.Chain
import SianoUserland.SegmentIndependence

/-! What `inspect` makes of lost packets: the payload packets of one PID are counted modulo
sixteen, so that a gap shows as one error unless its length is a multiple of sixteen or, one short
of that, looks like a duplicate. -/
namespace SianoUserland.LossDetection
open TsCheck ContinuityErrors SegmentIndependence

/-- A valid payload packet of the PID that announces no discontinuity. -/
def payloadOf (id : Nat) (packet : List UInt8) : Bool :=
  ofPid id packet && hasPayload packet && !discontinuity packet

/-- The counter advances by one. -/
def Advances (last next : List UInt8) : Prop :=
  (counter next).toNat = ((counter last).toNat + 1) % 16

instance : DecidableRel Advances := fun _ _ => inferInstanceAs (Decidable (_ = _))

/-- Payload packets of one PID, none of which is missing. -/
structure Flow (id : Nat) (packets : List (List UInt8)) : Prop where
  own : ∀ packet ∈ packets, payloadOf id packet = true
  chain : packets.IsChain Advances

variable {id : Nat} {earlier : List (List UInt8)} {last next : List UInt8}

theorem payloadOf_iff : payloadOf id packet = true ↔
    ofPid id packet = true ∧ hasPayload packet = true ∧ discontinuity packet = false := by
  simp [payloadOf, and_assoc]

/-! ## Counters -/

theorem counter_lt (packet : List UInt8) : (counter packet).toNat < 16 := by
  rw [counter, UInt8.toNat_and]
  exact Nat.and_lt_two_pow (n := 4) _ (by decide)

theorem expected_toNat (payload : hasPayload next = true) (last : List UInt8) :
    (expected (counter last) next).toNat = ((counter last).toNat + 1) % 16 := by
  have small := counter_lt last
  have low : ∀ number, number &&& 15 = number % 16 :=
    fun number => Nat.and_two_pow_sub_one_eq_mod number 4
  simp only [expected, payload, ↓reduceIte, UInt8.toNat_and, UInt8.toNat_add, UInt8.reduceToNat,
    low]
  omega

/-- The counter behind some packets that follow one another. -/
theorem counter_behind (chain : (last :: (block ++ [next])).IsChain Advances) :
    (counter next).toNat = ((counter last).toNat + block.length + 1) % 16 := by
  induction block generalizing last with
  | nil => exact (List.isChain_cons_cons.mp chain).1
  | cons packet block ih =>
    obtain ⟨step, chain⟩ := List.isChain_cons_cons.mp chain
    have advances : (counter packet).toNat = ((counter last).toNat + 1) % 16 := step
    rw [ih chain, advances, List.length_cons]
    omega

/-! ## One packet behind some others of its PID -/

/-- The packet is judged by the last two before it. -/
theorem mismatch_payload (before : ∀ packet ∈ earlier ++ [last], payloadOf id packet = true)
    (own : payloadOf id next = true) :
    mismatch (earlier ++ [last]) next = (!duplicate last earlier.getLast? true next &&
      counter next != expected (counter last) next) := by
  obtain ⟨ours, -, continues⟩ := payloadOf_iff.mp own
  simp only [ofPid, Bool.and_eq_true, beq_iff_eq] at ours
  have all : valids id (earlier ++ [last]) = earlier ++ [last] := by
    apply List.filter_eq_self.mpr
    intro packet member
    exact (payloadOf_iff.mp (before packet member)).1
  have quiet : trusted id (earlier ++ [last]) = true := by
    rw [trusted, since_own (payloadOf_iff.mp (before last (by simp))).1]
    rfl
  rw [mismatch_eq, ours.2, all, quiet, List.getLast?_concat, List.dropLast_concat]
  simp [ours.1, continues]

theorem mismatch_advances (before : ∀ packet ∈ earlier ++ [last], payloadOf id packet = true)
    (own : payloadOf id next = true) (advances : Advances last next) :
    mismatch (earlier ++ [last]) next = false := by
  have expects : counter next = expected (counter last) next := by
    apply UInt8.toNat_inj.mp
    rw [expected_toNat (payloadOf_iff.mp own).2.1]
    exact advances
  rw [mismatch_payload before own, expects]
  simp

/-- Behind packets that follow one another only a duplicate of the last one is accepted besides
the packet that follows. -/
theorem mismatch_behind (flow : Flow id (earlier ++ [last])) (own : payloadOf id next = true) :
    mismatch (earlier ++ [last]) next = true ↔
      ¬ Advances last next ∧ ¬ (counter next = counter last ∧
        equivalentDuplicate last next (hasPcr next) = true) := by
  have payload : hasPayload next = true := (payloadOf_iff.mp own).2.1
  have payloadLast : hasPayload last = true := (payloadOf_iff.mp (flow.own last (by simp))).2.1
  -- the last packet repeats nothing, so that it may itself be repeated
  have fresh : (earlier.getLast?.any fun before => counter last == counter before) = false := by
    cases found : earlier.getLast? with
    | none => rfl
    | some before =>
      have advances : Advances before last :=
        (List.isChain_append.mp flow.chain).2.2 before found last rfl
      have small := counter_lt before
      simp only [Option.any_some, beq_eq_false_iff_ne, ne_eq]
      intro same
      rw [Advances, same] at advances
      omega
  have expects : counter next = expected (counter last) next ↔ Advances last next := by
    rw [← UInt8.toNat_inj, expected_toNat payload]
    rfl
  rw [mismatch_payload flow.own own, duplicate_eq, fresh]
  simp only [duplicate, payload, payloadLast, Bool.true_and, Bool.and_true, Option.any_none,
    Bool.not_false, Bool.and_eq_true, Bool.not_eq_true', Bool.and_eq_false_iff, bne_iff_ne, ne_eq,
    expects, beq_eq_false_iff_ne, not_and_or, Bool.not_eq_true]
  exact and_comm

/-! ## A flow, whole or with a gap -/

/-- What follows on without a gap adds no error. -/
theorem errors_continue (own : ∀ packet ∈ earlier ++ last :: rest, payloadOf id packet = true)
    (chain : (last :: rest).IsChain Advances) :
    errors none (earlier ++ last :: rest) = errors none (earlier ++ [last]) := by
  induction rest generalizing earlier last with
  | nil => rfl
  | cons next rest ih =>
    obtain ⟨advances, chain⟩ := List.isChain_cons_cons.mp chain
    have grouped : earlier ++ last :: next :: rest = (earlier ++ [last]) ++ next :: rest := by simp
    rw [grouped] at own ⊢
    have before : ∀ packet ∈ earlier ++ [last], payloadOf id packet = true :=
      fun packet member => own packet (List.mem_append_left _ member)
    have fine : counted none (earlier ++ [last]) next = false := by
      rw [counted, mismatch_advances before (own next (by simp)) advances, Bool.false_and]
    rw [ih own chain, errors_snoc, fine]
    simp

theorem errors_flow (flow : Flow id packets) : errors none packets = [] := by
  cases packets with
  | nil => rfl
  | cons first rest =>
    have alone : counted none [] first = false := by simp [counted, mismatch_eq, valids]
    have single : errors none ([] ++ [first]) = [] := by
      rw [errors_snoc, alone]
      rfl
    have continued : errors none ([] ++ first :: rest) = errors none ([] ++ [first]) :=
      errors_continue flow.own flow.chain
    exact continued.trans single

/-- Behind a gap only the first packet can be an error. -/
theorem errors_gap (flow : Flow id (earlier ++ [last])) (after : Flow id (next :: rest)) :
    (errors none (earlier ++ last :: next :: rest)).length =
      if mismatch (earlier ++ [last]) next then 1 else 0 := by
  have grouped : earlier ++ last :: next :: rest = (earlier ++ [last]) ++ next :: rest := by simp
  have own : ∀ packet ∈ (earlier ++ [last]) ++ next :: rest, payloadOf id packet = true := by
    intro packet member
    rcases List.mem_append.mp member with before | behind
    · exact flow.own packet before
    · exact after.own packet behind
  rw [grouped, errors_continue own after.chain, errors_snoc, errors_flow flow]
  simp only [counted, excluded, Option.any_none, Bool.false_and, Bool.not_false, Bool.and_true]
  split <;> rfl

/-- Both sides of a gap are flows, and the counters say how long it is. -/
theorem flow_split (flow : Flow id (earlier ++ last :: (block ++ next :: rest))) :
    Flow id (earlier ++ [last]) ∧ Flow id (next :: rest) ∧
      (counter next).toNat = ((counter last).toNat + block.length + 1) % 16 := by
  have first : earlier ++ last :: (block ++ next :: rest) =
      (earlier ++ [last]) ++ (block ++ next :: rest) := by simp
  have second : earlier ++ last :: (block ++ next :: rest) =
      (earlier ++ last :: block) ++ next :: rest := by simp
  have middle : earlier ++ last :: (block ++ next :: rest) =
      earlier ++ ((last :: (block ++ [next])) ++ rest) := by simp
  refine ⟨⟨?_, ?_⟩, ⟨?_, ?_⟩, ?_⟩
  · intro packet member
    exact flow.own packet (first ▸ List.mem_append_left _ member)
  · exact (first ▸ flow.chain).left_of_append
  · intro packet member
    exact flow.own packet (second ▸ List.mem_append_right _ member)
  · exact (second ▸ flow.chain).right_of_append
  · exact counter_behind (middle ▸ flow.chain).right_of_append.left_of_append

/-- **`ts-check` detects loss.** Payload packets of one PID that follow one another show no error.
When some of them are lost in between there is one error, but none when their number is a multiple
of sixteen, nor when it is one short of that and the next packet looks like a duplicate of the last
one. -/
theorem loss_is_one_error (packets : List Packet) (flow : Flow id (packets.map Packet.bytes)) :
    (inspect {} (fileOf packets)).continuityErrors = 0 ∧
      ∀ earlier last block next rest, packets = earlier ++ last :: (block ++ next :: rest) →
        let errors := (inspect {} (fileOf (earlier ++ last :: next :: rest))).continuityErrors
        (block.length % 16 ≠ 0 → block.length % 16 ≠ 15 → errors = 1) ∧
          (block.length % 16 = 0 → errors = 0) ∧
          (block.length % 16 = 15 → errors =
            if equivalentDuplicate last.bytes next.bytes (hasPcr next.bytes) then 0 else 1) := by
  have options : ({} : Options) = splitAt none := rfl
  constructor
  · rw [Report.continuityErrors, options, inspect_errors, errors_flow flow]
    rfl
  · rintro earlier last block next rest rfl
    simp only [List.map_append, List.map_cons] at flow
    obtain ⟨before, after, counters⟩ := flow_split flow
    have small := counter_lt last.bytes
    rw [List.length_map] at counters
    have judged := mismatch_behind before (after.own _ List.mem_cons_self)
    simp only [Report.continuityErrors, options, inspect_errors, List.map_append, List.map_cons,
      errors_gap before after]
    have same : counter next.bytes = counter last.bytes ↔ block.length % 16 = 15 := by
      rw [← UInt8.toNat_inj, counters]
      omega
    have advances : Advances last.bytes next.bytes ↔ block.length % 16 = 0 := by
      rw [Advances, counters]
      omega
    rw [same, advances] at judged
    refine ⟨?_, ?_, ?_⟩
    · intro some short
      rw [if_pos (judged.mpr ⟨some, fun both => short both.1⟩)]
    · intro none
      rw [if_neg fun wrong => (judged.mp wrong).1 none]
    · intro short
      by_cases duplicate :
          equivalentDuplicate last.bytes next.bytes (hasPcr next.bytes) = true
      · rw [if_neg fun wrong => (judged.mp wrong).2 ⟨short, duplicate⟩, if_pos duplicate]
      · rw [if_pos (judged.mpr ⟨by omega, fun both => duplicate both.2⟩), if_neg duplicate]

/-- Two packets in the middle are lost. -/
theorem two_lost_packets :
    (inspect {} (fileOf [sample 0x01 0x1E 0, sample 0x01 0x11 0])).continuityErrors = 1 := by
  have flow : Flow 256 ([sample 0x01 0x1E 0, sample 0x01 0x1F 0, sample 0x01 0x10 0,
      sample 0x01 0x11 0].map Packet.bytes) := ⟨by decide +kernel, by decide +kernel⟩
  exact ((loss_is_one_error _ flow).2 [] _ [sample 0x01 0x1F 0, sample 0x01 0x10 0] _ [] rfl).1
    (by decide) (by decide)

end SianoUserland.LossDetection
