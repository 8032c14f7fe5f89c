import Mathlib.Algebra.Group.Nat.Defs
import SianoUserland.Protocol

/-! Framing and packing of `protocol.c` against each other: what `sms_frame_message` reads is
what `sms_pack_header` wrote, and it stays inside of what was received. -/
namespace SianoUserland.ProtocolFraming
open Protocol

/-! ## Words -/

/-- A word of two bytes is read back, whatever follows it. -/
theorem getLe16_putLe16 (value : Nat) (rest : List UInt8) :
    getLe16 (putLe16 value ++ rest) = value % 65536 := by
  simp only [getLe16, putLe16, List.cons_append, List.nil_append, List.getD_cons_zero,
    List.getD_cons_succ, UInt8.toNat_ofNat', Nat.shiftRight_eq_div_pow]
  omega

/-- A word of four bytes is read back, whatever follows it. -/
theorem getLe32_putLe32 (value : Nat) (rest : List UInt8) :
    getLe32 (putLe32 value ++ rest) = value % 4294967296 := by
  have upper : (putLe32 value ++ rest).drop 2 = putLe16 (value >>> 16) ++ rest := rfl
  rw [getLe32, upper, putLe32, List.append_assoc, getLe16_putLe16, getLe16_putLe16,
    Nat.shiftRight_eq_div_pow]
  omega

theorem length_packHeader (type : Nat) (src dst : UInt8) (length flags : Nat) :
    (packHeader type src dst length flags).length = 8 := rfl

/-- A packed header is read back, whatever follows it. -/
theorem unpackHeader_packHeader (type : Nat) (src dst : UInt8) (length flags : Nat)
    (rest : List UInt8) :
    unpackHeader (packHeader type src dst length flags ++ rest) = .ok {
      msgType := type % 65536
      msgSrcId := src.toNat
      msgDstId := dst.toNat
      msgLength := length % 65536
      msgFlags := flags % 65536 } := by
  have long : ¬ (packHeader type src dst length flags ++ rest).length < 8 := by
    rw [List.length_append, length_packHeader]
    omega
  have types : getLe16 (packHeader type src dst length flags ++ rest) = type % 65536 :=
    getLe16_putLe16 type _
  have lengths : getLe16 ((packHeader type src dst length flags ++ rest).drop 4) =
      length % 65536 := getLe16_putLe16 length _
  have flagBits : getLe16 ((packHeader type src dst length flags ++ rest).drop 6) =
      flags % 65536 := getLe16_putLe16 flags _
  rw [unpackHeader, if_neg long, types, lengths, flagBits]
  rfl

/-! ## Frames -/

/-- A received buffer. Its length is a `size_t`. -/
structure Buffer where
  bytes : List UInt8
  bounded : bytes.length < 2 ^ 64

/-- `sms_frame_message` with the arithmetic of `size_t`: its result and the frame it leaves. -/
def smsFrameMessage (buffer : Buffer) (responseAlignment : UInt64) (frame : SmsFrame) :
    Int × SmsFrame :=
  let actualLength := buffer.bytes.length
  match unpackHeader buffer.bytes with
  | .error rc => (rc, frame)
  | .ok header =>
    if header.msgLength < 8 then (-Errno.badmsg, frame)
    else
      let offset : UInt64 :=
        if header.msgFlags &&& 4 ≠ 0 ∧ responseAlignment ≠ 0 then
          responseAlignment + UInt64.ofNat ((header.msgFlags >>> 8) &&& 3)
        else 0
      if offset.toNat > actualLength ∨ header.msgLength > actualLength - offset.toNat then
        (-Errno.msgsize, frame)
      else
        (0, {
          type := header.msgType
          length := header.msgLength
          flags := header.msgFlags
          offset := offset.toNat
          payloadOffset := (offset + 8).toNat
          payloadLength := header.msgLength - 8 })

/-- Where the header of a frame is displaced to. -/
def displacement (flags alignment : Nat) : Nat :=
  if flags &&& 4 ≠ 0 ∧ alignment ≠ 0 then alignment + ((flags >>> 8) &&& 3) else 0

variable {buffer : Buffer} {responseAlignment : UInt64} {frame : SmsFrame}

theorem two_bits_le (flags : Nat) : (flags >>> 8) &&& 3 ≤ 3 := Nat.and_le_right

/-- The offset does not wrap. -/
theorem offset_toNat (flags : Nat) (unwrapped : responseAlignment.toNat + 3 < 2 ^ 64) :
    (if flags &&& 4 ≠ 0 ∧ responseAlignment ≠ 0 then
      responseAlignment + UInt64.ofNat ((flags >>> 8) &&& 3)
    else 0 : UInt64).toNat = displacement flags responseAlignment.toNat := by
  have aligned : responseAlignment ≠ 0 ↔ responseAlignment.toNat ≠ 0 := by
    rw [ne_eq, ne_eq, ← UInt64.toNat_inj]
    rfl
  have bits := two_bits_le flags
  unfold displacement
  simp only [aligned]
  split
  · rw [UInt64.toNat_add, UInt64.toNat_ofNat']
    omega
  · rfl

/-- Where the alignment does not wrap, the frame is the one that `frameMessage` gives. -/
theorem smsFrameMessage_eq (unwrapped : responseAlignment.toNat + 3 < 2 ^ 64) :
    smsFrameMessage buffer responseAlignment frame =
      match frameMessage buffer.bytes responseAlignment.toNat with
      | .ok decoded => (0, decoded)
      | .error rc => (rc, frame) := by
  unfold smsFrameMessage frameMessage
  cases unpackHeader buffer.bytes with
  | error rc => rfl
  | ok header =>
    have offset := offset_toNat header.msgFlags unwrapped
    have bounded := buffer.bounded
    simp only [bind, Except.bind, pure, Except.pure, throw, throwThe, MonadExceptOf.throw]
    by_cases short : header.msgLength < 8
    · simp only [short, ↓reduceIte]
    · simp only [short, ↓reduceIte, offset]
      by_cases outside : displacement header.msgFlags responseAlignment.toNat >
          buffer.bytes.length ∨ header.msgLength > buffer.bytes.length -
            displacement header.msgFlags responseAlignment.toNat
      · rw [if_pos outside]
        unfold displacement at outside
        rw [if_pos outside]
      · rw [if_neg outside, UInt64.toNat_add, offset]
        have whole : (displacement header.msgFlags responseAlignment.toNat +
            (8 : UInt64).toNat) % 2 ^ 64 =
              displacement header.msgFlags responseAlignment.toNat + 8 := by
          simp only [UInt64.reduceToNat]
          omega
        rw [whole]
        unfold displacement at outside ⊢
        rw [if_neg outside]

/-- The length field and the displacement of what was received. -/
def lengthField (buffer : Buffer) : Nat := getLe16 (buffer.bytes.drop 4)

def frameOffset (buffer : Buffer) (alignment : Nat) : Nat :=
  displacement (getLe16 (buffer.bytes.drop 6)) alignment

/-- A frame is decoded exactly when it lies inside of what was received. -/
theorem frameMessage_cases (buffer : Buffer) (alignment : Nat) :
    (∃ decoded, frameMessage buffer.bytes alignment = .ok decoded ∧
      8 ≤ buffer.bytes.length ∧ 8 ≤ lengthField buffer ∧
      frameOffset buffer alignment + lengthField buffer ≤ buffer.bytes.length ∧
      decoded.payloadOffset = frameOffset buffer alignment + 8 ∧
      decoded.payloadLength = lengthField buffer - 8) ∨
    (∃ rc, frameMessage buffer.bytes alignment = .error rc ∧ rc < 0 ∧
      ¬ (8 ≤ buffer.bytes.length ∧ 8 ≤ lengthField buffer ∧
        frameOffset buffer alignment + lengthField buffer ≤ buffer.bytes.length)) := by
  unfold frameMessage unpackHeader
  simp only [bind, Except.bind, pure, Except.pure, throw, throwThe, MonadExceptOf.throw]
  by_cases tiny : buffer.bytes.length < 8
  · rw [if_pos tiny]
    exact Or.inr ⟨_, rfl, by decide, by omega⟩
  rw [if_neg tiny]
  by_cases short : lengthField buffer < 8
  · simp only [lengthField] at short
    simp only [short, ↓reduceIte]
    exact Or.inr ⟨_, rfl, by decide, by simp only [lengthField]; omega⟩
  have long := short
  simp only [lengthField] at short
  simp only [short, ↓reduceIte]
  by_cases outside : frameOffset buffer alignment > buffer.bytes.length ∨
      lengthField buffer > buffer.bytes.length - frameOffset buffer alignment
  · have refused := outside
    simp only [frameOffset, displacement, lengthField] at refused
    rw [if_pos refused]
    exact Or.inr ⟨_, rfl, by decide, by omega⟩
  · have accepted := outside
    simp only [frameOffset, displacement, lengthField] at accepted
    rw [if_neg accepted]
    exact Or.inl ⟨_, rfl, by omega, by omega, by omega, rfl, rfl⟩

/-- What a packed message is decoded to. -/
theorem frameMessage_packHeader (type src dst length flags alignment) (rest : List UInt8)
    (long : 8 ≤ length) (fits : length < 65536)
    (inside : displacement (flags % 65536) alignment + length ≤ 8 + rest.length) :
    frameMessage (packHeader type src dst length flags ++ rest) alignment = .ok {
      type := type % 65536
      length := length
      flags := flags % 65536
      offset := displacement (flags % 65536) alignment
      payloadOffset := displacement (flags % 65536) alignment + 8
      payloadLength := length - 8 } := by
  have lengths : length % 65536 = length := Nat.mod_eq_of_lt fits
  have whole : (packHeader type src dst length flags ++ rest).length = 8 + rest.length := by
    rw [List.length_append, length_packHeader]
  have accepted : ¬ (displacement (flags % 65536) alignment > 8 + rest.length ∨
      length > 8 + rest.length - displacement (flags % 65536) alignment) := by
    omega
  unfold displacement at accepted
  rw [frameMessage, unpackHeader_packHeader, lengths, whole]
  simp only [bind, Except.bind, pure, Except.pure, Nat.not_lt.mpr long, ↓reduceIte, accepted]
  rfl

/-- A message as it arrives: a packed header, then the payload at its displacement, and
whatever else was received. -/
def Packed (buffer : Buffer) (type : UInt16) (src dst : UInt8) (flags : UInt16) (alignment : Nat)
    (payload trailing : List UInt8) : Prop :=
  ∃ gap, gap.length = displacement flags.toNat alignment ∧ buffer.bytes =
    packHeader type.toNat src dst (8 + payload.length) flags.toNat ++ gap ++ payload ++ trailing

/-- **Framing inverts packing and stays in bounds.** A packed message is decoded to the same
type, length, flags and payload. Whatever else is received, a frame is accepted exactly when it
lies inside of the buffer, and a refused one is left alone. -/
theorem framing_inverts_packing (responseAlignment : UInt64)
    (unwrapped : responseAlignment.toNat + 3 < 2 ^ 64) :
    (∀ buffer frame type src dst flags payload trailing, payload.length ≤ 65527 →
      Packed buffer type src dst flags responseAlignment.toNat payload trailing →
      ∃ decoded, smsFrameMessage buffer responseAlignment frame = (0, decoded) ∧
        decoded.type = type.toNat ∧ decoded.length = 8 + payload.length ∧
        decoded.flags = flags.toNat ∧
        decoded.offset = displacement flags.toNat responseAlignment.toNat ∧
        decoded.payloadOffset = displacement flags.toNat responseAlignment.toNat + 8 ∧
        decoded.payloadLength = payload.length ∧
        (buffer.bytes.drop decoded.payloadOffset).take decoded.payloadLength = payload) ∧
    ∀ buffer frame,
      ((smsFrameMessage buffer responseAlignment frame).1 = 0 ↔
        8 ≤ buffer.bytes.length ∧ 8 ≤ lengthField buffer ∧
          frameOffset buffer responseAlignment.toNat + lengthField buffer ≤
            buffer.bytes.length) ∧
      ((smsFrameMessage buffer responseAlignment frame).1 = 0 →
        (smsFrameMessage buffer responseAlignment frame).2.payloadOffset +
          (smsFrameMessage buffer responseAlignment frame).2.payloadLength ≤
            buffer.bytes.length) ∧
      ((smsFrameMessage buffer responseAlignment frame).1 ≠ 0 →
        (smsFrameMessage buffer responseAlignment frame).2 = frame) := by
  refine ⟨?_, ?_⟩
  · rintro buffer frame type src dst flags payload trailing small ⟨gap, displaced, laid⟩
    have types := Nat.mod_eq_of_lt type.toNat_lt
    have flagBits := Nat.mod_eq_of_lt flags.toNat_lt
    have decoded := frameMessage_packHeader type.toNat src dst (8 + payload.length) flags.toNat
      responseAlignment.toNat (gap ++ payload ++ trailing) (by omega) (by omega)
      (by rw [flagBits, ← displaced]; simp only [List.length_append]; omega)
    rw [types, flagBits, ← displaced, ← List.append_assoc, ← List.append_assoc, ← laid] at decoded
    refine ⟨_, by rw [smsFrameMessage_eq unwrapped, decoded], rfl, rfl, rfl, displaced,
      by rw [displaced], Nat.add_sub_cancel_left .., ?_⟩
    have front : (packHeader type.toNat src dst (8 + payload.length) flags.toNat ++ gap).length =
        gap.length + 8 := by
      rw [List.length_append, length_packHeader, Nat.add_comm]
    rw [laid, List.append_assoc _ payload, List.drop_left' front]
    exact List.take_left' (Nat.add_sub_cancel_left ..).symm
  · intro buffer frame
    rw [smsFrameMessage_eq unwrapped]
    rcases frameMessage_cases buffer responseAlignment.toNat with
      ⟨decoded, result, long, field, inside, start, size⟩ | ⟨rc, result, negative, outside⟩
    · rw [result]
      refine ⟨⟨fun _ => ⟨long, field, inside⟩, fun _ => rfl⟩, fun _ => ?_, fun failed => ?_⟩
      · rw [start, size]
        omega
      · exact absurd rfl failed
    · rw [result]
      refine ⟨⟨fun zero => ?_, fun all => absurd all outside⟩, fun zero => ?_, fun _ => rfl⟩
      · exact absurd zero (Int.ne_of_lt negative)
      · exact absurd zero (Int.ne_of_lt negative)

/-- A version response of three bytes, displaced by an alignment of four and two more. -/
def splitMessage : Buffer where
  bytes := packHeader 669 201 11 11 0x204 ++ List.replicate 6 0xff ++ [1, 2, 3] ++ [0]
  bounded := by decide

theorem framing_inverts_split :
    ∃ decoded, smsFrameMessage splitMessage 4 ⟨0, 0, 0, 0, 0, 0⟩ = (0, decoded) ∧
      decoded = ⟨669, 11, 0x204, 6, 14, 3⟩ ∧
      (splitMessage.bytes.drop decoded.payloadOffset).take decoded.payloadLength = [1, 2, 3] := by
  have packed : Packed splitMessage 669 201 11 0x204 4 [1, 2, 3] [0] :=
    ⟨List.replicate 6 0xff, by decide, rfl⟩
  obtain ⟨decoded, result, -, -, -, -, -, -, payload⟩ :=
    (framing_inverts_packing 4 (by decide)).1 splitMessage
      ⟨0, 0, 0, 0, 0, 0⟩ 669 201 11 0x204 [1, 2, 3] [0] (by decide) packed
  have evaluated : smsFrameMessage splitMessage 4 ⟨0, 0, 0, 0, 0, 0⟩ =
      (0, ⟨669, 11, 0x204, 6, 14, 3⟩) := by
    decide +kernel
  exact ⟨decoded, result, (Prod.mk.inj (result.symm.trans evaluated)).2, payload⟩

end SianoUserland.ProtocolFraming
