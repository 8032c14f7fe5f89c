import SianoUserland.Errno

/-! `protocol.c`: the messages sent to the device and the framing of those it sends. -/
namespace SianoUserland.Protocol

/-! The message types the modelled code looks at. -/
abbrev MSG_SMS_GET_STATISTICS_RES : Nat := 616
abbrev MSG_SMS_GET_STATISTICS_EX_RES : Nat := 654
abbrev MSG_SMS_GET_VERSION_EX_RES : Nat := 669
abbrev MSG_SMS_DVBT_BDA_DATA : Nat := 693
abbrev MSG_SMS_ISDBT_TUNE_REQ : Nat := 776
abbrev MSG_SMS_ISDBT_TUNE_RES : Nat := 777
abbrev MSG_SMS_SIGNAL_DETECTED_IND : Nat := 827
abbrev MSG_SMS_NO_SIGNAL_IND : Nat := 828

/-- `sms_get_le16`. -/
def getLe16 (bytes : List UInt8) : Nat := (bytes.getD 0 0).toNat + 256 * (bytes.getD 1 0).toNat

/-- `sms_get_le32`. -/
def getLe32 (bytes : List UInt8) : Nat := getLe16 bytes + 65536 * getLe16 (bytes.drop 2)

/-- `sms_put_le16`. -/
def putLe16 (value : Nat) : List UInt8 := [UInt8.ofNat value, UInt8.ofNat (value >>> 8)]

/-- `sms_put_le32`. -/
def putLe32 (value : Nat) : List UInt8 := putLe16 value ++ putLe16 (value >>> 16)

/-- `sms_pack_header`. -/
def packHeader (type : Nat) (src dst : UInt8) (length flags : Nat) : List UInt8 :=
  putLe16 type ++ [src, dst] ++ putLe16 length ++ putLe16 flags

/-- A control message: `SMS_DVBT_BDA_CONTROL_MSG_ID` to `SMS_HIF_TASK`, then the
arguments. -/
def controlMessage (type : Nat) (arguments : List Nat) : List UInt8 :=
  packHeader type 201 11 (8 + 4 * arguments.length) 0 ++ arguments.flatMap putLe32

/-- The request `tune_internal` sends: 13 segments, a 12 MHz crystal. -/
def tuneRequest (frequency : UInt32) : List UInt8 :=
  controlMessage MSG_SMS_ISDBT_TUNE_REQ [frequency.toNat, 8, 12000000, 0]

/-- `sms_channel_frequency`. -/
def channelFrequency (channel : UInt32) : Except Int UInt32 :=
  if channel < 13 ∨ channel > 62 then .error (-Errno.inval)
  else
    let frequency := (channel.toNat * 6 + 395) * 1000000 + 142857
    if frequency > 4294967295 then .error (-Errno.range) else .ok (UInt32.ofNat frequency)

/-- `struct sms_msg_hdr_wire`. -/
structure MsgHdrWire where
  msgType : Nat
  msgSrcId : Nat
  msgDstId : Nat
  msgLength : Nat
  msgFlags : Nat
  deriving Repr, DecidableEq

/-- `sms_unpack_header`. -/
def unpackHeader (buffer : List UInt8) : Except Int MsgHdrWire :=
  if buffer.length < 8 then .error (-Errno.inval)
  else .ok {
    msgType := getLe16 buffer
    msgSrcId := (buffer.getD 2 0).toNat
    msgDstId := (buffer.getD 3 0).toNat
    msgLength := getLe16 (buffer.drop 4)
    msgFlags := getLe16 (buffer.drop 6) }

/-- `struct sms_frame`. -/
structure SmsFrame where
  type : Nat
  length : Nat
  flags : Nat
  offset : Nat
  payloadOffset : Nat
  payloadLength : Nat
  deriving Repr, DecidableEq

/-- `sms_frame_message`; the buffer is the part of it that was received. -/
def frameMessage (buffer : List UInt8) (responseAlignment : Nat) : Except Int SmsFrame := do
  let header ← unpackHeader buffer
  if header.msgLength < 8 then throw (-Errno.badmsg)
  let offset :=
    if header.msgFlags &&& 4 ≠ 0 ∧ responseAlignment ≠ 0 then
      responseAlignment + ((header.msgFlags >>> 8) &&& 3)
    else 0
  if offset > buffer.length ∨ header.msgLength > buffer.length - offset then
    throw (-Errno.msgsize)
  return {
    type := header.msgType
    length := header.msgLength
    flags := header.msgFlags
    offset := offset
    payloadOffset := offset + 8
    payloadLength := header.msgLength - 8 }

/-- What `handle_received_buffer` makes of a received buffer. -/
inductive Received where
  /-- Not a frame: reported and dropped. -/
  | invalid
  /-- Transport-stream data for `ts_enqueue_generation`. -/
  | data (payload : List UInt8)
  /-- Anything else, for `response_note`. -/
  | response (type : Nat) (payload : List UInt8)
  deriving Repr, DecidableEq

/-- The dispatch of `handle_received_buffer`. -/
def received (responseAlignment : Nat) (buffer : List UInt8) : Received :=
  match frameMessage buffer responseAlignment with
  | .error _ => .invalid
  | .ok frame =>
    let payload := (buffer.drop frame.payloadOffset).take frame.payloadLength
    if frame.type = MSG_SMS_DVBT_BDA_DATA then .data payload else .response frame.type payload

end SianoUserland.Protocol
