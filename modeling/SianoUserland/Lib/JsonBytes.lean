import SianoUserland.Lib.JsonDecoder

/-! `json.loads` of bytes: their encoding is guessed from the first ones, and surrogates pass. -/
namespace SianoUserland.Json
open Text

inductive Encoding
  | utf8
  | utf16 (little : Bool)
  | utf32 (little : Bool)
  deriving Repr, DecidableEq

/-- The encoding of bytes without a mark, by where the zeros are. -/
def guessEncoding : List UInt8 → Encoding
  | a :: b :: c :: d :: _ =>
    if a = 0 then (if b = 0 then .utf32 false else .utf16 false)
    else if b = 0 then (if c = 0 ∧ d = 0 then .utf32 true else .utf16 true)
    else .utf8
  | [a, b] => if a = 0 then .utf16 false else if b = 0 then .utf16 true else .utf8
  | _ => .utf8

/-- `detect_encoding`, and the bytes after the mark. -/
def detectEncoding (data : List UInt8) : Encoding × List UInt8 :=
  if [0x00, 0x00, 0xFE, 0xFF].isPrefixOf data then (.utf32 false, data.drop 4)
  else if [0xFF, 0xFE, 0x00, 0x00].isPrefixOf data then (.utf32 true, data.drop 4)
  else if [0xFE, 0xFF].isPrefixOf data then (.utf16 false, data.drop 2)
  else if [0xFF, 0xFE].isPrefixOf data then (.utf16 true, data.drop 2)
  else if [0xEF, 0xBB, 0xBF].isPrefixOf data then (.utf8, data.drop 3)
  else (guessEncoding data, data)

/-! ### Decoding with surrogates -/

/-- UTF-8, with surrogates as sequences of three bytes. -/
def passUtf8 : List UInt8 → Option Str
  | [] => some []
  | a :: rest =>
    if a.toNat < 0x80 then (passUtf8 rest).map (a.toNat :: ·)
    else if a.toNat < 0xE0 then
      match rest with
      | b :: rest =>
        let point := (a.toNat - 0xC0) * 64 + lowBits b
        if 0xC0 ≤ a.toNat && continues b && 0x80 ≤ point then (passUtf8 rest).map (point :: ·)
        else none
      | [] => none
    else if a.toNat < 0xF0 then
      match rest with
      | b :: c :: rest =>
        let point := ((a.toNat - 0xE0) * 64 + lowBits b) * 64 + lowBits c
        if continues b && continues c && 0x800 ≤ point then (passUtf8 rest).map (point :: ·)
        else none
      | _ => none
    else
      match rest with
      | b :: c :: d :: rest =>
        let point := (((a.toNat - 0xF0) * 64 + lowBits b) * 64 + lowBits c) * 64 + lowBits d
        if continues b && continues c && continues d && 0x10000 ≤ point && point < 0x110000 then
          (passUtf8 rest).map (point :: ·)
        else none
      | _ => none

/-- UTF-16 code units, of which a surrogate without its other half stays one. -/
def passUnits : List Nat → Str
  | [] => []
  | [unit] => [unit]
  | unit :: low :: rest =>
    if 0xD800 ≤ unit ∧ unit < 0xDC00 ∧ 0xDC00 ≤ low ∧ low ≤ 0xDFFF then
      (0x10000 + (unit - 0xD800) * 1024 + (low - 0xDC00)) :: passUnits rest
    else unit :: passUnits (low :: rest)

/-- UTF-32. -/
def passUtf32 (little : Bool) : List UInt8 → Option Str
  | [] => some []
  | a :: b :: c :: d :: rest =>
    let point :=
      if little then a.toNat + 256 * (b.toNat + 256 * (c.toNat + 256 * d.toNat))
      else d.toNat + 256 * (c.toNat + 256 * (b.toNat + 256 * a.toNat))
    if point < 0x110000 then (passUtf32 little rest).map (point :: ·) else none
  | _ => none

/-- `decode(detect_encoding(data), "surrogatepass")`. -/
def decodeBytes (data : List UInt8) : Option Str :=
  match detectEncoding data with
  | (.utf8, rest) => passUtf8 rest
  | (.utf16 little, rest) => (codeUnits little rest).map passUnits
  | (.utf32 little, rest) => passUtf32 little rest

/-! ### Bytes that need no surrogate -/

/-- What is read strictly is read the same way when surrogates pass. -/
theorem passUtf8_strict (data : List UInt8) (text : Str) (decoded : decode data = some text) :
    passUtf8 data = some text := by
  fun_induction decode data generalizing text with
  | case1 => exact decoded
  | case2 a rest small hypothesis =>
    obtain ⟨others, read, rfl⟩ := Option.map_eq_some_iff.mp decoded
    conv_lhs => unfold passUtf8
    simp only [if_pos small, hypothesis others read, Option.map_some]
  | case3 a large below b rest point valid hypothesis =>
    obtain ⟨others, read, rfl⟩ := Option.map_eq_some_iff.mp decoded
    conv_lhs => unfold passUtf8
    simp only [if_neg large, if_pos below]
    exact (if_pos valid).trans (congrArg _ (hypothesis others read))
  | case6 a large above below b c rest point valid hypothesis =>
    obtain ⟨others, read, rfl⟩ := Option.map_eq_some_iff.mp decoded
    conv_lhs => unfold passUtf8
    simp only [if_neg large, if_neg above, if_pos below]
    exact (if_pos ((Bool.and_eq_true _ _).mp valid).1).trans (congrArg _ (hypothesis others read))
  | case9 a large above higher b c d rest point valid hypothesis =>
    obtain ⟨others, read, rfl⟩ := Option.map_eq_some_iff.mp decoded
    conv_lhs => unfold passUtf8
    simp only [if_neg large, if_neg above, if_neg higher]
    exact (if_pos valid).trans (congrArg _ (hypothesis others read))
  | case4 | case5 | case7 | case8 | case10 | case11 => cases decoded

/-- The brace of an object and a byte other than zero are of UTF-8 without a mark. -/
theorem detectEncoding_object (second : UInt8) (rest : List UInt8) (other : second ≠ 0) :
    detectEncoding (0x7B :: second :: rest) = (.utf8, 0x7B :: second :: rest) := by
  have guessed : guessEncoding (0x7B :: second :: rest) = .utf8 := by
    unfold guessEncoding
    split
    · next shape =>
      cases shape
      rw [if_neg (by decide), if_neg other]
    · next shape =>
      cases shape
      rw [if_neg (by decide), if_neg other]
    · rfl
  simp [detectEncoding, guessed]

/-- An object in strict UTF-8 is decoded as such. -/
theorem decodeBytes_object {second : UInt8} {rest : List UInt8} {text : Str} (other : second ≠ 0)
    (decoded : decode (0x7B :: second :: rest) = some text) :
    decodeBytes (0x7B :: second :: rest) = some text := by
  rw [decodeBytes, detectEncoding_object second rest other]
  exact passUtf8_strict _ _ decoded

end SianoUserland.Json
