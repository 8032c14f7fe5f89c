import Mathlib.Data.List.Basic

/-! Strings of code points and their UTF-8 form, and how UTF-16 is read. A string is a list of code
points and not of characters, as a decoder of escapes can produce a lone surrogate. -/
namespace SianoUserland.Text

abbrev Str := List Nat

instance : LawfulBEq Str := inferInstance

/-- A byte that continues a sequence. -/
def continues (byte : UInt8) : Bool := 0x80 ≤ byte.toNat && byte.toNat < 0xC0

/-- The low six bits of a byte that continues a sequence. -/
def lowBits (byte : UInt8) : Nat := byte.toNat - 0x80

def isSurrogate (point : Nat) : Bool := 0xD800 ≤ point && point ≤ 0xDFFF

/-- Strict decoding: every byte belongs to the shortest sequence of a code point. -/
def decode : List UInt8 → Option Str
  | [] => some []
  | a :: rest =>
    if a.toNat < 0x80 then (decode rest).map (a.toNat :: ·)
    else if a.toNat < 0xE0 then
      match rest with
      | b :: rest =>
        let point := (a.toNat - 0xC0) * 64 + lowBits b
        if 0xC0 ≤ a.toNat && continues b && 0x80 ≤ point then (decode rest).map (point :: ·)
        else none
      | [] => none
    else if a.toNat < 0xF0 then
      match rest with
      | b :: c :: rest =>
        let point := ((a.toNat - 0xE0) * 64 + lowBits b) * 64 + lowBits c
        if continues b && continues c && 0x800 ≤ point && !isSurrogate point then
          (decode rest).map (point :: ·)
        else none
      | _ => none
    else
      match rest with
      | b :: c :: d :: rest =>
        let point := (((a.toNat - 0xF0) * 64 + lowBits b) * 64 + lowBits c) * 64 + lowBits d
        if continues b && continues c && continues d && 0x10000 ≤ point && point < 0x110000 then
          (decode rest).map (point :: ·)
        else none
      | _ => none

/-- The code points of a literal. -/
def str (literal : String) : Str := (decode literal.toUTF8.data.toList).getD []

/-- The bytes of a code point. A surrogate has none. -/
def encodePoint (point : Nat) : Option (List UInt8) :=
  if point < 0x80 then some [.ofNat point]
  else if point < 0x800 then some [.ofNat (0xC0 + point / 64), .ofNat (0x80 + point % 64)]
  else if isSurrogate point then none
  else if point < 0x10000 then
    some [.ofNat (0xE0 + point / 4096), .ofNat (0x80 + point / 64 % 64), .ofNat (0x80 + point % 64)]
  else if point < 0x110000 then
    some [.ofNat (0xF0 + point / 262144), .ofNat (0x80 + point / 4096 % 64),
      .ofNat (0x80 + point / 64 % 64), .ofNat (0x80 + point % 64)]
  else none

/-- Strict encoding. -/
def encode : Str → Option (List UInt8)
  | [] => some []
  | point :: rest => do return (← encodePoint point) ++ (← encode rest)

theorem ofNat_eq (byte : UInt8) (value : Nat) (same : value = byte.toNat) :
    UInt8.ofNat value = byte := by
  rw [same, UInt8.ofNat_toNat]

theorem continues_iff (byte : UInt8) :
    continues byte = true ↔ 0x80 ≤ byte.toNat ∧ byte.toNat < 0xC0 := by
  simp [continues]

theorem encodePoint_two (a b : UInt8) (lead : 0xC0 ≤ a.toNat ∧ a.toNat < 0xE0)
    (low : continues b = true) (least : 0x80 ≤ (a.toNat - 0xC0) * 64 + lowBits b) :
    encodePoint ((a.toNat - 0xC0) * 64 + lowBits b) = some [a, b] := by
  rw [continues_iff] at low
  unfold lowBits at *
  rw [encodePoint, if_neg (by omega), if_pos (by omega), ofNat_eq a _ (by omega),
    ofNat_eq b _ (by omega)]

theorem encodePoint_three (a b c : UInt8) (lead : 0xE0 ≤ a.toNat ∧ a.toNat < 0xF0)
    (low : continues b = true ∧ continues c = true)
    (least : 0x800 ≤ ((a.toNat - 0xE0) * 64 + lowBits b) * 64 + lowBits c)
    (scalar : isSurrogate (((a.toNat - 0xE0) * 64 + lowBits b) * 64 + lowBits c) = false) :
    encodePoint (((a.toNat - 0xE0) * 64 + lowBits b) * 64 + lowBits c) = some [a, b, c] := by
  rw [continues_iff, continues_iff] at low
  rw [encodePoint, scalar]
  unfold lowBits at *
  rw [if_neg (by omega), if_neg (by omega), if_neg (by decide), if_pos (by omega),
    ofNat_eq a _ (by omega), ofNat_eq b _ (by omega), ofNat_eq c _ (by omega)]

theorem encodePoint_four (a b c d : UInt8) (lead : 0xF0 ≤ a.toNat)
    (low : continues b = true ∧ continues c = true ∧ continues d = true)
    (least : 0x10000 ≤ (((a.toNat - 0xF0) * 64 + lowBits b) * 64 + lowBits c) * 64 + lowBits d)
    (most : (((a.toNat - 0xF0) * 64 + lowBits b) * 64 + lowBits c) * 64 + lowBits d < 0x110000) :
    encodePoint ((((a.toNat - 0xF0) * 64 + lowBits b) * 64 + lowBits c) * 64 + lowBits d) =
      some [a, b, c, d] := by
  rw [continues_iff, continues_iff, continues_iff] at low
  have scalar : isSurrogate
      ((((a.toNat - 0xF0) * 64 + lowBits b) * 64 + lowBits c) * 64 + lowBits d) = false := by
    simp only [isSurrogate, Bool.and_eq_false_iff, decide_eq_false_iff_not]
    omega
  rw [encodePoint, scalar]
  unfold lowBits at *
  rw [if_neg (by omega), if_neg (by omega), if_neg (by decide), if_neg (by omega),
    if_pos (by omega), ofNat_eq a _ (by omega), ofNat_eq b _ (by omega), ofNat_eq c _ (by omega),
    ofNat_eq d _ (by omega)]

theorem encode_cons (point : Nat) (text : Str) (bytes data : List UInt8)
    (first : encodePoint point = some bytes) (rest : encode text = some data) :
    encode (point :: text) = some (bytes ++ data) := by
  rw [encode, first, rest]
  rfl

theorem encode_decode (data : List UInt8) (text : Str) (decoded : decode data = some text) :
    encode text = some data := by
  fun_induction decode data generalizing text with
  | case1 =>
    cases decoded
    rfl
  | case2 a rest small hypothesis =>
    obtain ⟨others, read, rfl⟩ := Option.map_eq_some_iff.mp decoded
    have small : a.toNat < 0x80 := small
    refine encode_cons _ _ [a] _ ?_ (hypothesis others read)
    rw [encodePoint, if_pos small, UInt8.ofNat_toNat]
  | case3 a large below b rest point valid hypothesis =>
    obtain ⟨others, read, rfl⟩ := Option.map_eq_some_iff.mp decoded
    simp only [Bool.and_eq_true, decide_eq_true_eq] at valid
    exact encode_cons _ _ [a, b] _
      (encodePoint_two a b ⟨valid.1.1, below⟩ valid.1.2 valid.2) (hypothesis others read)
  | case6 a large above below b c rest point valid hypothesis =>
    obtain ⟨others, read, rfl⟩ := Option.map_eq_some_iff.mp decoded
    simp only [Bool.and_eq_true, decide_eq_true_eq, Bool.not_eq_true'] at valid
    obtain ⟨⟨⟨low, last⟩, least⟩, scalar⟩ := valid
    have above : 0xE0 ≤ a.toNat := Nat.not_lt.mp above
    exact encode_cons _ _ [a, b, c] _
      (encodePoint_three a b c ⟨above, below⟩ ⟨low, last⟩ least scalar) (hypothesis others read)
  | case9 a large above higher b c d rest point valid hypothesis =>
    obtain ⟨others, read, rfl⟩ := Option.map_eq_some_iff.mp decoded
    simp only [Bool.and_eq_true, decide_eq_true_eq] at valid
    obtain ⟨⟨⟨⟨low, next⟩, last⟩, least⟩, most⟩ := valid
    have higher : 0xF0 ≤ a.toNat := Nat.not_lt.mp higher
    exact encode_cons _ _ [a, b, c, d] _
      (encodePoint_four a b c d higher ⟨low, next, last⟩ least most) (hypothesis others read)
  | case4 | case5 | case7 | case8 | case10 | case11 => cases decoded

theorem decode_one (a : UInt8) (rest : List UInt8) (small : a.toNat < 0x80) :
    decode (a :: rest) = (decode rest).map (a.toNat :: ·) := by
  conv_lhs => unfold decode
  simp only [small, ↓reduceIte]

theorem decode_two (a b : UInt8) (rest : List UInt8) (lead : 0xC0 ≤ a.toNat ∧ a.toNat < 0xE0)
    (low : continues b = true) (least : 0x80 ≤ (a.toNat - 0xC0) * 64 + lowBits b) :
    decode (a :: b :: rest) = (decode rest).map (((a.toNat - 0xC0) * 64 + lowBits b) :: ·) := by
  have large : ¬ a.toNat < 0x80 := by omega
  conv_lhs => unfold decode
  simp only [large, lead, low, least, decide_true, Bool.and_self, ↓reduceIte]

theorem decode_three (a b c : UInt8) (rest : List UInt8)
    (lead : 0xE0 ≤ a.toNat ∧ a.toNat < 0xF0) (low : continues b = true ∧ continues c = true)
    (least : 0x800 ≤ ((a.toNat - 0xE0) * 64 + lowBits b) * 64 + lowBits c)
    (scalar : isSurrogate (((a.toNat - 0xE0) * 64 + lowBits b) * 64 + lowBits c) = false) :
    decode (a :: b :: c :: rest) =
      (decode rest).map ((((a.toNat - 0xE0) * 64 + lowBits b) * 64 + lowBits c) :: ·) := by
  have large : ¬ a.toNat < 0x80 ∧ ¬ a.toNat < 0xE0 := by omega
  conv_lhs => unfold decode
  simp only [large, lead, low, least, scalar, decide_true, Bool.and_self, Bool.not_false,
    ↓reduceIte]

theorem decode_four (a b c d : UInt8) (rest : List UInt8) (lead : 0xF0 ≤ a.toNat)
    (low : continues b = true ∧ continues c = true ∧ continues d = true)
    (least : 0x10000 ≤ (((a.toNat - 0xF0) * 64 + lowBits b) * 64 + lowBits c) * 64 + lowBits d)
    (most : (((a.toNat - 0xF0) * 64 + lowBits b) * 64 + lowBits c) * 64 + lowBits d < 0x110000) :
    decode (a :: b :: c :: d :: rest) = (decode rest).map
      (((((a.toNat - 0xF0) * 64 + lowBits b) * 64 + lowBits c) * 64 + lowBits d) :: ·) := by
  have large : ¬ a.toNat < 0x80 ∧ ¬ a.toNat < 0xE0 ∧ ¬ a.toNat < 0xF0 := by omega
  conv_lhs => unfold decode
  simp only [large, low, least, most, decide_true, Bool.and_self, ↓reduceIte]

/-- A byte that does not continue a sequence cannot stand in one. -/
theorem decode_stray (a b : UInt8) (rest : List UInt8) (lead : 0x80 ≤ a.toNat)
    (stray : continues b = false) : decode (a :: b :: rest) = none := by
  rw [decode.eq_def]
  dsimp only
  rw [if_neg (by omega)]
  split
  · simp [stray]
  · split
    · split
      · next same =>
        cases same
        simp [stray]
      · rfl
    · split
      · next same =>
        cases same
        simp [stray]
      · rfl

theorem continues_ofNat (value : Nat) (low : value < 64) :
    continues (.ofNat (0x80 + value)) = true ∧ lowBits (.ofNat (0x80 + value)) = value := by
  have byte : (UInt8.ofNat (0x80 + value)).toNat = 0x80 + value :=
    UInt8.toNat_ofNat_of_lt' (show _ < 256 by omega)
  refine ⟨(continues_iff _).mpr (by omega), ?_⟩
  unfold lowBits
  omega

theorem decode_encodePoint (point : Nat) (bytes rest : List UInt8)
    (encoded : encodePoint point = some bytes) :
    decode (bytes ++ rest) = (decode rest).map (point :: ·) := by
  unfold encodePoint at encoded
  split at encoded
  · next small =>
    cases encoded
    have first : (UInt8.ofNat point).toNat = point :=
      UInt8.toNat_ofNat_of_lt' (show _ < 256 by omega)
    rw [List.singleton_append, decode_one _ _ (by omega), first]
  split at encoded
  · next small =>
    cases encoded
    have first : (UInt8.ofNat (0xC0 + point / 64)).toNat = 0xC0 + point / 64 :=
      UInt8.toNat_ofNat_of_lt' (show _ < 256 by omega)
    obtain ⟨low, bits⟩ := continues_ofNat (point % 64) (by omega)
    have whole : (0xC0 + point / 64 - 0xC0) * 64 + point % 64 = point := by omega
    rw [List.cons_append, List.singleton_append, decode_two _ _ _ (by omega) low (by omega),
      first, bits, whole]
  split at encoded
  · cases encoded
  · next scalar =>
    split at encoded
    · next small =>
      cases encoded
      have first : (UInt8.ofNat (0xE0 + point / 4096)).toNat = 0xE0 + point / 4096 :=
        UInt8.toNat_ofNat_of_lt' (show _ < 256 by omega)
      obtain ⟨low, bits⟩ := continues_ofNat (point / 64 % 64) (by omega)
      obtain ⟨last, lastBits⟩ := continues_ofNat (point % 64) (by omega)
      have whole : ((0xE0 + point / 4096 - 0xE0) * 64 + point / 64 % 64) * 64 + point % 64 =
          point := by omega
      rw [List.cons_append, List.cons_append, List.singleton_append,
        decode_three _ _ _ _ (by omega) ⟨low, last⟩ (by rw [first, bits, lastBits]; omega)
          (by rw [first, bits, lastBits, whole]; simpa using scalar), first, bits, lastBits, whole]
    · split at encoded
      · next large most =>
        cases encoded
        have first : (UInt8.ofNat (0xF0 + point / 262144)).toNat = 0xF0 + point / 262144 :=
          UInt8.toNat_ofNat_of_lt' (show _ < 256 by omega)
        obtain ⟨low, bits⟩ := continues_ofNat (point / 4096 % 64) (by omega)
        obtain ⟨middle, middleBits⟩ := continues_ofNat (point / 64 % 64) (by omega)
        obtain ⟨last, lastBits⟩ := continues_ofNat (point % 64) (by omega)
        have whole : (((0xF0 + point / 262144 - 0xF0) * 64 + point / 4096 % 64) * 64 +
            point / 64 % 64) * 64 + point % 64 = point := by omega
        rw [List.cons_append, List.cons_append, List.cons_append, List.singleton_append,
          decode_four _ _ _ _ _ (by omega) ⟨low, middle, last⟩
            (by rw [first, bits, middleBits, lastBits]; omega)
            (by rw [first, bits, middleBits, lastBits]; omega), first, bits, middleBits, lastBits,
          whole]
      · cases encoded

theorem decode_encode (text : Str) (data : List UInt8) (encoded : encode text = some data) :
    decode data = some text := by
  induction text generalizing data with
  | nil =>
    cases encoded
    rfl
  | cons point rest hypothesis =>
    simp only [encode, Option.bind_eq_bind, Option.bind_eq_some_iff] at encoded
    obtain ⟨bytes, first, others, later, same⟩ := encoded
    cases same
    rw [decode_encodePoint point bytes others first, hypothesis others later]
    rfl

theorem encode_append (front back : Str) (data : List UInt8)
    (encoded : encode (front ++ back) = some data) :
    ∃ first second, encode front = some first ∧ encode back = some second ∧
      data = first ++ second := by
  induction front generalizing data with
  | nil => exact ⟨[], data, rfl, encoded, rfl⟩
  | cons point rest hypothesis =>
    simp only [List.cons_append, encode, Option.bind_eq_bind, Option.bind_eq_some_iff] at encoded
    obtain ⟨bytes, here, others, later, same⟩ := encoded
    cases same
    obtain ⟨first, second, front, back, rfl⟩ := hypothesis others later
    exact ⟨bytes ++ first, second, encode_cons point rest bytes first here front, back, by simp⟩

/-- Encoding and decoding are inverse to each other. -/
theorem encode_eq_some_iff (text : Str) (data : List UInt8) :
    encode text = some data ↔ decode data = some text :=
  ⟨decode_encode text data, encode_decode data text⟩

theorem ofNat_ne_zero (value : Nat) (positive : 0 < value) (small : value < 256) :
    (0 : UInt8) ≠ .ofNat value := by
  intro zero
  have same := congrArg UInt8.toNat zero
  rw [UInt8.toNat_ofNat', Nat.mod_eq_of_lt small] at same
  exact absurd same (Nat.ne_of_lt positive)

theorem nul_encodePoint (encoded : encodePoint point = some bytes) (other : point ≠ 0) :
    (0 : UInt8) ∉ bytes := by
  unfold encodePoint at encoded
  split at encoded
  · cases encoded
    rw [List.mem_singleton]
    exact ofNat_ne_zero _ (Nat.pos_of_ne_zero other) (by omega)
  split at encoded
  · cases encoded
    simp only [List.mem_cons, List.not_mem_nil, or_false, not_or]
    exact ⟨ofNat_ne_zero _ (by omega) (by omega), ofNat_ne_zero _ (by omega) (by omega)⟩
  split at encoded
  · cases encoded
  split at encoded
  · cases encoded
    simp only [List.mem_cons, List.not_mem_nil, or_false, not_or]
    exact ⟨ofNat_ne_zero _ (by omega) (by omega), ofNat_ne_zero _ (by omega) (by omega),
      ofNat_ne_zero _ (by omega) (by omega)⟩
  split at encoded
  · cases encoded
    simp only [List.mem_cons, List.not_mem_nil, or_false, not_or]
    exact ⟨ofNat_ne_zero _ (by omega) (by omega), ofNat_ne_zero _ (by omega) (by omega),
      ofNat_ne_zero _ (by omega) (by omega), ofNat_ne_zero _ (by omega) (by omega)⟩
  · cases encoded

/-- A string without NUL has no byte that is zero. -/
theorem nul_encode (text : Str) (data : List UInt8) (encoded : encode text = some data)
    (absent : 0 ∉ text) : (0 : UInt8) ∉ data := by
  induction text generalizing data with
  | nil =>
    cases encoded
    exact List.not_mem_nil
  | cons point rest hypothesis =>
    rw [List.mem_cons, not_or] at absent
    simp only [encode, Option.bind_eq_bind, Option.bind_eq_some_iff] at encoded
    obtain ⟨bytes, first, others, later, same⟩ := encoded
    cases same
    rw [List.mem_append, not_or]
    exact ⟨nul_encodePoint first (Ne.symm absent.1), hypothesis others later absent.2⟩

/-- ASCII is its own encoding. -/
theorem encode_ascii (text : Str) (ascii : ∀ point ∈ text, point < 0x80) :
    encode text = some (text.map UInt8.ofNat) := by
  induction text with
  | nil => rfl
  | cons point rest hypothesis =>
    rw [List.forall_mem_cons] at ascii
    have first : encodePoint point = some [.ofNat point] := if_pos ascii.1
    rw [encode_cons point rest _ _ first (hypothesis ascii.2)]
    rfl

/-! ### UTF-16 -/

/-- The code units of bytes, of which the first of two is the low one or the high one. -/
def codeUnits (little : Bool) : List UInt8 → Option (List Nat)
  | [] => some []
  | [_] => none
  | a :: b :: rest =>
    let unit := if little then a.toNat + 256 * b.toNat else 256 * a.toNat + b.toNat
    (codeUnits little rest).map (unit :: ·)

/-- The code points of code units. A surrogate stands in a pair, the high one first. -/
def joinUnits : List Nat → Option Str
  | [] => some []
  | unit :: rest =>
    if isSurrogate unit then
      match rest with
      | low :: rest =>
        if unit < 0xDC00 ∧ 0xDC00 ≤ low ∧ low ≤ 0xDFFF then
          (joinUnits rest).map ((0x10000 + (unit - 0xD800) * 1024 + (low - 0xDC00)) :: ·)
        else none
      | [] => none
    else (joinUnits rest).map (unit :: ·)

/-- Strict decoding of UTF-16. -/
def decodeUtf16 (little : Bool) (data : List UInt8) : Option Str :=
  (codeUnits little data).bind joinUnits

/-- The code units of a code point. A surrogate has none. -/
def splitPoint (point : Nat) : Option (List Nat) :=
  if point < 0x10000 then if isSurrogate point then none else some [point]
  else if point < 0x110000 then
    some [0xD800 + (point - 0x10000) / 1024, 0xDC00 + (point - 0x10000) % 1024]
  else none

/-- The bytes of a code unit. -/
def unitBytes (little : Bool) (unit : Nat) : List UInt8 :=
  if little then [.ofNat (unit % 256), .ofNat (unit / 256)]
  else [.ofNat (unit / 256), .ofNat (unit % 256)]

/-- Strict encoding in UTF-16, without a mark. -/
def encodeUtf16 (little : Bool) : Str → Option (List UInt8)
  | [] => some []
  | point :: rest => do
    return (← splitPoint point).flatMap (unitBytes little) ++ (← encodeUtf16 little rest)

theorem codeUnits_unitBytes (little : Bool) {unit : Nat} (small : unit < 0x10000)
    (rest : List UInt8) :
    codeUnits little (unitBytes little unit ++ rest) = (codeUnits little rest).map (unit :: ·) := by
  have low : (UInt8.ofNat (unit % 256)).toNat = unit % 256 := by
    rw [UInt8.toNat_ofNat']
    omega
  have high : (UInt8.ofNat (unit / 256)).toNat = unit / 256 := by
    rw [UInt8.toNat_ofNat']
    omega
  have whole : unit % 256 + 256 * (unit / 256) = unit := Nat.mod_add_div unit 256
  cases little with
  | true => simp [unitBytes, codeUnits, low, high, whole]
  | false => simp [unitBytes, codeUnits, low, high, Nat.add_comm (256 * _), whole]

/-- The units of a code point are joined to it. -/
theorem joinUnits_splitPoint {point : Nat} {units : List Nat}
    (split : splitPoint point = some units) (rest : List Nat) :
    (∀ unit ∈ units, unit < 0x10000) ∧
      joinUnits (units ++ rest) = (joinUnits rest).map (point :: ·) := by
  unfold splitPoint at split
  split at split
  · next small =>
    split at split
    · cases split
    · next scalar =>
      cases split
      refine ⟨by simpa using small, ?_⟩
      rw [List.singleton_append, joinUnits.eq_def]
      exact if_neg scalar
  · split at split
    · next large most =>
      cases split
      have surrogate : isSurrogate (0xD800 + (point - 0x10000) / 1024) = true := by
        simp only [isSurrogate, Bool.and_eq_true, decide_eq_true_eq]
        omega
      have pair : 0xD800 + (point - 0x10000) / 1024 < 0xDC00 ∧
          0xDC00 ≤ 0xDC00 + (point - 0x10000) % 1024 ∧
          0xDC00 + (point - 0x10000) % 1024 ≤ 0xDFFF := by omega
      have joined : 0x10000 + (0xD800 + (point - 0x10000) / 1024 - 0xD800) * 1024 +
          (0xDC00 + (point - 0x10000) % 1024 - 0xDC00) = point := by omega
      refine ⟨?_, ?_⟩
      · simp only [List.forall_mem_cons]
        exact ⟨by omega, by omega, by simp⟩
      · rw [List.cons_append, List.singleton_append, joinUnits, if_pos surrogate, if_pos pair,
          joined]
    · cases split

theorem codeUnits_units (little : Bool) {units : List Nat} (small : ∀ unit ∈ units, unit < 0x10000)
    (rest : List UInt8) : codeUnits little (units.flatMap (unitBytes little) ++ rest) =
      (codeUnits little rest).map (units ++ ·) := by
  induction units with
  | nil => simp
  | cons unit units hypothesis =>
    rw [List.forall_mem_cons] at small
    rw [List.flatMap_cons, List.append_assoc, codeUnits_unitBytes little small.1,
      hypothesis small.2, Option.map_map]
    rfl

/-- What is encoded in UTF-16 is read back. -/
theorem decodeUtf16_encodeUtf16 (little : Bool) (text : Str) (data : List UInt8)
    (encoded : encodeUtf16 little text = some data) : decodeUtf16 little data = some text := by
  induction text generalizing data with
  | nil =>
    cases encoded
    rfl
  | cons point rest hypothesis =>
    simp only [encodeUtf16, Option.bind_eq_bind, Option.bind_eq_some_iff] at encoded
    obtain ⟨units, split, others, later, same⟩ := encoded
    cases same
    obtain ⟨read, decoded, joined⟩ := Option.bind_eq_some_iff.mp (hypothesis others later)
    obtain ⟨small, whole⟩ := joinUnits_splitPoint split read
    rw [decodeUtf16, codeUnits_units little small, decoded, Option.map_some, Option.bind_some,
      whole, joined, Option.map_some]

end SianoUserland.Text
