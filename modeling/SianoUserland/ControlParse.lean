/-! `control-parse.c`: one line of control input. -/
namespace SianoUserland

/-- What `parse_control_line` makes of a line. -/
inductive ControlCommand where
  | empty
  | invalid
  | channel (value : UInt32)
  | tune (value : UInt32)
  | quit
  deriving Repr, DecidableEq

namespace ControlParse

/-- The bytes of an ASCII text. -/
def ascii (text : String) : List UInt8 := text.toList.map Char.toUInt8

/-- What a C function sees of a buffer: the bytes before the first NUL. -/
def cString (line : List UInt8) : List UInt8 := line.takeWhile (· != 0)

/-- `isspace` in the C locale. -/
def isSpace (byte : UInt8) : Bool := byte == 32 || (9 ≤ byte && byte ≤ 13)

/-- A `%s` conversion of at most `width` bytes: the word, which is empty at the end
of the text, and what follows it. -/
def scanWord (width : Nat) (text : List UInt8) : List UInt8 × List UInt8 :=
  let text := text.dropWhile isSpace
  let word := (text.takeWhile (!isSpace ·)).take width
  (word, text.drop word.length)

/-- What `sscanf` converts with the format `"%15s %31s %c"`. -/
inductive Scanned where
  | nothing
  | command (command : List UInt8)
  | number (command number : List UInt8)
  | extra
  deriving Repr, DecidableEq

def scan (text : List UInt8) : Scanned :=
  match scanWord 15 text with
  | ([], _) => .nothing
  | (command, text) =>
    match scanWord 31 text with
    | ([], _) => .command command
    | (number, text) =>
      if text.dropWhile isSpace = [] then .number command number else .extra

/-- The digit loop, with its check against `UINT32_MAX` before each digit is added. -/
def scanDigits (parsed : Nat) : List UInt8 → Option Nat
  | [] => some parsed
  | digit :: rest =>
    if digit < 48 ∨ 57 < digit then none
    else if (4294967295 - (digit.toNat - 48)) / 10 < parsed then none
    else scanDigits (parsed * 10 + (digit.toNat - 48)) rest

/-- `parse_control_line`. -/
def parseControlLine (line : List UInt8) : ControlCommand :=
  let text := (cString line).dropWhile fun byte => byte == 32 || byte == 9 || byte == 13
  if text = [] ∨ text.head? = some 10 then .empty
  else
    match scan text with
    | .command command => if command = ascii "quit" then .quit else .invalid
    | .number command number =>
      match scanDigits 0 number with
      | none => .invalid
      | some parsed =>
        if command = ascii "channel" ∧ 13 ≤ parsed ∧ parsed ≤ 62 then .channel (.ofNat parsed)
        else if command = ascii "tune" ∧ 1 ≤ parsed then .tune (.ofNat parsed)
        else .invalid
    | .nothing | .extra => .invalid

/-- The digit loop never leaves the range of its result. -/
theorem scanDigits_le (bounded : parsed ≤ 4294967295)
    (scanned : scanDigits parsed digits = some value) : value ≤ 4294967295 := by
  induction digits generalizing parsed with
  | nil =>
    cases scanned
    exact bounded
  | cons digit rest ih =>
    simp only [scanDigits] at scanned
    split at scanned
    · cases scanned
    · rename_i isDigit
      have bound : digit.toNat ≤ 57 := by
        simpa [UInt8.le_iff_toNat_le] using (not_or.mp isDigit).2
      split at scanned
      · cases scanned
      · exact ih (by omega) scanned

example : parseControlLine (ascii "  channel 27 ") = .channel 27 := by decide +kernel
example : parseControlLine (ascii "tune 4294967296") = .invalid := by decide +kernel

end ControlParse
end SianoUserland
