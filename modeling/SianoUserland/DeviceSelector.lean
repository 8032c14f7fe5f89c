import SianoUserland.Errno
import SianoUserland.Lib.Decimal

/-! `device-selector.c`: which of the devices a command line means. Texts are the bytes before
their terminating NUL. -/
namespace SianoUserland

/-- `enum siano_device_selector_kind`. -/
inductive SelectorKind where
  | index
  | port
  | busAddress
  deriving Repr, DecidableEq

/-- `struct siano_device_selector`, with the first `port_count` of its ports. -/
structure DeviceSelector where
  kind : SelectorKind
  index : Nat := 0
  bus : UInt8 := 0
  address : UInt8 := 0
  ports : List UInt8 := []
  deriving Repr, DecidableEq

namespace DeviceSelector

/-- The loop of `parse_number`: the number and the rest of the text. -/
def parseDigits (max parsed digits : Nat) : List UInt8 → Except Int (Nat × List UInt8)
  | [] => if digits = 0 then .error (-Errno.inval) else .ok (parsed, [])
  | byte :: rest =>
    if 48 ≤ byte ∧ byte ≤ 57 then
      let digit := byte.toNat - 48
      if (max - digit) / 10 < parsed then .error (-Errno.inval)
      else parseDigits max (parsed * 10 + digit) (digits + 1) rest
    else if digits = 0 then .error (-Errno.inval)
    else .ok (parsed, byte :: rest)

/-- `parse_number`. -/
def parseNumber (max : Nat) (text : List UInt8) : Except Int (Nat × List UInt8) :=
  parseDigits max 0 0 text

/-- The loop over the ports after the first, with room for `left` of them. -/
def parsePorts (selector : DeviceSelector) : Nat → List UInt8 → Except Int DeviceSelector
  | _, [] => .ok selector
  | 0, _ => .error (-Errno.inval)
  | left + 1, byte :: cursor =>
    if byte = 46 then
      match parseNumber 255 cursor with
      | .error _ => .error (-Errno.inval)
      | .ok (port, cursor) =>
        if port = 0 then .error (-Errno.inval)
        else parsePorts { selector with ports := selector.ports ++ [.ofNat port] } left cursor
    else .error (-Errno.inval)

/-- `siano_parse_device_selector`. -/
def sianoParseDeviceSelector (text : List UInt8) : Except Int DeviceSelector :=
  if text = [] then .error (-Errno.inval)
  else
    match parseNumber 4294967295 text with
    | .error _ => .error (-Errno.inval)
    | .ok (first, cursor) =>
      match cursor with
      | [] => .ok { kind := .index, index := first }
      | byte :: cursor =>
        if byte = 58 then
          if 255 < first then .error (-Errno.inval)
          else
            match parseNumber 255 cursor with
            | .error _ => .error (-Errno.inval)
            | .ok (second, cursor) =>
              if second = 0 ∨ cursor ≠ [] then .error (-Errno.inval)
              else .ok { kind := .busAddress, bus := .ofNat first, address := .ofNat second }
        else if byte = 45 then
          if 255 < first then .error (-Errno.inval)
          else
            match parseNumber 255 cursor with
            | .error _ => .error (-Errno.inval)
            | .ok (second, cursor) =>
              if second = 0 then .error (-Errno.inval)
              else
                parsePorts { kind := .port, bus := .ofNat first, ports := [.ofNat second] } 7
                  cursor
        else .error (-Errno.inval)

/-! ## Printed numbers are read back -/

/-- The text goes on with something that is not a digit, or ends. -/
def Stops (rest : List UInt8) : Prop :=
  ∀ byte, rest.head? = some byte → Decimal.isDigit byte = false

theorem parseDigits_digits {max : Nat} (bound : 9 ≤ max)
    (digits : ∀ digit ∈ text, Decimal.isDigit digit = true)
    (fits : Decimal.valueFrom parsed text ≤ max) (stops : Stops rest)
    (some : 0 < count + text.length) :
    parseDigits max parsed count (text ++ rest) = .ok (Decimal.valueFrom parsed text, rest) := by
  induction text generalizing parsed count with
  | nil =>
    have counted : count ≠ 0 := by simpa [Nat.pos_iff_ne_zero] using some
    cases rest with
    | nil => simp [parseDigits, counted, Decimal.valueFrom]
    | cons byte rest =>
      have other : ¬ (48 ≤ byte ∧ byte ≤ 57) := by
        simpa [Decimal.isDigit] using stops byte rfl
      simp [parseDigits, other, counted, Decimal.valueFrom]
  | cons digit text ih =>
    have first := digits digit List.mem_cons_self
    have small := Decimal.digitValue_le first
    have isDigit : 48 ≤ digit ∧ digit ≤ 57 := by simpa [Decimal.isDigit] using first
    rw [Decimal.valueFrom_cons] at fits ⊢
    have larger := Decimal.le_valueFrom (parsed * 10 + Decimal.digitValue digit) text
    have within : ¬ (max - Decimal.digitValue digit) / 10 < parsed := by
      rw [Decimal.exceeds_iff (by omega)]
      omega
    rw [List.cons_append, parseDigits, if_pos isDigit]
    change (if (max - Decimal.digitValue digit) / 10 < parsed then _ else
      parseDigits max (parsed * 10 + Decimal.digitValue digit) (count + 1) (text ++ rest)) = _
    rw [if_neg within]
    exact ih (fun other member => digits other (List.mem_cons_of_mem _ member)) fits (by omega)

/-- A printed number within the bound is read back, and the text goes on after it. -/
theorem parseNumber_print {max : Nat} (bound : 9 ≤ max) (fits : number ≤ max)
    (stops : Stops rest) :
    parseNumber max (Decimal.print number ++ rest) = .ok (number, rest) := by
  have length : 0 < 0 + (Decimal.print number).length := by
    have nonempty := List.length_pos_iff.mpr (Decimal.print_ne_nil number)
    omega
  have value : Decimal.valueFrom 0 (Decimal.print number) = number := Decimal.value_print number
  rw [parseNumber, parseDigits_digits bound (fun _ => Decimal.isDigit_of_mem_print)
    (by rw [value]; exact fits) stops length, value]

end DeviceSelector
end SianoUserland
