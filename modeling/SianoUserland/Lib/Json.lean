import Mathlib.Data.List.Lex
import Mathlib.Data.List.Sort
import SianoUserland.Lib.Check
import SianoUserland.Lib.Float64

/-! JSON as Python's `json` module reads and writes it: values, their equality, the decoder
and the encoder with sorted keys and an indentation of two. -/
namespace SianoUserland
open Text Check

/-- A value. The fields of an object stand in the order of their insertion. -/
inductive Json
  | null
  | bool (value : Bool)
  | int (value : Int)
  | float (value : Float64)
  | string (value : Str)
  | array (items : List Json)
  | object (fields : List (Str × Json))

namespace Json

/-- No object has a key twice. -/
inductive Distinct : Json → Prop
  | null : Distinct .null
  | bool (value : Bool) : Distinct (.bool value)
  | int (value : Int) : Distinct (.int value)
  | float (value : Float64) : Distinct (.float value)
  | string (value : Str) : Distinct (.string value)
  | array {items : List Json} (inner : ∀ item ∈ items, Distinct item) : Distinct (.array items)
  | object {fields : List (Str × Json)} (keys : (fields.map Prod.fst).Nodup)
      (inner : ∀ field ∈ fields, Distinct field.2) : Distinct (.object fields)

/-! ### Dictionaries -/

/-- `dict.get`. -/
def get (fields : List (Str × Json)) (key : Str) : Json := (fields.lookup key).getD .null

/-- `dict[key] = value`: in the place of the key, or at the end. -/
def set (key : Str) (value : Json) : List (Str × Json) → List (Str × Json)
  | [] => [(key, value)]
  | field :: rest => if field.1 = key then (key, value) :: rest else field :: set key value rest

/-! ### Equality

`1`, `1.0` and `true` are equal, as are the two zeros; objects are equal in any order. -/

/-- The integer that a truth value or an integer is. -/
def integer : Json → Option Int
  | .bool value => some (if value then 1 else 0)
  | .int value => some value
  | _ => none

/-- `==` on values that are not containers. -/
def eqScalar : Json → Json → Bool
  | .null, .null => true
  | .string left, .string right => left = right
  | .float left, .float right => left.eq right
  | .float left, right => right.integer.any left.eqInt
  | left, .float right => left.integer.any right.eqInt
  | left, right => left.integer.any fun value => right.integer = some value

mutual

/-- `==`. -/
def eq : Json → Json → Bool
  | .array left, .array right => eqItems left right
  | .object left, .object right => left.length = right.length && eqFields left right
  | left, right => eqScalar left right

def eqItems : List Json → List Json → Bool
  | [], [] => true
  | left :: lefts, right :: rights => eq left right && eqItems lefts rights
  | _, _ => false

def eqFields : List (Str × Json) → List (Str × Json) → Bool
  | [], _ => true
  | (key, value) :: rest, other => (other.lookup key).any (eq value) && eqFields rest other

end

/-! ### Encoding -/

/-- The start of a line at a level of indentation. -/
def newline (level : Nat) : Str := 0x0A :: List.replicate (2 * level) 0x20

/-- A hexadecimal digit in lower case. -/
def hexDigit (value : Nat) : Nat := if value < 10 then 0x30 + value else 0x57 + value

/-- `\uXXXX`. -/
def escapeUnit (unit : Nat) : Str :=
  [0x5C, 0x75, hexDigit (unit / 4096), hexDigit (unit / 256 % 16), hexDigit (unit / 16 % 16),
    hexDigit (unit % 16)]

/-- A code point in a string of ASCII, two surrogates beyond the basic plane. -/
def escape (point : Nat) : Str :=
  if 0x20 ≤ point ∧ point ≤ 0x7E ∧ point ≠ 0x22 ∧ point ≠ 0x5C then [point]
  else if point = 0x5C then str "\\\\"
  else if point = 0x22 then str "\\\""
  else if point = 0x0A then str "\\n"
  else if point = 0x0D then str "\\r"
  else if point = 0x09 then str "\\t"
  else if point = 0x0C then str "\\f"
  else if point = 0x08 then str "\\b"
  else if point < 0x10000 then escapeUnit point
  else escapeUnit (0xD800 + (point - 0x10000) / 1024) ++
    escapeUnit (0xDC00 + (point - 0x10000) % 1024)

def quote (text : Str) : Str := 0x22 :: (text.flatMap escape ++ [0x22])

/-- `int.__repr__`. -/
def reprInt (value : Int) : Str :=
  if value < 0 then 0x2D :: Float64.digits value.natAbs else Float64.digits value.natAbs

/-- `floatstr`. -/
def floatstr : Float64 → Str
  | .finite negative magnitude =>
    (if negative then [0x2D] else []) ++ Float64.reprMagnitude magnitude
  | .infinite negative => (if negative then [0x2D] else []) ++ str "Infinity"

/-- A container: one line for each part, indented below the brackets. -/
def enclose (first last level : Nat) (parts : List Str) : Str :=
  if parts = [] then [first, last]
  else first :: (newline (level + 1) ++
    (List.intercalate (0x2C :: newline (level + 1)) parts ++ (newline level ++ [last])))

/-- The keys of an object in the order of their code points. -/
def sortedKeys (fields : List (Str × α)) : List Str :=
  (fields.map Prod.fst).insertionSort (· ≤ ·)

mutual

/-- A value at a level of indentation. -/
def dump (level : Nat) : Json → Str
  | .null => str "null"
  | .bool value => if value then str "true" else str "false"
  | .int value => reprInt value
  | .float value => floatstr value
  | .string value => quote value
  | .array items => enclose 0x5B 0x5D level (dumpItems (level + 1) items)
  | .object fields =>
    let texts := dumpFields (level + 1) fields
    enclose 0x7B 0x7D level ((sortedKeys fields).map fun key =>
      quote key ++ (str ": " ++ (texts.lookup key).getD []))

def dumpItems (level : Nat) : List Json → List Str
  | [] => []
  | item :: rest => dump level item :: dumpItems level rest

def dumpFields (level : Nat) : List (Str × Json) → List (Str × Str)
  | [] => []
  | (key, value) :: rest => (key, dump level value) :: dumpFields level rest

end

/-- `json.dumps(value, indent=2, sort_keys=True)`. -/
def dumps (value : Json) : Str := dump 0 value

end Json
end SianoUserland
