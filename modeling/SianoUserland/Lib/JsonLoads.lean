import SianoUserland.Lib.JsonDecoder

/-! The decoder of Python's `json` module for any hooks, and what it makes of a text without one:
the last of the fields of one key counts, and the constants beside the numbers are floats. -/
namespace SianoUserland.Json
open Text Check

/-- What a decoder makes of the parts of a text. -/
structure Hooks (V : Type) where
  /-- A value that is not a container, other than the constants beside the numbers. -/
  scalar : Json → V
  constant : Str → Except Invalid V
  array : List V → V
  object : List (Str × V) → Except Invalid V

section decoder

variable (hooks : Hooks V)

/-- A value that is neither a string nor a container. -/
def scanWordWith (text : Str) : Except Invalid (V × Str) :=
  match scanWord text with
  | .ok (value, rest) => .ok (hooks.scalar value, rest)
  | .error (.constant name) => do return (← hooks.constant name, text.drop name.length)
  | .error invalid => .error invalid

mutual

/-- `scan_once`: a value and what follows it. -/
def scanValueWith : Nat → Str → Except Invalid (V × Str)
  | 0, _ => .error .budget
  | _ + 1, 0x22 :: rest => do
    let (text, rest) ← scanString rest
    return (hooks.scalar (.string text), rest)
  | budget + 1, 0x7B :: rest =>
    match skipSpace rest with
    | 0x7D :: rest => do return (← hooks.object [], rest)
    | rest => do
      let (fields, rest) ← scanFieldsWith budget rest
      return (← hooks.object fields, rest)
  | budget + 1, 0x5B :: rest =>
    match skipSpace rest with
    | 0x5D :: rest => .ok (hooks.array [], rest)
    | rest => do
      let (items, rest) ← scanItemsWith budget rest
      return (hooks.array items, rest)
  | _ + 1, text => scanWordWith hooks text

/-- The items of an array up to its end. -/
def scanItemsWith : Nat → Str → Except Invalid (List V × Str)
  | 0, _ => .error .budget
  | budget + 1, text => do
    let (item, rest) ← scanValueWith budget text
    match skipSpace rest with
    | 0x2C :: rest =>
      let (items, rest) ← scanItemsWith budget (skipSpace rest)
      return (item :: items, rest)
    | 0x5D :: rest => return ([item], rest)
    | _ => throw .malformed

/-- The fields of an object up to its end. -/
def scanFieldsWith : Nat → Str → Except Invalid (List (Str × V) × Str)
  | 0, _ => .error .budget
  | budget + 1, 0x22 :: text => do
    let (key, rest) ← scanString text
    match skipSpace rest with
    | 0x3A :: rest =>
      let (value, rest) ← scanValueWith budget (skipSpace rest)
      match skipSpace rest with
      | 0x2C :: rest =>
        let (fields, rest) ← scanFieldsWith budget (skipSpace rest)
        return ((key, value) :: fields, rest)
      | 0x7D :: rest => return ([(key, value)], rest)
      | _ => throw .malformed
    | _ => throw .malformed
  | _ + 1, _ => .error .malformed

end

/-- `json.loads` of a string, with hooks. -/
def loadsWith (text : Str) : Except Invalid V :=
  if text.head? = some 0xFEFF then .error .malformed
  else do
    let (value, rest) ← scanValueWith hooks (2 * text.length + 1) (skipSpace text)
    if skipSpace rest = [] then return value else throw .malformed

end decoder

/-! ### The hooks that refuse -/

/-- The hooks of `loads`. -/
def refusing : Hooks Json where
  scalar := id
  constant name := .error (.constant name)
  array := .array
  object := pairs

theorem scanWordWith_refusing (text : Str) : scanWordWith refusing text = scanWord text := by
  unfold scanWordWith
  cases scanWord text with
  | ok result => rfl
  | error invalid => cases invalid <;> rfl

theorem scanWith_refusing (budget : Nat) :
    (∀ text, scanValueWith refusing budget text = scanValue budget text) ∧
    (∀ text, scanItemsWith refusing budget text = scanItems budget text) ∧
    (∀ text, scanFieldsWith refusing budget text = scanFields budget text) := by
  induction budget with
  | zero =>
    refine ⟨?_, ?_, ?_⟩ <;> intro text
    · rw [scanValueWith, scanValue]
    · rw [scanItemsWith, scanItems]
    · rw [scanFieldsWith, scanFields]
  | succ budget hypothesis =>
    obtain ⟨values, items, fields⟩ := hypothesis
    refine ⟨?_, ?_, ?_⟩ <;> intro text
    · unfold scanValueWith
      split
      · next spent => cases spent
      · rw [scanValue]
        rfl
      · next same =>
        cases same
        simp only [scanValue, fields]
        rfl
      · next same =>
        cases same
        simp only [scanValue, items]
        rfl
      · next notString notObject notArray =>
        rw [scanValue]
        · exact scanWordWith_refusing _
        · exact notString
        · exact notObject
        · exact notArray
    · rw [scanItemsWith, funext values, funext items]
      rfl
    · unfold scanFieldsWith
      split
      · next spent => cases spent
      · next same =>
        cases same
        rw [funext values, funext fields]
        rfl
      · next notString =>
        rw [scanFields]
        exact notString

/-- The decoder that refuses is the one with the hooks that refuse. -/
theorem loadsWith_refusing (text : Str) : loadsWith refusing text = loads text := by
  simp only [loadsWith, loads, (scanWith_refusing _).1]

/-! ### No hooks -/

/-- A value of the decoder without hooks. -/
inductive Value
  | null
  | bool (value : Bool)
  | int (value : Int)
  | float (value : Float64)
  | nan
  | string (value : Str)
  | array (items : List Value)
  | object (fields : List (Str × Value))

namespace Value

mutual

/-- A value without a NaN. -/
def ofJson : Json → Value
  | .null => .null
  | .bool value => .bool value
  | .int value => .int value
  | .float value => .float value
  | .string value => .string value
  | .array items => .array (ofItems items)
  | .object fields => .object (ofFields fields)

def ofItems : List Json → List Value
  | [] => []
  | item :: rest => ofJson item :: ofItems rest

def ofFields : List (Str × Json) → List (Str × Value)
  | [] => []
  | (key, value) :: rest => (key, ofJson value) :: ofFields rest

end

/-- `dict[key] = value`: in the place of the key, or at the end. -/
def set (key : Str) (value : Value) : List (Str × Value) → List (Str × Value)
  | [] => [(key, value)]
  | field :: rest => if field.1 = key then (key, value) :: rest else field :: set key value rest

/-- `dict(pairs)`. -/
def dict (fields : List (Str × Value)) : List (Str × Value) :=
  fields.foldl (fun result field => set field.1 field.2 result) []

/-- The constants beside the numbers. -/
def constant (name : Str) : Value :=
  if name = str "NaN" then .nan else .float (.infinite (name.head? = some 0x2D))

end Value

/-- The decoder without hooks. -/
def plain : Hooks Value where
  scalar := Value.ofJson
  constant name := .ok (.constant name)
  array := .array
  object fields := .ok (.object (Value.dict fields))

end SianoUserland.Json
