import Mathlib.Algebra.Group.Nat.Defs
import SianoUserland.Lib.Check
import SianoUserland.Lib.Slice

/-! Records of little-endian fields in a byte string: the slices and the `struct` records of a
reader, and the bytes a writer packs. -/
namespace SianoUserland.Struct
open Check Slice

/-- What a reader raises: a failure of its own, or `struct.error`. -/
inductive Raised (ε : Type) where
  | own (failure : ε)
  | structError
  deriving Repr, DecidableEq

/-- The number that bytes stand for, the least significant first. -/
def littleEndian : List UInt8 → Nat
  | [] => 0
  | byte :: rest => byte.toNat + 256 * littleEndian rest

/-- The bytes of a number, the least significant first. -/
def pack : Nat → Nat → List UInt8
  | 0, _ => []
  | width + 1, number => .ofNat number :: pack width (number / 256)

/-- Numbers of four bytes each. -/
def words (numbers : List Nat) : List UInt8 := numbers.flatMap (pack 4)

/-- `int.from_bytes` of a slice, which may be cut off by the end of the data. -/
def field (data : List UInt8) (offset width : Nat) : Nat := littleEndian (slice data offset width)

/-- `struct.unpack_from` of a record of this size. -/
def unpackFrom (size : Nat) (record : List UInt8 → α) (data : List UInt8) (offset : Nat) :
    Except (Raised ε) α :=
  if offset + size ≤ data.length then .ok (record (slice data offset size))
  else .error .structError

theorem length_pack (width number : Nat) : (pack width number).length = width := by
  induction width generalizing number with
  | zero => rfl
  | succ width ih => rw [pack, List.length_cons, ih]

theorem littleEndian_pack (width number : Nat) (small : number < 256 ^ width) :
    littleEndian (pack width number) = number := by
  induction width generalizing number with
  | zero => rw [pack, littleEndian]; omega
  | succ width ih =>
    have rest : number / 256 < 256 ^ width := by
      rw [Nat.div_lt_iff_lt_mul (by decide), ← Nat.pow_succ]
      exact small
    rw [pack, littleEndian, ih _ rest, UInt8.toNat_ofNat']
    omega

/-- What was packed behind `front` is read there. -/
theorem field_pack {front back : List UInt8} (small : number < 256 ^ width) :
    field (front ++ (pack width number ++ back)) front.length width = number := by
  rw [field, slice, List.drop_left, List.take_left' (length_pack width number),
    littleEndian_pack width number small]

theorem length_words (numbers : List Nat) : (words numbers).length = 4 * numbers.length := by
  induction numbers with
  | nil => rfl
  | cons first rest ih =>
    rw [words, List.flatMap_cons, List.length_append, length_pack, List.length_cons]
    rw [words] at ih
    omega

theorem words_append (first second : List Nat) :
    words (first ++ second) = words first ++ words second :=
  List.flatMap_append

theorem field_words {front back : List UInt8} (found : numbers[index]? = some number)
    (small : number < 4294967296) :
    field (front ++ (words numbers ++ back)) (front.length + 4 * index) 4 = number := by
  induction index generalizing front numbers with
  | zero =>
    obtain ⟨rest, rfl⟩ : ∃ rest, numbers = number :: rest := by
      cases numbers with
      | nil => cases found
      | cons first rest => exact ⟨rest, congrArg (· :: rest) (Option.some.inj found)⟩
    have size : 256 ^ 4 = 4294967296 := by decide
    rw [words, List.flatMap_cons, List.append_assoc]
    exact field_pack (size ▸ small)
  | succ index ih =>
    cases numbers with
    | nil => cases found
    | cons first rest =>
      have later : field (front ++ pack 4 first ++ (words rest ++ back))
          ((front ++ pack 4 first).length + 4 * index) 4 = number := ih found
      rw [List.length_append, length_pack] at later
      rw [words, List.flatMap_cons, ← words, List.append_assoc, ← List.append_assoc front,
        ← later]
      congr 1
      omega

theorem unpackFrom_ok {data : List UInt8} {record : List UInt8 → α}
    (within : offset + size ≤ data.length) :
    unpackFrom size record data offset = (.ok (record (slice data offset size)) :
      Except (Raised ε) α) :=
  if_pos within

/-- A field of a record is a field of the data it was read from. -/
theorem field_slice (data : List UInt8) (within : offset + width ≤ size) :
    field (slice data start size) offset width = field data (start + offset) width := by
  unfold field
  congr 1
  rw [slice, drop_slice, slice, slice, List.take_take, Nat.min_eq_left (by omega)]

/-- A reader that does not read past the end. -/
abbrev Total (run : Except (Raised ε) α) : Prop :=
  FailsWith (fun failure => failure ≠ .structError) run

theorem total_own (failure : ε) : Total (.error (.own failure) : Except (Raised ε) α) :=
  failsWith_error nofun

theorem total_require (condition : Bool) (failure : ε) :
    Total (require condition (.own failure : Raised ε)) :=
  failsWith_require fun _ => nofun

theorem total_unpackFrom {data : List UInt8} {record : List UInt8 → α}
    (within : offset + size ≤ data.length) :
    Total (unpackFrom size record data offset : Except (Raised ε) α) := by
  rw [unpackFrom_ok within]
  exact failsWith_ok _

end SianoUserland.Struct
