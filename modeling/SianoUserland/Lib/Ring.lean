import Mathlib.Data.Nat.ModEq
import Mathlib.Logic.Function.Basic

/-! Circular buffers: a head, a tail and a count over slots that are addressed
modulo the capacity, and the queue they represent. -/
namespace SianoUserland.Ring

/-- The indices of a circular buffer that holds `count` entries from `head` on. -/
structure Indexed (capacity head tail count : Nat) : Prop where
  head_lt : head < capacity
  tail_lt : tail < capacity
  count_le : count ≤ capacity
  wraps : (head + count) % capacity = tail

/-- The entries in queue order, read off by advancing the head. -/
def contents (capacity : Nat) (slots : Nat → α) : Nat → Nat → List α
  | _, 0 => []
  | head, count + 1 => slots head :: contents capacity slots ((head + 1) % capacity) count

variable {capacity head tail count : Nat} {slots : Nat → α}

@[simp] theorem contents_empty : contents capacity slots head 0 = [] := rfl

@[simp] theorem length_contents : (contents capacity slots head count).length = count := by
  induction count generalizing head with
  | zero => rfl
  | succ count ih => simp [contents, ih]

theorem indexed_empty (positive : 0 < capacity) : Indexed capacity 0 0 0 :=
  ⟨positive, positive, Nat.zero_le _, Nat.zero_mod _⟩

theorem indexed_push (ring : Indexed capacity head tail count) (space : count < capacity) :
    Indexed capacity head ((tail + 1) % capacity) (count + 1) :=
  ⟨ring.head_lt, Nat.mod_lt _ (by omega), space, by simp [← ring.wraps, Nat.add_assoc]⟩

/-- The slot at the head leaves the queue when the head advances. -/
theorem indexed_pop (ring : Indexed capacity head tail (count + 1)) :
    Indexed capacity ((head + 1) % capacity) tail count := by
  refine ⟨Nat.mod_lt _ (Nat.zero_lt_of_lt ring.head_lt), ring.tail_lt,
    Nat.le_of_succ_le ring.count_le, ?_⟩
  rw [← ring.wraps, Nat.mod_add_mod, Nat.add_assoc, Nat.add_comm 1]

/-- A buffer that is not full never has its head and tail on one slot, unless it
is empty. -/
theorem head_ne_tail (ring : Indexed capacity head tail count) (space : count < capacity)
    (entries : count ≠ 0) : head ≠ tail := by
  intro same
  have wraps : head + count ≡ head + 0 [MOD capacity] := by
    rw [Nat.ModEq, ring.wraps, Nat.add_zero, same, Nat.mod_eq_of_lt ring.tail_lt]
  exact entries ((wraps.add_left_cancel' head).eq_of_lt_of_lt space (by omega))

/-- Filling the slot at the tail appends to the queue. -/
theorem contents_push (slots : Nat → α) (ring : Indexed capacity head tail count)
    (space : count < capacity)
    (entry : α) :
    contents capacity (Function.update slots tail entry) head (count + 1) =
      contents capacity slots head count ++ [entry] := by
  induction count generalizing head with
  | zero =>
    have same : head = tail := by rw [← ring.wraps, Nat.add_zero, Nat.mod_eq_of_lt ring.head_lt]
    simp [contents, same]
  | succ count ih =>
    rw [contents, ih (indexed_pop ring) (by omega),
      Function.update_of_ne (head_ne_tail ring space (by omega))]
    rfl

end SianoUserland.Ring
