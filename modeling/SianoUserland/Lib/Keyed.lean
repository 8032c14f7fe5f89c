import Mathlib.Algebra.BigOperators.Group.Finset.Piecewise
import Mathlib.Data.List.Induction

/-! Counts over a history of items that each belong to one key. When what an item adds depends on
the earlier items of its own key only, the count is a sum over the keys, and how the keys are
interleaved does not matter. -/
namespace SianoUserland.Keyed

variable {α κ : Type} [DecidableEq κ] (key : α → κ)

/-- The items of one key, in their order. -/
def own (id : κ) (items : List α) : List α := items.filter (key · = id)

theorem own_same (items : List α) (item : α) :
    own key (key item) (items ++ [item]) = own key (key item) items ++ [item] := by
  simp [own]

theorem own_other {id : κ} (other : id ≠ key item) :
    own key id (items ++ [item]) = own key id items := by
  simp [own, Ne.symm other]

theorem mem_own_self : item ∈ own key (key item) items ↔ item ∈ items := by
  simp [own]

/-- What an item adds to the count, after some others, is what it adds after those of its key. -/
structure Local (good : α → Prop) (count : List α → Nat) : Prop where
  empty : count [] = 0
  step : ∀ items item, (∀ other ∈ items, good other) → ∃ added,
    count (items ++ [item]) = count items + added ∧
      count (own key (key item) items ++ [item]) = count (own key (key item) items) + added

variable {key} {good : α → Prop} {count : List α → Nat}

/-- The count is the sum over the keys of the counts of their own items. -/
theorem Local.sum (isLocal : Local key good count) (keys : Finset κ)
    (clean : ∀ item ∈ items, good item) (covered : ∀ item ∈ items, key item ∈ keys) :
    count items = ∑ id ∈ keys, count (own key id items) := by
  induction items using List.reverseRecOn with
  | nil =>
    have none : ∀ id, count (own key id []) = 0 := fun _ => isLocal.empty
    rw [isLocal.empty]
    simp only [none, Finset.sum_const_zero]
  | append_singleton items item ih =>
    have earlier : ∀ other ∈ items, other ∈ items ++ [item] :=
      fun other member => List.mem_append_left _ member
    have cleanBefore := fun other member => clean other (earlier other member)
    obtain ⟨added, whole, alone⟩ := isLocal.step items item cleanBefore
    have split : ∀ id, count (own key id (items ++ [item])) =
        count (own key id items) + if id = key item then added else 0 := by
      intro id
      by_cases same : id = key item
      · rw [same, own_same, alone, if_pos rfl]
      · rw [own_other key same, if_neg same, Nat.add_zero]
    have member : key item ∈ keys := covered item (by simp)
    simp only [split, Finset.sum_add_distrib, Finset.sum_ite_eq', member, ↓reduceIte]
    rw [whole, ih cleanBefore fun other member => covered other (earlier other member)]

/-- Two interleavings of the same items of every key have the same count. -/
theorem Local.interleaved (isLocal : Local key good count) (clean : ∀ item ∈ left, good item)
    (same : ∀ id, own key id left = own key id right) : count left = count right := by
  have members : ∀ item, item ∈ left ↔ item ∈ right := by
    intro item
    rw [← mem_own_self key, same, mem_own_self]
  let keys := (left.map key).toFinset
  have covered : ∀ item ∈ left, key item ∈ keys :=
    fun item member => List.mem_toFinset.mpr (List.mem_map_of_mem member)
  rw [isLocal.sum keys clean covered, isLocal.sum keys
    (fun item member => clean item ((members item).mpr member))
    (fun item member => covered item ((members item).mpr member))]
  apply Finset.sum_congr rfl
  intro id _
  rw [same]

end SianoUserland.Keyed
