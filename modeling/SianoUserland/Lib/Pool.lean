import Mathlib.Algebra.BigOperators.Group.List.Basic
import Mathlib.Algebra.GroupWithZero.Nat

/-! Pools of threads. A pool is a list, a thread is known by its position in it,
and a step replaces one thread. -/
namespace SianoUserland.Pool

variable {pool : List α} {index other : Nat} {old new : α}

/-- After a step of one thread, every position holds what it held, except that one. -/
theorem getElem?_set_cases (found : (pool.set index new)[other]? = some thread) :
    (other = index ∧ thread = new) ∨ (other ≠ index ∧ pool[other]? = some thread) := by
  rw [List.getElem?_set] at found
  split at found
  · rename_i same
    split at found
    · cases found
      exact Or.inl ⟨same.symm, rfl⟩
    · cases found
  · rename_i different
    exact Or.inr ⟨fun same => different same.symm, found⟩

theorem getElem?_set_self (found : pool[index]? = some old) :
    (pool.set index new)[index]? = some new := by
  have inside : index < pool.length := (List.getElem?_eq_some_iff.mp found).1
  simp [inside]

/-- A step changes a sum over the pool by what it changes in its thread. -/
theorem sum_map_set (measure : α → Nat) (new : α) (found : pool[index]? = some old) :
    ((pool.set index new).map measure).sum + measure old =
      (pool.map measure).sum + measure new := by
  induction pool generalizing index with
  | nil => cases found
  | cons first rest ih =>
    cases index with
    | zero =>
      cases found
      simp only [List.set_cons_zero, List.map_cons, List.sum_cons]
      omega
    | succ index =>
      have tail := ih (by simpa using found)
      simp only [List.set_cons_succ, List.map_cons, List.sum_cons]
      omega

end SianoUserland.Pool
