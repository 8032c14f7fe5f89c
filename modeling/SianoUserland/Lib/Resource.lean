import Mathlib.Logic.Function.Basic

/-! Programs that take resources and give them back. Taking what is held already, giving back what
is not held or what something held still rests on, and using what is not held are mistakes, and a
program that makes one has no result. The rules say that a program has a result, and which. -/
namespace SianoUserland.Resource

/-- What is held. -/
abbrev Held (κ : Type) := κ → Bool

/-- A program over the resources held. -/
abbrev Act (κ : Type) := StateT (Held κ) Option

variable {κ α β : Type} [DecidableEq κ]

def acquire (resource : κ) : Act κ Unit := fun held =>
  if held resource then none else some ((), Function.update held resource true)

/-- Giving back a resource on which `dependents` rest. -/
def release (dependents : κ → List κ) (resource : κ) : Act κ Unit := fun held =>
  if held resource ∧ ∀ other ∈ dependents resource, held other = false then
    some ((), Function.update held resource false)
  else none

def use (resource : κ) : Act κ Unit := fun held =>
  if held resource then some ((), held) else none

/-- The program has a result, and it meets `post`. -/
def Runs (held : Held κ) (program : Act κ α) (post : α → Held κ → Prop) : Prop :=
  ∃ result after, program held = some (result, after) ∧ post result after

variable {held : Held κ} {resource : κ} {post : α → Held κ → Prop}
  {dependents : κ → List κ}

omit [DecidableEq κ] in
theorem runs_pure {result : α} (met : post result held) :
    Runs held (pure result : Act κ α) post :=
  ⟨result, held, rfl, met⟩

omit [DecidableEq κ] in
/-- A program that goes on behind one whose result is known. -/
theorem runs_after {first : Act κ β} {rest : β → Act κ α} {value : β} {middle : Held κ}
    (begins : first held = some (value, middle)) (goes : Runs middle (rest value) post) :
    Runs held (first >>= rest) post := by
  obtain ⟨last, final, finished, done⟩ := goes
  refine ⟨last, final, ?_, done⟩
  show (first held).bind _ = _
  rw [begins]
  exact finished

omit [DecidableEq κ] in
/-- One program after the other. -/
theorem runs_bind {first : Act κ β} {rest : β → Act κ α} {middle : β → Held κ → Prop}
    (begins : Runs held first middle)
    (goes : ∀ result after, middle result after → Runs after (rest result) post) :
    Runs held (first >>= rest) post := by
  obtain ⟨result, after, ran, met⟩ := begins
  exact runs_after ran (goes result after met)

omit [DecidableEq κ] in
theorem runs_mono {program : Act κ α} {weaker : α → Held κ → Prop} (ran : Runs held program post)
    (weakens : ∀ result after, post result after → weaker result after) :
    Runs held program weaker := by
  obtain ⟨result, after, same, met⟩ := ran
  exact ⟨result, after, same, weakens result after met⟩

theorem runs_acquire {rest : Unit → Act κ α} (free : held resource = false)
    (goes : Runs (Function.update held resource true) (rest ()) post) :
    Runs held (acquire resource >>= rest) post :=
  runs_after (if_neg (by simp [free])) goes

theorem runs_release {rest : Unit → Act κ α} (has : held resource = true)
    (clear : ∀ other ∈ dependents resource, held other = false)
    (goes : Runs (Function.update held resource false) (rest ()) post) :
    Runs held (release dependents resource >>= rest) post :=
  runs_after (if_pos ⟨has, clear⟩) goes

omit [DecidableEq κ] in
theorem runs_use {rest : Unit → Act κ α} (has : held resource = true)
    (goes : Runs held (rest ()) post) : Runs held (use resource >>= rest) post :=
  runs_after (if_pos has) goes

omit [DecidableEq κ] in
/-- A program with nothing behind it. -/
theorem runs_last {program : Act κ α} (ran : Runs held (program >>= pure) post) :
    Runs held program post := by
  rwa [bind_pure] at ran

omit [DecidableEq κ] in
/-- A loop over a list that keeps an invariant of what is held, given what has been done. -/
theorem runs_forM {body : β → Act κ PUnit} (Inv : List β → Held κ → Prop) (list : List β)
    (start : Inv [] held)
    (keeps : ∀ done next later held, list = done ++ next :: later → Inv done held →
      Runs held (body next) fun _ after => Inv (done ++ [next]) after) :
    Runs held (list.forM body) fun _ after => Inv list after := by
  suffices general : ∀ later done held, list = done ++ later → Inv done held →
      Runs held (later.forM body) fun _ after => Inv list after from
    general list [] held rfl start
  intro later
  induction later with
  | nil =>
    intro done held whole reached
    rw [List.append_nil] at whole
    exact runs_pure (whole ▸ reached)
  | cons next later ih =>
    intro done held whole reached
    show Runs held (body next >>= fun _ => later.forM body) _
    refine runs_bind (keeps done next later held whole reached) fun _ after kept => ?_
    exact ih (done ++ [next]) after (by rw [whole, List.append_assoc]; rfl) kept

/-- Taking a resource and giving it back leaves what was held. -/
theorem update_back (free : held resource = false) :
    Function.update (Function.update held resource true) resource false = held := by
  rw [Function.update_idem, ← free, Function.update_eq_self]

end SianoUserland.Resource
