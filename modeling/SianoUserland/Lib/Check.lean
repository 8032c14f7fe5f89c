/-! Checks that stop at the first failure. -/
namespace SianoUserland.Check

/-- The failure, unless the condition holds. -/
def require (condition : Bool) (failure : ε) : Except ε Unit :=
  if condition then .ok () else .error failure

@[simp] theorem require_eq_ok_iff {failure : ε} {condition : Bool} {result : Unit} :
    require condition failure = .ok result ↔ condition = true := by
  cases condition <;> simp [require]

theorem bind_eq_ok_iff {first : Except ε α} {next : α → Except ε β} {result : β} :
    (first >>= next) = .ok result ↔ ∃ value, first = .ok value ∧ next value = .ok result := by
  cases first with
  | error failure => simp [bind, Except.bind]
  | ok value => simp [bind, Except.bind]

/-- A check that passes is left behind. -/
theorem bind_of_ok {first : Except ε α} {next : α → Except ε β} {passed : α}
    (ok : first = .ok passed) : (first >>= next) = next passed := by
  rw [ok]
  rfl

theorem bind_eq_error_iff {first : Except ε α} {next : α → Except ε β} {failure : ε} :
    (first >>= next) = .error failure ↔
      first = .error failure ∨ ∃ value, first = .ok value ∧ next value = .error failure := by
  cases first with
  | error other => simp [bind, Except.bind]
  | ok value => simp [bind, Except.bind]

theorem require_bind_eq_ok_iff {failure : ε} {condition : Bool} {next : Unit → Except ε β}
    {result : β} :
    (require condition failure >>= next) = .ok result ↔
      condition = true ∧ next () = .ok result := by
  cases condition <;> simp [require, bind, Except.bind]

/-- A check of every member of a list, one after the other. -/
def checkEach (check : α → Except ε Unit) : List α → Except ε Unit
  | [] => .ok ()
  | first :: rest => do
    check first
    checkEach check rest

theorem checkEach_eq_ok_iff {check : α → Except ε Unit} {list : List α} {result : Unit} :
    checkEach check list = .ok result ↔ ∀ member ∈ list, check member = .ok () := by
  induction list with
  | nil => simp [checkEach]
  | cons first rest hypothesis =>
    rw [checkEach, bind_eq_ok_iff, List.forall_mem_cons]
    constructor
    · rintro ⟨⟨⟩, here, later⟩
      exact ⟨here, hypothesis.mp later⟩
    · rintro ⟨here, later⟩
      exact ⟨(), here, hypothesis.mpr later⟩

/-- Whatever a computation fails with has a property. -/
def FailsWith (Property : ε → Prop) (run : Except ε α) : Prop :=
  ∀ failure, run = .error failure → Property failure

section failsWith

variable {Property : ε → Prop} {failure : ε}

theorem failsWith_ok (value : α) : FailsWith Property (.ok value) := by
  rintro failure ⟨⟩

theorem failsWith_error (property : Property failure) :
    FailsWith Property (.error failure : Except ε α) := by
  rintro failure ⟨⟩
  exact property

theorem failsWith_bind {first : Except ε α} {next : α → Except ε β}
    (here : FailsWith Property first)
    (later : ∀ value, first = .ok value → FailsWith Property (next value)) :
    FailsWith Property (first >>= next) := by
  intro failure failed
  rcases bind_eq_error_iff.mp failed with stopped | ⟨value, passed, stopped⟩
  · exact here failure stopped
  · exact later value passed failure stopped

theorem failsWith_require {condition : Bool} (property : condition = false → Property failure) :
    FailsWith Property (require condition failure) := by
  cases condition with
  | true => exact failsWith_ok ()
  | false => exact failsWith_error (property rfl)

end failsWith

/-- Equality of two sets given by their members. -/
def sameSet [DecidableEq α] (left right : List α) : Bool :=
  left.all (· ∈ right) && right.all (· ∈ left)

theorem sameSet_iff [DecidableEq α] {left right : List α} :
    sameSet left right = true ↔ ∀ member, member ∈ left ↔ member ∈ right := by
  simp only [sameSet, Bool.and_eq_true, List.all_eq_true, decide_eq_true_eq]
  constructor
  · rintro ⟨there, back⟩ member
    exact ⟨there member, back member⟩
  · intro same
    exact ⟨fun member => (same member).mp, fun member => (same member).mpr⟩

end SianoUserland.Check
