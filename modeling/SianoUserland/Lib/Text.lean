import SianoUserland.Lib.Utf8

/-! The lines of a text, with what ends them. -/
namespace SianoUserland.Text

/-- The code points that end a line. -/
def isBreak (point : Nat) : Bool :=
  point ∈ [0x0A, 0x0B, 0x0C, 0x0D, 0x1C, 0x1D, 0x1E, 0x85, 0x2028, 0x2029]

/-- A line and what ends it: a break, a carriage return and a line feed, or the end of
the text. -/
structure Line where
  text : Str
  ending : Str
  deriving Repr, DecidableEq

/-- The lines of a text, of the first of which `current` has been read. -/
def linesFrom (current : Str) : Str → List Line
  | [] => if current = [] then [] else [⟨current, []⟩]
  | 0x0D :: 0x0A :: rest => ⟨current, [0x0D, 0x0A]⟩ :: linesFrom [] rest
  | point :: rest =>
    if isBreak point then ⟨current, [point]⟩ :: linesFrom [] rest
    else linesFrom (current ++ [point]) rest

/-- The lines of a text with their endings. -/
def lines (text : Str) : List Line := linesFrom [] text

/-- `str.splitlines`. -/
def splitlines (text : Str) : List Str := (lines text).map Line.text

/-- The text of lines. -/
def unlines (list : List Line) : Str := list.flatMap fun line => line.text ++ line.ending

theorem unlines_linesFrom (current text : Str) :
    unlines (linesFrom current text) = current ++ text := by
  fun_induction linesFrom current text with
  | case1 => rfl
  | case2 current nonempty => simp [unlines]
  | case3 current rest hypothesis => simpa [unlines] using hypothesis
  | case4 current point rest _ _ hypothesis => simpa [unlines] using hypothesis
  | case5 current point rest _ _ hypothesis => simpa using hypothesis

/-- A text is its lines. -/
theorem unlines_lines (text : Str) : unlines (lines text) = text := unlines_linesFrom [] text

/-- Lines a text can have: no break inside, an ending each but perhaps the last, and no
carriage return that would run into a line feed. -/
def Wellformed : List Line → Prop
  | [] => True
  | line :: rest =>
    (∀ point ∈ line.text, isBreak point = false) ∧
      ((line.ending = [] ∧ line.text ≠ [] ∧ rest = []) ∨ line.ending = [0x0D, 0x0A] ∨
        ∃ point, isBreak point ∧ line.ending = [point] ∧
          (point = 0x0D → (unlines rest).head? ≠ some 0x0A)) ∧
      Wellformed rest

theorem linesFrom_wellformed (current text : Str)
    (unbroken : ∀ point ∈ current, isBreak point = false) :
    Wellformed (linesFrom current text) := by
  fun_induction linesFrom current text with
  | case1 => trivial
  | case2 current nonempty => exact ⟨unbroken, Or.inl ⟨rfl, nonempty, rfl⟩, trivial⟩
  | case3 current rest hypothesis =>
    exact ⟨unbroken, Or.inr (Or.inl rfl), hypothesis (by simp)⟩
  | case4 current point rest apart ends hypothesis =>
    refine ⟨unbroken, Or.inr (Or.inr ⟨point, ends, rfl, ?_⟩), hypothesis (by simp)⟩
    intro isReturn feeds
    rw [unlines_linesFrom, List.nil_append] at feeds
    obtain ⟨others, rfl⟩ := List.head?_eq_some_iff.mp feeds
    exact apart others isReturn rfl
  | case5 current point rest apart inside hypothesis =>
    refine hypothesis ?_
    intro other member
    rcases List.mem_append.mp member with earlier | last
    · exact unbroken other earlier
    · cases List.mem_singleton.mp last
      simpa using inside

theorem lines_wellformed (text : Str) : Wellformed (lines text) :=
  linesFrom_wellformed [] text (by simp)

theorem linesFrom_unbroken (current text more : Str)
    (unbroken : ∀ point ∈ text, isBreak point = false) :
    linesFrom current (text ++ more) = linesFrom (current ++ text) more := by
  induction text generalizing current with
  | nil => simp
  | cons point rest hypothesis =>
    have inside : isBreak point = false := unbroken point (by simp)
    have apart : point ≠ 0x0D := by
      rintro rfl
      cases inside
    rw [List.cons_append, linesFrom]
    · simp [inside, hypothesis _ fun other member => unbroken other (by simp [member])]
    · intro others isReturn
      exact absurd isReturn apart

/-- Lines a text can have are the lines of their text. -/
theorem lines_unlines (list : List Line) (wellformed : Wellformed list) :
    lines (unlines list) = list := by
  induction list with
  | nil => rfl
  | cons line rest hypothesis =>
    obtain ⟨unbroken, ends, tail⟩ := wellformed
    obtain ⟨text, ending⟩ := line
    have more : lines (unlines (⟨text, ending⟩ :: rest)) =
        linesFrom text (ending ++ unlines rest) := by
      simp [lines, unlines, linesFrom_unbroken _ _ _ unbroken]
    have others : linesFrom [] (unlines rest) = rest := hypothesis tail
    rw [more]
    rcases ends with ⟨rfl, nonempty, rfl⟩ | rfl | ⟨point, breaks, rfl, apart⟩
    · simp only [ne_eq] at nonempty
      simp [linesFrom, unlines, nonempty]
    · simp [linesFrom, others]
    · rw [List.singleton_append, linesFrom, if_pos breaks, others]
      intro following isReturn feeds
      exact apart isReturn (by rw [feeds]; rfl)

theorem wellformed_unbroken (list : List Line) (wellformed : Wellformed list) :
    ∀ line ∈ list, ∀ point ∈ line.text, isBreak point = false := by
  induction list with
  | nil => simp
  | cons line rest hypothesis =>
    exact List.forall_mem_cons.mpr ⟨wellformed.1, hypothesis wellformed.2.2⟩

/-- A text has the lines that make it up. -/
theorem eq_unlines_iff (text : Str) (list : List Line) (wellformed : Wellformed list) :
    text = unlines list ↔ lines text = list := by
  constructor
  · rintro rfl
    exact lines_unlines list wellformed
  · rintro rfl
    exact (unlines_lines text).symm

theorem line_list_ext (left right : List Line)
    (texts : left.map Line.text = right.map Line.text) :
    left = right ↔ left.map Line.ending = right.map Line.ending := by
  induction left generalizing right with
  | nil => cases right <;> simp_all
  | cons line rest hypothesis =>
    cases right with
    | nil => simp at texts
    | cons other others =>
      simp only [List.map_cons, List.cons.injEq] at texts ⊢
      obtain ⟨text, texts⟩ := texts
      rw [hypothesis others texts, Line.mk.injEq]
      simp [text]

/-- A text starts with a line feed when its first line is empty and ends with one. -/
theorem feeds_iff (list : List Line) (wellformed : Wellformed list) :
    (unlines list).head? = some 0x0A ↔
      ∃ line rest, list = line :: rest ∧ line.text = [] ∧ line.ending.head? = some 0x0A := by
  cases list with
  | nil => simp [unlines]
  | cons line rest =>
    obtain ⟨unbroken, ends, -⟩ := wellformed
    obtain ⟨text, ending⟩ := line
    cases text with
    | cons point others =>
      have inside : isBreak point = false := unbroken point (by simp)
      have apart : point ≠ 0x0A := by
        rintro rfl
        cases inside
      simp [unlines, apart]
    | nil =>
      have present : ending ≠ [] := by
        rcases ends with ⟨-, nonempty, -⟩ | pair | ⟨point, -, single, -⟩
        · exact absurd rfl nonempty
        · simp_all
        · simp_all
      simp [unlines, List.head?_append_of_ne_nil _ present]

/-- Other texts in the same lines, an empty line staying empty. -/
theorem map_wellformed (change : Str → Str) (list : List Line) (wellformed : Wellformed list)
    (unbroken : ∀ line ∈ list, ∀ point ∈ change line.text, isBreak point = false)
    (empty : ∀ line ∈ list, change line.text = [] ↔ line.text = []) :
    Wellformed (list.map fun line => ⟨change line.text, line.ending⟩) := by
  induction list with
  | nil => trivial
  | cons line rest hypothesis =>
    obtain ⟨-, ends, tail⟩ := wellformed
    have others := hypothesis tail (fun line member => unbroken line (by simp [member]))
      (fun line member => empty line (by simp [member]))
    refine ⟨unbroken line (by simp), ?_, others⟩
    rcases ends with ⟨final, nonempty, rfl⟩ | pair | ⟨point, breaks, single, apart⟩
    · exact Or.inl ⟨final, mt (empty line (by simp)).mp nonempty, rfl⟩
    · exact Or.inr (Or.inl pair)
    · refine Or.inr (Or.inr ⟨point, breaks, single, ?_⟩)
      intro isReturn feeds
      refine apart isReturn ((feeds_iff rest tail).mpr ?_)
      obtain ⟨first, following, split, blank, feed⟩ := (feeds_iff _ others).mp feeds
      obtain ⟨original, before, rfl, rfl, -⟩ := List.map_eq_cons_iff.mp split
      exact ⟨original, before, rfl, (empty original (by simp)).mp blank, feed⟩

theorem intercalate_append (rows : List Str) (some : rows ≠ []) :
    [0x0A].intercalate rows ++ [0x0A] = unlines (rows.map fun row => ⟨row, [0x0A]⟩) := by
  induction rows with
  | nil => exact absurd rfl some
  | cons first rest hypothesis =>
    cases rest with
    | nil => simp [unlines]
    | cons second rest =>
      have tail := hypothesis (List.cons_ne_nil _ _)
      rw [List.intercalate_cons_cons, List.append_assoc, tail, List.map_cons, unlines,
        List.flatMap_cons]
      rfl

/-- Lines that were joined and ended by line feeds are split again. -/
theorem splitlines_joined (rows : List Str) (some : rows ≠ [])
    (unbroken : ∀ row ∈ rows, ∀ point ∈ row, isBreak point = false) :
    splitlines ([0x0A].intercalate rows ++ [0x0A]) = rows := by
  have wellformed : Wellformed (rows.map fun row => ⟨row, [0x0A]⟩) := by
    clear some
    induction rows with
    | nil => trivial
    | cons first rest hypothesis =>
      rw [List.forall_mem_cons] at unbroken
      exact ⟨unbroken.1, Or.inr (Or.inr ⟨0x0A, by decide, rfl, nofun⟩), hypothesis unbroken.2⟩
  rw [intercalate_append rows some, splitlines, lines_unlines _ wellformed, List.map_map]
  exact List.map_id rows

end SianoUserland.Text
