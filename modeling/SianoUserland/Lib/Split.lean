/-! The places of a list: what comes before an entry, the entry and what follows. -/
namespace SianoUserland.Split

variable {list before after : List α} {last entry : α}

/-- The places of a longer list are those of the shorter one and its end. -/
theorem concat_eq_iff : list ++ [last] = before ++ entry :: after ↔
    (∃ rest, after = rest ++ [last] ∧ list = before ++ entry :: rest) ∨
      (after = [] ∧ before = list ∧ entry = last) := by
  constructor
  · intro split
    rcases List.eq_nil_or_concat after with rfl | ⟨rest, final, rfl⟩
    · obtain ⟨rfl, same⟩ := List.append_inj' split rfl
      cases same
      exact Or.inr ⟨rfl, rfl, rfl⟩
    · have inner : list ++ [last] = (before ++ entry :: rest) ++ [final] := by
        rw [split]
        simp
      obtain ⟨same, ends⟩ := List.append_inj' inner rfl
      cases ends
      exact Or.inl ⟨rest, by simp, same⟩
  · rintro (⟨rest, rfl, rfl⟩ | ⟨rfl, rfl, rfl⟩)
    · simp
    · rfl

theorem forall_concat {P : List α → α → Prop} :
    (∀ before entry after, list ++ [last] = before ++ entry :: after → P before entry) ↔
      (∀ before entry after, list = before ++ entry :: after → P before entry) ∧ P list last := by
  constructor
  · intro all
    exact ⟨fun before entry after split => all before entry (after ++ [last]) (by simp [split]),
      all list last [] rfl⟩
  · rintro ⟨earlier, final⟩ before entry after split
    rcases concat_eq_iff.mp split with ⟨rest, -, inner⟩ | ⟨-, rfl, rfl⟩
    · exact earlier before entry rest inner
    · exact final

theorem exists_concat {P : List α → α → Prop} :
    (∃ before entry after, list ++ [last] = before ++ entry :: after ∧ P before entry) ↔
      (∃ before entry after, list = before ++ entry :: after ∧ P before entry) ∨ P list last := by
  constructor
  · rintro ⟨before, entry, after, split, holds⟩
    rcases concat_eq_iff.mp split with ⟨rest, -, inner⟩ | ⟨-, rfl, rfl⟩
    · exact Or.inl ⟨before, entry, rest, inner, holds⟩
    · exact Or.inr holds
  · rintro (⟨before, entry, after, split, holds⟩ | holds)
    · exact ⟨before, entry, after ++ [last], by simp [split], holds⟩
    · exact ⟨list, last, [], rfl, holds⟩

/-! ### The first place of an entry -/

section first

variable [DecidableEq α]

theorem takeWhile_first (apart : entry ∉ before) :
    (before ++ entry :: after).takeWhile (· ≠ entry) = before := by
  rw [List.takeWhile_append_of_pos]
  · simp
  · intro other member
    simpa using fun (same : other = entry) => apart (same ▸ member)

theorem dropWhile_first (apart : entry ∉ before) :
    (before ++ entry :: after).dropWhile (· ≠ entry) = entry :: after := by
  rw [List.dropWhile_append_of_pos]
  · simp
  · intro other member
    simpa using fun (same : other = entry) => apart (same ▸ member)

end first

end SianoUserland.Split
