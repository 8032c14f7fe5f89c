import SianoUserland.TransferInvariant

/-! Who owns the transfers. The counter `active_transfers` is exact whenever the
mutex is free, nothing is submitted once `stopping` is set, and the event thread
leaves only when libusb has given everything back. -/
namespace SianoUserland.TransferOwnership
open Transition TransferThreads TransferInvariant

variable {device after : Device} {thread : Thread} {index : Nat}

/-- A step of `cancel_transfers`, whoever called it. The copy of the table has every
transfer that is flying, since submitters fill their slot first. -/
theorem cancelTransfers_sound {position : Cancel} {rest : Option Cancel}
    (wrap : Option Cancel → Thread)
    (sound : Sound device) (found : device.threads[index]? = some (wrap (some position)))
    (plain : ∀ rest, Plain (wrap rest)) (placed : ∀ rest, Placed device (wrap rest))
    (cancels : ∀ position, cancel? (wrap (some position)) = some position)
    (taken : device.cancelTransfers index position = some (after, rest)) :
    Sound { after with threads := after.threads.set index (wrap rest) } := by
  cases position with
  | copy =>
    simp only [Device.cancelTransfers, Option.ite_none_right_eq_some, Option.some.injEq,
      Prod.mk.injEq] at taken
    obtain ⟨_, rfl, rfl⟩ := taken
    apply move_sound sound found (plain _) (plain _) (placed _)
    intro _
    refine ⟨_, cancels _, ?_⟩
    intro submission member
    obtain ⟨small, set⟩ := sound.tabled submission member
    exact Or.inl (by simp [small, set])
  | each slots =>
    cases slots with
    | nil =>
      simp only [Device.cancelTransfers, Option.some.injEq, Prod.mk.injEq] at taken
      obtain ⟨rfl, rfl⟩ := taken
      exact swept_sound sound found (plain _) (plain _) (placed _) (cancels _)
    | cons slot slots =>
      simp only [Device.cancelTransfers, Option.some.injEq, Prod.mk.injEq] at taken
      obtain ⟨rfl, rfl⟩ := taken
      apply plain_sound device.closed sound found (List.subset_append_left _ _) (plain _) (plain _)
        (placed _)
      rintro ⟨position, here, covers⟩
      rw [cancels, Option.some.injEq] at here
      rw [← here] at covers
      refine ⟨_, cancels _, ?_⟩
      intro submission member
      rcases covers submission member with left | handed
      · rcases List.mem_cons.mp left with now | still
        · exact Or.inr (List.mem_append_right _ (List.mem_filter.mpr ⟨member, by simp [now]⟩))
        · exact Or.inl still
      · exact Or.inr (List.mem_append_left _ handed)

theorem failStreaming_sound {position : Fail} {rest : Option Fail} (wrap : Option Fail → Thread)
    (sound : Sound device) (found : device.threads[index]? = some (wrap (some position)))
    (plain : ∀ rest, Plain (wrap rest)) (placed : ∀ rest, Placed device (wrap rest))
    (fresh : ∀ error, cancel? (wrap (some (.state error))) = none)
    (closing : cancel? (wrap (some .close)) = some .copy)
    (cancels : ∀ position, cancel? (wrap (some (.cancel position))) = some position)
    (taken : device.failStreaming index position = some (after, rest)) :
    Sound { after with threads := after.threads.set index (wrap rest) } := by
  cases position with
  | state error =>
    simp only [Device.failStreaming, StreamState.fail, Option.ite_none_right_eq_some] at taken
    obtain ⟨free, taken⟩ := taken
    cases stopping : device.state.stopping with
    | true =>
      simp only [stopping, ↓reduceIte, Bool.false_eq_true, Option.some.injEq,
        Prod.mk.injEq] at taken
      obtain ⟨rfl, rfl⟩ := taken
      exact pass_sound sound found (plain _) (plain _) (fresh error) (placed _)
    | false =>
      simp only [stopping, ↓reduceIte, Bool.false_eq_true, Option.some.injEq,
        Prod.mk.injEq] at taken
      obtain ⟨rfl, rfl⟩ := taken
      exact setState_sound _ sound found free rfl (plain _) (plain _)
        (fun later => placed_later (placed _) later) (unswept_of_none (fresh error)) closing
  | close =>
    simp only [Device.failStreaming, Option.some.injEq, Prod.mk.injEq] at taken
    obtain ⟨rfl, rfl⟩ := taken
    apply plain_sound true sound found (List.Subset.refl _) (plain _) (plain _) (placed _)
    exact fun _ => ⟨.copy, cancels _, trivial⟩
  | cancel position =>
    simp only [Device.failStreaming, Option.map_eq_some_iff, Prod.mk.injEq] at taken
    obtain ⟨⟨changed, left⟩, taken, rfl, rfl⟩ := taken
    refine cancelTransfers_sound (fun rest => wrap (rest.map .cancel)) sound found ?_ ?_ ?_ taken
    · exact fun rest => plain _
    · exact fun rest => placed _
    · exact fun position => cancels position

/-- What the two submitting functions share: their submission of `slot`. -/
theorem submitTransfer_sound {slot : Nat} {position : Submit} (wrap : Submit → Thread)
    (sound : Sound device) (found : device.threads[index]? = some (wrap position))
    (held : ∀ position, holds (wrap position) = true) (owed : ∀ position, owes (wrap position) = 0)
    (counted : ∀ position, credit (wrap position) = if position = .counting then 1 else 0)
    (plain : ∀ position, cancel? (wrap position) = none)
    (small : slot < device.maxUrbs) (started : device.eventThreadStarted = true)
    (table : device.state.stopping = false → device.transfers slot = true)
    (placed : ∀ position (after : Device), after.eventThreadStarted = device.eventThreadStarted →
      after.maxUrbs = device.maxUrbs → after.state = device.state →
        after.transfers = device.transfers → Placed after (wrap position))
    (taken : device.submitTransfer slot answer position = (after, outcome)) :
    (∀ next, outcome = .inl next →
      Sound { after with threads := after.threads.set index (wrap next) }) ∧
    ∀ rc new, outcome = .inr rc → Plain new → Placed device new →
      Sound { after with threads := after.threads.set index new } := by
  have unswept : ¬Sweeping device (wrap position) := unswept_of_none (plain position)
  cases position with
  | calling =>
    simp only [Device.submitTransfer] at taken
    split at taken
    · cases taken
      refine ⟨?_, fun _ _ impossible => by cases impossible⟩
      intro next same
      cases same
      refine inside_sound (wrap .counting) [⟨slot, device.submissions⟩] (device.submissions + 1)
        sound found (held _) ⟨owed _, owed _⟩ ?_ started ?_ (placed _) unswept
      · simp [counted]
      · intro submission only
        rw [List.mem_singleton.mp only]
        exact ⟨small, table⟩
    · cases taken
      refine ⟨?_, fun _ _ impossible => by cases impossible⟩
      intro next same
      cases same
      have inside := inside_sound (wrap (.refused answer)) [] device.submissions sound found
        (held _) ⟨owed _, owed _⟩ (by simp [counted]) started (by simp) (placed _) unswept
      simpa using inside
  | counting =>
    cases taken
    refine ⟨(fun _ impossible => by cases impossible), ?_⟩
    intro rc new _ plain placed
    have released := release_sound new sound found (held _) (owed _) plain placed unswept
    simpa [counted] using released
  | refused rc =>
    cases taken
    refine ⟨(fun _ impossible => by cases impossible), ?_⟩
    intro rc new _ plain placed
    have released := release_sound new sound found (held _) (owed _) plain placed unswept
    simpa [counted] using released

theorem startStreaming_sound {position moved : Start} (sound : Sound device)
    (found : device.threads[index]? = some (.start position))
    (taken : device.startStreaming index answer position = some (after, moved)) :
    Sound { after with threads := after.threads.set index (.start moved) } := by
  have placed := sound.placed _ (List.mem_of_getElem? found)
  have unswept : ∀ {device : Device}, ¬Sweeping device (.start position) := unswept_of_none rfl
  cases position with
  | create =>
    simp only [Device.startStreaming] at taken
    split at taken
    · cases taken
      have spawned := append_sound (.event .check) sound (List.Subset.refl _) rfl rfl rfl trivial
      have inside : index < device.threads.length := (List.getElem?_eq_some_iff.mp found).1
      exact pass_sound spawned ((List.getElem?_append_left inside).trans found) ⟨rfl, rfl, rfl⟩
        ⟨rfl, rfl, rfl⟩ rfl trivial
    · cases taken
      exact pass_sound sound found ⟨rfl, rfl, rfl⟩ ⟨rfl, rfl, rfl⟩ rfl trivial
  | created =>
    cases taken
    have stepped := started_sound (.start (.allocate 0)) sound found ⟨rfl, rfl, rfl⟩ ⟨rfl, rfl, rfl⟩
      rfl unswept
    exact stepped
  | allocate slot =>
    simp only [Device.startStreaming] at taken
    split at taken
    · rename_i small
      cases taken
      split
      · exact pass_sound sound found ⟨rfl, rfl, rfl⟩ ⟨rfl, rfl, rfl⟩ rfl ⟨placed, small⟩
      · exact pass_sound sound found ⟨rfl, rfl, rfl⟩ ⟨rfl, rfl, rfl⟩ rfl trivial
    · cases taken
      exact pass_sound sound found ⟨rfl, rfl, rfl⟩ ⟨rfl, rfl, rfl⟩ rfl trivial
  | lock slot =>
    simp only [Device.startStreaming, Option.ite_none_right_eq_some] at taken
    obtain ⟨free, taken⟩ := taken
    cases stopping : device.state.stopping with
    | true =>
      simp only [stopping, ↓reduceIte] at taken
      cases taken
      exact pass_sound sound found ⟨rfl, rfl, rfl⟩ ⟨rfl, rfl, rfl⟩ rfl trivial
    | false =>
      simp only [stopping, Bool.false_eq_true, ↓reduceIte] at taken
      cases taken
      have table : ∀ other, device.transfers other = true →
          Function.update device.transfers slot true other = true := by
        intro other set
        by_cases same : other = slot
        · rw [same, Function.update_self]
        · rw [Function.update_of_ne same]
          exact set
      have acquired := acquire_sound (.start (.submit slot .calling)) _ sound found free stopping
        table ⟨rfl, rfl, rfl⟩ rfl rfl
        ⟨placed.1, placed.2, fun _ => Function.update_self _ _ _⟩ unswept
      exact acquired
  | submit slot position =>
    obtain ⟨started, small, table⟩ := placed
    simp only [Device.startStreaming] at taken
    rcases submitted : device.submitTransfer slot answer position with ⟨changed, outcome⟩
    obtain ⟨goes, ends⟩ := submitTransfer_sound (fun position => .start (.submit slot position))
      sound found (fun _ => rfl) (fun _ => rfl) (fun position => by cases position <;> rfl)
      (fun _ => rfl) small started table
      (fun _ after begun room state same => ⟨begun.trans started, room ▸ small,
        state ▸ same ▸ table⟩) submitted
    rw [submitted] at taken
    cases outcome with
    | inl next =>
      cases taken
      exact goes next rfl
    | inr rc =>
      cases taken
      apply ends rc _ rfl
      · split
        · exact ⟨rfl, rfl, rfl⟩
        · exact ⟨rfl, rfl, rfl⟩
      · split
        · trivial
        · exact started
  | returned rc => cases taken

theorem transferCallback_sound {position moved : Callback} (sound : Sound device)
    (found : device.threads[index]? = some (.callback slot status position))
    (taken : device.transferCallback index slot status answer position = some (after, moved)) :
    Sound { after with threads := after.threads.set index (.callback slot status moved) } := by
  obtain ⟨started, small, table⟩ := sound.placed _ (List.mem_of_getElem? found)
  cases position with
  | entered =>
    simp only [Device.transferCallback, Option.ite_none_right_eq_some, Option.some.injEq,
      Prod.mk.injEq] at taken
    obtain ⟨free, rfl, rfl⟩ := taken
    have decremented := decrement_sound (.callback slot status (.classified
        (StreamState.classifyStatus status device.state.stopping))) sound found free rfl rfl
      ⟨rfl, rfl, rfl⟩ ⟨started, small, table⟩ (unswept_of_none rfl)
    exact decremented
  | classified action =>
    have goes : ∀ next, Plain (.callback slot status next) →
        Sound { device with threads := device.threads.set index (.callback slot status next) } :=
      fun next plain => pass_sound sound found ⟨rfl, rfl, rfl⟩ plain rfl ⟨started, small, table⟩
    cases action with
    | fatal | drain | complete | retry =>
      cases taken
      exact goes _ ⟨rfl, rfl, rfl⟩
  | handled =>
    simp only [Device.transferCallback, Option.ite_none_right_eq_some] at taken
    obtain ⟨free, taken⟩ := taken
    cases stopping : device.state.stopping with
    | true =>
      simp only [stopping, ↓reduceIte] at taken
      cases taken
      exact pass_sound sound found ⟨rfl, rfl, rfl⟩ ⟨rfl, rfl, rfl⟩ rfl ⟨started, small, table⟩
    | false =>
      simp only [stopping, Bool.false_eq_true, ↓reduceIte] at taken
      cases taken
      have acquired := acquire_sound (.callback slot status (.submit .calling)) device.transfers
        sound found free stopping (fun _ => id) ⟨rfl, rfl, rfl⟩ rfl rfl ⟨started, small, table⟩
        (unswept_of_none rfl)
      exact acquired
  | submit position =>
    simp only [Device.transferCallback] at taken
    rcases submitted : device.submitTransfer slot answer position with ⟨changed, outcome⟩
    obtain ⟨goes, ends⟩ := submitTransfer_sound
      (fun position => .callback slot status (.submit position))
      sound found (fun _ => rfl) (fun _ => rfl) (fun position => by cases position <;> rfl)
      (fun _ => rfl) small started table
      (fun _ after begun room state same => ⟨begun.trans started, room ▸ small,
        state ▸ same ▸ table⟩) submitted
    rw [submitted] at taken
    cases outcome with
    | inl next =>
      cases taken
      exact goes next rfl
    | inr rc =>
      cases taken
      apply ends rc _ rfl
      · split
        · exact ⟨rfl, rfl, rfl⟩
        · exact ⟨rfl, rfl, rfl⟩
      · exact ⟨started, small, table⟩
  | fail position =>
    simp only [Device.transferCallback, Option.map_eq_some_iff, Prod.mk.injEq] at taken
    obtain ⟨⟨changed, rest⟩, failed, rfl, rfl⟩ := taken
    apply failStreaming_sound (fun rest => .callback slot status (rest.elim .returned .fail)) sound
      found
    · intro rest
      cases rest with
      | none => exact ⟨rfl, rfl, rfl⟩
      | some position => exact ⟨rfl, rfl, rfl⟩
    · exact fun _ => ⟨started, small, table⟩
    · exact fun _ => rfl
    · rfl
    · exact fun _ => rfl
    · exact failed
  | returned => cases taken

theorem eventThreadMain_sound {position moved : Event} (sound : Sound device)
    (found : device.threads[index]? = some (.event position))
    (taken : device.eventThreadMain index answer position = some (after, moved)) :
    Sound { after with threads := after.threads.set index (.event moved) } := by
  cases position with
  | check =>
    simp only [Device.eventThreadMain, Option.ite_none_right_eq_some, Option.some.injEq,
      Prod.mk.injEq] at taken
    obtain ⟨free, rfl, rfl⟩ := taken
    split
    · rename_i finished
      have quiet : Quiet device := by
        refine ⟨finished.1, ?_⟩
        rw [← sound.balance, credits_zero sound free, finished.2]
      exact pass_sound sound found ⟨rfl, rfl, rfl⟩ ⟨rfl, rfl, rfl⟩ rfl quiet
    · exact pass_sound sound found ⟨rfl, rfl, rfl⟩ ⟨rfl, rfl, rfl⟩ rfl trivial
  | handle =>
    simp only [Device.eventThreadMain, Option.some.injEq, Prod.mk.injEq] at taken
    obtain ⟨rfl, rfl⟩ := taken
    split
    · exact pass_sound sound found ⟨rfl, rfl, rfl⟩ ⟨rfl, rfl, rfl⟩ rfl trivial
    · exact pass_sound sound found ⟨rfl, rfl, rfl⟩ ⟨rfl, rfl, rfl⟩ rfl trivial
  | fail position =>
    simp only [Device.eventThreadMain, Option.map_eq_some_iff, Prod.mk.injEq] at taken
    obtain ⟨⟨changed, rest⟩, failed, rfl, rfl⟩ := taken
    apply failStreaming_sound (fun rest => .event (rest.elim .check .fail)) sound found
    · intro rest
      cases rest with
      | none => exact ⟨rfl, rfl, rfl⟩
      | some position => exact ⟨rfl, rfl, rfl⟩
    · intro rest
      cases rest with
      | none => trivial
      | some position => trivial
    · exact fun _ => rfl
    · rfl
    · exact fun _ => rfl
    · exact failed
  | exited => cases taken

theorem stopStreaming_sound {position moved : Stop} (sound : Sound device)
    (found : device.threads[index]? = some (.stop position))
    (taken : device.stopStreaming index position = some (after, moved)) :
    Sound { after with threads := after.threads.set index (.stop moved) } := by
  have placed := sound.placed _ (List.mem_of_getElem? found)
  cases position with
  | state =>
    simp only [Device.stopStreaming, Option.ite_none_right_eq_some, Option.some.injEq,
      Prod.mk.injEq] at taken
    obtain ⟨free, rfl, rfl⟩ := taken
    exact setState_sound _ sound found free rfl ⟨rfl, rfl, rfl⟩ ⟨rfl, rfl, rfl⟩ (fun _ => rfl)
      (unswept_of_none rfl) rfl
  | cancel position =>
    simp only [Device.stopStreaming, Option.map_eq_some_iff, Prod.mk.injEq] at taken
    obtain ⟨⟨changed, rest⟩, cancelled, rfl, rfl⟩ := taken
    apply cancelTransfers_sound (fun rest => .stop (rest.elim .join .cancel)) sound found
    · intro rest
      cases rest with
      | none => exact ⟨rfl, rfl, rfl⟩
      | some position => exact ⟨rfl, rfl, rfl⟩
    · intro rest
      cases rest with
      | none => exact placed
      | some position => exact placed
    · exact fun _ => rfl
    · exact cancelled
  | join =>
    simp only [Device.stopStreaming, Option.ite_none_right_eq_some, Option.some.injEq,
      Prod.mk.injEq] at taken
    obtain ⟨joined, rfl, rfl⟩ := taken
    have quiet : Quiet device := by
      rcases joined with never | exited
      · exact ⟨placed, sound.unstarted never⟩
      · exact sound.placed _ exited
    exact pass_sound sound found ⟨rfl, rfl, rfl⟩ ⟨rfl, rfl, rfl⟩ rfl quiet
  | free =>
    cases taken
    have freed := free_sound sound found
    exact freed
  | returned => cases taken

theorem start_sound (maxUrbs : Nat) : Sound (start maxUrbs) where
  balance := rfl
  holder := by
    intro index thread there held
    have member := List.mem_of_getElem? there
    simp only [start, List.mem_cons, List.not_mem_nil, or_false] at member
    rcases member with rfl | rfl
    · cases held
    · cases held
  tabled := by simp [start]
  placed := by simp [start, Placed]
  unstarted := fun _ => rfl
  freed := by simp [start]
  sweep := by
    constructor
    · simp [start]
    · simp [start]
    · simp [start]
    · simp [start]

/-- A step of a thread is a step of the function it is in. -/
theorem advance_cases (taken : device.advance index answer thread = some (after, moved)) :
    (∃ position next, thread = .start position ∧ moved = .start next ∧
      device.startStreaming index answer position = some (after, next)) ∨
    (∃ slot status position next, thread = .callback slot status position ∧
      moved = .callback slot status next ∧
      device.transferCallback index slot status answer position = some (after, next)) ∨
    (∃ position next, thread = .event position ∧ moved = .event next ∧
      device.eventThreadMain index answer position = some (after, next)) ∨
    ∃ position next, thread = .stop position ∧ moved = .stop next ∧
      device.stopStreaming index position = some (after, next) := by
  cases thread with
  | start position =>
    obtain ⟨⟨_, next⟩, went, same⟩ := Option.map_eq_some_iff.mp taken
    cases same
    exact Or.inl ⟨position, next, rfl, rfl, went⟩
  | callback slot status position =>
    obtain ⟨⟨_, next⟩, went, same⟩ := Option.map_eq_some_iff.mp taken
    cases same
    exact Or.inr (Or.inl ⟨slot, status, position, next, rfl, rfl, went⟩)
  | event position =>
    obtain ⟨⟨_, next⟩, went, same⟩ := Option.map_eq_some_iff.mp taken
    cases same
    exact Or.inr (Or.inr (Or.inl ⟨position, next, rfl, rfl, went⟩))
  | stop position =>
    obtain ⟨⟨_, next⟩, went, same⟩ := Option.map_eq_some_iff.mp taken
    cases same
    exact Or.inr (Or.inr (Or.inr ⟨position, next, rfl, rfl, went⟩))

/-- Every step keeps the invariant. -/
theorem next_sound (sound : Sound device) (taken : next device action = some after) :
    Sound after := by
  cases action with
  | step index answer =>
    simp only [next] at taken
    split at taken
    · rename_i thread found
      obtain ⟨⟨changed, moved⟩, advanced, rfl⟩ := Option.map_eq_some_iff.mp taken
      rcases advance_cases advanced with ⟨position, moved, rfl, rfl, went⟩ |
        ⟨slot, status, position, moved, rfl, rfl, went⟩ | ⟨position, moved, rfl, rfl, went⟩ |
        ⟨position, moved, rfl, rfl, went⟩
      · exact startStreaming_sound sound found went
      · exact transferCallback_sound sound found went
      · exact eventThreadMain_sound sound found went
      · exact stopStreaming_sound sound found went
    · cases taken
  | deliver submission status =>
    simp only [next, Option.ite_none_right_eq_some, Option.some.injEq] at taken
    obtain ⟨member, rfl⟩ := taken
    obtain ⟨small, table⟩ := sound.tabled submission member
    have started : device.eventThreadStarted = true := by
      cases begun : device.eventThreadStarted with
      | true => rfl
      | false =>
        have none := sound.unstarted begun
        have some := List.length_pos_of_mem member
        simp only [outstanding] at none
        omega
    apply append_sound (.callback submission.slot status .entered) sound List.erase_subset
    · rw [List.length_erase_of_mem member]
      have some := List.length_pos_of_mem member
      simp only [owes]
      omega
    · rfl
    · rfl
    · exact ⟨started, small, fun _ => table⟩

theorem run_sound (ran : run next (start maxUrbs) actions = some device) : Sound device :=
  run_keeps Sound (fun _ _ _ => next_sound) (start_sound maxUrbs) ran

theorem cancelTransfers_frame (taken : device.cancelTransfers index position = some (after, rest)) :
    after.submissions = device.submissions ∧ after.state = device.state := by
  unfold Device.cancelTransfers at taken
  split at taken
  · split at taken
    · cases taken
      exact ⟨rfl, rfl⟩
    · cases taken
  · cases taken
    exact ⟨rfl, rfl⟩
  · cases taken
    exact ⟨rfl, rfl⟩

theorem failStreaming_frame (stopping : device.state.stopping = true)
    (taken : device.failStreaming index position = some (after, rest)) :
    after.submissions = device.submissions ∧ after.state = device.state := by
  cases position with
  | state error =>
    simp only [Device.failStreaming, StreamState.fail, stopping, ↓reduceIte, Bool.false_eq_true,
      Option.ite_none_right_eq_some, Option.some.injEq, Prod.mk.injEq] at taken
    obtain ⟨_, rfl, _⟩ := taken
    exact ⟨rfl, rfl⟩
  | close =>
    cases taken
    exact ⟨rfl, rfl⟩
  | cancel position =>
    simp only [Device.failStreaming, Option.map_eq_some_iff, Prod.mk.injEq] at taken
    obtain ⟨⟨changed, left⟩, cancelled, rfl, _⟩ := taken
    exact cancelTransfers_frame cancelled

theorem startStreaming_frame (stopping : device.state.stopping = true)
    (loose : holds (.start position) = false)
    (taken : device.startStreaming index answer position = some (after, moved)) :
    after.submissions = device.submissions ∧ after.state.stopping = true := by
  cases position with
  | create | allocate slot =>
    simp only [Device.startStreaming] at taken
    split at taken
    · cases taken
      exact ⟨rfl, stopping⟩
    · cases taken
      exact ⟨rfl, stopping⟩
  | created =>
    cases taken
    exact ⟨rfl, stopping⟩
  | lock slot =>
    simp only [Device.startStreaming, stopping, ↓reduceIte, Option.ite_none_right_eq_some,
      Option.some.injEq, Prod.mk.injEq] at taken
    obtain ⟨_, rfl, _⟩ := taken
    exact ⟨rfl, stopping⟩
  | submit slot position => cases loose
  | returned rc => cases taken

theorem transferCallback_frame (stopping : device.state.stopping = true)
    (loose : holds (.callback slot status position) = false)
    (taken : device.transferCallback index slot status answer position = some (after, moved)) :
    after.submissions = device.submissions ∧ after.state.stopping = true := by
  cases position with
  | entered =>
    simp only [Device.transferCallback, Option.ite_none_right_eq_some, Option.some.injEq,
      Prod.mk.injEq] at taken
    obtain ⟨_, rfl, _⟩ := taken
    exact ⟨rfl, stopping⟩
  | classified action =>
    cases action with
    | fatal | drain | complete | retry =>
      cases taken
      exact ⟨rfl, stopping⟩
  | handled =>
    simp only [Device.transferCallback, stopping, ↓reduceIte, Option.ite_none_right_eq_some,
      Option.some.injEq, Prod.mk.injEq] at taken
    obtain ⟨_, rfl, _⟩ := taken
    exact ⟨rfl, stopping⟩
  | submit position => cases loose
  | fail position =>
    obtain ⟨⟨_, rest⟩, failed, same⟩ := Option.map_eq_some_iff.mp taken
    cases same
    obtain ⟨submissions, state⟩ := failStreaming_frame stopping failed
    exact ⟨submissions, state ▸ stopping⟩
  | returned => cases taken

theorem eventThreadMain_frame (stopping : device.state.stopping = true)
    (taken : device.eventThreadMain index answer position = some (after, moved)) :
    after.submissions = device.submissions ∧ after.state.stopping = true := by
  cases position with
  | check =>
    simp only [Device.eventThreadMain, Option.ite_none_right_eq_some, Option.some.injEq,
      Prod.mk.injEq] at taken
    obtain ⟨_, rfl, _⟩ := taken
    exact ⟨rfl, stopping⟩
  | handle =>
    cases taken
    exact ⟨rfl, stopping⟩
  | fail position =>
    obtain ⟨⟨_, rest⟩, failed, same⟩ := Option.map_eq_some_iff.mp taken
    cases same
    obtain ⟨submissions, state⟩ := failStreaming_frame stopping failed
    exact ⟨submissions, state ▸ stopping⟩
  | exited => cases taken

theorem stopStreaming_frame (stopping : device.state.stopping = true)
    (taken : device.stopStreaming index position = some (after, moved)) :
    after.submissions = device.submissions ∧ after.state.stopping = true := by
  cases position with
  | state =>
    simp only [Device.stopStreaming, Option.ite_none_right_eq_some, Option.some.injEq,
      Prod.mk.injEq] at taken
    obtain ⟨_, rfl, _⟩ := taken
    exact ⟨rfl, rfl⟩
  | cancel position =>
    obtain ⟨⟨_, rest⟩, cancelled, same⟩ := Option.map_eq_some_iff.mp taken
    cases same
    obtain ⟨submissions, state⟩ := cancelTransfers_frame cancelled
    exact ⟨submissions, state ▸ stopping⟩
  | join =>
    simp only [Device.stopStreaming, Option.ite_none_right_eq_some, Option.some.injEq,
      Prod.mk.injEq] at taken
    obtain ⟨_, rfl, _⟩ := taken
    exact ⟨rfl, stopping⟩
  | free =>
    cases taken
    exact ⟨rfl, stopping⟩
  | returned => cases taken

/-- Once `stopping` is set, a thread that is not in a critical section submits
nothing and leaves `stopping` set. -/
theorem advance_frame (stopping : device.state.stopping = true) (loose : holds thread = false)
    (taken : device.advance index answer thread = some (after, moved)) :
    after.submissions = device.submissions ∧ after.state.stopping = true := by
  rcases advance_cases taken with ⟨position, moved, rfl, rfl, went⟩ |
    ⟨slot, status, position, moved, rfl, rfl, went⟩ | ⟨position, moved, rfl, rfl, went⟩ |
    ⟨position, moved, rfl, rfl, went⟩
  · exact startStreaming_frame stopping loose went
  · exact transferCallback_frame stopping loose went
  · exact eventThreadMain_frame stopping went
  · exact stopStreaming_frame stopping went

theorem next_stopped (sound : Sound device) (stopping : device.state.stopping = true)
    (taken : next device action = some after) :
    after.submissions = device.submissions ∧ after.state.stopping = true := by
  cases action with
  | step index answer =>
    simp only [next] at taken
    split at taken
    · rename_i thread found
      obtain ⟨⟨changed, moved⟩, advanced, rfl⟩ := Option.map_eq_some_iff.mp taken
      have loose : holds thread = false := by
        cases held : holds thread with
        | false => rfl
        | true =>
          have running := (sound.holder index thread found held).2
          rw [stopping] at running
          cases running
      have framed := advance_frame stopping loose advanced
      exact framed
    · cases taken
  | deliver submission status =>
    simp only [next, Option.ite_none_right_eq_some, Option.some.injEq] at taken
    obtain ⟨_, rfl⟩ := taken
    exact ⟨rfl, stopping⟩

/-- **Transfers are owned.** In every state that any interleaving reaches: while
the mutex is free the counter is exactly the number of submissions whose callback
has not done its decrement; once `stopping` is set nothing is submitted any more;
when the call that set it has finished its `cancel_transfers`, everything that was
flying then has been cancelled or called back; and the event thread has left, or
the transfers have been freed, only when nothing is outstanding. -/
theorem transfers_owned (maxUrbs : Nat) (actions : List Action)
    (ran : run next (start maxUrbs) actions = some device) :
    (device.owner = none → device.activeTransfers = outstanding device) ∧
    (device.state.stopping = true → ∀ later after, run next device later = some after →
      after.submissions = device.submissions) ∧
    (device.swept = true → ∀ who flying, device.stopper = some (who, flying) →
      ∀ submission ∈ flying, submission ∈ device.cancelled ∨ submission ∉ device.flying) ∧
    (.event .exited ∈ device.threads ∨ device.freed = true →
      outstanding device = 0 ∧ device.flying = []) := by
  have sound := run_sound ran
  refine ⟨?_, ?_, ?_, ?_⟩
  · intro free
    have balance := sound.balance
    rwa [credits_zero sound free] at balance
  · intro stopping later after continued
    have kept := run_keeps
      (fun other => Sound other ∧ other.state.stopping = true ∧
        other.submissions = device.submissions)
      (fun _ _ _ held taken =>
        have stopped := next_stopped held.1 held.2.1 taken
        ⟨next_sound held.1 taken, stopped.2, stopped.1.trans held.2.2⟩)
      ⟨sound, stopping, rfl⟩ continued
    exact kept.2.2
  · intro swept who flying _ submission _
    by_cases still : submission ∈ device.flying
    · exact Or.inl (sound.sweep.done swept submission still)
    · exact Or.inr still
  · intro left
    have quiet : Quiet device := by
      rcases left with exited | freed
      · exact sound.placed _ exited
      · exact sound.freed freed
    have zero := quiet.2
    simp only [outstanding] at zero
    exact ⟨quiet.2, List.eq_nil_of_length_eq_zero (by omega)⟩

/-- Two transfers: the first calls back before its submitter has counted it, and its
resubmission is refused while the second is flying. -/
def refusedResubmission : List Action :=
  List.replicate 5 (.step 0 0) ++ [.deliver ⟨0, 0⟩ .completed, .step 0 0, .step 3 0] ++
    List.replicate 5 (.step 0 0) ++ [.step 3 0, .step 3 0, .step 3 Libusb.errorIo] ++
    List.replicate 7 (.step 3 0) ++ [.step 2 0, .deliver ⟨1, 1⟩ .cancelled, .step 4 0, .step 2 0,
      .step 2 0] ++ List.replicate 7 (.step 1 0)

theorem transfers_owned_refused_resubmission :
    ∃ device, run next (start 2) refusedResubmission = some device ∧ device.owner = none ∧
      device.state = { stopping := true, error := Libusb.errorNoDevice } ∧
      device.swept = true ∧ device.stopper = some (3, [⟨1, 1⟩]) ∧ device.cancelled = [⟨1, 1⟩] ∧
      device.freed = true ∧ device.activeTransfers = outstanding device ∧
      outstanding device = 0 ∧ device.flying = [] := by
  have evaluated : (run next (start 2) refusedResubmission).any (fun device =>
      (device.owner = none ∧ device.state = { stopping := true, error := Libusb.errorNoDevice } ∧
        device.swept = true ∧ device.stopper = some (3, [⟨1, 1⟩]) ∧ device.cancelled = [⟨1, 1⟩] ∧
        device.freed = true : Bool)) = true := by
    decide +kernel
  obtain ⟨device, ran, reached⟩ := Option.any_eq_true _ _ |>.mp evaluated
  obtain ⟨free, state, swept, stopper, cancelled, freed⟩ := of_decide_eq_true reached
  obtain ⟨counted, _, _, quiet⟩ := transfers_owned 2 _ ran
  exact ⟨device, ran, free, state, swept, stopper, cancelled, freed, counted free,
    quiet (Or.inr freed)⟩

end SianoUserland.TransferOwnership
