/-! Machines that answer every request, and simulation between two of them. -/
namespace SianoUserland.Simulation

/-- The answers to a sequence of requests and the state it leaves. -/
def exec (perform : σ → α → ρ × σ) : σ → List α → List ρ × σ
  | state, [] => ([], state)
  | state, request :: rest =>
    let (reply, after) := perform state request
    let (replies, last) := exec perform after rest
    (reply :: replies, last)

variable {perform : σ → α → ρ × σ} {perform' : τ → α → ρ × τ}

/-- A property that every request keeps is kept by every sequence of requests. -/
theorem exec_keeps (Inv : σ → Prop)
    (keeps : ∀ state request, Inv state → Inv (perform state request).2)
    (start : Inv state) (requests : List α) : Inv (exec perform state requests).2 := by
  induction requests generalizing state with
  | nil => exact start
  | cons request rest ih => exact ih (keeps state request start)

/-- Machines whose related states answer alike, and stay related, answer whole
sequences alike. -/
theorem exec_simulates (Rel : σ → τ → Prop)
    (simulates : ∀ state state' request, Rel state state' →
      (perform state request).1 = (perform' state' request).1 ∧
        Rel (perform state request).2 (perform' state' request).2)
    (start : Rel state state') (requests : List α) :
    (exec perform state requests).1 = (exec perform' state' requests).1 ∧
      Rel (exec perform state requests).2 (exec perform' state' requests).2 := by
  induction requests generalizing state state' with
  | nil => exact ⟨rfl, start⟩
  | cons request rest ih =>
    obtain ⟨same, related⟩ := simulates state state' request start
    obtain ⟨sameRest, last⟩ := ih related
    exact ⟨by simp only [exec, same, sameRest], last⟩

end SianoUserland.Simulation
