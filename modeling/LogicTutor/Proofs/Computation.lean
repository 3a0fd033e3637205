/-! Computations that may fail: what one that went well went through, and when one is sure to go
well. -/
namespace LogicTutor

variable {ε α β : Type}

theorem ok_bind (a : α) (k : α → Except ε β) : Except.ok a >>= k = k a := rfl

/-- What a computation that went well to its end went through first. -/
theorem exists_of_bind_eq_ok {x : Except ε α} {k : α → Except ε β} {r : β}
    (h : x >>= k = .ok r) : ∃ a, x = .ok a ∧ k a = .ok r := by
  cases x with
  | error e => cases h
  | ok a => exact ⟨a, rfl, h⟩

/-- The computation goes well and its result is of the kind `P`. -/
def Yields (x : Except ε α) (P : α → Prop) : Prop := ∃ a, x = .ok a ∧ P a

namespace Yields

instance {x : Except ε α} {P : α → Prop} [DecidablePred P] : Decidable (Yields x P) :=
  match x with
  | .ok a => decidable_of_iff (P a) ⟨fun h => ⟨a, rfl, h⟩, by rintro ⟨_, ⟨⟩, h⟩; exact h⟩
  | .error _ => isFalse (by rintro ⟨_, ⟨⟩, -⟩)

variable {x : Except ε α} {P : α → Prop} {Q : β → Prop}

theorem ok {a : α} (h : P a) : Yields (.ok a : Except ε α) P := ⟨a, rfl, h⟩

theorem bind {k : α → Except ε β} (hx : Yields x P) (hk : ∀ a, P a → Yields (k a) Q) :
    Yields (x >>= k) Q := by
  obtain ⟨a, rfl, ha⟩ := hx
  exact hk a ha

end Yields

end LogicTutor
