import LogicTutor.Proofs.Law.Renaming
import LogicTutor.Proofs.Law.Soundness

/-! How many applications of laws lead from one formula to another, and how many make two formulas
the same. -/
namespace LogicTutor.Formula

/-- Laws that are applied `n` times, each where it applies, make `g` of `f`. -/
inductive Reaches : (n : Nat) → (f g : Formula) → Prop where
  | refl (f : Formula) : Reaches 0 f f
  | step {n : Nat} {law : Law} {f g : Formula} {p : Path} (hp : p ∈ law.positions f)
      (h : Reaches n (law.applyAt f p) g) : Reaches (n + 1) f g

/-- Laws that are applied `k` times at most, partly to `f` and partly to `g`, make the two the
same. -/
def Meet (k : Nat) (f g : Formula) : Prop :=
  ∃ (i j : Nat) (f' g' : Formula),
    Reaches i f f' ∧ Reaches j g g' ∧ f'.same g' = true ∧ i + j ≤ k

variable {f g k : Formula} {i j n : Nat} {names : List String}

namespace Reaches

theorem eq_of_zero (h : Reaches 0 f g) : g = f := by
  cases h
  rfl

theorem trans (h : Reaches i f g) (h' : Reaches j g k) : Reaches (i + j) f k := by
  induction h with
  | refl => rwa [Nat.zero_add]
  | step hp _ ih =>
    rw [Nat.succ_add]
    exact .step hp (ih h')

theorem keeps {P : Formula → Prop} (hP : Law.Kept P) (h : Reaches i f g) (hf : P f) : P g := by
  induction h with
  | refl => exact hf
  | step hp _ ih => exact ih (hP _ _ _ (Law.rewritesInside_of_mem_positions hp) hf)

/-- What is reached over the atoms of another reading is reached over the formula's own. -/
theorem of_renumbered (h : Reaches i (f.renumbered n names) g) :
    ∃ g', Reaches i f g' ∧ g = g'.renumbered n names := by
  generalize hf : f.renumbered n names = x at h
  induction h generalizing f with
  | refl => exact ⟨f, .refl f, hf.symm⟩
  | @step i law x g p hp _ ih =>
    subst hf
    rw [Law.positions_renumbered] at hp
    obtain ⟨g', hg, rfl⟩ := ih (Law.applyAt_renumbered law f p).symm
    exact ⟨g', .step hp hg, rfl⟩

end Reaches

theorem Meet.zero (h : Meet 0 f g) : f.same g = true := by
  obtain ⟨i, j, f', g', hf, hg, hs, hk⟩ := h
  obtain ⟨rfl, rfl⟩ : i = 0 ∧ j = 0 := by omega
  rwa [hf.eq_of_zero, hg.eq_of_zero] at hs

end LogicTutor.Formula
