import LogicTutor.Proofs.Formula.Meaning
import LogicTutor.Proofs.Law.Rewriting

/-! What every law keeps: the meaning of a formula, the number of operands of its connectives, and
its leaves. -/
namespace LogicTutor

namespace Law

variable {law : Law} {f g x y z w : Formula} {c d : Connective}

namespace Joins

variable {v : String → Bool} {P : Leaf → Prop}

theorem over_iff (h : Joins c x y f) : f.Over P ↔ x.Over P ∧ y.Over P := by
  rcases h with rfl | rfl
  · exact Formula.over_binary
  · exact Formula.over_binary.trans and_comm

theorem wellFormed (h : Joins c x y f) :
    f.WellFormed ↔ c ≠ .not ∧ x.WellFormed ∧ y.WellFormed := by
  rcases h with rfl | rfl
  · exact Iff.rfl
  · exact and_congr_right fun _ => and_comm

theorem holds_or (h : Joins .or x y f) : f.holds v = (x.holds v || y.holds v) := by
  rcases h with rfl | rfl
  · rfl
  · exact Bool.or_comm _ _

theorem holds_and (h : Joins .and x y f) : f.holds v = (x.holds v && y.holds v) := by
  rcases h with rfl | rfl
  · rfl
  · exact Bool.and_comm _ _

end Joins

namespace Rewrites

/-- A law keeps the meaning of the formula it rewrites. -/
theorem holds (h : law.Rewrites f g) (hf : f.Over Leaf.Plain) (v : String → Bool) :
    g.holds v = f.holds v := by
  cases h with
  | doubleNegation => simp [Formula.holds]
  | deMorgan h => rcases dual?_cases h with ⟨rfl, rfl⟩ | ⟨rfl, rfl⟩ <;> simp [Formula.holds]
  | deMorganReverse h =>
    rcases dual?_cases h with ⟨rfl, rfl⟩ | ⟨rfl, rfl⟩ <;> simp [Formula.holds]
  | commutativity h =>
    rcases dual?_cases h with ⟨rfl, rfl⟩ | ⟨rfl, rfl⟩ <;>
      simp [Formula.holds, Bool.or_comm, Bool.and_comm]
  | associativity h =>
    rcases dual?_cases h with ⟨rfl, rfl⟩ | ⟨rfl, rfl⟩ <;>
      simp [Formula.holds, Bool.or_assoc, Bool.and_assoc]
  | idempotence h hxy =>
    rw [Formula.over_binary] at hf
    have hs := Formula.holds_eq_of_same (v := v) hxy hf.1 hf.2
    rcases dual?_cases h with ⟨rfl, rfl⟩ | ⟨rfl, rfl⟩ <;> simp [Formula.holds, hs]
  | absorption h hx hy hf' =>
    rw [hf'.over_iff, hy.over_iff] at hf
    have hs := Formula.holds_eq_of_same (v := v) hx hf.1 hf.2.1
    rcases dual?_cases h with ⟨rfl, rfl⟩ | ⟨rfl, rfl⟩
    · rw [hf'.holds_or, hy.holds_and, hs]
      cases Formula.holds v _ <;> rfl
    · rw [hf'.holds_and, hy.holds_or, hs]
      cases Formula.holds v _ <;> rfl
  | distributivity h hf' =>
    rcases dual?_cases h with ⟨rfl, rfl⟩ | ⟨rfl, rfl⟩
    · rw [hf'.holds_or]
      exact (Bool.or_and_distrib_left ..).symm
    · rw [hf'.holds_and]
      exact (Bool.and_or_distrib_left ..).symm
  | factoring h hx hl hr =>
    rw [Formula.over_binary, hl.over_iff, hr.over_iff] at hf
    have hs := Formula.holds_eq_of_same (v := v) hx hf.1.1 hf.2.1
    rcases dual?_cases h with ⟨rfl, rfl⟩ | ⟨rfl, rfl⟩
    · simp only [Formula.holds, hl.holds_and, hr.holds_and, hs, Bool.and_or_distrib_left]
    · simp only [Formula.holds, hl.holds_or, hr.holds_or, hs, Bool.or_and_distrib_left]
  | implicationElimination => rfl
  | implicationIntroduction => rfl
  | contraposition => simp [Formula.holds, Bool.or_comm]
  | identity h hf' =>
    rcases h with ⟨rfl, rfl⟩ | ⟨rfl, rfl⟩
    · simp [hf'.holds_or, Formula.holds]
    · simp [hf'.holds_and, Formula.holds]
  | domination h hf' =>
    rcases h with ⟨rfl, rfl⟩ | ⟨rfl, rfl⟩
    · simp [hf'.holds_or, Formula.holds]
    · simp [hf'.holds_and, Formula.holds]
  | negationConstant => rfl
  | complement h hxy hf' =>
    rw [hf'.over_iff] at hf
    have hs := Formula.holds_eq_of_same (v := v) hxy hf.1 hf.2
    rcases h with ⟨rfl, rfl⟩ | ⟨rfl, rfl⟩
    · simp [hf'.holds_or, Formula.holds, hs]
    · simp [hf'.holds_and, Formula.holds, hs]
  | impliedByTrue => simp [Formula.holds]
  | impliedByFalse => simp [Formula.holds]
  | impliesTrue => simp [Formula.holds]
  | impliesFalse => simp [Formula.holds]

theorem wellFormed (h : law.Rewrites f g) (hf : f.WellFormed) : g.WellFormed := by
  have dual_ne {c d} (h : dual? c = some d) : d ≠ .not := by
    rcases dual?_cases h with ⟨rfl, rfl⟩ | ⟨rfl, rfl⟩ <;> decide
  cases h with
  | doubleNegation => exact hf.2.2
  | deMorgan h => exact ⟨dual_ne h, ⟨rfl, hf.2.2.1⟩, rfl, hf.2.2.2⟩
  | deMorganReverse h => exact ⟨rfl, dual_ne h, ⟨rfl, hf.2.1⟩, rfl, hf.2.2⟩
  | commutativity h => exact ⟨hf.1, hf.2.2, hf.2.1⟩
  | associativity h => exact ⟨hf.1, hf.2.1.2.1, hf.1, hf.2.1.2.2, hf.2.2⟩
  | idempotence h hxy => exact hf.2.1
  | absorption h hx hy hf' => exact (hf'.wellFormed.mp hf).2.1
  | distributivity h hf' =>
    obtain ⟨hc, hx, -, hy, hz⟩ := hf'.wellFormed.mp hf
    exact ⟨dual_ne h, ⟨hc, hx, hy⟩, hc, hx, hz⟩
  | factoring h hx hl hr =>
    obtain ⟨hd, hx, hy⟩ := hl.wellFormed.mp hf.2.1
    exact ⟨hd, hx, hf.1, hy, (hr.wellFormed.mp hf.2.2).2.2⟩
  | implicationElimination => exact ⟨by decide, ⟨rfl, hf.2.1⟩, hf.2.2⟩
  | implicationIntroduction => exact ⟨by decide, hf.2.1.2, hf.2.2⟩
  | contraposition => exact ⟨by decide, ⟨rfl, hf.2.2⟩, rfl, hf.2.1⟩
  | identity h hf' => exact (hf'.wellFormed.mp hf).2.1
  | domination h hf' => trivial
  | negationConstant => trivial
  | complement h hxy hf' => trivial
  | impliedByTrue => exact hf.2.2
  | impliedByFalse => trivial
  | impliesTrue => trivial
  | impliesFalse => exact ⟨rfl, hf.2.1⟩

/-- A law brings no new leaves but constants. -/
theorem keeps_over {P : Leaf → Prop} (hP : ∀ b, P (.truth b)) (h : law.Rewrites f g)
    (hf : f.Over P) : g.Over P := by
  cases h with
  | absorption h hx hy hf' => exact (hf'.over_iff.mp hf).1
  | distributivity h hf' =>
    obtain ⟨hx, hyz⟩ := hf'.over_iff.mp hf
    simp_all
  | factoring h hx hl hr =>
    simp only [Formula.over_binary, hl.over_iff, hr.over_iff] at hf ⊢
    exact ⟨hf.1.1, hf.1.2, hf.2.2⟩
  | identity h hf' => exact (hf'.over_iff.mp hf).1
  | domination h hf' => exact Formula.over_leaf.mpr (hP _)
  | negationConstant => exact Formula.over_leaf.mpr (hP _)
  | complement h hxy hf' => exact Formula.over_leaf.mpr (hP _)
  | _ => simp_all

end Rewrites

namespace RewritesInside

theorem holds (h : law.RewritesInside f g) (hf : f.Over Leaf.Plain) (v : String → Bool) :
    g.holds v = f.holds v := by
  induction h with
  | whole h => exact h.holds hf v
  | @operand c x y h ih => cases c <;> simp only [Formula.holds, ih hf]
  | @left c x y z h ih =>
    rw [Formula.over_binary] at hf
    cases c <;> simp only [Formula.holds, ih hf.1]
  | @right c x y z h ih =>
    rw [Formula.over_binary] at hf
    cases c <;> simp only [Formula.holds, ih hf.2]

theorem wellFormed (h : law.RewritesInside f g) (hf : f.WellFormed) : g.WellFormed := by
  induction h with
  | whole h => exact h.wellFormed hf
  | operand h ih => exact ⟨hf.1, ih hf.2⟩
  | left h ih => exact ⟨hf.1, ih hf.2.1, hf.2.2⟩
  | right h ih => exact ⟨hf.1, hf.2.1, ih hf.2.2⟩

theorem keeps_over {P : Leaf → Prop} (hP : ∀ b, P (.truth b)) (h : law.RewritesInside f g)
    (hf : f.Over P) : g.Over P := by
  induction h with
  | whole h => exact h.keeps_over hP hf
  | operand h ih => exact ih hf
  | left h ih =>
    rw [Formula.over_binary] at hf ⊢
    exact ⟨ih hf.1, hf.2⟩
  | right h ih =>
    rw [Formula.over_binary] at hf ⊢
    exact ⟨hf.1, ih hf.2⟩

end RewritesInside

theorem kept_wellFormed : Kept Formula.WellFormed := fun _ _ _ h => h.wellFormed

theorem kept_over {P : Leaf → Prop} (hP : ∀ b, P (.truth b)) : Kept (Formula.Over P) :=
  fun _ _ _ h => h.keeps_over hP

theorem kept_proper : Kept Formula.Proper := fun law f g h hf =>
  ⟨h.wellFormed hf.wellFormed, kept_over (fun _ => trivial) law f g h hf.plain⟩

/-- Properly built formulas stay equivalent to the one that rewriting started from. -/
theorem kept_equivalent (k : Formula) : Kept fun f => f.Proper ∧ f.Equivalent k :=
  fun law f g h hf => ⟨kept_proper law f g h hf.1, fun v => (h.holds hf.1.plain v).trans (hf.2 v)⟩

end Law

end LogicTutor
