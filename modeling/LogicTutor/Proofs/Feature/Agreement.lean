import Mathlib
import LogicTutor.Proofs.Feature.Usefulness

/-! The two descriptions of a formula that a predictor is given agree: what is counted and found in
the tree tells which of the laws that look at connectives alone apply inside it, and the counts add
up. -/
namespace LogicTutor

namespace Formula

variable {f : Formula}

theorem nodeCount_eq (f : Formula) : f.nodeCount = f.leafCount + f.connectiveCount .not +
    f.connectiveCount .and + f.connectiveCount .or + f.connectiveCount .imp := by
  induction f with
  | blank => rfl
  | leaf l => rfl
  | unary c x ih =>
    cases c <;> simp [nodeCount, leafCount, connectiveCount, ih] <;> omega
  | binary c x y ihx ihy =>
    cases c <;> simp [nodeCount, leafCount, connectiveCount, ihx, ihy] <;> omega

/-- Each connective with two operands joins what would else be two trees, so there is one leaf more
than there are of them. -/
theorem WellFormed.leafCount_eq (hf : f.WellFormed) : f.leafCount = 1 + f.connectiveCount .and +
    f.connectiveCount .or + f.connectiveCount .imp := by
  induction f with
  | blank => exact hf.elim
  | leaf l => rfl
  | unary c x ih =>
    obtain ⟨rfl, hx⟩ := hf
    simp [leafCount, connectiveCount, ih hx]
  | binary c x y ihx ihy =>
    obtain ⟨hc, hx, hy⟩ := hf
    cases c with
    | not => exact absurd rfl hc
    | and =>
      simp [leafCount, connectiveCount, ihx hx, ihy hy]
      omega
    | or =>
      simp [leafCount, connectiveCount, ihx hx, ihy hy]
      omega
    | imp =>
      simp [leafCount, connectiveCount, ihx hx, ihy hy]
      omega

end Formula

namespace Law

variable {law : Law} {f : Formula}

/-- What is found at a connective exactly where the law applies to it, and else in its operands, is
found exactly where the law applies inside. -/
theorem appliesInside_eq_of_found {found : Formula → Bool} (hleaf : ∀ l, found (.leaf l) = false)
    (hneg : ∀ x, found (.neg x) = (law.applies (.neg x) || found x))
    (hbinary : ∀ c x y, c ≠ .not →
      found (.binary c x y) = (law.applies (.binary c x y) || found x || found y))
    (hf : f.WellFormed) : law.appliesInside f = found f := by
  induction f with
  | blank => exact hf.elim
  | leaf l =>
    rw [hleaf]
    rfl
  | unary c x ih =>
    obtain ⟨rfl, hx⟩ := hf
    rw [hneg, appliesInside, ih hx]
  | binary c x y ihx ihy =>
    obtain ⟨hc, hx, hy⟩ := hf
    rw [hbinary c x y hc, appliesInside, ihx hx, ihy hy]

theorem appliesInside_doubleNegation (hf : f.WellFormed) :
    doubleNegation.appliesInside f = f.hasDoubleNegation := by
  apply appliesInside_eq_of_found _ _ _ hf
  · intro l
    rfl
  · intro x
    cases x with
    | unary c y => cases c <;> simp [applies, Formula.hasDoubleNegation]
    | _ => simp [applies, Formula.hasDoubleNegation]
  · intro c x y _
    simp [applies, Formula.hasDoubleNegation]

theorem appliesInside_deMorgan (hf : f.WellFormed) :
    deMorgan.appliesInside f = f.hasNegatedLattice := by
  apply appliesInside_eq_of_found _ _ _ hf
  · intro l
    rfl
  · intro x
    cases x <;> simp [applies, Formula.hasNegatedLattice]
  · intro c x y _
    simp [applies, Formula.hasNegatedLattice]

/-- A law that applies to every connective of some kinds with two operands, and to nothing else,
applies inside a formula exactly if one of these connectives is there. -/
theorem appliesInside_eq_decide_count {n : Formula → Nat} (hleaf : ∀ l, n (.leaf l) = 0)
    (hneg : ∀ x, law.applies (.neg x) = false ∧ n (.neg x) = n x)
    (hbinary : ∀ c x y, c ≠ .not →
      n (.binary c x y) = (if law.applies (.binary c x y) then 1 else 0) + n x + n y)
    (hf : f.WellFormed) : law.appliesInside f = decide (0 < n f) := by
  apply appliesInside_eq_of_found _ _ _ hf
  · intro l
    simp [hleaf]
  · intro x
    simp [hneg]
  · intro c x y hc
    rw [hbinary c x y hc]
    cases law.applies (.binary c x y) <;> simp

/-- The laws that apply to every implication. -/
theorem appliesInside_of_imp (hlaw : law = .implicationElimination ∨ law = .contraposition)
    (hf : f.WellFormed) : law.appliesInside f = decide (0 < f.connectiveCount .imp) := by
  apply appliesInside_eq_decide_count _ _ _ hf
  · intro l
    rfl
  · intro x
    rcases hlaw with rfl | rfl <;> simp [applies, Formula.connectiveCount]
  · intro c x y _
    rcases hlaw with rfl | rfl <;> cases c <;> simp [applies, Formula.connectiveCount]

/-- The laws that apply to every conjunction and every disjunction. -/
theorem appliesInside_of_lattice (hlaw : law = .commutativity ∨ law = .deMorganReverse)
    (hf : f.WellFormed) :
    law.appliesInside f = decide (0 < f.connectiveCount .and + f.connectiveCount .or) := by
  apply appliesInside_eq_decide_count
    (n := fun f => f.connectiveCount .and + f.connectiveCount .or) _ _ _ hf
  · intro l
    rfl
  · intro x
    rcases hlaw with rfl | rfl <;> simp [applies, Formula.connectiveCount]
  · intro c x y hc
    rcases hlaw with rfl | rfl <;> cases c <;>
      simp [applies, isLattice, Formula.connectiveCount] at hc ⊢ <;> omega

end Law

namespace Feature

variable {f : Formula}

/-- The applicability feature that belongs to the law. -/
def applicabilityOf (p : Proposition) (law : Law) : Option Rat :=
  (lawOrder.zip (applicability p)).lookup law

theorem applicabilityOf_eq (p : Proposition) (law : Law) :
    applicabilityOf p law = some (flag (law.appliesInside p.formula)) := by
  cases law <;> rfl

theorem flag_eq_one_iff {b : Bool} : flag b = 1 ↔ b = true := by
  cases b <;> simp [flag]

theorem applicabilityOf_eq_one_iff {law : Law} :
    applicabilityOf (.compound f) law = some 1 ↔ law.appliesInside f = true := by
  rw [applicabilityOf_eq, Option.some.injEq, flag_eq_one_iff]
  rfl

/-- The row of a well-formed formula begins with its depth, the numbers of its nodes, of its leaves
and of each connective, and whether there is a double negation and a negated conjunction or
disjunction. These tell which of the laws that look at connectives alone apply inside the formula,
and the numbers add up. -/
theorem shape_agrees_with_applicability (hf : f.WellFormed) (v : Valuation) :
    ∃ (depth nodes leaves nots ands ors imps doubled negated : Rat) (rest : List Rat)
      (w : Valuation),
      row (.compound f) v = .ok (depth :: nodes :: leaves :: nots :: ands :: ors :: imps ::
        doubled :: negated :: rest, w) ∧
      (doubled = 1 ↔ applicabilityOf (.compound f) .doubleNegation = some 1) ∧
      (negated = 1 ↔ applicabilityOf (.compound f) .deMorgan = some 1) ∧
      (0 < imps ↔ applicabilityOf (.compound f) .implicationElimination = some 1) ∧
      (0 < imps ↔ applicabilityOf (.compound f) .contraposition = some 1) ∧
      (0 < ands + ors ↔ applicabilityOf (.compound f) .commutativity = some 1) ∧
      (0 < ands + ors ↔ applicabilityOf (.compound f) .deMorganReverse = some 1) ∧
      nodes = leaves + nots + ands + ors + imps ∧ leaves = 1 + ands + ors + imps := by
  obtain ⟨⟨r, w⟩, hrow, hr, -⟩ := row_yields hf v
  subst hr
  refine ⟨_, _, _, _, _, _, _, _, _, _, w, hrow, ?_, ?_, ?_, ?_, ?_, ?_, ?_, ?_⟩
  · rw [applicabilityOf_eq_one_iff, Law.appliesInside_doubleNegation hf, flag_eq_one_iff]
  · rw [applicabilityOf_eq_one_iff, Law.appliesInside_deMorgan hf, flag_eq_one_iff]
  · rw [applicabilityOf_eq_one_iff, Law.appliesInside_of_imp (.inl rfl) hf]
    simp [count]
  · rw [applicabilityOf_eq_one_iff, Law.appliesInside_of_imp (.inr rfl) hf]
    simp [count]
  · rw [applicabilityOf_eq_one_iff, Law.appliesInside_of_lattice (.inl rfl) hf]
    simp only [count, decide_eq_true_eq]
    exact_mod_cast Iff.rfl
  · rw [applicabilityOf_eq_one_iff, Law.appliesInside_of_lattice (.inr rfl) hf]
    simp only [count, decide_eq_true_eq]
    exact_mod_cast Iff.rfl
  · simp only [count, f.nodeCount_eq]
    push_cast
    rfl
  · simp only [count, hf.leafCount_eq]
    push_cast
    rfl

/-- None of the patterns stands at the root here, and each is found where it is nested. -/
theorem shape_agrees_with_applicability_nested :
    let p : Formula := .var ⟨0, 0, "p"⟩
    let q : Formula := .var ⟨0, 1, "q"⟩
    let f : Formula := .neg (.imp (.neg (.neg p)) (.neg (q &&& .const true)))
    f.WellFormed ∧ applicabilityOf (.compound f) .doubleNegation = some 1 ∧
      applicabilityOf (.compound f) .deMorgan = some 1 ∧
      applicabilityOf (.compound f) .contraposition = some 1 ∧
      applicabilityOf (.compound f) .commutativity = some 1 ∧
      ∃ (depth nodes leaves nots ands ors imps : Rat) (rest : List Rat) (w : Valuation),
        row (.compound f) .initial = .ok (depth :: nodes :: leaves :: nots :: ands :: ors :: imps ::
          1 :: 1 :: rest, w) ∧ 0 < imps ∧ 0 < ands + ors ∧
        nodes = leaves + nots + ands + ors + imps ∧ leaves = 1 + ands + ors + imps := by
  intro p q f
  have hf : f.WellFormed := by decide
  have happlies (law : Law) (h : law.appliesInside f = true) :
      applicabilityOf (.compound f) law = some 1 := applicabilityOf_eq_one_iff.mpr h
  have hdoubled := happlies .doubleNegation (by decide)
  have hnegated := happlies .deMorgan (by decide)
  have himps := happlies .contraposition (by decide)
  have hlattice := happlies .commutativity (by decide)
  obtain ⟨depth, nodes, leaves, nots, ands, ors, imps, doubled, negated, rest, w, hrow, hd, hn, -,
    hi, hl, -, hnodes, hleaves⟩ := shape_agrees_with_applicability hf .initial
  rw [hd.mpr hdoubled, hn.mpr hnegated] at hrow
  exact ⟨hf, hdoubled, hnegated, himps, hlattice, depth, nodes, leaves, nots, ands, ors, imps, rest,
    w, hrow, hi.mpr himps, hl.mpr hlattice, hnodes, hleaves⟩

end Feature

end LogicTutor
