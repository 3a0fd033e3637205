import LogicTutor.Feature.Row
import LogicTutor.Proofs.Formula.Meaning
import LogicTutor.Proofs.Law.Rewriting
import LogicTutor.Prover.Advisor

/-! Simplification comes to an end. Every simplifying law makes a formula lighter wherever it
applies, and what none of them applies to is a constant or holds neither constants nor
implications. -/
namespace LogicTutor

namespace Formula

variable {x y : Formula} {c : Connective}

/-- The number of nodes, with two more for each implication. Implications weigh more because
eliminating one of them adds a node. -/
def weight (f : Formula) : Nat := f.nodeCount + 2 * f.connectiveCount .imp

@[simp] theorem weight_leaf {l : Leaf} : (Formula.leaf l).weight = 1 := rfl

@[simp] theorem weight_unary :
    (Formula.unary c x).weight = 1 + (if c = .imp then 2 else 0) + x.weight := by
  simp only [weight, nodeCount, connectiveCount]
  split <;> omega

@[simp] theorem weight_binary : (Formula.binary c x y).weight =
    1 + (if c = .imp then 2 else 0) + x.weight + y.weight := by
  simp only [weight, nodeCount, connectiveCount]
  split <;> omega

end Formula

namespace Law

variable {law : Law} {f g x y : Formula} {c : Connective}

theorem Joins.weight (h : Joins c x y f) : f.weight = (Formula.binary c x y).weight := by
  rcases h with rfl | rfl
  · rfl
  · rw [Formula.weight_binary, Formula.weight_binary]
    omega

/-- A simplifying law takes away more than it adds. -/
theorem Rewrites.weight_lt (h : law.Rewrites f g) (hlaw : law ∈ Move.simplifying) :
    g.weight < f.weight := by
  cases h with
  | doubleNegation =>
    simp only [Formula.weight_unary]
    omega
  | idempotence h hxy =>
    rw [Formula.weight_binary]
    omega
  | absorption h hx hy hf =>
    rw [hf.weight, Formula.weight_binary]
    omega
  | factoring h hx hf hg =>
    -- the factor is left once where it stood twice
    simp only [Formula.weight_binary, hf.weight, hg.weight]
    omega
  | implicationElimination =>
    -- the negation that comes in weighs less than what the implication weighs beyond a disjunction
    simp only [Formula.weight_binary, Formula.weight_unary, reduceCtorEq, ↓reduceIte]
    omega
  | identity h hf =>
    rw [hf.weight, Formula.weight_binary]
    omega
  | domination h hf =>
    rw [hf.weight, Formula.weight_binary]
    omega
  | negationConstant =>
    rw [Formula.weight_unary, Formula.weight_leaf, Formula.weight_leaf]
    omega
  | complement h hxy hf =>
    rw [hf.weight, Formula.weight_binary, Formula.weight_unary, Formula.weight_leaf]
    omega
  | impliedByTrue =>
    rw [Formula.weight_binary]
    omega
  | impliedByFalse =>
    rw [Formula.weight_binary, Formula.weight_leaf, Formula.weight_leaf]
    omega
  | impliesTrue =>
    rw [Formula.weight_binary]
    omega
  | impliesFalse =>
    simp only [Formula.weight_binary, Formula.weight_unary, reduceCtorEq, ↓reduceIte]
    omega
  | _ => simp [Move.simplifying] at hlaw

theorem RewritesInside.weight_lt (h : law.RewritesInside f g) (hlaw : law ∈ Move.simplifying) :
    g.weight < f.weight := by
  induction h with
  | whole h => exact h.weight_lt hlaw
  | operand h ih =>
    simp only [Formula.weight_unary]
    omega
  | left h ih =>
    simp only [Formula.weight_binary]
    omega
  | right h ih =>
    simp only [Formula.weight_binary]
    omega

/-- A simplifying law makes `g` of `f` at a part of `f` to which it applies. -/
def Simplifies (f g : Formula) : Prop :=
  ∃ law ∈ Move.simplifying, ∃ p x, f.part? p = some x ∧ law.applies x = true ∧
    g = law.applyAt f p

theorem Simplifies.weight_lt (h : Simplifies f g) : g.weight < f.weight := by
  obtain ⟨law, hlaw, p, x, hx, ha, rfl⟩ := h
  have hp : p ∈ law.positions f := mem_positions_iff.mpr ⟨x, hx, ha⟩
  exact (rewritesInside_of_mem_positions hp).weight_lt hlaw

/-- Along a run of simplifications every step costs weight. -/
theorem add_weight_le_of_simplifies {u : Nat → Formula} {n : Nat}
    (h : ∀ k < n, Simplifies (u k) (u (k + 1))) : n + (u n).weight ≤ (u 0).weight := by
  induction n with
  | zero => omega
  | succ n ih =>
    have hrun := ih fun k hk => h k (by omega)
    have hlast := (h n (by omega)).weight_lt
    omega

theorem exists_not_simplifies (u : Nat → Formula) :
    ∃ n ≤ (u 0).weight, ¬ Simplifies (u n) (u (n + 1)) := by
  apply Classical.byContradiction
  intro hnone
  have hall : ∀ k < (u 0).weight + 1, Simplifies (u k) (u (k + 1)) := by
    intro k hk
    apply Classical.byContradiction
    intro hstop
    exact hnone ⟨k, by omega, hstop⟩
  have hspent := add_weight_le_of_simplifies hall
  omega

theorem appliesInside_of_applies (h : law.applies f = true) : law.appliesInside f = true :=
  appliesInside_iff.mpr (List.ne_nil_of_mem (mem_positions_nil.mpr h))

/-- No simplifying law applies to the formula or to a part of it. -/
def Simplified (f : Formula) : Prop := ∀ law ∈ Move.simplifying, law.appliesInside f = false

namespace Simplified

theorem applies_eq_false (h : Simplified f) (law : Law) (hlaw : law ∈ Move.simplifying) :
    law.applies f = false := by
  refine Bool.eq_false_iff.mpr fun ha => ?_
  have hinside := appliesInside_of_applies ha
  rw [h law hlaw] at hinside
  cases hinside

theorem operand (h : Simplified (.unary c x)) : Simplified x := by
  intro law hlaw
  have hf := h law hlaw
  rw [appliesInside, Bool.or_eq_false_iff] at hf
  exact hf.2

theorem left (h : Simplified (.binary c x y)) : Simplified x := by
  intro law hlaw
  have hf := h law hlaw
  rw [appliesInside, Bool.or_eq_false_iff, Bool.or_eq_false_iff] at hf
  exact hf.1.2

theorem right (h : Simplified (.binary c x y)) : Simplified y := by
  intro law hlaw
  have hf := h law hlaw
  rw [appliesInside, Bool.or_eq_false_iff] at hf
  exact hf.2

theorem ne_imp (h : Simplified (.binary c x y)) : c ≠ .imp := by
  rintro rfl
  have hf := h.applies_eq_false .implicationElimination (by decide)
  cases hf

/-- A constant next to a conjunction or disjunction either goes away or takes over. -/
theorem operands_ne_const (h : Simplified (.binary c x y)) (hc : c ≠ .not) (b : Bool) :
    x ≠ .const b ∧ y ≠ .const b := by
  have hidentity := h.applies_eq_false .identity (by decide)
  have hdomination := h.applies_eq_false .domination (by decide)
  cases c with
  | not => exact absurd rfl hc
  | imp => exact absurd rfl h.ne_imp
  | or =>
    simp only [applies, Bool.or_eq_false_iff] at hidentity hdomination
    constructor <;> rintro rfl <;> cases b <;>
      simp_all [Formula.isTrue, Formula.isFalse]
  | and =>
    simp only [applies, Bool.or_eq_false_iff] at hidentity hdomination
    constructor <;> rintro rfl <;> cases b <;>
      simp_all [Formula.isTrue, Formula.isFalse]

/-- What is left of a well-formed formula when nothing more can be simplified. -/
theorem const_or_free (h : Simplified f) (hf : f.WellFormed) :
    (∃ b, f = .const b) ∨
      (f.Over fun l => l.isConstant = false) ∧ f.connectiveCount .imp = 0 := by
  induction f with
  | blank => exact hf.elim
  | leaf l =>
    cases l with
    | atom a => exact .inr ⟨Formula.over_leaf.mpr rfl, rfl⟩
    | truth b => exact .inl ⟨b, rfl⟩
  | unary c x ih =>
    obtain ⟨rfl, hx⟩ := hf
    rcases ih h.operand hx with ⟨b, rfl⟩ | ⟨hover, himp⟩
    · have hnone := h.applies_eq_false .negationConstant (by decide)
      cases hnone
    · exact .inr ⟨hover, by simp [Formula.connectiveCount, himp]⟩
  | binary c x y ihx ihy =>
    obtain ⟨hc, hx, hy⟩ := hf
    rcases ihx h.left hx with ⟨b, hb⟩ | ⟨hoverx, himpx⟩
    · exact absurd hb (h.operands_ne_const hc b).1
    · rcases ihy h.right hy with ⟨b, hb⟩ | ⟨hovery, himpy⟩
      · exact absurd hb (h.operands_ne_const hc b).2
      · refine .inr ⟨Formula.over_binary.mpr ⟨hoverx, hovery⟩, ?_⟩
        simp [Formula.connectiveCount, h.ne_imp, himpx, himpy]

end Simplified

/-- A simplifying law lowers the weight at every part that it applies to, so in any sequence of
formulas one of the first steps, no more of them than the first formula weighs, is no
simplification. Where simplification has come to its end a well-formed formula is a constant, or
there are no constants and no implications in it. -/
theorem simplification_ends_in_normal_form :
    (∀ law ∈ Move.simplifying, ∀ f p x, f.part? p = some x → law.applies x = true →
      (law.applyAt f p).nodeCount + 2 * (law.applyAt f p).connectiveCount .imp <
        f.nodeCount + 2 * f.connectiveCount .imp) ∧
    (∀ u : Nat → Formula, ∃ n ≤ (u 0).weight, ¬ Simplifies (u n) (u (n + 1))) ∧
    ∀ f : Formula, f.WellFormed → (∀ law ∈ Move.simplifying, law.appliesInside f = false) →
      f = .const true ∨ f = .const false ∨
        (∀ l ∈ f.leaves, l.isConstant = false) ∧ f.connectiveCount .imp = 0 := by
  refine ⟨fun law hlaw f p x hx ha => ?_, exists_not_simplifies, fun f hf h => ?_⟩
  · exact Simplifies.weight_lt ⟨law, hlaw, p, x, hx, ha, rfl⟩
  · rcases Simplified.const_or_free h hf with ⟨b, rfl⟩ | hfree
    · cases b with
      | true => exact .inl rfl
      | false => exact .inr (.inl rfl)
    · exact .inr (.inr hfree)

/-- Eliminating an implication adds a node and still takes weight away. -/
theorem simplification_ends_in_normal_form_implication :
    let p : Formula := .var ⟨0, 0, "p"⟩
    let q : Formula := .var ⟨0, 1, "q"⟩
    let f : Formula := .imp p q &&& .imp p q
    let g : Formula := (.neg p ||| q) &&& .imp p q
    let k : Formula := .neg p ||| q
    implicationElimination ∈ Move.simplifying ∧ f.part? [.left] = some (.imp p q) ∧
      implicationElimination.applies (.imp p q) = true ∧
      implicationElimination.applyAt f [.left] = g ∧ f.nodeCount < g.nodeCount ∧
      g.weight < f.weight ∧ k.WellFormed ∧
      (∀ law ∈ Move.simplifying, law.appliesInside k = false) ∧
      (∀ l ∈ k.leaves, l.isConstant = false) ∧ k.connectiveCount .imp = 0 := by
  intro p q f g k
  have hlaw : implicationElimination ∈ Move.simplifying := by decide
  have hpart : f.part? [.left] = some (.imp p q) := by decide
  have happlies : implicationElimination.applies (.imp p q) = true := by decide
  have hg : implicationElimination.applyAt f [.left] = g := by decide
  have hk : k.WellFormed := by decide
  have hdone : ∀ law ∈ Move.simplifying, law.appliesInside k = false := by decide
  obtain ⟨hlighter, -, hnormal⟩ := simplification_ends_in_normal_form
  refine ⟨hlaw, hpart, happlies, hg, by decide, ?_, hk, hdone, ?_⟩
  · exact hg ▸ hlighter implicationElimination hlaw f [.left] _ hpart happlies
  · have htrue : k ≠ .const true := by decide
    have hfalse : k ≠ .const false := by decide
    exact ((hnormal k hk hdone).resolve_left htrue).resolve_left hfalse

end Law

end LogicTutor
