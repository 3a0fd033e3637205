import Mathlib
import LogicTutor.Proofs.Feature.Usefulness
import LogicTutor.Proofs.Formula.Glossary
import LogicTutor.Proofs.Prover.Soundness

/-! The features of the formula that must be absurd. Its two sides come from two texts, and the
analysis reaches the atoms of the first side only if the second does not use their names: the
others count with the values they happen to hold. -/
namespace LogicTutor

/-- The values of names, of which some are those that their own atoms hold. -/
def Valuation.holding (v : Valuation) (own : String → Atom) (fixed : List String)
    (u : String → Bool) : String → Bool :=
  fun n => if n ∈ fixed then v.get (own n) else u n

namespace Formula

variable {f g : Formula} {m n : Nat} {names names' : List String} {l l' : Leaf} {a : Atom}
  {v w : Valuation} {u u' : String → Bool} {loose : List Atom}

theorem holds_pin (h : ∀ a, .atom a ∈ f.leaves →
    u' a.name = if a ∈ loose then u a.name else v.get a) :
    (f.pin loose v).holds u = f.holds u' := by
  induction f with
  | blank => rfl
  | leaf l =>
    cases l with
    | atom a =>
      have ha := h a (by simp [leaves])
      by_cases hl : a ∈ loose
      · simp only [pin, hl, ↓reduceIte, holds] at ha ⊢
        exact ha.symm
      · simp only [pin, hl, ↓reduceIte, holds] at ha ⊢
        exact ha.symm
    | truth b => rfl
  | unary c x ih => cases c <;> simp only [pin, holds, ih h]
  | binary c x y ihx ihy =>
    have hx := ihx fun a ha => h a (List.mem_append_left _ ha)
    have hy := ihy fun a ha => h a (List.mem_append_right _ ha)
    cases c <;> simp only [pin, holds, hx, hy]

namespace ReadIn

theorem plain (hf : f.ReadIn n names) (hl : l ∈ f.leaves) : l.Plain := hf.legible.proper.plain l hl

/-- In one reading a leaf is known by its text. -/
theorem leaf_eq_of_text_eq (hf : f.ReadIn n names) (hl : l ∈ f.leaves) (hl' : l' ∈ f.leaves)
    (h : l.text = l'.text) : l = l' := by
  cases l with
  | truth b => exact (Leaf.eq_of_text_eq_truth (hf.plain hl') h.symm).symm
  | atom a =>
    cases l' with
    | truth b => exact Leaf.eq_of_text_eq_truth (hf.plain hl) h
    | atom b => exact congrArg Leaf.atom (hf.atom_eq hl hl' h)

/-- The leaf that is found for the text of an atom is the atom. -/
theorem find?_leaves (hf : f.ReadIn n names) (ha : .atom a ∈ f.leaves) :
    f.leaves.reverse.find? (fun l => l.text = a.name) = some (.atom a) := by
  obtain ⟨l, hl⟩ := Usefulness.exists_mem_leafTable ha
  have hmem : l ∈ f.leaves := Usefulness.mem_leaves_of_mem_leafTable hl
  have htext : l.text = a.name := Usefulness.text_of_mem_leafTable hl
  rw [← hf.leaf_eq_of_text_eq hmem ha htext]
  exact Usefulness.mem_leafTable.mp hl

/-- In another reading nothing is found for the text of an atom whose name is not used there. -/
theorem find?_leaves_eq_none (hf : f.ReadIn m names) (ha : .atom a ∈ f.leaves)
    (hn : a.name ∉ g.names) :
    g.leaves.reverse.find? (fun l => l.text = a.name) = none := by
  refine List.find?_eq_none.mpr fun l hl => ?_
  rw [List.mem_reverse] at hl
  rw [decide_eq_true_eq]
  intro ht
  cases l with
  | atom b => exact hn (mem_names.mpr ⟨b, hl, ht⟩)
  | truth b => cases Leaf.eq_of_text_eq_truth (hf.plain ha) ht.symm

end ReadIn

section

open Usefulness (varied)

variable (hmn : m ≠ n) (hf : f.ReadIn m names) (hg : g.ReadIn n names')
include hmn hf hg

/-- The atoms of the first side are given values where the second does not use their names. -/
theorem mem_varied_left (ha : .atom a ∈ f.leaves) :
    a ∈ varied (.binary .and f (.neg g)) ↔ a.name ∉ g.names := by
  rw [Usefulness.mem_varied, leaves, leaves, List.reverse_append, List.find?_append]
  by_cases hn : a.name ∈ g.names
  · obtain ⟨b, hb, hname⟩ := mem_names.mp hn
    have hba : b ≠ a := by
      intro h
      have hreading := congrArg Atom.reading (hf.numbered ha)
      rw [← h, hg.numbered hb] at hreading
      exact hmn hreading.symm
    rw [← hname, hg.find?_leaves hb]
    simp [hba, hname, hn]
  · rw [hf.find?_leaves_eq_none ha hn, hf.find?_leaves ha]
    simp [hn]

omit hmn hf in
theorem mem_varied_right (ha : .atom a ∈ g.leaves) : a ∈ varied (.binary .and f (.neg g)) := by
  rw [Usefulness.mem_varied, leaves, leaves, List.reverse_append, List.find?_append,
    hg.find?_leaves ha]
  rfl

/-- What the analysis takes the formula to mean: on the first side the names of the second have
the values that the atoms hold. -/
theorem holds_pin_assumption (v : Valuation) (u : String → Bool) :
    ((Formula.binary .and f (.neg g)).pin (varied (.binary .and f (.neg g))) v).holds u =
      (f.holds (v.holding (.numbered m names) g.names u) && !g.holds u) := by
  have hleft : (f.pin (varied (.binary .and f (.neg g))) v).holds u =
      f.holds (v.holding (.numbered m names) g.names u) := by
    refine holds_pin fun a ha => ?_
    simp only [mem_varied_left hmn hf hg ha, Valuation.holding, ite_not]
    rw [← hf.numbered ha]
  have hright : g.pin (varied (.binary .and f (.neg g))) v = g :=
    pin_eq_self (fun a ha => mem_varied_right hg ha) v
  simp only [pin, holds, hleft, hright]

theorem pin_assumption_equivalent
    (h : ∀ x ∈ g.names, f.DependsOn x → v.get (.numbered m names x) = w.get (.numbered m names x)) :
    ((Formula.binary .and f (.neg g)).pin (varied (.binary .and f (.neg g))) v).Equivalent
      ((Formula.binary .and f (.neg g)).pin (varied (.binary .and f (.neg g))) w) := by
  intro u
  rw [holds_pin_assumption hmn hf hg, holds_pin_assumption hmn hf hg]
  congr 1
  refine holds_congr_of_dependsOn fun x hx => ?_
  unfold Valuation.holding
  split
  next hxg => exact h x hxg hx
  next => rfl

theorem contradiction_exactly (v : Valuation) :
    (Usefulness.exactly (.binary .and f (.neg g)) v).contradiction = true ↔
      ∀ u, f.holds (v.holding (.numbered m names) g.names u) = true → g.holds u = true := by
  simp only [Usefulness.exactly, decide_eq_true_eq, holds_pin_assumption hmn hf hg]
  refine forall_congr' fun u => ?_
  cases f.holds (v.holding (.numbered m names) g.names u) <;> cases g.holds u <;> decide

end

end Formula

namespace Feature

/-- The feature for contradictions, the last of the usefulness, says whether `P`. -/
def TellsContradiction (row : List Rat) (P : Prop) : Prop :=
  ∃ b : Bool, row[16]? = some (flag b) ∧ (b = true ↔ P)

/-- The features of the formula that must be absurd. Whether it counts as a contradiction is
decided with the names that both sides use held, on the first, at the values of its atoms. So the
features are the same for all values that agree on the shared names on which the first side
depends, and where it depends on none of them they tell contradictions rightly. -/
theorem absurdity_features {f g : Formula} {m n : Nat} {s t : String} (hmn : m ≠ n)
    (hf : Formula.parse m s = .ok f) (hg : Formula.parse n t = .ok g) :
    ∃ a, Prover.assumption f g = .ok a ∧ ∀ goal : String,
      (∀ v, Yields (singleRow (.compound a) goal v) fun r =>
        TellsContradiction r.1
          (∀ u, f.holds (v.holding (.numbered m f.names) g.names u) = true → g.holds u = true)) ∧
      (∀ v w : Valuation, (∀ x ∈ g.names, f.DependsOn x →
          v.get (.numbered m f.names x) = w.get (.numbered m f.names x)) →
        ∃ row, Yields (singleRow (.compound a) goal v) (fun r => r.1 = row) ∧
          Yields (singleRow (.compound a) goal w) (fun r => r.1 = row)) ∧
      ((∀ x ∈ g.names, ¬ f.DependsOn x) →
        ∃ row, (∀ v, Yields (singleRow (.compound a) goal v) fun r => r.1 = row) ∧
          TellsContradiction row (∀ u, a.holds u = false)) := by
  have hf := Formula.readIn_of_parse hf
  have hg := Formula.readIn_of_parse hg
  have hwf : (Formula.binary .and f (.neg g)).WellFormed :=
    ⟨by decide, hf.legible.wellFormed, rfl, hg.legible.wellFormed⟩
  refine ⟨_, Prover.assumption_eq hf.legible.wellFormed hg.legible.wellFormed, fun goal => ?_⟩
  have hrow := singleRow_yields hwf goal
  have hsame {v w : Valuation}
      (h : ∀ x ∈ g.names, f.DependsOn x →
        v.get (.numbered m f.names x) = w.get (.numbered m f.names x)) :
      exactRow (.binary .and f (.neg g)) goal v = exactRow (.binary .and f (.neg g)) goal w := by
    have hpin := Formula.pin_assumption_equivalent hmn hf hg h
    rw [exactRow, exactRow, Usefulness.exactly_congr hpin]
  refine ⟨fun v => ?_, fun v w h => ⟨_, hrow v, hsame h ▸ hrow w⟩, fun h => ?_⟩
  · obtain ⟨r, hr, he⟩ := hrow v
    exact ⟨r, hr, _, he ▸ rfl, Formula.contradiction_exactly hmn hf hg v⟩
  · refine ⟨exactRow (.binary .and f (.neg g)) goal .initial, fun v => ?_, _, rfl, ?_⟩
    · have hv : ∀ x ∈ g.names, f.DependsOn x → v.get (.numbered m f.names x) =
          Valuation.initial.get (.numbered m f.names x) :=
        fun x hx hd => absurd hd (h x hx)
      exact hsame hv ▸ hrow v
    · refine (Formula.contradiction_exactly hmn hf hg .initial).trans (forall_congr' fun u => ?_)
      have hfree : f.holds (Valuation.initial.holding (.numbered m f.names) g.names u) =
          f.holds u := by
        refine Formula.holds_congr_of_dependsOn fun x hx => ?_
        exact if_neg fun hxg => h x hxg hx
      rw [hfree, Formula.holds, Formula.holds]
      cases f.holds u <;> cases g.holds u <;> decide

/-- For `p` and `p ^ q` the features tell of a contradiction exactly while the first `p` is false;
for `p` and `q v ~q` there is one row, and it is right. -/
theorem absurdity_features_single_name :
    let p : Formula := .var ⟨0, 0, "p"⟩
    let g : Formula := .binary .and (.var ⟨1, 0, "p"⟩) (.var ⟨1, 1, "q"⟩)
    let q : Formula := .var ⟨1, 0, "q"⟩
    let k : Formula := .binary .or q (.neg q)
    (∃ a, Prover.assumption p g = .ok a ∧ ∀ v, Yields (singleRow (.compound a) "F" v) fun r =>
      TellsContradiction r.1 (v.get ⟨0, 0, "p"⟩ = false)) ∧
    ∃ a, Prover.assumption p k = .ok a ∧
      ∃ row, (∀ v, Yields (singleRow (.compound a) "F" v) fun r => r.1 = row) ∧
        TellsContradiction row (∀ u, a.holds u = false) := by
  intro p g q k
  have hp : Formula.parse 0 "p" = .ok p := by cbv
  have hg : Formula.parse 1 "p ^ q" = .ok g := by cbv
  have hk : Formula.parse 1 "q v ~q" = .ok k := by cbv
  constructor
  · obtain ⟨a, ha, h⟩ := absurdity_features (by decide) hp hg
    refine ⟨a, ha, fun v => ?_⟩
    obtain ⟨r, hr, b, hb, htells⟩ := (h "F").1 v
    have hshared : "p" ∈ g.names := by decide
    have hheld (u : String → Bool) :
        p.holds (v.holding (.numbered 0 p.names) g.names u) = v.get ⟨0, 0, "p"⟩ := by
      have hown : Atom.numbered 0 p.names "p" = ⟨0, 0, "p"⟩ := by decide
      change v.holding (.numbered 0 p.names) g.names u "p" = _
      rw [Valuation.holding, if_pos hshared, hown]
    simp only [hheld] at htells
    refine ⟨r, hr, b, hb, htells.trans ⟨fun hall => ?_, fun hv u hu => ?_⟩⟩
    · by_contra hv
      have hfalse : g.holds (fun _ => false) = true := hall _ (by simpa using hv)
      cases hfalse
    · rw [hv] at hu
      cases hu
  · obtain ⟨a, ha, h⟩ := absurdity_features (by decide) hp hk
    have hapart : ∀ x ∈ k.names, x ∉ p.names := by decide
    exact ⟨a, ha, (h "F").2.2 fun x hx hd => hapart x hx hd.mem_names⟩

/-- For `p` and `p ^ q` the features tell of a contradiction where there is none. For `p` and
`~~p` they tell of the contradiction before a truth table is made, and no longer with the values
that it leaves behind. -/
theorem absurdity_features_misled :
    let p : Formula := .var ⟨0, 0, "p"⟩
    let g : Formula := .binary .and (.var ⟨1, 0, "p"⟩) (.var ⟨1, 1, "q"⟩)
    let h : Formula := .neg (.neg (.var ⟨1, 0, "p"⟩))
    let d (reading : Nat) : Glossary := ⟨reading, [("p", ⟨reading, 0, "p"⟩)], 1⟩
    let a : Formula := .binary .and p (.neg g)
    let b : Formula := .binary .and p (.neg h)
    Formula.read 0 "p" = .ok (p, d 0) ∧ Formula.parse 1 "p ^ q" = .ok g ∧
    Formula.read 1 "~~p" = .ok (h, d 1) ∧
    Prover.assumption p g = .ok a ∧ Prover.assumption p h = .ok b ∧
    (∃ u, a.holds u = true) ∧
    (singleRow (.compound a) "F" .initial).map (fun r => r.1[16]?) = .ok (some 1) ∧
    (∀ u, b.holds u = false) ∧
    (singleRow (.compound b) "F" .initial).map (fun r => r.1[16]?) = .ok (some 1) ∧
    (do
      let (_, v) ← TruthTable.make p (d 0) h (d 1) .initial
      let r ← singleRow (.compound b) "F" v
      return r.1[16]?) = Except.ok (some 0) := by
  refine ⟨by cbv, by cbv, by cbv, rfl, rfl, ⟨fun n => n == "p", by decide⟩, by cbv, ?_, by cbv,
    by cbv⟩
  intro u
  simp [Formula.holds]

end Feature

end LogicTutor
