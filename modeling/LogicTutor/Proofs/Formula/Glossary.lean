import Mathlib
import LogicTutor.Law.Application
import LogicTutor.Proofs.Formula.Parts
import LogicTutor.Proofs.Law.Soundness

/-! What reading a text gives, and what remains of it however the laws are put to it: a well-formed
tree whose leaves are constants and the atoms of the glossary. -/
namespace LogicTutor

namespace Compound

/-- A law put to a compound: at the end of a path, or where a draw decides. -/
inductive Change (γ : Type) where
  | along (law : Law) (path : Path)
  | drawn (law : Law) (chance : γ)

def change {γ : Type} [Source γ] (c : Compound) : Change γ → Compound
  | .along law path => c.applyAt law path
  | .drawn law chance => (c.applyDrawn law chance).1

variable {γ : Type} [Source γ] {P : Formula → Prop} {c : Compound}

theorem formula_wrap (f : Formula) : (wrap f).formula = f := by
  unfold wrap
  split <;> rfl

theorem keeps_applyAt (hP : Law.Kept P) {f : Formula} (hf : P f) (law : Law) (p : Path) :
    P (law.applyAt f p) := by
  rcases law.applyAt_eq_or_rewritesInside f p with h | h
  · rwa [h]
  · exact hP law _ _ h hf

/-- One change keeps what every law keeps. -/
theorem keeps_change (hP : Law.Kept P) (hc : P c.formula) (ch : Change γ) :
    P (c.change ch).formula := by
  cases ch with
  | along law path => exact keeps_applyAt hP hc law path
  | drawn law chance =>
    rw [change, applyDrawn]
    split
    · exact hc
    · dsimp only
      split
      next => exact hc
      next =>
        rw [formula_wrap, ← Law.applyAt]
        exact keeps_applyAt hP hc law []
      next path _ _ => exact keeps_applyAt hP hc law path

theorem keeps_changes (hP : Law.Kept P) (hc : P c.formula) (chs : List (Change γ)) :
    P (chs.foldl change c).formula := by
  induction chs generalizing c with
  | nil => exact hc
  | cons ch chs ih => exact ih (keeps_change hP hc ch)

end Compound

namespace Formula

variable {reading : Nat} {s : String} {f : Formula} {d : Glossary}

theorem read_eq_ok (h : read reading s = .ok (f, d)) :
    f.ReadIn reading f.names ∧ d = .ofNames reading f.names := by
  obtain ⟨ts, -, rfl, hf⟩ := read_eq_ok_iff.mp h
  exact ⟨readIn_of_parse (parse_eq_ok_iff_read.mpr ⟨_, h⟩), by rw [hf.names_eq]⟩

theorem ReadIn.numbered {names : List String} (hf : f.ReadIn reading names) {a : Atom}
    (ha : .atom a ∈ f.leaves) : a = .numbered reading names a.name :=
  (Leaf.atom.inj (hf.own _ ha)).symm

/-- In one reading an atom is known by its name. -/
theorem ReadIn.atom_eq {names : List String} (hf : f.ReadIn reading names) {a b : Atom}
    (ha : .atom a ∈ f.leaves) (hb : .atom b ∈ f.leaves) (hname : a.name = b.name) : a = b := by
  rw [hf.numbered ha, hf.numbered hb, hname]

/-- A formula as it comes from a text, with the glossary that is made for it. -/
structure ReadWith (reading : Nat) (d : Glossary) (f : Formula) : Prop
    extends ReadIn reading f.names f where
  describes : d.Describes f

theorem readWith_of_read (h : read reading s = .ok (f, d)) : f.ReadWith reading d := by
  obtain ⟨hf, rfl⟩ := read_eq_ok h
  refine ⟨hf, Glossary.names_ofNames _ _, fun n a ha => ?_, fun a ha => ?_⟩
  · rw [← Glossary.within_ofNames _ _ n a ha, Atom.numbered]
  · rw [Glossary.find?_ofNames, if_pos (mem_names.mpr ⟨a, ha, rfl⟩), ← hf.numbered ha]

/-- What is read is a well-formed tree. As many atoms are made for it as it has names: each name has
one, which the glossary lists where the name first appears and which stands at every leaf of that
name, and none has the name of a constant. However laws are put to the tree, it stays well-formed
and gets no leaves but constants. -/
theorem read_invariant_under_laws (h : read reading s = .ok (f, d)) :
    f.WellFormed ∧ d.names = f.names ∧ d.made = f.names.length ∧
    (∀ a, .atom a ∈ f.leaves → d.find? a.name = some a ∧
      a = ⟨reading, f.names.idxOf a.name, a.name⟩) ∧
    (∀ a b, .atom a ∈ f.leaves → .atom b ∈ f.leaves →
      (a.name = b.name ↔ a = b) ∧ (a.number = b.number ↔ a = b)) ∧
    (∀ a, .atom a ∈ f.leaves → a.name ∉ ["T", "t", "F", "f"]) ∧
    ∀ {γ : Type} [Source γ] (c : Compound) (chs : List (Compound.Change γ)), c.formula = f →
      (chs.foldl Compound.change c).formula.WellFormed ∧
      ∀ l ∈ (chs.foldl Compound.change c).formula.leaves, l ∈ f.leaves ∨ ∃ b, l = .truth b := by
  have hd := (readWith_of_read h).describes
  obtain ⟨hf, rfl⟩ := read_eq_ok h
  refine ⟨hf.legible.wellFormed, hd.names, rfl, fun a ha => ⟨hd.finds a ha, hf.numbered ha⟩,
    fun a b ha hb => ⟨⟨hf.atom_eq ha hb, congrArg _⟩, fun hnumber => ?_, congrArg _⟩,
    fun a ha hname => ?_, fun c chs hc => ⟨?_, ?_⟩⟩
  · rw [hf.numbered ha, hf.numbered hb] at hnumber
    exact hf.atom_eq ha hb ((List.idxOf_inj (mem_names.mpr ⟨a, ha, rfl⟩)).mp hnumber)
  · have hn : Token.Nameable a.name := hf.legible.nameable _ ha
    generalize a.name = n at hname hn
    simp only [List.mem_cons, List.not_mem_nil, or_false] at hname
    rcases hname with rfl | rfl | rfl | rfl <;> revert hn <;> decide
  · exact Compound.keeps_changes Law.kept_wellFormed (hc ▸ hf.legible.wellFormed) chs
  · exact Compound.keeps_changes
      (Law.kept_over (P := fun l => l ∈ f.leaves ∨ ∃ b, l = .truth b) fun b => .inr ⟨b, rfl⟩)
      (fun l hl => .inl (hc ▸ hl)) chs

theorem read_invariant_under_laws_constant :
    let q : Formula := .var ⟨0, 0, "q1"⟩
    let p : Formula := .var ⟨0, 1, "p"⟩
    let f : Formula := .imp (q &&& p) (.neg (.const true) ||| q)
    let d : Glossary := ⟨0, [("q1", ⟨0, 0, "q1"⟩), ("p", ⟨0, 1, "p"⟩)], 2⟩
    let chs : List (Compound.Change Chance) :=
      [.along .negationConstant [.right, .left], .along .deMorganReverse [.left]]
    let g : Formula := (chs.foldl Compound.change (.ofFormula f)).formula
    read 0 "(q1 ^ p) -> ~t v q1" = .ok (f, d) ∧ d.names = f.names ∧ d.made = 2 ∧
      g = .imp (.neg (.neg q ||| .neg p)) (.const false ||| q) ∧ g.WellFormed ∧
      ∀ l ∈ g.leaves, l ∈ f.leaves ∨ ∃ b, l = .truth b := by
  intro q p f d chs g
  have h : read 0 "(q1 ^ p) -> ~t v q1" = .ok (f, d) := by cbv
  obtain ⟨-, hnames, hmade, -, -, -, hg⟩ := read_invariant_under_laws h
  exact ⟨h, hnames, hmade, rfl, hg (.ofFormula f) chs rfl⟩

end Formula

end LogicTutor
