import LogicTutor.Proofs.Formula.RoundTrip
import LogicTutor.Proofs.Semantics.Equivalence

/-! The parts of a formula, and what they have from the whole: leaves and names, the form, and that
their texts tell them apart. -/
namespace LogicTutor.Formula

variable {f g x y : Formula} {reading : Nat} {names : List String} {P : Leaf → Prop}

/-- `x` is a part of the formula and not the whole of it. -/
def Inside (x : Formula) : Formula → Prop
  | .blank | .leaf _ => False
  | .unary _ y => x = y ∨ x.Inside y
  | .binary _ y z => (x = y ∨ x.Inside y) ∨ x = z ∨ x.Inside z

/-- At the top stands a connective with two operands. -/
def IsBinary (f : Formula) : Prop := ∃ c x y, f = .binary c x y

namespace Inside

/-- What an operand is to the formula it stands in, every part is to the whole, if it carries over
from part to part. -/
theorem relate {R : Formula → Formula → Prop} (hunary : ∀ c y, R y (.unary c y))
    (hleft : ∀ c y z, R y (.binary c y z)) (hright : ∀ c y z, R z (.binary c y z))
    (htrans : ∀ x y z, R x y → R y z → R x z) (h : x.Inside f) : R x f := by
  induction f with
  | blank => exact h.elim
  | leaf l => exact h.elim
  | unary c y ih =>
    rcases h with rfl | h
    · exact hunary c x
    · exact htrans x y _ (ih h) (hunary c y)
  | binary c y z ihy ihz =>
    rcases h with (rfl | h) | rfl | h
    · exact hleft c x z
    · exact htrans x y _ (ihy h) (hleft c y z)
    · exact hright c y x
    · exact htrans x z _ (ihz h) (hright c y z)

theorem sizeOf_lt (h : x.Inside f) : sizeOf x < sizeOf f := by
  refine h.relate (R := fun x f => sizeOf x < sizeOf f) (fun c y => ?_) (fun c y z => ?_)
    (fun c y z => ?_) fun _ _ _ => Nat.lt_trans
  · rw [unary.sizeOf_spec]
    omega
  · rw [binary.sizeOf_spec]
    omega
  · rw [binary.sizeOf_spec]
    omega

theorem ne (h : x.Inside f) : x ≠ f := by
  rintro rfl
  exact Nat.lt_irrefl _ h.sizeOf_lt

theorem leaves_subset (h : x.Inside f) : x.leaves ⊆ f.leaves :=
  h.relate (R := fun x f => x.leaves ⊆ f.leaves) (fun _ _ => List.Subset.refl _)
    (fun _ _ _ => List.subset_append_left _ _) (fun _ _ _ => List.subset_append_right _ _)
    fun _ _ _ => List.Subset.trans

theorem wellFormed (h : x.Inside f) (hf : f.WellFormed) : x.WellFormed :=
  h.relate (R := fun x f => f.WellFormed → x.WellFormed) (fun _ _ h => h.2) (fun _ _ _ h => h.2.1)
    (fun _ _ _ h => h.2.2) (fun _ _ _ hxy hyz h => hxy (hyz h)) hf

theorem keeps_over (h : x.Inside f) (hf : f.Over P) : x.Over P :=
  fun l hl => hf l (h.leaves_subset hl)

end Inside

theorem names_subset (h : x.leaves ⊆ f.leaves) : x.names ⊆ f.names := by
  intro n hn
  obtain ⟨a, ha, hname⟩ := mem_names.mp hn
  exact mem_names.mpr ⟨a, h ha, hname⟩

/-- A formula as it comes from a text, or from a part of it: it can be read back, and its atoms
belong to the reading, one to each of the names. -/
structure ReadIn (reading : Nat) (names : List String) (f : Formula) : Prop where
  legible : f.Legible
  own : f.Over fun l => l.renumbered reading names = l

theorem readIn_of_parse {s : String} (h : parse reading s = .ok f) : f.ReadIn reading f.names := by
  obtain ⟨ts, -, hf⟩ := parse_eq_ok_iff.mp h
  exact ⟨(legible_of_parse h).1, hf.names_eq ▸ hf.over_tokens.mono fun _ hl => hl.2⟩

namespace ReadIn

theorem of_inside (hf : f.ReadIn reading names) (h : x.Inside f) : x.ReadIn reading names :=
  ⟨⟨h.wellFormed hf.legible.wellFormed, h.keeps_over hf.legible.nameable⟩, h.keeps_over hf.own⟩

/-- Formulas of one reading are told apart by their texts. -/
theorem eq_of_text_eq (hx : x.ReadIn reading names) (hy : y.ReadIn reading names)
    (h : x.text = y.text) : x = y := by
  have hp := hx.legible.parse_text reading
  rw [h, hy.legible.parse_text reading] at hp
  have he := congrArg (renumbered reading names) (Except.ok.inj hp)
  rw [withReading, withReading, renumbered_renumbered, renumbered_renumbered,
    renumbered_eq_self hx.own, renumbered_eq_self hy.own] at he
  exact he.symm

end ReadIn

end LogicTutor.Formula
