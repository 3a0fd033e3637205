import LogicTutor.Formula.Valuation

/-! What a formula means under a valuation of names, and how that agrees with the evaluation of
trees whose atoms hold values one by one. -/
namespace LogicTutor

/-- No atom is mistaken for a constant. -/
def Leaf.Plain : Leaf → Prop
  | .atom a => a.name ≠ "T" ∧ a.name ≠ "F"
  | .truth _ => True

instance : DecidablePred Leaf.Plain
  | .atom a => inferInstanceAs (Decidable (a.name ≠ "T" ∧ a.name ≠ "F"))
  | .truth _ => isTrue trivial

theorem Leaf.eq_of_text_eq_truth {l : Leaf} {b : Bool} (hl : l.Plain)
    (h : l.text = (Leaf.truth b).text) : l = .truth b := by
  cases l with
  | atom a => cases b <;> simp_all [Leaf.Plain, Leaf.text]
  | truth c => cases b <;> cases c <;> simp_all [Leaf.text]

namespace Formula

variable {f g x y : Formula} {P Q : Leaf → Prop} {c : Connective} {v : String → Bool}

/-- Every leaf is of the kind `P`. -/
def Over (P : Leaf → Prop) (f : Formula) : Prop := ∀ l ∈ f.leaves, P l

instance [DecidablePred P] : Decidable (f.Over P) :=
  inferInstanceAs (Decidable (∀ l ∈ f.leaves, P l))

@[simp] theorem over_leaf {l : Leaf} : (Formula.leaf l).Over P ↔ P l := by
  simp [Over, leaves]

@[simp] theorem over_unary : (Formula.unary c x).Over P ↔ x.Over P := Iff.rfl

@[simp] theorem over_binary : (Formula.binary c x y).Over P ↔ x.Over P ∧ y.Over P := by
  simp only [Over, leaves, List.mem_append, or_imp, forall_and]

theorem Over.mono (h : f.Over P) (hpq : ∀ l, P l → Q l) : f.Over Q :=
  fun l hl => hpq l (h l hl)

/-- Each connective has its number of operands and no atom bears the name of a constant. -/
structure Proper (f : Formula) : Prop where
  wellFormed : f.WellFormed
  plain : f.Over Leaf.Plain

instance : Decidable f.Proper :=
  decidable_of_iff (f.WellFormed ∧ f.Over Leaf.Plain) ⟨fun h => ⟨h.1, h.2⟩, fun h => ⟨h.1, h.2⟩⟩

theorem same_self (h : f.WellFormed) : f.same f = true := by
  induction f with
  | blank => exact h.elim
  | leaf l => simp [same]
  | unary c x ih => simpa [same] using ih h.2
  | binary c x y ihx ihy => simpa [same] using ⟨ihx h.2.1, ihy h.2.2⟩

theorem text_eq_of_same (h : f.same g = true) : f.text = g.text := by
  induction f generalizing g with
  | blank => simp [same] at h
  | leaf l => cases g <;> simp_all [same, text]
  | unary c x ih =>
    cases g with
    | unary d y =>
      simp only [same, Bool.and_eq_true, beq_iff_eq] at h
      simp only [text, h.1, ih h.2]
    | _ => simp [same] at h
  | binary c x y ihx ihy =>
    cases g with
    | binary d z w =>
      simp only [same, Bool.and_eq_true, beq_iff_eq] at h
      simp only [text, h.1.1, ihx h.1.2, ihy h.2]
    | _ => simp [same] at h

/-- Formulas that read alike mean the same, as long as their leaves can be told apart by text. -/
theorem holds_eq_of_same (h : f.same g = true) (hf : f.Over Leaf.Plain) (hg : g.Over Leaf.Plain) :
    f.holds v = g.holds v := by
  induction f generalizing g with
  | blank => simp [same] at h
  | leaf l =>
    cases g with
    | leaf m =>
      have ht : l.text = m.text := by simpa [same] using h
      cases l with
      | truth b =>
        rw [Leaf.eq_of_text_eq_truth (over_leaf.mp hg) ht.symm]
      | atom a =>
        cases m with
        | truth b => cases Leaf.eq_of_text_eq_truth (over_leaf.mp hf) ht
        | atom b => exact congrArg v ht
    | _ => simp [same] at h
  | unary c x ih =>
    cases g with
    | unary d y =>
      simp only [same, Bool.and_eq_true, beq_iff_eq] at h
      obtain ⟨rfl, hxy⟩ := h
      cases c <;> simp only [holds, ih hxy hf hg]
    | _ => simp [same] at h
  | binary c x y ihx ihy =>
    cases g with
    | binary d z w =>
      simp only [same, Bool.and_eq_true, beq_iff_eq] at h
      obtain ⟨⟨rfl, hxz⟩, hyw⟩ := h
      rw [over_binary] at hf hg
      cases c <;> simp only [holds, ihx hxz hf.1 hg.1, ihy hyw hf.2 hg.2]
    | _ => simp [same] at h

/-- A tree in which atoms of one name hold one value evaluates to its meaning. -/
theorem eval?_eq_holds {w : Valuation} (hf : f.WellFormed)
    (hv : ∀ a, .atom a ∈ f.leaves → w.get a = v a.name) : f.eval? w = some (f.holds v) := by
  induction f with
  | blank => exact hf.elim
  | leaf l =>
    cases l with
    | atom a => simpa [eval?, holds] using hv a (by simp [leaves])
    | truth b => rfl
  | unary c x ih =>
    obtain ⟨rfl, hx⟩ := hf
    simp [eval?, ih hx hv, Connective.apply1?, holds]
  | binary c x y ihx ihy =>
    have hx := ihx hf.2.1 fun a ha => hv a (List.mem_append_left _ ha)
    have hy := ihy hf.2.2 fun a ha => hv a (List.mem_append_right _ ha)
    cases c with
    | not => exact absurd rfl hf.1
    | _ => simp [eval?, hx, hy, Connective.apply2?, holds]

theorem exists_eval? (hf : f.WellFormed) (w : Valuation) : ∃ b, f.eval? w = some b := by
  induction f with
  | blank => exact hf.elim
  | leaf l => cases l <;> exact ⟨_, rfl⟩
  | unary c x ih =>
    obtain ⟨rfl, hx⟩ := hf
    obtain ⟨b, hb⟩ := ih hx
    exact ⟨!b, by simp [eval?, hb, Connective.apply1?]⟩
  | binary c x y ihx ihy =>
    obtain ⟨a, ha⟩ := ihx hf.2.1
    obtain ⟨b, hb⟩ := ihy hf.2.2
    cases c with
    | not => exact absurd rfl hf.1
    | _ => simp [eval?, ha, hb, Connective.apply2?]

theorem value_of_eval? {w : Valuation} {b : Bool} (h : f.eval? w = some b) :
    f.value w = .ok (some b) := by
  cases f with
  | blank => simp [eval?] at h
  | _ => simp only [value, h]

/-- A well-formed formula has a value, whatever its atoms hold. -/
theorem exists_value (hf : f.WellFormed) (w : Valuation) : ∃ b, f.value w = .ok (some b) := by
  obtain ⟨b, hb⟩ := exists_eval? hf w
  exact ⟨b, value_of_eval? hb⟩

namespace Equivalent

theorem refl (f : Formula) : f.Equivalent f := fun _ => rfl

theorem symm (h : f.Equivalent g) : g.Equivalent f := fun v => (h v).symm

theorem trans {k : Formula} (h : f.Equivalent g) (hg : g.Equivalent k) : f.Equivalent k :=
  fun v => (h v).trans (hg v)

end Equivalent

theorem Proper.equivalent_of_same (h : f.same g = true) (hf : f.Proper) (hg : g.Proper) :
    f.Equivalent g := fun _ => holds_eq_of_same h hf.plain hg.plain

end Formula

end LogicTutor
