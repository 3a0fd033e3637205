import LogicTutor.Proofs.Feature.Usefulness

/-! The analysis of usefulness where every name is one atom. Then all atoms are given values, so
the analysis is exact, and neither what it finds nor the values that it leaves in the atoms depend
on what they held before. -/
namespace LogicTutor

namespace Formula

variable {f : Formula} {a : Atom} {v w : Valuation}

/-- Atoms with the same name are the same atom. -/
def Unambiguous (f : Formula) : Prop :=
  ∀ a b, .atom a ∈ f.leaves → .atom b ∈ f.leaves → a.name = b.name → a = b

instance : Decidable f.Unambiguous :=
  decidable_of_iff (∀ a ∈ f.atoms, ∀ b ∈ f.atoms, a.name = b.name → a = b)
    ⟨fun h a b ha hb => h a (mem_atoms.mpr ha) b (mem_atoms.mpr hb),
      fun h a ha b hb => h a b (mem_atoms.mp ha) (mem_atoms.mp hb)⟩

/-- The leaf that an atom's name stands for is the atom. -/
theorem Unambiguous.mem_leafTable (hone : f.Unambiguous) (hplain : f.Over Leaf.Plain)
    (ha : .atom a ∈ f.leaves) : (a.name, .atom a) ∈ Usefulness.leafTable f := by
  obtain ⟨l, hl⟩ := Usefulness.exists_mem_leafTable ha
  have hmem := Usefulness.mem_leaves_of_mem_leafTable hl
  have htext : l.text = a.name := Usefulness.text_of_mem_leafTable hl
  cases l with
  | atom b => rwa [hone b a hmem ha htext] at hl
  | truth b => cases Leaf.eq_of_text_eq_truth (hplain _ ha) htext.symm

theorem Unambiguous.mem_varied (hone : f.Unambiguous) (hplain : f.Over Leaf.Plain)
    (ha : .atom a ∈ f.leaves) : a ∈ Usefulness.varied f :=
  Usefulness.mem_varied_iff_mem_leafTable.mpr (hone.mem_leafTable hplain ha)

theorem mem_leaves_of_mem_varied (ha : a ∈ Usefulness.varied f) : .atom a ∈ f.leaves :=
  Usefulness.mem_leaves_of_mem_leafTable (Usefulness.mem_varied_iff_mem_leafTable.mp ha)

/-- No atom keeps its value during the analysis. -/
theorem Unambiguous.pin_eq (hone : f.Unambiguous) (hplain : f.Over Leaf.Plain) (v : Valuation) :
    f.pin (Usefulness.varied f) v = f :=
  pin_eq_self (fun _ => hone.mem_varied hplain) v

end Formula

/-- Both computations go well, come to the same, and leave the same values in the atoms. -/
def Alike {β : Type} (atoms : List Atom) (x y : Except Fault (β × Valuation)) : Prop :=
  Yields x fun r => Yields y fun s => r.1 = s.1 ∧ ∀ a ∈ atoms, r.2.get a = s.2.get a

namespace Alike

variable {β γ : Type} {atoms : List Atom} {x y : Except Fault (β × Valuation)} {v w : Valuation}

theorem ok (b : β) (h : ∀ a ∈ atoms, v.get a = w.get a) :
    Alike atoms (.ok (b, v)) (.ok (b, w)) := Yields.ok (Yields.ok ⟨rfl, h⟩)

theorem bind {k : β × Valuation → Except Fault (γ × Valuation)} (hx : Alike atoms x y)
    (hk : ∀ b v w, (∀ a ∈ atoms, v.get a = w.get a) → Alike atoms (k (b, v)) (k (b, w))) :
    Alike atoms (x >>= k) (y >>= k) := by
  obtain ⟨⟨b, v⟩, rfl, ⟨c, w⟩, rfl, hb, h⟩ := hx
  obtain rfl : b = c := hb
  exact hk b v w h

/-- Going through assignments forgets the values at the start, if each test does. -/
theorem passAll {groups : List (List Atom)} {test : Valuation → Except Fault (Bool × Valuation)}
    (htest : ∀ (v w : Valuation) i,
      Alike atoms (test (v.setBits groups i)) (test (w.setBits groups i)))
    (k i : Nat) (v w : Valuation) :
    Alike atoms (Valuation.passAll groups test (k + 1) i v)
      (Valuation.passAll groups test (k + 1) i w) := by
  induction k generalizing i v w with
  | zero =>
    obtain ⟨⟨b, v'⟩, hv, ⟨c, w'⟩, hw, hb, h⟩ := htest v w i
    obtain rfl : b = c := hb
    unfold Valuation.passAll
    rw [hv, hw]
    cases b with
    | false => exact .ok _ h
    | true => exact .ok _ h
  | succ k ih =>
    obtain ⟨⟨b, v'⟩, hv, ⟨c, w'⟩, hw, hb, h⟩ := htest v w i
    obtain rfl : b = c := hb
    rw [Valuation.passAll, Valuation.passAll, hv, hw]
    cases b with
    | false => exact .ok _ h
    | true => exact ih (i + 1) v' w'

theorem forAll {groups : List (List Atom)} {test : Valuation → Except Fault (Bool × Valuation)}
    (htest : ∀ (v w : Valuation) i, Alike atoms (test (v.setBits groups i))
      (test (w.setBits groups i))) (v w : Valuation) :
    Alike atoms (v.forAll groups test) (w.forAll groups test) := by
  -- there is at least one assignment
  obtain ⟨k, hk⟩ := Nat.exists_eq_add_one.mpr (Nat.two_pow_pos groups.length)
  have hcount : Nat.pow 2 groups.length = k + 1 := hk
  rw [Valuation.forAll, Valuation.forAll, hcount]
  exact passAll htest k 0 v w

end Alike

namespace Usefulness

open Formula

variable {f : Formula} {t : String} {v w : Valuation}

/-- A test leaves the target true and all else as it found it. -/
theorem snd_of_indifferent {target : List Atom} {r : Bool × Valuation}
    (h : indifferent f target v = .ok r) : r.2 = setAll v target true := by
  obtain ⟨x, -, h⟩ := exists_of_bind_eq_ok h
  obtain ⟨y, -, h⟩ := exists_of_bind_eq_ok h
  rw [← Except.ok.inj h]

section

variable (hf : f.Proper) (hone : f.Unambiguous)
include hf hone

/-- A test gives values to all atoms, so that it does not matter what they held. -/
theorem indifferent_alike (t : String) (v w : Valuation) (i : Nat) :
    let groups := ((texts f).filter fun s => s ≠ t).map (atomOf (leafTable f))
    Alike (varied f) (indifferent f (atomOf (leafTable f) t) (v.setBits groups i))
      (indifferent f (atomOf (leafTable f) t) (w.setBits groups i)) := by
  intro groups
  obtain ⟨r, hr, hb, -⟩ := indifferent_yields hf.wellFormed (fun _ _ => rfl) t i (w := v)
  obtain ⟨s, hs, hc, -⟩ := indifferent_yields hf.wellFormed (fun _ _ => rfl) t i (w := w)
  rw [hone.pin_eq hf.plain] at hb hc
  refine ⟨r, hr, s, hs, hb.trans hc.symm, fun a ha => ?_⟩
  rw [snd_of_indifferent hr, snd_of_indifferent hs, setAll, setAll, Valuation.get_foldl_set,
    Valuation.get_foldl_set]
  by_cases hat : a.name = t
  · have hmem : a ∈ atomOf (leafTable f) t := mem_atomOf.mpr ⟨ha, hat⟩
    rw [if_pos hmem, if_pos hmem]
  · have hothers : a.name ∈ (texts f).filter fun s => s ≠ t :=
      List.mem_filter.mpr ⟨name_mem_texts ha, by simpa using hat⟩
    have hbit := get_setBits_atomOf ha ((nodup_texts f).filter _) hothers i
    rw [hbit v, hbit w]

theorem isUseful_alike (t : String) (v w : Valuation) :
    Alike (varied f) (isUseful f (leafTable f) (texts f) t v)
      (isUseful f (leafTable f) (texts f) t w) := by
  rw [isUseful, isUseful]
  exact (Alike.forAll (indifferent_alike hf hone t) v w).bind fun b v w h => .ok _ h

theorem split_alike (ts : List String) (h : ts = [] → ∀ a ∈ varied f, v.get a = w.get a) :
    Alike (varied f) (split f (leafTable f) (texts f) ts v)
      (split f (leafTable f) (texts f) ts w) := by
  induction ts generalizing v w with
  | nil => exact .ok _ (h rfl)
  | cons t ts ih =>
    rw [split, split]
    refine (isUseful_alike hf hone t v w).bind fun useful v w h => ?_
    refine (ih fun _ => h).bind fun found v w h => ?_
    exact .ok _ h

theorem ofFormula_alike (v w : Valuation) :
    Alike (varied f) (ofFormula f v) (ofFormula f w) := by
  have htable : leafTable f ≠ [] := leafTable_ne_nil hf.wellFormed
  have htexts : texts f ≠ [] := by
    obtain ⟨l, hl⟩ := hf.wellFormed.exists_mem_leaves
    obtain ⟨m, hm⟩ := exists_mem_leafTable hl
    exact List.ne_nil_of_mem (Semantics.mem_sortNames.mpr (List.mem_map_of_mem hm))
  have hempty : (leafTable f).isEmpty = false := by simpa using htable
  have hsorted : Semantics.sortNames ((leafTable f).map (·.1)) = texts f := rfl
  simp only [ofFormula, hempty, Bool.false_eq_true, ↓reduceIte, hsorted]
  refine (split_alike hf hone (texts f) fun h => absurd h htexts).bind fun found v w h => ?_
  dsimp only
  split
  next =>
    have hget (x : Valuation) : ∀ a ∈ varied f,
        (setAll x ((texts f).flatMap (atomOf (leafTable f))) false).get a = false := by
      intro a ha
      rw [setAll, Valuation.get_foldl_set, if_pos]
      exact List.mem_flatMap.mpr ⟨a.name, name_mem_texts ha, mem_atomOf.mpr ⟨ha, rfl⟩⟩
    have hvalue (x : Valuation) := value_eq hf.wellFormed (fun _ _ => rfl) (hget x)
      (u := fun _ => false)
    simp only [hone.pin_eq hf.plain] at hvalue
    rw [hvalue v, hvalue w, ok_bind, ok_bind]
    exact .ok _ fun a ha => (hget v a ha).trans (hget w a ha).symm
  next => exact .ok _ h

end

theorem mem_texts : t ∈ texts f ↔ ∃ l ∈ f.leaves, l.text = t := by
  rw [texts, Semantics.mem_sortNames, List.mem_map]
  constructor
  · rintro ⟨⟨s, l⟩, hl, rfl⟩
    exact ⟨l, mem_leaves_of_mem_leafTable hl, text_of_mem_leafTable hl⟩
  · rintro ⟨l, hl, rfl⟩
    obtain ⟨m, hm⟩ := exists_mem_leafTable hl
    exact ⟨(l.text, m), hm, rfl⟩

/-- A formula does not depend on the text of a constant. -/
theorem not_dependsOn_truth (hplain : f.Over Leaf.Plain) (b : Bool) :
    ¬ f.DependsOn (Leaf.truth b).text := by
  intro h
  obtain ⟨a, ha, hname⟩ := mem_names.mp h.mem_names
  cases Leaf.eq_of_text_eq_truth (hplain _ ha) hname

/-- The analysis of a compound in which each name is one atom. Whatever the atoms hold, it comes to
the same and leaves the same values in them, and it touches no other atoms. Useful are the names on
which the value depends, and useless all other names and the constants; tautologies and
contradictions are told for what they are. -/
theorem analysis_is_exact (hf : f.Proper) (hone : f.Unambiguous) :
    ∃ (u : Usefulness) (left : Atom → Bool),
      (∀ v, Yields (ofProposition (.compound f) v) fun r => r.1 = u ∧
        ∀ a, r.2.get a = if .atom a ∈ f.leaves then left a else v.get a) ∧
      (∀ t, t ∈ u.useful ↔ f.DependsOn t) ∧
      (∀ t, t ∈ u.useless ↔ (∃ l ∈ f.leaves, l.text = t) ∧ ¬ f.DependsOn t) ∧
      (∀ b, .truth b ∈ f.leaves → (Leaf.truth b).text ∈ u.useless) ∧
      (u.tautology = true ↔ ∀ w, f.holds w = true) ∧
      (u.contradiction = true ↔ ∀ w, f.holds w = false) := by
  obtain ⟨⟨u, w⟩, hw, hu, -⟩ := ofFormula_yields hf.wellFormed .initial
  obtain rfl : u = exactly f .initial := hu
  refine ⟨exactly f .initial, w.get, fun v => ?_, fun t => ?_, fun t => ?_, fun b hb => ?_, ?_, ?_⟩
  · obtain ⟨r, hr, -, hkept⟩ := ofFormula_yields hf.wellFormed v
    obtain ⟨s, hs, s', hs', hsame, hleft⟩ := ofFormula_alike hf hone v .initial
    obtain rfl : s = r := Except.ok.inj (hs.symm.trans hr)
    obtain rfl : s' = (exactly f .initial, w) := Except.ok.inj (hs'.symm.trans hw)
    refine ⟨s, hr, hsame, fun a => ?_⟩
    split
    next ha => exact hleft a (hone.mem_varied hf.plain ha)
    next ha => exact hkept a fun hmem => ha (mem_leaves_of_mem_varied hmem)
  all_goals simp only [exactly, hone.pin_eq hf.plain, List.mem_filter, decide_eq_true_eq, mem_texts]
  · refine and_iff_right_of_imp fun h => ?_
    obtain ⟨a, ha, hname⟩ := mem_names.mp h.mem_names
    exact ⟨.atom a, ha, hname⟩
  · exact ⟨⟨.truth b, hb, rfl⟩, not_dependsOn_truth hf.plain b⟩

/-- In `p v (p ^ (q v T))` only `p` matters, and in the tautology `p v ~p` nothing does. -/
theorem analysis_is_exact_absorption :
    let p : Formula := .var ⟨0, 0, "p"⟩
    let q : Formula := .var ⟨0, 1, "q"⟩
    let f : Formula := .binary .or p (.binary .and p (.binary .or q (.const true)))
    let g : Formula := .binary .or p (.neg p)
    f.Proper ∧ f.Unambiguous ∧ g.Proper ∧ g.Unambiguous ∧
    (∀ v, Yields (ofProposition (.compound f) v) fun r =>
      "p" ∈ r.1.useful ∧ "q" ∈ r.1.useless ∧ "T" ∈ r.1.useless ∧ r.1.tautology ≠ true) ∧
    ∀ v, Yields (ofProposition (.compound g) v) fun r =>
      "p" ∈ r.1.useless ∧ r.1.tautology = true ∧ r.1.contradiction ≠ true := by
  intro p q f g
  have hf : f.Proper := by decide
  have hg : g.Proper := by decide
  have hfone : f.Unambiguous := by decide
  have hgone : g.Unambiguous := by decide
  refine ⟨hf, hfone, hg, hgone, fun v => ?_, fun v => ?_⟩
  · obtain ⟨u, left, hu, huseful, huseless, hconst, htautology, -⟩ := analysis_is_exact hf hfone
    obtain ⟨r, hr, rfl, -⟩ := hu v
    have hq : ¬ f.DependsOn "q" := by
      rintro ⟨w, hw⟩
      simp [f, p, q, holds] at hw
    refine ⟨r, hr, ?_, ?_, hconst true (by decide), fun h => ?_⟩
    · exact (huseful "p").mpr ⟨fun _ => false, by decide⟩
    · exact (huseless "q").mpr ⟨⟨.atom ⟨0, 1, "q"⟩, by decide, rfl⟩, hq⟩
    · cases htautology.mp h fun _ => false
  · obtain ⟨u, left, hu, -, huseless, -, htautology, hcontradiction⟩ := analysis_is_exact hg hgone
    obtain ⟨r, hr, rfl, -⟩ := hu v
    have hall (w : String → Bool) : g.holds w = true := by
      simp [g, p, holds]
    have hp : ¬ g.DependsOn "p" := by
      rintro ⟨w, hw⟩
      exact hw ((hall _).trans (hall _).symm)
    refine ⟨r, hr, (huseless "p").mpr ⟨⟨.atom ⟨0, 0, "p"⟩, by decide, rfl⟩, hp⟩, ?_, fun h => ?_⟩
    · exact htautology.mpr hall
    · cases hcontradiction.mp h fun _ => false

end Usefulness

end LogicTutor
