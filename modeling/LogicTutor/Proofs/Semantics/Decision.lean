import Mathlib
import LogicTutor.Proofs.Formula.Glossary
import LogicTutor.Proofs.Semantics.Equivalence

/-! There are two procedures that compare formulas on all assignments to their names; one of them
takes a short way past constants. Both decide whether the formulas always evaluate alike, whatever
values the atoms held before, so the two never disagree. -/
namespace LogicTutor.Semantics

variable {f g : Formula} {d e : Glossary}

/-- The atoms of both formulas hold what `u` gives to their names. -/
def Assigns (u : String → Bool) (f g : Formula) (w : Valuation) : Prop :=
  ∀ a ∈ f.atoms ++ g.atoms, w.get a = u a.name

/-- The two formulas evaluate alike under every assignment to their names. -/
def Coincide (f g : Formula) : Prop := ∀ u w, Assigns u f g w → f.value w = g.value w

theorem exists_assigns (u : String → Bool) (f g : Formula) : ∃ w, Assigns u f g w := by
  let names := sortNames (f.names ++ g.names)
  let group (n : String) : List Atom := (f.atoms ++ g.atoms).filter fun a => a.name = n
  obtain ⟨i, -, hi⟩ := Valuation.exists_bitOf names u
  refine ⟨Valuation.initial.setBits (names.map group) i, fun a ha => ?_⟩
  have hname : a.name ∈ names := by
    rw [mem_sortNames, List.mem_append, Formula.mem_names, Formula.mem_names]
    rw [List.mem_append, Formula.mem_atoms, Formula.mem_atoms] at ha
    exact ha.imp (fun h => ⟨a, h, rfl⟩) fun h => ⟨a, h, rfl⟩
  have hgroup : ∀ n, ∀ b ∈ group n, b.name = n := fun n b hb => by
    simpa using (List.mem_filter.mp hb).2
  have hmem : a ∈ group a.name := List.mem_filter.mpr ⟨ha, by simp⟩
  rw [Valuation.get_setBits hgroup (nodup_sortNames _) hmem hname, hi _ hname]

theorem Assigns.values {u : String → Bool} {w : Valuation} (h : Assigns u f g w)
    (hf : f.WellFormed) (hg : g.WellFormed) :
    f.value w = .ok (some (f.holds u)) ∧ g.value w = .ok (some (g.holds u)) := by
  constructor
  · refine Formula.value_of_eval? (Formula.eval?_eq_holds hf fun a ha => h a ?_)
    exact List.mem_append_left _ (Formula.mem_atoms.mpr ha)
  · refine Formula.value_of_eval? (Formula.eval?_eq_holds hg fun a ha => h a ?_)
    exact List.mem_append_right _ (Formula.mem_atoms.mpr ha)

theorem coincide_iff_equivalent (hf : f.WellFormed) (hg : g.WellFormed) :
    Coincide f g ↔ f.Equivalent g := by
  constructor
  · intro h u
    obtain ⟨w, hw⟩ := exists_assigns u f g
    have he := h u w hw
    rw [(hw.values hf hg).1, (hw.values hf hg).2] at he
    exact Option.some.inj (Except.ok.inj he)
  · intro h u w hw
    rw [(hw.values hf hg).1, (hw.values hf hg).2, h u]

/-- Testing the value of one formula under all assignments to its own names is testing what it can
mean. -/
theorem always_yields (he : e.Describes g) (hg : g.WellFormed) (test : Option Bool → Bool)
    (v : Valuation) :
    Yields (always test g e v) fun r => r.1 = true ↔ ∀ u, test (some (g.holds u)) = true := by
  have hrange : Ranges (sortNames e.names) [e] g :=
    ⟨hg, fun n hn => mem_sortNames.mpr (he.names ▸ hn), fun a ha => ⟨e, by simp, he.finds a ha⟩⟩
  refine Valuation.forAll_decides (Q := fun u => test (some (g.holds u))) (fun w i => ?_)
    (fun u u' hu => ?_) v
  · have hv := Formula.value_of_eval?
      (hrange.eval? (by simpa using he.named) (nodup_sortNames _) w i)
    unfold groups at hv
    simp only [hv, ok_bind]
    rfl
  · rw [Formula.holds_congr fun n hn => hu n (hrange.names_subset hn)]

theorem agreeShort_yields (hd : d.Describes f) (he : e.Describes g) (hf : f.Proper)
    (hg : g.Proper) (v : Valuation) :
    Yields (agreeShort f d g e v) fun r => r.1 = true ↔ f.Equivalent g := by
  unfold agreeShort
  split
  next => exact .ok (iff_of_true rfl (.refl _))
  next => exact .ok (iff_of_true rfl (.refl _))
  next =>
    obtain ⟨r, hr, hb⟩ := always_yields he hg.wellFormed (fun x => x == some true) v
    refine ⟨r, hr, hb.trans (forall_congr' fun u => ?_)⟩
    change (some (g.holds u) == some true) = true ↔ true = g.holds u
    cases g.holds u <;> decide
  next =>
    obtain ⟨r, hr, hb⟩ := always_yields he hg.wellFormed (fun x => x != some true) v
    refine ⟨r, hr, hb.trans (forall_congr' fun u => ?_)⟩
    change (some (g.holds u) != some true) = true ↔ false = g.holds u
    cases g.holds u <;> decide
  next => exact agree_yields hd he hf hg v

/-- Both procedures come to the same answer on formulas that were read, and it is the right one:
yes exactly if the formulas evaluate alike under every assignment to their names. -/
theorem procedures_decide_coincidence {m n : Nat} {s t : String}
    (hf : Formula.read m s = .ok (f, d)) (hg : Formula.read n t = .ok (g, e)) (v w : Valuation) :
    ∃ b v' w', agreeShort f d g e v = .ok (b, v') ∧ agree f d g e w = .ok (b, w') ∧
      (b = true ↔ Coincide f g) := by
  have hrf := Formula.readWith_of_read hf
  have hrg := Formula.readWith_of_read hg
  have hpf := hrf.legible.proper
  have hpg := hrg.legible.proper
  obtain ⟨⟨b, v'⟩, hv, hb⟩ := agreeShort_yields hrf.describes hrg.describes hpf hpg v
  obtain ⟨⟨c, w'⟩, hw, hc⟩ := agree_yields hrf.describes hrg.describes hpf hpg w
  obtain rfl : b = c := Bool.eq_iff_iff.mpr (hb.trans hc.symm)
  exact ⟨b, v', w', hv, hw, hb.trans (coincide_iff_equivalent hpf.1 hpg.1).symm⟩

theorem procedures_decide_coincidence_truth :
    let p : Formula := .var ⟨1, 0, "p"⟩
    let none : Glossary := ⟨0, [], 0⟩
    let one : Glossary := ⟨1, [("p", ⟨1, 0, "p"⟩)], 1⟩
    let left : Valuation := Valuation.initial.set ⟨1, 0, "p"⟩ true
    Formula.read 0 "T" = .ok (.const true, none) ∧
      Formula.read 1 "p v ~p" = .ok (p ||| .neg p, one) ∧ Formula.read 1 "p" = .ok (p, one) ∧
      (∃ v' w', agreeShort (.const true) none (p ||| .neg p) one left = .ok (true, v') ∧
        agree (.const true) none (p ||| .neg p) one .initial = .ok (true, w')) ∧
      ∃ v' w', agreeShort (.const true) none p one left = .ok (false, v') ∧
        agree (.const true) none p one left = .ok (false, w') := by
  intro p none one left
  have ht : Formula.read 0 "T" = .ok (.const true, none) := by cbv
  have hor : Formula.read 1 "p v ~p" = .ok (p ||| .neg p, one) := by cbv
  have hp : Formula.read 1 "p" = .ok (p, one) := by cbv
  refine ⟨ht, hor, hp, ?_, ?_⟩
  · obtain ⟨b, v', w', hv, hw, hb⟩ := procedures_decide_coincidence ht hor left .initial
    obtain rfl : b = true := by
      rw [hb, coincide_iff_equivalent (by decide) (by decide)]
      intro u
      change true = (u "p" || !u "p")
      cases u "p" <;> rfl
    exact ⟨v', w', hv, hw⟩
  · obtain ⟨b, v', w', hv, hw, hb⟩ := procedures_decide_coincidence ht hp left left
    obtain rfl : b = false := by
      rw [Bool.eq_false_iff, ne_eq, hb, coincide_iff_equivalent (by decide) (by decide)]
      intro h
      cases h fun _ => false
    exact ⟨v', w', hv, hw⟩

end LogicTutor.Semantics
