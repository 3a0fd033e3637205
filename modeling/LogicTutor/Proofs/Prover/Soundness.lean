import LogicTutor.Proofs.Law.Soundness
import LogicTutor.Proofs.Prover.Trail
import LogicTutor.Prover.Strategy

/-! Provers are sound: whatever is drawn and whatever is advised, the formulas a prover ends with
mean what those it started on mean, and a success proves them equivalent. -/
namespace LogicTutor

namespace Formula

variable {f g : Formula} {c : Connective}

theorem compose_one (hf : f.WellFormed) : compose c f none = .ok (.unary c f) := by
  cases f with
  | blank => exact hf.elim
  | _ => rfl

theorem compose_two (hf : f.WellFormed) (hg : g.WellFormed) :
    compose c f (some g) = .ok (.binary c f g) := by
  cases f with
  | blank => exact hf.elim
  | _ =>
    cases g with
    | blank => exact hg.elim
    | _ => rfl

theorem Proper.neg (hf : f.Proper) : (Formula.neg f).Proper := ⟨⟨rfl, hf.wellFormed⟩, hf.plain⟩

theorem Proper.binary (hc : c ≠ .not) (hf : f.Proper) (hg : g.Proper) :
    (Formula.binary c f g).Proper :=
  ⟨⟨hc, hf.wellFormed, hg.wellFormed⟩, over_binary.mpr ⟨hf.plain, hg.plain⟩⟩

theorem proper_const (b : Bool) : (Formula.const b).Proper := ⟨trivial, by simp [Leaf.Plain]⟩

theorem Equivalent.of_neg (h : (Formula.neg f).Equivalent (.neg g)) : f.Equivalent g :=
  fun v => Bool.not_inj (h v)

theorem Equivalent.of_imp (hfg : (Formula.imp f g).Equivalent (.const true))
    (hgf : (Formula.imp g f).Equivalent (.const true)) : f.Equivalent g := by
  intro v
  have h1 : (!f.holds v || g.holds v) = true := hfg v
  have h2 : (!g.holds v || f.holds v) = true := hgf v
  cases hf : f.holds v <;> cases hg : g.holds v <;> simp_all

end Formula

namespace Trail

variable {f g f' g' : Formula} {sts : List Step}

theorem equivalent (t : Trail Step.OfPair (f, g) sts (f', g')) (hf : f.Proper) (hg : g.Proper) :
    (f'.Proper ∧ f'.Equivalent f) ∧ g'.Proper ∧ g'.Equivalent g :=
  t.keeps (Law.kept_equivalent f) (Law.kept_equivalent g) ⟨hf, .refl f⟩ ⟨hg, .refl g⟩

theorem equivalent_one {goal : String} (t : Trail (Step.OfOne goal) f sts f') (hf : f.Proper) :
    f'.Proper ∧ f'.Equivalent f :=
  t.keeps_one (Law.kept_equivalent f) ⟨hf, .refl f⟩

end Trail

theorem Run.Passes.equivalent {r : Run} {k i : Nat} {f g : Formula} (h : r.Passes k i f g)
    (hr : r.success = true) (hf : f.Proper) (hg : g.Proper) : f.Equivalent g := by
  obtain ⟨⟨hf', hff⟩, hg', hgg⟩ := h.trail.equivalent hf hg
  have hs : r.final1.same r.final2 = true := h.success_eq ▸ hr
  exact hff.symm.trans ((hf'.equivalent_of_same hs hg').trans hgg)

namespace Prover

variable {σ : Type} {A : Advisor σ} {passes : Nat} {f g : Formula} {s s' : σ} {r : Run}

theorem guided_sound (h : guided A passes f g s = .ok (r, s')) (hr : r.success = true)
    (hf : f.Proper) (hg : g.Proper) : f.Equivalent g :=
  (guidedFrom_passes h).equivalent hr hf hg

theorem contrapositive_eq (hf : f.WellFormed) (hg : g.WellFormed) :
    contrapositive A passes f g s = guided A passes (.neg f) (.neg g) s := by
  simp only [contrapositive, Formula.compose_one hf, Formula.compose_one hg, ok_bind]

theorem assumption_eq (hf : f.WellFormed) (hg : g.WellFormed) :
    assumption f g = .ok (.binary .and f (.neg g)) := by
  have hn : (Formula.neg g).WellFormed := ⟨rfl, hg⟩
  simp only [assumption, Formula.compose_one hg, Formula.compose_two hf hn, ok_bind]

theorem twoWay_sound {t : TwoWay} (h : twoWay A passes f g s = .ok (t, s'))
    (ht : t.success = true) (hf : f.Proper) (hg : g.Proper) : f.Equivalent g := by
  have himp : Connective.imp ≠ .not := by decide
  unfold twoWay at h
  simp only [Formula.compose_two hf.wellFormed hg.wellFormed,
    Formula.compose_two hg.wellFormed hf.wellFormed, ok_bind] at h
  obtain ⟨⟨r, u⟩, hr, h⟩ := exists_of_bind_eq_ok h
  simp only at h
  split at h
  next hs =>
    obtain ⟨⟨q, w⟩, hq, h⟩ := exists_of_bind_eq_ok h
    cases h
    have hqs : q.success = true := by simpa [TwoWay.success, hs] using ht
    exact .of_imp (guided_sound hr hs (.binary himp hf hg) (Formula.proper_const true))
      (guided_sound hq hqs (.binary himp hg hf) (Formula.proper_const true))
  next =>
    cases h
    simp [TwoWay.success] at ht

/-- A success proves the equivalence, be it found at random, under guidance, by way of the
negations or by both implications. -/
theorem equivalent_of_success (A : Advisor σ) (passes : Nat) (s : σ) (hf : f.Proper)
    (hg : g.Proper) :
    ((random A passes f g s).1.success = true → f.Equivalent g) ∧
    (∀ r s', guided A passes f g s = .ok (r, s') → r.success = true → f.Equivalent g) ∧
    (∀ r s', contrapositive A passes f g s = .ok (r, s') → r.success = true → f.Equivalent g) ∧
    (∀ t s', twoWay A passes f g s = .ok (t, s') → t.success = true → f.Equivalent g) := by
  refine ⟨fun hr => ?_, fun r s' h hr => guided_sound h hr hf hg, fun r s' h hr => ?_,
    fun t s' h ht => twoWay_sound h ht hf hg⟩
  · exact (randomFrom_passes A passes 0 f g s).equivalent hr hf hg
  · rw [contrapositive_eq hf.wellFormed hg.wellFormed] at h
    exact .of_neg (guided_sound h hr hf.neg hg.neg)

/-- Counts up what it draws and names a side and a law that nobody knows. -/
def heedless : Advisor Nat where
  draw n := (n, n + 1)
  pair n _ _ := .ok ((7, "nothing"), n)
  single? := none

theorem equivalent_of_success_double_negation :
    let p : Formula := .var ⟨0, 0, "p"⟩
    let q : Formula := .neg (.neg (.var ⟨1, 0, "p"⟩))
    p.Proper ∧ q.Proper ∧ (random heedless 4 p q 1).1.success = true ∧
      (guided heedless 4 p q 1).toOption.map (·.1.success) = some true ∧
      (contrapositive heedless 4 p q 1).toOption.map (·.1.success) = some true ∧
      (twoWay heedless 4 p q 1).toOption.map (·.1.success) = some true ∧ p.Equivalent q := by
  intro p q
  have hp : p.Proper := by decide
  have hq : q.Proper := by decide
  have hr : (random heedless 4 p q 1).1.success = true := by decide
  exact ⟨hp, hq, hr, by decide, by decide, by decide,
    (equivalent_of_success heedless 4 1 hp hq).1 hr⟩

/-- Laws keep the meaning of properly built formulas along every path, so every run ends with
formulas that mean what those it started on mean. Where a law applies, one of its branches is
taken, and the formula is rewritten as the law says. -/
theorem rewriting_keeps_meaning (A : Advisor σ)
    (advise : σ → Formula → String → Except Fault (String × σ)) (goal : String) (passes : Nat)
    (s : σ) (law : Law) (p : Path) (hf : f.Proper) (hg : g.Proper) :
    ((law.applyAt f p).Proper ∧ (law.applyAt f p).Equivalent f) ∧
    ((law.apply f).Proper ∧ (law.apply f).Equivalent f) ∧
    ((random A passes f g s).1.final1.Equivalent f ∧
      (random A passes f g s).1.final2.Equivalent g) ∧
    (∀ r s', guided A passes f g s = .ok (r, s') →
      r.final1.Equivalent f ∧ r.final2.Equivalent g) ∧
    (∀ r s', simplify A advise goal passes f s = .ok (r, s') → r.final.Equivalent f) ∧
    ∀ k, law.applies k = true →
      law.transform? k = some (law.apply k) ∧ law.Rewrites k (law.apply k) := by
  have hpath (p : Path) : (law.applyAt f p).Proper ∧ (law.applyAt f p).Equivalent f := by
    rcases Law.applyAt_eq_or_rewritesInside law f p with h | h
    · exact h.symm ▸ ⟨hf, .refl f⟩
    · exact Law.kept_equivalent f law f _ h ⟨hf, .refl f⟩
  have hroot : law.applyAt f [] = law.apply f := by rw [Law.applyAt]
  refine ⟨hpath p, hroot ▸ hpath [], ?_, fun r s' h => ?_, fun r s' h => ?_, fun k hk =>
    ⟨Law.transform?_eq_some_apply hk, Law.apply_rewrites hk⟩⟩
  · have h := (randomFrom_passes A passes 0 f g s).trail.equivalent hf hg
    exact ⟨h.1.2, h.2.2⟩
  · have h := (guidedFrom_passes h).trail.equivalent hf hg
    exact ⟨h.1.2, h.2.2⟩
  · exact ((simplifyFrom_passes h).trail.equivalent_one hf).2

theorem rewriting_keeps_meaning_absorption :
    let p : Formula := .var ⟨0, 0, "p"⟩
    let q : Formula := .var ⟨0, 1, "q"⟩
    let f : Formula := .imp (p ||| q &&& p) q
    f.Proper ∧ Law.absorption.applyAt f [.left] = .imp p q ∧ (Formula.imp p q).Equivalent f ∧
      Law.absorption.applies (p ||| q &&& p) = true ∧
      Law.absorption.transform? (p ||| q &&& p) = some p ∧
      Law.absorption.Rewrites (p ||| q &&& p) p ∧
      (guided heedless 3 f q 1).toOption.map (·.1.steps.length) = some 3 ∧
      ∀ r s', guided heedless 3 f q 1 = .ok (r, s') →
        r.final1.Equivalent f ∧ r.final2.Equivalent q := by
  intro p q f
  have hf : f.Proper := by decide
  have hq : q.Proper := by decide
  have hat : Law.absorption.applyAt f [.left] = .imp p q := by decide
  have ha : Law.absorption.applies (p ||| q &&& p) = true := by decide
  obtain ⟨hpath, -, -, hruns, -, hrewrites⟩ := rewriting_keeps_meaning heedless
    (fun n _ _ => .ok ("nothing", n)) "F" 3 1 .absorption [.left] hf hq
  have hp : Law.absorption.apply (p ||| q &&& p) = p := by decide
  have hrewritten := hrewrites _ ha
  rw [hp] at hrewritten
  exact ⟨hf, hat, hat ▸ hpath.2, ha, hrewritten.1, hrewritten.2, by decide, hruns⟩

end Prover

end LogicTutor
