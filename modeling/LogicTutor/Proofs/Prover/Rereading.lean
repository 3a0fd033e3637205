import Mathlib
import LogicTutor.Proofs.Formula.RoundTrip
import LogicTutor.Proofs.Prover.Soundness
import LogicTutor.Prover.Optimiser

/-! The formulas that provers write down are read back as they were, so none of the formulas a
proof passed through is lost to the optimiser. -/
namespace LogicTutor

namespace Formula.Legible

variable {f g : Formula} {c : Connective}

theorem neg (hf : f.Legible) : (Formula.neg f).Legible := ⟨⟨rfl, hf.wellFormed⟩, hf.nameable⟩

theorem binary (hc : c ≠ .not) (hf : f.Legible) (hg : g.Legible) :
    (Formula.binary c f g).Legible :=
  ⟨⟨hc, hf.wellFormed, hg.wellFormed⟩, over_binary.mpr ⟨hf.nameable, hg.nameable⟩⟩

theorem const (b : Bool) : (Formula.const b).Legible := ⟨trivial, over_leaf.mpr trivial⟩

end Formula.Legible

theorem Law.kept_legible : Law.Kept Formula.Legible := fun law f g h hf =>
  ⟨h.wellFormed hf.wellFormed, kept_over (fun _ => trivial) law f g h hf.nameable⟩

/-- The step wrote the formula `k`: its result reads back as `k`, and the optimiser takes `k` for
a waypoint unless it is a leaf. -/
structure Step.Rereads (st : Step) (k : Formula) : Prop where
  written : st.result = k.text
  read : ∀ reading, Formula.parse reading st.result = .ok (k.withReading reading)
  waypoint : ∀ reading, Waypoint.ofMilestone? reading (.ofStep st) =
    if k.isLeaf then none else some ⟨st.iteration, k.withReading reading, st.result⟩

theorem Formula.Legible.rereads {st : Step} {k : Formula} (hk : k.Legible)
    (h : st.result = k.text) : st.Rereads k := by
  have hp (reading : Nat) : Formula.parse reading st.result = .ok (k.withReading reading) :=
    h ▸ hk.parse_text reading
  refine ⟨h, hp, fun reading => ?_⟩
  unfold Waypoint.ofMilestone? Milestone.ofStep
  simp only [hp]
  cases k <;> rfl

/-- What each step shows in addition, as long as an invariant holds. -/
theorem Trail.refine {α : Type} {R Q : Step → α → α → Prop} {P : α → Prop} {a b : α}
    {sts : List Step} (t : Trail R a sts b) (hR : ∀ st a b, R st a b → P a → P b ∧ Q st a b)
    (ha : P a) : Trail (fun st a b => R st a b ∧ Q st a b) a sts b := by
  induction t with
  | nil a => exact .nil a
  | cons h t ih =>
    obtain ⟨hb, hq⟩ := hR _ _ _ h ha
    exact .cons ⟨h, hq⟩ (ih hb)

/-- The record of the run leads from `f` and `g` to the formulas at its end, and each step wrote
the formula that it changed. -/
def Run.Rereads (r : Run) (f g : Formula) : Prop :=
  Trail (fun st a b => st.OfPair a b ∧ st.Rereads (Prover.sideOf st.side b.1 b.2)) (f, g) r.steps
    (r.final1, r.final2)

/-- The record of the reduction leads from `f` to the formula at its end, and each step wrote the
formula as it then was. -/
def Reduction.Rereads (r : Reduction) (goal : String) (f : Formula) : Prop :=
  Trail (fun st a b => st.OfOne goal a b ∧ st.Rereads b) f r.steps r.final

namespace Trail

variable {f g f' g' : Formula} {sts : List Step}

theorem rereads {r : Run} (t : Trail Step.OfPair (f, g) r.steps (r.final1, r.final2))
    (hf : f.Legible) (hg : g.Legible) : r.Rereads f g := by
  refine t.refine (P := fun p => p.1.Legible ∧ p.2.Legible) (fun st a b h ha => ?_) ⟨hf, hg⟩
  have hb := h.keeps Law.kept_legible Law.kept_legible ha
  refine ⟨hb, ?_⟩
  unfold Prover.sideOf
  rcases h.change with ⟨hs, ht, -⟩ | ⟨hs, ht, -⟩
  · rw [if_pos hs]
    exact hb.1.rereads ht.result
  · rw [if_neg hs]
    exact hb.2.rereads ht.result

theorem rereads_one {r : Reduction} {goal : String}
    (t : Trail (Step.OfOne goal) f r.steps r.final) (hf : f.Legible) : r.Rereads goal f := by
  refine t.refine (fun st a b h ha => ?_) hf
  have hb := Law.kept_legible _ _ _ h.tells.rewritesInside ha
  exact ⟨hb, hb.rereads h.tells.result⟩

/-- A record of one formula is one of two formulas, the second of which is the goal. -/
theorem beside {goal : String} (t : Trail (Step.OfOne goal) f sts f') (hg : g.text = goal) :
    Trail Step.OfPair (f, g) sts (f', g) := by
  induction t with
  | nil f => exact .nil (f, g)
  | cons h t ih =>
    refine .cons ?_ ih
    exact ⟨.inl ⟨h.side, h.tells, rfl⟩, h.first, h.second.trans hg.symm⟩

end Trail

namespace Prover

variable {σ : Type} {A : Advisor σ} {passes : Nat} {f g : Formula} {s s' : σ} {r : Run}

theorem guided_rereads (h : guided A passes f g s = .ok (r, s')) (hf : f.Legible)
    (hg : g.Legible) : r.Rereads f g :=
  (guidedFrom_passes h).trail.rereads hf hg

theorem contrapositive_rereads (h : contrapositive A passes f g s = .ok (r, s')) (hf : f.Legible)
    (hg : g.Legible) : r.Rereads (.neg f) (.neg g) := by
  rw [contrapositive_eq hf.wellFormed hg.wellFormed] at h
  exact guided_rereads h hf.neg hg.neg

theorem absurdity_rereads (h : absurdity A passes f g s = .ok (r, s')) (hf : f.Legible)
    (hg : g.Legible) : r.Rereads (.binary .and f (.neg g)) (.const false) := by
  have ha : (Formula.binary .and f (.neg g)).Legible := .binary (by decide) hf hg.neg
  rw [absurdity, assumption_eq hf.wellFormed hg.wellFormed, ok_bind] at h
  split at h
  next advise =>
    obtain ⟨⟨q, u⟩, hq, h⟩ := exists_of_bind_eq_ok h
    cases h
    exact Trail.rereads ((simplifyFrom_passes hq).trail.beside rfl) ha (.const false)
  next => exact guided_rereads h ha (.const false)

theorem twoWay_rereads {t : TwoWay} (h : twoWay A passes f g s = .ok (t, s')) (hf : f.Legible)
    (hg : g.Legible) : t.forward.Rereads (.imp f g) (.const true) ∧
      ∀ r ∈ t.backward, r.Rereads (.imp g f) (.const true) := by
  have himp : Connective.imp ≠ .not := by decide
  unfold twoWay at h
  simp only [Formula.compose_two hf.wellFormed hg.wellFormed,
    Formula.compose_two hg.wellFormed hf.wellFormed, ok_bind] at h
  obtain ⟨⟨r, u⟩, hr, h⟩ := exists_of_bind_eq_ok h
  have hfirst := guided_rereads hr (.binary himp hf hg) (.const true)
  simp only at h
  split at h
  next =>
    obtain ⟨⟨q, w⟩, hq, h⟩ := exists_of_bind_eq_ok h
    cases h
    exact ⟨hfirst, by simpa using guided_rereads hq (.binary himp hg hf) (.const true)⟩
  next =>
    cases h
    exact ⟨hfirst, by simp⟩

theorem inTurn_rereads {c : Campaign} (h : inTurn A passes f g s = .ok (c, s')) (hf : f.Legible)
    (hg : g.Legible) : c.direct.Rereads f g ∧
      (∀ r ∈ c.contrapositive, r.Rereads (.neg f) (.neg g)) ∧
      ∀ r ∈ c.absurdity, r.Rereads (.binary .and f (.neg g)) (.const false) := by
  unfold inTurn at h
  obtain ⟨⟨d, u⟩, hd, h⟩ := exists_of_bind_eq_ok h
  have hdirect := guided_rereads hd hf hg
  simp only at h
  split at h
  next =>
    cases h
    exact ⟨hdirect, by simp, by simp⟩
  next =>
    obtain ⟨⟨q, w⟩, hq, h⟩ := exists_of_bind_eq_ok h
    have hcontra := contrapositive_rereads hq hf hg
    simp only at h
    split at h
    next =>
      cases h
      exact ⟨hdirect, by simpa using hcontra, by simp⟩
    next =>
      obtain ⟨⟨a, w'⟩, ha, h⟩ := exists_of_bind_eq_ok h
      cases h
      exact ⟨hdirect, by simpa using hcontra, by simpa using absurdity_rereads ha hf hg⟩

/-- Reading undoes writing. A legible formula is read back from its text, so that texts tell
formulas apart exactly as comparing them node by node does; what has been read is read again from
its own text; and every formula that a prover writes down on the way from formulas that were read
is read back as it was, so the optimiser loses none of them. -/
theorem parse_text_round_trip (reading : Nat) :
    (∀ t : Formula, t.Legible → Formula.parse reading t.text = .ok (t.withReading reading) ∧
      (t.withReading reading).same t = true) ∧
    (∀ t u : Formula, t.Legible → u.Legible →
      (t.text = u.text ↔ t.withReading reading = u.withReading reading) ∧
      (t.same u = true ↔ t.text = u.text)) ∧
    (∀ s t, Formula.parse reading s = .ok t → t.Legible ∧ Formula.parse reading t.text = .ok t) ∧
    ∀ {σ : Type} (A : Advisor σ) (advise : σ → Formula → String → Except Fault (String × σ))
      (goal : String) (passes : Nat) (s : σ) (m n : Nat) (p q : String) (f g : Formula),
      Formula.parse m p = .ok f → Formula.parse n q = .ok g →
      (random A passes f g s).1.Rereads f g ∧
      (∀ r s', guided A passes f g s = .ok (r, s') → r.Rereads f g) ∧
      (∀ r s', contrapositive A passes f g s = .ok (r, s') → r.Rereads (.neg f) (.neg g)) ∧
      (∀ r s', absurdity A passes f g s = .ok (r, s') →
        r.Rereads (.binary .and f (.neg g)) (.const false)) ∧
      (∀ r s', simplify A advise goal passes f s = .ok (r, s') → r.Rereads goal f) ∧
      (∀ t s', twoWay A passes f g s = .ok (t, s') →
        t.forward.Rereads (.imp f g) (.const true) ∧
        ∀ r ∈ t.backward, r.Rereads (.imp g f) (.const true)) ∧
      ∀ c s', inTurn A passes f g s = .ok (c, s') → c.direct.Rereads f g ∧
        (∀ r ∈ c.contrapositive, r.Rereads (.neg f) (.neg g)) ∧
        ∀ r ∈ c.absurdity, r.Rereads (.binary .and f (.neg g)) (.const false) := by
  refine ⟨fun t ht => ⟨ht.parse_text reading, ?_⟩, fun t u ht hu => ⟨⟨fun h => ?_, fun h => ?_⟩,
    ht.same_iff hu⟩, fun s t h => ?_, fun A advise goal passes s m n p q f g hf hg => ?_⟩
  · rw [Formula.same_withReading, Formula.same_self ht.wellFormed]
  · have hp := ht.parse_text reading
    rw [h, hu.parse_text reading] at hp
    exact (Except.ok.inj hp).symm
  · exact (ht.same_iff hu).mp (Formula.same_of_withReading_eq h hu.wellFormed)
  · obtain ⟨ht, hr⟩ := Formula.legible_of_parse h
    exact ⟨ht, (ht.parse_text reading).trans (congrArg Except.ok hr)⟩
  · have hf := (Formula.legible_of_parse hf).1
    have hg := (Formula.legible_of_parse hg).1
    exact ⟨(randomFrom_passes A passes 0 f g s).trail.rereads hf hg,
      fun r s' h => guided_rereads h hf hg, fun r s' h => contrapositive_rereads h hf hg,
      fun r s' h => absurdity_rereads h hf hg,
      fun r s' h => (simplifyFrom_passes h).trail.rereads_one hf,
      fun t s' h => twoWay_rereads h hf hg, fun c s' h => inTurn_rereads h hf hg⟩

theorem parse_text_round_trip_spellings :
    let f : Formula := .imp (.var ⟨0, 0, "p"⟩) (.neg (.neg (.var ⟨0, 1, "q1"⟩ &&& .const true)))
    let g : Formula := .neg (.var ⟨1, 0, "q1"⟩) ||| .var ⟨1, 1, "p"⟩
    Formula.parse 0 "p => !!(q1 & true)" = .ok f ∧ Formula.parse 1 "not q1 v p" = .ok g ∧
      f.Legible ∧ Formula.parse 0 "(p → (¬(¬(q1 ^ T))))" = .ok f ∧
      (random heedless 3 f g 1).1.steps.length = 3 ∧ (random heedless 3 f g 1).1.Rereads f g := by
  intro f g
  have hf : Formula.parse 0 "p => !!(q1 & true)" = .ok f := by cbv
  have hg : Formula.parse 1 "not q1 v p" = .ok g := by cbv
  have ht : f.text = "(p → (¬(¬(q1 ^ T))))" := by decide
  obtain ⟨hread, -, hagain, hruns⟩ := parse_text_round_trip 0
  have hl : f.Legible := (hagain _ f hf).1
  refine ⟨hf, hg, hl, ht ▸ (hread f hl).1, by decide, ?_⟩
  exact (hruns heedless (fun n _ _ => .ok ("nothing", n)) "F" 3 1 0 1 _ _ f g hf hg).1

end Prover

end LogicTutor
