import LogicTutor.Proofs.Feature.Usefulness
import LogicTutor.Proofs.Prover.Soundness
import LogicTutor.Prover.Predictor

/-! Provers never get stuck: with somebody to advise them they come to an end on well-formed
formulas, whatever the advice is. -/
namespace LogicTutor

/-- As long as the state is of the kind `I`, the advisor answers every question about well-formed
formulas, and the state stays so. -/
structure Advisor.Answers {σ : Type} (A : Advisor σ) (I : σ → Prop) : Prop where
  draw : ∀ s, I s → I (A.draw s).2
  pair : ∀ s f g, I s → f.WellFormed → g.WellFormed → Yields (A.pair s f g) fun r => I r.2
  single : ∀ advise ∈ A.single?, ∀ s f goal, I s → f.WellFormed →
    Yields (advise s f goal) fun r => I r.2

variable {σ : Type} {A : Advisor σ} {I : σ → Prop} {s : σ} {f g : Formula}

namespace Advisor.Answers

variable {sides : List (Int × Formula)}

theorem choose {α : Type} {xs : List α} {o : Option α} {s' : σ} (hA : A.Answers I) (hs : I s)
    (h : A.choose xs s = (o, s')) : I s' := by
  cases xs with
  | nil =>
    cases h
    exact hs
  | cons x xs =>
    cases h
    exact hA.draw s hs

theorem drawn (hA : A.Answers I) (hs : I s) (side : Int) (law : Law) (f : Formula) :
    I (Move.drawn A side law f s).2 := by
  unfold Move.drawn
  split
  next hd => exact hA.choose hs hd
  next hd => exact hA.choose hs hd

theorem unadvised (hA : A.Answers I) (hs : I s) (sides : List (Int × Formula)) :
    I (Move.unadvised A sides s).2 := by
  unfold Move.unadvised
  split
  next => exact hA.drawn hs _ _ _
  next =>
    split
    next t hd => exact hA.drawn (hA.choose hs hd) _ _ _
    next t hd =>
      have ht : I (A.draw t).2 := hA.draw t (hA.choose hs hd)
      dsimp only
      split
      · split
        next hd' => exact hA.drawn (hA.choose ht hd') _ _ _
        next hd' => exact hA.choose ht hd'
      · exact ht

theorem advised (hA : A.Answers I) (hs : I s) {side : Int} {name : String} {m : Move} {s' : σ}
    (h : Move.advised A side name f s = some (m, s')) : I s' := by
  unfold Move.advised at h
  split at h
  next law _ =>
    split at h
    next =>
      have hd := hA.drawn hs side law f
      rwa [Option.some.inj h] at hd
    next => cases h
  next => cases h

end Advisor.Answers

namespace Prover

variable {m : Move} {i : Nat} {passes : Nat}

theorem guidedMove_yields (hA : A.Answers I) (hs : I s) (hf : f.WellFormed) (hg : g.WellFormed) :
    Yields (guidedMove A f g s) fun r => I r.2 := by
  refine (hA.pair s f g hs hf hg).bind fun r hr => ?_
  obtain ⟨⟨side, name⟩, t⟩ := r
  dsimp only
  split
  next hm => exact .ok (hA.advised hr hm)
  next => exact .ok (hA.unadvised hr _)

theorem simplifyingMove_yields {advise : σ → Formula → String → Except Fault (String × σ)}
    {goal : String} (hA : A.Answers I) (hadvise : advise ∈ A.single?) (hs : I s)
    (hf : f.WellFormed) : Yields (simplifyingMove A advise goal f s) fun r => I r.2 := by
  refine (hA.single advise hadvise s f goal hs hf).bind fun r hr => ?_
  obtain ⟨name, t⟩ := r
  dsimp only
  split
  next hm => exact .ok (hA.advised hr hm)
  next =>
    split
    next => exact .ok (hA.drawn hr _ _ _)
    next => exact .ok hr

theorem guidedFrom_yields (hA : A.Answers I) (k i : Nat) (hs : I s) (hf : f.WellFormed)
    (hg : g.WellFormed) : Yields (guidedFrom A k i f g s) fun r => I r.2 := by
  induction k generalizing i f g s with
  | zero => exact .ok hs
  | succ k ih =>
    obtain ⟨⟨m, t⟩, hm, ht⟩ := guidedMove_yields hA hs hf hg
    rw [guidedFrom, hm]
    split
    · exact .ok hs
    · cases m with
      | none => exact ih (i + 1) ht hf hg
      | some step =>
        obtain ⟨m, b⟩ := step
        have hw := (record_ofPair (guidedMove_changes hm) i (some b)).keeps Law.kept_wellFormed
          Law.kept_wellFormed ⟨hf, hg⟩
        obtain ⟨r, hr, hu⟩ := ih (i + 1) ht hw.1 hw.2
        dsimp only
        rw [hr]
        exact .ok hu

theorem simplifyFrom_yields {advise : σ → Formula → String → Except Fault (String × σ)}
    {goal : String} (hA : A.Answers I) (hadvise : advise ∈ A.single?) (k i : Nat) (hs : I s)
    (hf : f.WellFormed) : Yields (simplifyFrom A advise goal k i f s) fun r => I r.2 := by
  induction k generalizing i f s with
  | zero => exact .ok hs
  | succ k ih =>
    obtain ⟨⟨m, t⟩, hm, ht⟩ := simplifyingMove_yields hA hadvise hs hf
    rw [simplifyFrom, hm]
    split
    · exact .ok hs
    · cases m with
      | none => exact ih (i + 1) ht hf
      | some step =>
        obtain ⟨m, b⟩ := step
        have hw := (simplifyingMove_changes hm).rewritesInside.wellFormed hf
        obtain ⟨r, hr, hu⟩ := ih (i + 1) ht hw
        dsimp only
        rw [hr]
        exact .ok hu

theorem contrapositive_yields (hA : A.Answers I) (hs : I s) (hf : f.WellFormed)
    (hg : g.WellFormed) : Yields (contrapositive A passes f g s) fun r => I r.2 := by
  rw [contrapositive_eq hf hg]
  exact guidedFrom_yields hA passes 0 hs ⟨rfl, hf⟩ ⟨rfl, hg⟩

theorem absurdity_yields (hA : A.Answers I) (hs : I s) (hf : f.WellFormed) (hg : g.WellFormed) :
    Yields (absurdity A passes f g s) fun r => I r.2 := by
  have ha : (Formula.binary .and f (.neg g)).WellFormed := ⟨by decide, hf, rfl, hg⟩
  rw [absurdity, assumption_eq hf hg, ok_bind]
  split
  next advise hsingle =>
    exact (simplifyFrom_yields hA hsingle passes 0 hs ha).bind fun _ hu => .ok hu
  next => exact guidedFrom_yields hA passes 0 hs ha trivial

theorem inTurn_yields (hA : A.Answers I) (hs : I s) (hf : f.WellFormed) (hg : g.WellFormed) :
    Yields (inTurn A passes f g s) fun r => I r.2 := by
  refine (guidedFrom_yields hA passes 0 hs hf hg).bind fun d hd => ?_
  dsimp only
  split
  · exact .ok hd
  · refine (contrapositive_yields hA hd hf hg).bind fun c hc => ?_
    split
    · exact .ok hc
    · exact (absurdity_yields hA hc hf hg).bind fun a ha => .ok ha

end Prover

namespace Session

variable {γ : Type}

/-- Somebody advises on pairs, and nobody who advises lacks training. -/
structure Ready (s : Session γ) : Prop where
  pair : ∃ p, s.pair = some p ∧ p ≠ .untrained
  single : s.single ≠ some .untrained

theorem draw_keeps [Source γ] (s : Session γ) :
    s.draw.2.pair = s.pair ∧ s.draw.2.single = s.single := by
  unfold draw
  obtain ⟨n, g⟩ := Source.draw s.chance
  exact ⟨rfl, rfl⟩

theorem advisePair_yields {s : Session γ} (h : ∃ p, s.pair = some p ∧ p ≠ .untrained)
    (hf : f.WellFormed) (hg : g.WellFormed) :
    Yields (s.advisePair (.compound f) (.compound g)) fun r =>
      r.2.pair = s.pair ∧ r.2.single = s.single := by
  obtain ⟨p, hp, ht⟩ := h
  unfold advisePair
  cases p with
  | script moves =>
    rw [hp]
    exact .ok ⟨rfl, rfl⟩
  | trained classes classify =>
    rw [hp]
    exact (Feature.pairRow_yields hf hg s.values).bind fun _ _ => .ok ⟨rfl, rfl⟩
  | untrained => exact absurd rfl ht

theorem adviseSingle_yields {s : Session γ} (hsome : s.single.isSome = true)
    (h : s.single ≠ some .untrained) (hf : f.WellFormed) (goal : String) :
    Yields (s.adviseSingle (.compound f) goal) fun r =>
      r.2.pair = s.pair ∧ r.2.single = s.single := by
  obtain ⟨p, hp⟩ := Option.isSome_iff_exists.mp hsome
  unfold adviseSingle
  cases p with
  | script moves =>
    rw [hp]
    exact .ok ⟨rfl, rfl⟩
  | trained classes classify =>
    rw [hp]
    exact (Feature.singleRow_yields hf goal s.values).bind fun _ _ => .ok ⟨rfl, rfl⟩
  | untrained => exact absurd hp h

/-- A session that is ready answers every question, and no answer changes who is asked. -/
theorem Ready.answers [Source γ] {s : Session γ} (hs : s.Ready) :
    s.advisor.Answers fun u => u.pair = s.pair ∧ u.single = s.single where
  draw u hu := ⟨(draw_keeps u).1.trans hu.1, (draw_keeps u).2.trans hu.2⟩
  pair u f g hu hf hg := by
    obtain ⟨r, hr, hp, hq⟩ := advisePair_yields (hu.1 ▸ hs.pair) hf hg
    exact ⟨r, hr, hp.trans hu.1, hq.trans hu.2⟩
  single advise hadvise u f goal hu hf := by
    unfold advisor at hadvise
    split at hadvise
    next hsome =>
      cases hadvise
      obtain ⟨r, hr, hp, hq⟩ := adviseSingle_yields (hu.2 ▸ hsome) (hu.2 ▸ hs.single) hf goal
      exact ⟨r, hr, hp.trans hu.1, hq.trans hu.2⟩
    next => cases hadvise

end Session

end LogicTutor
