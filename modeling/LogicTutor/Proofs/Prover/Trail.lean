import LogicTutor.Proofs.Prover.Moves

/-! The record of a prover as a derivation: read from the formulas that the prover started on,
each recorded step tells one change, and the last leads to the formulas it ended with. -/
namespace LogicTutor

/-- A record that leads from one state to another, each step by a change that `R` allows. -/
inductive Trail {α : Type} (R : Step → α → α → Prop) : α → List Step → α → Prop where
  | nil (a : α) : Trail R a [] a
  | cons {a b c : α} {st : Step} {sts : List Step} (h : R st a b) (t : Trail R b sts c) :
      Trail R a (st :: sts) c

namespace Trail

variable {α : Type} {R : Step → α → α → Prop} {a b : α} {sts : List Step}

theorem invariant {P : α → Prop} (t : Trail R a sts b)
    (hR : ∀ st a b, R st a b → P a → P b) (ha : P a) : P b := by
  induction t with
  | nil => exact ha
  | cons h t ih => exact ih (hR _ _ _ h ha)

end Trail

namespace Step

/-- The step tells how `f` became `f'`: by its law, at a position where that applies. -/
structure Tells (st : Step) (f f' : Formula) : Prop where
  change : ∃ p ∈ st.law.positions f, f' = st.law.applyAt f p ∧ st.matched = Law.shownAt f p
  result : st.result = f'.text

/-- The step tells of a change to one of two formulas and shows both as they are after it. -/
structure OfPair (st : Step) (a b : Formula × Formula) : Prop where
  change : st.side = 1 ∧ st.Tells a.1 b.1 ∧ b.2 = a.2 ∨ st.side ≠ 1 ∧ st.Tells a.2 b.2 ∧ b.1 = a.1
  first : st.first = b.1.text
  second : st.second = b.2.text

/-- The step tells of a change to the only formula and shows the goal beside it. -/
structure OfOne (goal : String) (st : Step) (f f' : Formula) : Prop where
  side : st.side = 1
  tells : st.Tells f f'
  first : st.first = f'.text
  second : st.second = goal

variable {st : Step}

theorem Tells.rewritesInside {f f' : Formula} (h : st.Tells f f') :
    st.law.RewritesInside f f' := by
  obtain ⟨p, hp, rfl, -⟩ := h.change
  exact Law.rewritesInside_of_mem_positions hp

/-- What every law keeps of a formula, a step keeps of the two formulas. -/
theorem OfPair.keeps {P Q : Formula → Prop} {a b : Formula × Formula} (h : st.OfPair a b)
    (hP : Law.Kept P) (hQ : Law.Kept Q) (ha : P a.1 ∧ Q a.2) : P b.1 ∧ Q b.2 := by
  rcases h.change with ⟨-, ht, he⟩ | ⟨-, ht, he⟩
  · exact ⟨hP _ _ _ ht.rewritesInside ha.1, he ▸ ha.2⟩
  · exact ⟨he ▸ ha.1, hQ _ _ _ ht.rewritesInside ha.2⟩

end Step

theorem Trail.keeps {P Q : Formula → Prop} {f g f' g' : Formula} {sts : List Step}
    (t : Trail Step.OfPair (f, g) sts (f', g')) (hP : Law.Kept P) (hQ : Law.Kept Q) (hf : P f)
    (hg : Q g) : P f' ∧ Q g' :=
  t.invariant (P := fun p => P p.1 ∧ Q p.2) (fun _ _ _ h => h.keeps hP hQ) ⟨hf, hg⟩

theorem Trail.keeps_one {P : Formula → Prop} {goal : String} {f f' : Formula} {sts : List Step}
    (t : Trail (Step.OfOne goal) f sts f') (hP : Law.Kept P) (hf : P f) : P f' :=
  t.invariant (fun _ _ _ h => hP _ _ _ h.tells.rewritesInside) hf

/-- What came of the passes numbered from `i` on, at most `k` of them: a record that leads from
the state `a` to the state `b`, its steps numbered in order by the passes that made them, and a
success exactly if the aim is reached in the end. -/
structure Passes {α : Type} (R : Step → α → α → Prop) (aim : α → Bool) (k i : Nat) (a : α)
    (success : Bool) (iterations : Nat) (steps : List Step) (b : α) : Prop where
  trail : Trail R a steps b
  success_eq : success = aim b
  le_iterations : i ≤ iterations
  iterations_le : iterations ≤ i + k
  ordered : (steps.map Step.iteration).Pairwise (· < ·)
  within : ∀ st ∈ steps, i ≤ st.iteration ∧ st.iteration < iterations

namespace Passes

variable {α : Type} {R : Step → α → α → Prop} {aim : α → Bool} {k i n : Nat} {a b c : α}
  {success : Bool} {steps : List Step}

theorem stopped (k i : Nat) (a : α) : Passes R aim k i a (aim a) i [] a where
  trail := .nil a
  success_eq := rfl
  le_iterations := Nat.le_refl i
  iterations_le := Nat.le_add_right i k
  ordered := .nil
  within := by simp

/-- A pass in which nothing is done. -/
theorem idle (h : Passes R aim k (i + 1) a success n steps b) :
    Passes R aim (k + 1) i a success n steps b where
  trail := h.trail
  success_eq := h.success_eq
  le_iterations := Nat.le_of_succ_le h.le_iterations
  iterations_le := by have := h.iterations_le; omega
  ordered := h.ordered
  within st hst := by have := h.within st hst; omega

/-- A pass that makes one step. -/
theorem after {st : Step} (hst : R st a b) (hi : st.iteration = i)
    (h : Passes R aim k (i + 1) b success n steps c) :
    Passes R aim (k + 1) i a success n (st :: steps) c where
  trail := .cons hst h.trail
  success_eq := h.success_eq
  le_iterations := Nat.le_of_succ_le h.le_iterations
  iterations_le := by have := h.iterations_le; omega
  ordered := by
    refine List.pairwise_cons.mpr ⟨?_, h.ordered⟩
    rintro _ hj
    obtain ⟨st', hst', rfl⟩ := List.mem_map.mp hj
    have := h.within st' hst'
    omega
  within st' hst' := by
    have hn := h.le_iterations
    rcases List.mem_cons.mp hst' with rfl | hst'
    · omega
    · have := h.within st' hst'
      omega

end Passes

/-- The passes of a prover that works on two formulas until they read alike. -/
abbrev Run.Passes (r : Run) (k i : Nat) (f g : Formula) : Prop :=
  LogicTutor.Passes Step.OfPair (fun p => p.1.same p.2) k i (f, g) r.success r.iterations r.steps
    (r.final1, r.final2)

/-- The passes of a prover that works on one formula until it is the constant of the goal. -/
abbrev Reduction.Passes (r : Reduction) (goal : String) (k i : Nat) (f : Formula) : Prop :=
  LogicTutor.Passes (Step.OfOne goal) (Prover.reached goal) k i f r.success r.iterations r.steps
    r.final

namespace Prover

variable {σ : Type} {A : Advisor σ} {f g : Formula} {m : Move}

theorem record_ofPair (hm : m.Changes (sideOf m.side f g)) (i : Nat) (guided : Option Bool) :
    (record i guided m f g).OfPair (f, g) (advance m f g) := by
  unfold sideOf at hm
  by_cases hs : m.side = 1
  · rw [if_pos hs] at hm
    have ht : (record i guided m f g).Tells f (advance m f g).1 := by
      simp only [advance, hs, ↓reduceIte]
      exact ⟨hm, rfl⟩
    exact ⟨.inl ⟨hs, ht, by simp [advance, hs]⟩, rfl, rfl⟩
  · rw [if_neg hs] at hm
    have ht : (record i guided m f g).Tells g (advance m f g).2 := by
      simp only [advance, hs, ↓reduceIte]
      exact ⟨hm, rfl⟩
    exact ⟨.inr ⟨hs, ht, by simp [advance, hs]⟩, rfl, rfl⟩

theorem randomFrom_passes (A : Advisor σ) (k i : Nat) (f g : Formula) (s : σ) :
    (randomFrom A k i f g s).1.Passes k i f g := by
  induction k generalizing i f g s with
  | zero => exact .stopped 0 i (f, g)
  | succ k ih =>
    rw [randomFrom]
    split
    next hs => exact hs ▸ .stopped (k + 1) i (f, g)
    · simp only
      split
      next t hm => exact .idle (ih _ _ _ _)
      next m t hm =>
        obtain ⟨x, hx, hs, hc⟩ := Move.unadvised_changes (congrArg Prod.fst hm)
        obtain rfl := List.mem_singleton.mp hx
        refine .after (record_ofPair ?_ i none) rfl (ih _ _ _ _)
        rw [hs]
        exact hc

theorem guidedFrom_passes {k i : Nat} {s s' : σ} {r : Run}
    (h : guidedFrom A k i f g s = .ok (r, s')) : r.Passes k i f g := by
  induction k generalizing i f g s r with
  | zero =>
    cases h
    exact .stopped 0 i (f, g)
  | succ k ih =>
    rw [guidedFrom] at h
    split at h
    next hs =>
      cases h
      exact hs ▸ .stopped (k + 1) i (f, g)
    · split at h
      next => cases h
      next t hm => exact .idle (ih h)
      next m guided t hm =>
        simp only at h
        split at h
        next => cases h
        next q t' hq =>
          cases h
          exact .after (record_ofPair (guidedMove_changes hm) i (some guided)) rfl (ih hq)

theorem simplifyFrom_passes {advise : σ → Formula → String → Except Fault (String × σ)}
    {goal : String} {k i : Nat} {s s' : σ} {r : Reduction}
    (h : simplifyFrom A advise goal k i f s = .ok (r, s')) : r.Passes goal k i f := by
  induction k generalizing i f s r with
  | zero =>
    cases h
    exact .stopped 0 i f
  | succ k ih =>
    rw [simplifyFrom] at h
    split at h
    next hs =>
      cases h
      exact hs ▸ .stopped (k + 1) i f
    · split at h
      next => cases h
      next t hm => exact .idle (ih h)
      next m guided t hm =>
        split at h
        next => cases h
        next q t' hq =>
          cases h
          exact .after ⟨rfl, ⟨simplifyingMove_changes hm, rfl⟩, rfl, rfl⟩ rfl (ih hq)

end Prover

end LogicTutor
