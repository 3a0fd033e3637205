import LogicTutor.Proofs.Prover.Soundness
import LogicTutor.Prover.Optimiser

/-! What a success shows that is not sought by making two formulas the same. Simplification to a
constant shows that the formula always has that value. Hence absurdity shows that one formula
entails the other, but not the converse, and a campaign shows no more than the strategy that won
it. -/
namespace LogicTutor

namespace Formula

variable {f g : Formula}

/-- Whatever makes `f` true makes `g` true. -/
def Entails (f g : Formula) : Prop := ∀ v, f.holds v = true → g.holds v = true

theorem Equivalent.entails (h : f.Equivalent g) : f.Entails g := fun v hf => (h v).symm.trans hf

theorem entails_of_absurd (h : ∀ v, (Formula.binary .and f (.neg g)).holds v = false) :
    f.Entails g := by
  intro v hf
  have hv : (f.holds v && !g.holds v) = false := h v
  simpa [hf] using hv

end Formula

namespace Strategy

/-- What a success of the strategy shows of the two formulas. -/
def Shows (f g : Formula) : Strategy → Prop
  | .direct => f.Equivalent g
  | .contrapositive => f.Equivalent g
  | .absurdity => f.Entails g

variable {f g : Formula} {m : Strategy}

theorem Shows.entails (h : m.Shows f g) : f.Entails g := by
  cases m with
  | direct => exact h.entails
  | contrapositive => exact h.entails
  | absurdity => exact h

theorem Shows.equivalent (h : m.Shows f g) (hm : m ≠ .absurdity) : f.Equivalent g := by
  cases m with
  | direct => exact h
  | contrapositive => exact h
  | absurdity => exact absurd rfl hm

end Strategy

namespace Optimised

/-- There was a proof to optimise. -/
def success (p : Optimised) : Bool := p.optimisation.isSome

/-- The strategy of the proof that was found first, with its run. -/
def winner? (p : Optimised) : Option (Strategy × Run) :=
  if p.direct.success then some (.direct, p.direct) else p.campaign.bind Campaign.winner?

end Optimised

namespace Prover

variable {σ : Type} {A : Advisor σ} {passes tries : Nat} {f g : Formula} {s s' : σ} {r : Run}
  {advise : σ → Formula → String → Except Fault (String × σ)} {goal : String}

/-- The goal is the name of the constant, in capitals or not. -/
def Names (goal : String) : Bool → Prop
  | true => goal = "T" ∨ goal = "t"
  | false => goal = "F" ∨ goal = "f"

theorem reached_iff : reached goal f = true ↔ ∃ b, Names goal b ∧ f = .const b := by
  simp only [reached, Bool.or_eq_true, Bool.and_eq_true, beq_iff_eq]
  constructor
  · rintro (⟨hgoal, hf⟩ | ⟨hgoal, hf⟩)
    · exact ⟨false, hgoal, Law.eq_const_of_isFalse hf⟩
    · exact ⟨true, hgoal, Law.eq_const_of_isTrue hf⟩
  · rintro ⟨b, hgoal, rfl⟩
    cases b with
    | false => exact .inl ⟨hgoal, rfl⟩
    | true => exact .inr ⟨hgoal, rfl⟩

theorem simplify_sound {r : Reduction} (h : simplify A advise goal passes f s = .ok (r, s'))
    (hr : r.success = true) (hf : f.Proper) : ∃ b, Names goal b ∧ ∀ v, f.holds v = b := by
  have hp := simplifyFrom_passes h
  obtain ⟨b, hgoal, hb⟩ := reached_iff.mp (hp.success_eq ▸ hr)
  have he := (hp.trail.equivalent_one hf).2
  rw [hb] at he
  exact ⟨b, hgoal, fun v => (he v).symm⟩

theorem absurdity_sound (h : absurdity A passes f g s = .ok (r, s')) (hr : r.success = true)
    (hf : f.Proper) (hg : g.Proper) : f.Entails g := by
  have ha : (Formula.binary .and f (.neg g)).Proper := .binary (by decide) hf hg.neg
  rw [absurdity, assumption_eq hf.wellFormed hg.wellFormed, ok_bind] at h
  split at h
  next advise _ =>
    obtain ⟨⟨q, u⟩, hq, h⟩ := exists_of_bind_eq_ok h
    cases h
    obtain ⟨b, hgoal, hb⟩ := simplify_sound hq hr ha
    -- The goal is "F", which names falsehood and nothing else.
    cases b with
    | false => exact Formula.entails_of_absurd hb
    | true => exact absurd hgoal (by simp [Names])
  next => exact Formula.entails_of_absurd (guided_sound h hr ha (Formula.proper_const false))

theorem contrapositive_sound (h : contrapositive A passes f g s = .ok (r, s'))
    (hr : r.success = true) (hf : f.Proper) (hg : g.Proper) : f.Equivalent g := by
  rw [contrapositive_eq hf.wellFormed hg.wellFormed] at h
  exact .of_neg (guided_sound h hr hf.neg hg.neg)

/-- A simplification that succeeds was to reach a constant, and the formula always has the value
of that constant. An absurdity that succeeds shows an entailment, whoever gave the advice. -/
theorem simplification_and_absurdity_sound (A : Advisor σ)
    (advise : σ → Formula → String → Except Fault (String × σ)) (goal : String) (passes : Nat)
    (s : σ) (hf : f.Proper) (hg : g.Proper) :
    (∀ r s', simplify A advise goal passes f s = .ok (r, s') → r.success = true →
      ∃ b, Names goal b ∧ ∀ v, f.holds v = b) ∧
    ∀ r s', absurdity A passes f g s = .ok (r, s') → r.success = true → f.Entails g :=
  ⟨fun _ _ h hr => simplify_sound h hr hf, fun _ _ h hr => absurdity_sound h hr hf hg⟩

theorem simplification_and_absurdity_sound_complement :
    let p : Formula := .var ⟨0, 0, "p"⟩
    let q : Formula := p ||| .neg p
    let advise : Nat → Formula → String → Except Fault (String × Nat) :=
      fun n _ _ => .ok ("complement", n)
    let A : Advisor Nat := { heedless with single? := some advise }
    p.Proper ∧ q.Proper ∧ Yields (simplify A advise "t" 1 q 1) (fun r => r.1.success = true) ∧
      (∀ v, q.holds v = true) ∧ Yields (absurdity A 3 p q 1) (fun r => r.1.success = true) ∧
      Yields (absurdity heedless 3 p q 1) (fun r => r.1.success = true) ∧ p.Entails q := by
  intro p q advise A
  have hp : p.Proper := by decide
  have hq : q.Proper := by decide
  have hsimplify : Yields (simplify A advise "t" 1 q 1) (fun r => r.1.success = true) := by decide
  have hadvised : Yields (absurdity A 3 p q 1) (fun r => r.1.success = true) := by decide
  obtain ⟨⟨r, s⟩, hr, hrs⟩ := hsimplify
  obtain ⟨⟨u, t⟩, hu, hus⟩ := hadvised
  obtain ⟨b, hgoal, hb⟩ :=
    (simplification_and_absurdity_sound A advise "t" 1 1 hq hp).1 r s hr hrs
  have htrue : b = true := by
    cases b with
    | false => simp [Names] at hgoal
    | true => rfl
  have hentails := (simplification_and_absurdity_sound A advise "t" 3 1 hp hq).2 u t hu hus
  exact ⟨hp, hq, ⟨_, hr, hrs⟩, htrue ▸ hb, ⟨_, hu, hus⟩, by decide, hentails⟩

/-- Every run of a campaign that succeeds shows what its strategy is for. -/
theorem inTurn_shows {c : Campaign} (h : inTurn A passes f g s = .ok (c, s')) (hf : f.Proper)
    (hg : g.Proper) : ∀ w ∈ c.runs, w.2.success = true → w.1.Shows f g := by
  -- A strategy is tried only after those before it failed: there are one, two or three runs.
  unfold inTurn at h
  obtain ⟨⟨d, u⟩, hd, h⟩ := exists_of_bind_eq_ok h
  have hdirect (hs : d.success = true) : f.Equivalent g := guided_sound hd hs hf hg
  simp only at h
  split at h
  next =>
    cases h
    simpa [Campaign.runs, Strategy.Shows] using hdirect
  next =>
    obtain ⟨⟨q, w⟩, hq, h⟩ := exists_of_bind_eq_ok h
    have hcontra (hs : q.success = true) : f.Equivalent g := contrapositive_sound hq hs hf hg
    simp only at h
    split at h
    next =>
      cases h
      simpa [Campaign.runs, Strategy.Shows] using ⟨hdirect, hcontra⟩
    next =>
      obtain ⟨⟨a, w'⟩, ha, h⟩ := exists_of_bind_eq_ok h
      have habsurd (hs : a.success = true) : f.Entails g := absurdity_sound ha hs hf hg
      cases h
      simpa [Campaign.runs, Strategy.Shows] using ⟨hdirect, hcontra, habsurd⟩

theorem winner_shows {c : Campaign} (h : inTurn A passes f g s = .ok (c, s')) (hf : f.Proper)
    (hg : g.Proper) : ∀ w ∈ c.winner?, w.1.Shows f g := by
  intro w hw
  have hmem : w ∈ c.runs := List.mem_of_find?_eq_some hw
  have hs := List.find?_some hw
  exact inTurn_shows h hf hg w hmem hs

/-- A proof is optimised exactly if a strategy won, and that shows what it is for. -/
theorem proveAndOptimise_shows {p : Optimised}
    (h : proveAndOptimise A passes tries f g s = .ok (p, s')) (hf : f.Proper) (hg : g.Proper) :
    p.success = p.winner?.isSome ∧ ∀ w ∈ p.winner?, w.1.Shows f g := by
  unfold proveAndOptimise at h
  obtain ⟨⟨d, u⟩, hd, h⟩ := exists_of_bind_eq_ok h
  simp only at h
  split at h
  next hs =>
    obtain ⟨⟨o, w⟩, -, h⟩ := exists_of_bind_eq_ok h
    cases h
    have he : f.Equivalent g := guided_sound hd hs hf hg
    simpa [Optimised.success, Optimised.winner?, hs, Strategy.Shows] using he
  next hs =>
    obtain ⟨⟨c, w⟩, hc, h⟩ := exists_of_bind_eq_ok h
    have hshows := winner_shows hc hf hg
    simp only at h
    split at h
    next hn =>
      cases h
      simp [Optimised.success, Optimised.winner?, hs, hn]
    next m r hw =>
      obtain ⟨⟨o, w⟩, -, h⟩ := exists_of_bind_eq_ok h
      cases h
      rw [hw] at hshows
      simpa [Optimised.success, Optimised.winner?, hs, hw] using hshows

/-- Where strategies are tried in turn, a success always shows an entailment. It shows an
equivalence if the winner is any other than the absurdity. -/
theorem success_shows_entailment (A : Advisor σ) (passes tries : Nat) (s : σ) (hf : f.Proper)
    (hg : g.Proper) :
    (∀ c s', inTurn A passes f g s = .ok (c, s') → c.success = true →
      f.Entails g ∧ ∃ w ∈ c.winner?, w.1 ≠ .absurdity → f.Equivalent g) ∧
    ∀ p s', proveAndOptimise A passes tries f g s = .ok (p, s') → p.success = true →
      f.Entails g ∧ ∃ w ∈ p.winner?, w.1 ≠ .absurdity → f.Equivalent g := by
  refine ⟨fun c s' h hc => ?_, fun p s' h hp => ?_⟩
  · obtain ⟨w, hw⟩ := Option.isSome_iff_exists.mp hc
    have hshows := winner_shows h hf hg w hw
    exact ⟨hshows.entails, w, hw, hshows.equivalent⟩
  · obtain ⟨hsuccess, hall⟩ := proveAndOptimise_shows h hf hg
    obtain ⟨w, hw⟩ := Option.isSome_iff_exists.mp (hsuccess ▸ hp)
    have hshows := hall w hw
    exact ⟨hshows.entails, w, hw, hshows.equivalent⟩

/-- An atom entails truth, and so the absurdity succeeds on formulas that are not equivalent. -/
theorem success_without_equivalence :
    let p : Formula := .var ⟨0, 0, "p"⟩
    let q : Formula := .const true
    p.Proper ∧ q.Proper ∧ (inTurn heedless 2 p q 1).toOption.map (·.1.success) = some true ∧
      (proveAndOptimise heedless 2 2 p q 1).toOption.map (·.1.success) = some true ∧
      ¬ p.Equivalent q := by
  intro p q
  refine ⟨by decide, by decide, by decide, by decide, fun h => ?_⟩
  have hv : false = true := h fun _ => false
  cases hv

theorem success_shows_entailment_by_two_strategies :
    let p : Formula := .var ⟨0, 0, "p"⟩
    let q : Formula := .neg (.neg (.var ⟨1, 0, "p"⟩))
    p.Proper ∧ q.Proper ∧
      Yields (inTurn heedless 2 p q 1)
        (fun r => r.1.success = true ∧ r.1.winner?.map Prod.fst = some .direct) ∧
      p.Equivalent q ∧
      Yields (proveAndOptimise heedless 2 2 p (.const true) 1)
        (fun r => r.1.success = true ∧ r.1.winner?.map Prod.fst = some .absurdity) ∧
      p.Entails (.const true) := by
  intro p q
  have hp : p.Proper := by decide
  have hq : q.Proper := by decide
  have hturn : Yields (inTurn heedless 2 p q 1)
      (fun r => r.1.success = true ∧ r.1.winner?.map Prod.fst = some .direct) := by decide
  have hoptimise : Yields (proveAndOptimise heedless 2 2 p (.const true) 1)
      (fun r => r.1.success = true ∧ r.1.winner?.map Prod.fst = some .absurdity) := by decide
  obtain ⟨⟨c, s⟩, hc, hcs, hdirect⟩ := hturn
  obtain ⟨⟨o, t⟩, ho, hos, habsurdity⟩ := hoptimise
  obtain ⟨-, w, hw, hequiv⟩ := (success_shows_entailment heedless 2 2 1 hp hq).1 c s hc hcs
  obtain ⟨hentails, -⟩ :=
    (success_shows_entailment heedless 2 2 1 hp (Formula.proper_const true)).2 o t ho hos
  refine ⟨hp, hq, ⟨_, hc, hcs, hdirect⟩, hequiv ?_, ⟨_, ho, hos, habsurdity⟩, hentails⟩
  rw [Option.mem_def.mp hw, Option.map_some, Option.some.injEq] at hdirect
  simp [hdirect]

end Prover

end LogicTutor
