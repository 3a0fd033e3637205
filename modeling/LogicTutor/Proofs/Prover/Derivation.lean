import LogicTutor.Proofs.Prover.Soundness

/-! The record of a prover can be replayed. Every step puts its law to one part of one formula,
where the law applies, and leaves all else as it was; what the step shows is what was there before
it and what is there after it. -/
namespace LogicTutor

/-- `g` is `f` with `y` in the place of the part `x`, to which the path leads. -/
inductive Formula.Replaces (x y : Formula) : (p : Path) → (f g : Formula) → Prop where
  | here : Replaces x y [] x y
  | operand {c p f g} (h : Replaces x y p f g) :
      Replaces x y (.left :: p) (.unary c f) (.unary c g)
  | left {c p f g k} (h : Replaces x y p f g) :
      Replaces x y (.left :: p) (.binary c f k) (.binary c g k)
  | right {c p f g k} (h : Replaces x y p f g) :
      Replaces x y (.right :: p) (.binary c k f) (.binary c k g)

namespace Formula.Replaces

variable {x y f g : Formula} {p : Path}

theorem subformula?_eq (h : Replaces x y p f g) (hx : x ≠ .blank) :
    f.subformula? p = some x := by
  induction h with
  | here => cases x <;> first | rfl | exact absurd rfl hx
  | operand h ih | left h ih | right h ih => rw [Formula.subformula?, ih]

end Formula.Replaces

namespace Law

variable {law : Law} {f : Formula} {p : Path}

theorem ne_blank_of_applies (h : law.applies f = true) : f ≠ .blank := by
  rintro rfl
  cases law <;> cases h

/-- A law applied at one of its positions replaces the part that it applies to, and no other. -/
theorem exists_replaces_of_mem_positions (h : p ∈ law.positions f) :
    ∃ x, law.applies x = true ∧ Formula.Replaces x (law.apply x) p f (law.applyAt f p) := by
  induction p generalizing f with
  | nil =>
    rw [applyAt]
    exact ⟨f, mem_positions_nil.mp h, .here⟩
  | cons e p ih =>
    obtain ⟨k, hk, hp⟩ := mem_positions_cons.mp h
    obtain ⟨x, hx, hr⟩ := ih hp
    refine ⟨x, hx, ?_⟩
    cases f <;> cases e <;> simp only [Formula.operand?, Option.some.injEq, reduceCtorEq] at hk
    · subst hk
      exact .operand hr
    · subst hk
      exact .left hr
    · subst hk
      exact .right hr

end Law

namespace Step

/-- The step puts its law to a part `x` of `f`, to which the law applies, and so makes `f'` of
`f`. It shows `x` unless that is the whole of `f`, and it shows `f'`. -/
structure Enacts (st : Step) (f f' : Formula) : Prop where
  change : ∃ p x, st.law.applies x = true ∧ Formula.Replaces x (st.law.apply x) p f f' ∧
    st.matched = if p = [] then none else some x.text
  result : st.result = f'.text

/-- The step changes the formula on the side that it names and not the other, and shows both as
they are then. -/
structure EnactsPair (st : Step) (a b : Formula × Formula) : Prop where
  left : st.side = 1 → st.Enacts a.1 b.1 ∧ b.2 = a.2
  right : st.side ≠ 1 → st.Enacts a.2 b.2 ∧ b.1 = a.1
  first : st.first = b.1.text
  second : st.second = b.2.text

/-- The step changes the only formula, and shows it as it is then beside the goal. -/
structure EnactsOne (goal : String) (st : Step) (f f' : Formula) : Prop where
  side : st.side = 1
  enacts : st.Enacts f f'
  first : st.first = f'.text
  second : st.second = goal

variable {st : Step}

theorem Tells.enacts {f f' : Formula} (h : st.Tells f f') : st.Enacts f f' := by
  obtain ⟨p, hp, rfl, hm⟩ := h.change
  obtain ⟨x, hx, hr⟩ := Law.exists_replaces_of_mem_positions hp
  refine ⟨⟨p, x, hx, hr, hm.trans ?_⟩, h.result⟩
  cases p with
  | nil => rfl
  | cons e p =>
    rw [if_neg (List.cons_ne_nil e p), Law.shownAt,
      hr.subformula?_eq (Law.ne_blank_of_applies hx), Option.map_some]
    exact List.cons_ne_nil e p

theorem OfPair.enacts {a b : Formula × Formula} (h : st.OfPair a b) : st.EnactsPair a b where
  left hs := by
    rcases h.change with ⟨-, ht, he⟩ | ⟨hn, -, -⟩
    · exact ⟨ht.enacts, he⟩
    · exact absurd hs hn
  right hs := by
    rcases h.change with ⟨hn, -, -⟩ | ⟨-, ht, he⟩
    · exact absurd hn hs
    · exact ⟨ht.enacts, he⟩
  first := h.first
  second := h.second

theorem OfOne.enacts {goal : String} {f f' : Formula} (h : st.OfOne goal f f') :
    st.EnactsOne goal f f' :=
  ⟨h.side, h.tells.enacts, h.first, h.second⟩

end Step

/-- A record that leads from `a` to `b`, each of its steps by a change that `R` allows. Its steps
were made in different passes, one after the other, and none beyond the last. -/
structure Derivation {α : Type} (R : Step → α → α → Prop) (passes : Nat) (a : α)
    (steps : List Step) (b : α) : Prop where
  trail : Trail R a steps b
  ordered : (steps.map Step.iteration).Pairwise (· < ·)
  within : ∀ st ∈ steps, st.iteration < passes

section

variable {α : Type} {R Q : Step → α → α → Prop} {a b : α} {steps : List Step}

theorem Trail.mono (t : Trail R a steps b) (h : ∀ st a b, R st a b → Q st a b) :
    Trail Q a steps b := by
  induction t with
  | nil a => exact .nil a
  | cons hst t ih => exact .cons (h _ _ _ hst) ih

theorem Passes.derivation {aim : α → Bool} {passes n : Nat} {success : Bool}
    (h : Passes R aim passes 0 a success n steps b) (hR : ∀ st a b, R st a b → Q st a b) :
    Derivation Q passes a steps b where
  trail := h.trail.mono hR
  ordered := h.ordered
  within st hst := by
    have hst := h.within st hst
    have hn := h.iterations_le
    omega

end

namespace Prover

variable {σ : Type}

/-- What a prover records is a derivation of the formulas it ends with from those it started on,
whatever is drawn and whatever is advised. -/
theorem records_are_derivations (A : Advisor σ)
    (advise : σ → Formula → String → Except Fault (String × σ)) (goal : String) (passes : Nat)
    (f g : Formula) (s : σ) :
    Derivation Step.EnactsPair passes (f, g) (random A passes f g s).1.steps
      ((random A passes f g s).1.final1, (random A passes f g s).1.final2) ∧
    (∀ r s', guided A passes f g s = .ok (r, s') →
      Derivation Step.EnactsPair passes (f, g) r.steps (r.final1, r.final2)) ∧
    ∀ r s', simplify A advise goal passes f s = .ok (r, s') →
      Derivation (Step.EnactsOne goal) passes f r.steps r.final := by
  refine ⟨?_, fun r s' h => ?_, fun r s' h => ?_⟩
  · exact (randomFrom_passes A passes 0 f g s).derivation fun _ _ _ => Step.OfPair.enacts
  · exact (guidedFrom_passes h).derivation fun _ _ _ => Step.OfPair.enacts
  · exact (simplifyFrom_passes h).derivation fun _ _ _ => Step.OfOne.enacts

theorem records_are_derivations_absorption :
    let p : Formula := .var ⟨0, 0, "p"⟩
    let q : Formula := .var ⟨0, 1, "q"⟩
    let f : Formula := .imp (p ||| q &&& p) q
    let advise : Nat → Formula → String → Except Fault (String × Nat) :=
      fun n _ _ => .ok ("nothing", n)
    let shown (sts : List Step) : List (Nat × Law × Option String) :=
      sts.map fun st => (st.iteration, st.law, st.matched)
    let record : List (Nat × Law × Option String) :=
      [(0, .absorption, some "(p v (q ^ p))"), (1, .implicationElimination, none)]
    shown (random heedless 2 f q 0).1.steps = record ∧
      Derivation Step.EnactsPair 2 (f, q) (random heedless 2 f q 0).1.steps
        ((random heedless 2 f q 0).1.final1, (random heedless 2 f q 0).1.final2) ∧
      Yields (guided heedless 2 f q 1) (fun r => shown r.1.steps = record ∧
        Derivation Step.EnactsPair 2 (f, q) r.1.steps (r.1.final1, r.1.final2)) ∧
      Yields (simplify heedless advise "F" 2 f 1) (fun r => shown r.1.steps = record ∧
        Derivation (Step.EnactsOne "F") 2 f r.1.steps r.1.final) := by
  intro p q f advise shown record
  have hguided : Yields (guided heedless 2 f q 1) (fun r => shown r.1.steps = record) := by decide
  have hsimplify : Yields (simplify heedless advise "F" 2 f 1)
      (fun r => shown r.1.steps = record) := by decide
  obtain ⟨hrandom, -, -⟩ := records_are_derivations heedless advise "F" 2 f q 0
  obtain ⟨-, hpair, hone⟩ := records_are_derivations heedless advise "F" 2 f q 1
  obtain ⟨⟨r, s⟩, hr, hrs⟩ := hguided
  obtain ⟨⟨u, t⟩, hu, hus⟩ := hsimplify
  exact ⟨by decide, hrandom, ⟨_, hr, hrs, hpair r s hr⟩, ⟨_, hu, hus, hone u t hu⟩⟩

end Prover

end LogicTutor
