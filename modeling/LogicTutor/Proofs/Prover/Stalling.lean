import LogicTutor.Proofs.Prover.Trail

/-! When a prover that takes advice stalls. A pass makes no move only if no law applies to any of
its formulas, and then no later pass makes one. The steps of a run therefore bear the numbers of
its first passes, and a run that succeeds makes a step in every pass. -/
namespace LogicTutor

namespace Law

variable {law law' : Law} {f x : Formula} {p : Path}

/-- No law applies to the formula or to a part of it. -/
def Stuck (f : Formula) : Prop := ∀ law : Law, law.positions f = []

theorem mem_positions_of_applies (h : ∀ x, law.applies x = true → law'.applies x = true)
    (hp : p ∈ law.positions f) : p ∈ law'.positions f := by
  induction p generalizing f with
  | nil => exact mem_positions_nil.mpr (h f (mem_positions_nil.mp hp))
  | cons e p ih =>
    obtain ⟨x, hx, hp⟩ := mem_positions_cons.mp hp
    exact mem_positions_cons.mpr ⟨x, hx, ih hp⟩

/-- If wherever a law applies one of the list does, then nothing applies if none of the list
does. -/
theorem stuck_of_cover (laws : List Law)
    (hcover : ∀ law : Law, ∃ law' ∈ laws, ∀ x, law.applies x = true → law'.applies x = true)
    (h : ∀ law ∈ laws, law.appliesInside f = false) : Stuck f := by
  intro law
  obtain ⟨law', hmem, happlies⟩ := hcover law
  refine List.eq_nil_iff_forall_not_mem.mpr fun p hp => ?_
  have hinside := appliesInside_iff.mpr (List.ne_nil_of_mem (mem_positions_of_applies happlies hp))
  rw [h law' hmem] at hinside
  cases hinside

/-- Where a formula can be expanded its operands can be exchanged. -/
theorem commutativity_applies_of_expanding (hlaw : law ∈ Move.expanding) (x : Formula)
    (h : law.applies x = true) : commutativity.applies x = true := by
  simp only [Move.expanding, List.mem_cons, List.not_mem_nil, or_false] at hlaw
  rcases hlaw with rfl | rfl | rfl
  · cases x <;> exact h
  · cases x with
    | binary c y z => exact (Bool.and_eq_true_iff.mp h).1
    | _ => cases h
  · cases x with
    | binary c y z =>
      cases c with
      | or => rfl
      | _ => cases y <;> cases h
    | _ => cases h

/-- Only implications have a contrapositive. -/
theorem implicationElimination_applies_of_contraposition (x : Formula)
    (h : contraposition.applies x = true) : implicationElimination.applies x = true := by
  cases x with
  | binary c y z => cases c <;> exact h
  | _ => cases h

theorem implicationElimination_applies_of_constant (x : Formula)
    (h : implicationConstant.applies x = true) : implicationElimination.applies x = true := by
  cases x with
  | binary c y z =>
    cases c with
    | imp => rfl
    | _ => cases h
  | _ => cases h

theorem mem_laws (law : Law) :
    law ∈ Move.simplifying ∨ law ∈ Move.rearranging ∨ law ∈ Move.expanding := by
  cases law <;> decide

/-- If there is nothing to simplify and nothing to rearrange then no law applies at all. -/
theorem stuck_of_appliesInside
    (h : ∀ law, law ∈ Move.simplifying ∨ law ∈ Move.rearranging → law.appliesInside f = false) :
    Stuck f := by
  refine stuck_of_cover (Move.simplifying ++ Move.rearranging) (fun law => ?_)
    fun law hlaw => h law (List.mem_append.mp hlaw)
  rcases mem_laws law with hl | hl | hl
  · exact ⟨law, List.mem_append_left _ hl, fun _ ha => ha⟩
  · exact ⟨law, List.mem_append_right _ hl, fun _ ha => ha⟩
  · exact ⟨commutativity, by decide, commutativity_applies_of_expanding hl⟩

/-- The simplifying prover leaves four laws out, and wherever one of them applies another that it
tries does. -/
theorem stuck_of_simplifierOrder
    (h : ∀ law ∈ Prover.simplifierOrder, law.appliesInside f = false) : Stuck f := by
  refine stuck_of_cover Prover.simplifierOrder (fun law => ?_) h
  by_cases hlaw : law ∈ Prover.simplifierOrder
  · exact ⟨law, hlaw, fun _ ha => ha⟩
  · cases law with
    | deMorganReverse =>
      exact ⟨commutativity, by decide, commutativity_applies_of_expanding (by decide)⟩
    | implicationIntroduction =>
      exact ⟨commutativity, by decide, commutativity_applies_of_expanding (by decide)⟩
    | contraposition =>
      exact ⟨implicationElimination, by decide, implicationElimination_applies_of_contraposition⟩
    | implicationConstant =>
      exact ⟨implicationElimination, by decide, implicationElimination_applies_of_constant⟩
    | _ => exact absurd (by decide) hlaw

namespace Stuck

theorem not_applies (h : Stuck f) (law : Law) : ¬ law.applies f = true := by
  intro ha
  have hmem := mem_positions_nil.mpr ha
  rw [h law] at hmem
  cases hmem

theorem operand {c : Connective} (h : Stuck (.unary c x)) : Stuck x := by
  intro law
  have hlocations := h law
  rw [positions, List.append_eq_nil_iff, locations_unary, List.map_eq_nil_iff] at hlocations
  exact hlocations.2

/-- Conjunctions and disjunctions can be turned round, and implications eliminated. -/
theorem ne_binary (h : Stuck f) {c : Connective} (hc : c ≠ .not) (x y : Formula) :
    f ≠ .binary c x y := by
  rintro rfl
  cases c with
  | not => exact hc rfl
  | or => exact h.not_applies commutativity rfl
  | and => exact h.not_applies commutativity rfl
  | imp => exact h.not_applies implicationElimination rfl

/-- The only well-formed formulas to which no law applies are leaves and negated atoms. -/
theorem iff_of_wellFormed (hf : f.WellFormed) :
    Stuck f ↔ (∃ l, f = .leaf l) ∨ ∃ a, f = .neg (.var a) := by
  constructor
  · intro h
    cases f with
    | blank => exact hf.elim
    | leaf l => exact .inl ⟨l, rfl⟩
    | binary c x y => exact absurd rfl (h.ne_binary hf.1 x y)
    | unary c x =>
      obtain ⟨rfl, hx⟩ := hf
      cases x with
      | blank => exact hx.elim
      | leaf l =>
        cases l with
        | atom a => exact .inr ⟨a, rfl⟩
        | truth b => exact absurd rfl (h.not_applies negationConstant)
      | unary d y =>
        obtain ⟨rfl, -⟩ := hx
        exact absurd rfl (h.not_applies doubleNegation)
      | binary d y z => exact absurd rfl (h.operand.ne_binary hx.1 y z)
  · rintro (⟨l, rfl⟩ | ⟨a, rfl⟩) law
    · cases law <;> rfl
    · cases law <;> rfl

end Stuck

end Law

namespace Move

variable {σ : Type} {A : Advisor σ} {s : σ} {sides : List (Int × Formula)}

theorem candidates_of_unadvised (h : (unadvised A sides s).1 = none) :
    candidates simplifying sides = [] ∧ candidates rearranging sides = [] := by
  unfold unadvised at h
  split at h
  next => cases h
  next hsimple =>
    split at h
    next => cases h
    next t hc =>
      refine ⟨hsimple, Classical.byContradiction fun hne => ?_⟩
      obtain ⟨c, -, hsome⟩ := Advisor.exists_choose hne A s
      rw [hc] at hsome
      cases hsome

theorem not_appliesInside_of_candidates {laws : List Law} (h : candidates laws sides = [])
    {law : Law} (hl : law ∈ laws) {x : Int × Formula} (hx : x ∈ sides) :
    law.appliesInside x.2 = false := by
  refine Bool.eq_false_iff.mpr fun ha => ?_
  have hmem : ⟨law, x.1, x.2⟩ ∈ candidates laws sides := mem_candidates.mpr ⟨hl, hx, ha⟩
  rw [h] at hmem
  cases hmem

theorem not_appliesInside_of_unadvised (h : (unadvised A sides s).1 = none) {law : Law}
    (hl : law ∈ simplifying ∨ law ∈ rearranging) {x : Int × Formula} (hx : x ∈ sides) :
    law.appliesInside x.2 = false := by
  obtain ⟨hsimple, hrearrange⟩ := candidates_of_unadvised h
  rcases hl with hl | hl
  · exact not_appliesInside_of_candidates hsimple hl hx
  · exact not_appliesInside_of_candidates hrearrange hl hx

end Move

namespace Trail

variable {f g : Formula} {sts : List Step}

/-- Nothing leads away from formulas to which no law applies. -/
theorem eq_nil_of_stuck {b : Formula × Formula} (t : Trail Step.OfPair (f, g) sts b)
    (hf : Law.Stuck f) (hg : Law.Stuck g) : sts = [] ∧ b = (f, g) := by
  cases t with
  | nil => exact ⟨rfl, rfl⟩
  | cons hst t =>
    rcases hst.change with ⟨-, ht, -⟩ | ⟨-, ht, -⟩
    · obtain ⟨p, hp, -⟩ := ht.change
      rw [hf] at hp
      cases hp
    · obtain ⟨p, hp, -⟩ := ht.change
      rw [hg] at hp
      cases hp

theorem eq_nil_of_stuck_one {goal : String} {f' : Formula} (t : Trail (Step.OfOne goal) f sts f')
    (hf : Law.Stuck f) : sts = [] ∧ f' = f := by
  cases t with
  | nil => exact ⟨rfl, rfl⟩
  | cons hst t =>
    obtain ⟨p, hp, -⟩ := hst.tells.change
    rw [hf] at hp
    cases hp

end Trail

/-- The steps bear the numbers of the passes from `i` on, none left out, and a success comes right
after the last of them. -/
structure Paced (i : Nat) (success : Bool) (iterations : Nat) (steps : List Step) : Prop where
  numbered : steps.map Step.iteration = List.range' i steps.length
  prompt : success = true → iterations = i + steps.length

namespace Paced

variable {i n : Nat} {success : Bool} {steps : List Step}

theorem stopped (i : Nat) (success : Bool) : Paced i success i [] := ⟨rfl, fun _ => rfl⟩

theorem failed (hsteps : steps = []) (hsuccess : success = false) : Paced i success n steps := by
  subst hsteps hsuccess
  exact ⟨rfl, fun h => by cases h⟩

theorem after {st : Step} (hst : st.iteration = i) (h : Paced (i + 1) success n steps) :
    Paced i success n (st :: steps) where
  numbered := by
    rw [List.map_cons, hst, h.numbered]
    rfl
  prompt hs := by
    have hn := h.prompt hs
    rw [List.length_cons]
    omega

end Paced

namespace Prover

variable {σ : Type} {A : Advisor σ} {f g : Formula} {s s' : σ} {k i : Nat}

/-- A pass makes no move only where no law applies. -/
theorem stuck_of_guidedMove (h : guidedMove A f g s = .ok (none, s')) :
    Law.Stuck f ∧ Law.Stuck g := by
  unfold guidedMove at h
  obtain ⟨⟨⟨side, name⟩, t⟩, -, h⟩ := exists_of_bind_eq_ok h
  simp only at h
  split at h
  next => cases h
  next =>
    have hnone : (Move.unadvised A [(1, f), (2, g)] t).1 = none := by
      simpa using congrArg Prod.fst (Except.ok.inj h)
    constructor
    · exact Law.stuck_of_appliesInside fun law hl =>
        Move.not_appliesInside_of_unadvised hnone hl List.mem_cons_self
    · exact Law.stuck_of_appliesInside fun law hl =>
        Move.not_appliesInside_of_unadvised hnone hl (List.mem_cons_of_mem _ List.mem_cons_self)

/-- Where no law applies nothing comes of any pass. -/
theorem guidedFrom_of_stuck {r : Run} (h : guidedFrom A k i f g s = .ok (r, s'))
    (hf : Law.Stuck f) (hg : Law.Stuck g) : r.steps = [] ∧ r.success = f.same g := by
  have hpasses := guidedFrom_passes h
  obtain ⟨hsteps, hfinal⟩ := hpasses.trail.eq_nil_of_stuck hf hg
  refine ⟨hsteps, hpasses.success_eq.trans ?_⟩
  rw [hfinal]

theorem guidedFrom_paced {r : Run} (h : guidedFrom A k i f g s = .ok (r, s')) :
    Paced i r.success r.iterations r.steps := by
  induction k generalizing i f g s r with
  | zero =>
    cases h
    exact .stopped i _
  | succ k ih =>
    rw [guidedFrom] at h
    split at h
    next =>
      cases h
      exact .stopped i true
    next hne =>
      split at h
      next => cases h
      next t hm =>
        obtain ⟨hf, hg⟩ := stuck_of_guidedMove hm
        obtain ⟨hsteps, hsuccess⟩ := guidedFrom_of_stuck h hf hg
        exact .failed hsteps (hsuccess.trans (Bool.eq_false_iff.mpr hne))
      next m guided t hm =>
        simp only at h
        split at h
        next => cases h
        next q t' hq =>
          cases h
          exact .after rfl (ih hq)

/-- A run that succeeds makes a step in every pass. -/
theorem guidedFrom_unbroken {r : Run} (h : guidedFrom A k i f g s = .ok (r, s'))
    (hr : r.success = true) :
    r.steps.map Step.iteration = List.range' i r.steps.length ∧
      r.iterations = i + r.steps.length :=
  ⟨(guidedFrom_paced h).numbered, (guidedFrom_paced h).prompt hr⟩

variable {advise : σ → Formula → String → Except Fault (String × σ)} {goal : String}

theorem stuck_of_simplifyingMove (h : simplifyingMove A advise goal f s = .ok (none, s')) :
    Law.Stuck f := by
  unfold simplifyingMove at h
  obtain ⟨⟨name, t⟩, -, h⟩ := exists_of_bind_eq_ok h
  simp only at h
  split at h
  next => cases h
  next =>
    split at h
    next => cases h
    next hnone =>
      exact Law.stuck_of_simplifierOrder fun law hl =>
        Move.not_appliesInside_of_candidates hnone hl List.mem_cons_self

theorem simplifyFrom_of_stuck {r : Reduction}
    (h : simplifyFrom A advise goal k i f s = .ok (r, s')) (hf : Law.Stuck f) :
    r.steps = [] ∧ r.success = reached goal f := by
  have hpasses := simplifyFrom_passes h
  obtain ⟨hsteps, hfinal⟩ := hpasses.trail.eq_nil_of_stuck_one hf
  refine ⟨hsteps, hpasses.success_eq.trans ?_⟩
  rw [hfinal]

theorem simplifyFrom_paced {r : Reduction}
    (h : simplifyFrom A advise goal k i f s = .ok (r, s')) :
    Paced i r.success r.iterations r.steps := by
  induction k generalizing i f s r with
  | zero =>
    cases h
    exact .stopped i _
  | succ k ih =>
    rw [simplifyFrom] at h
    split at h
    next =>
      cases h
      exact .stopped i true
    next hne =>
      split at h
      next => cases h
      next t hm =>
        obtain ⟨hsteps, hsuccess⟩ := simplifyFrom_of_stuck h (stuck_of_simplifyingMove hm)
        exact .failed hsteps (hsuccess.trans (Bool.eq_false_iff.mpr hne))
      next m guided t hm =>
        split at h
        next => cases h
        next q t' hq =>
          cases h
          exact .after rfl (ih hq)

end Prover

end LogicTutor
