import LogicTutor.Proofs.Prover.Optimisation
import LogicTutor.Proofs.Prover.Progress
import LogicTutor.Prover.Report

/-! The numbers of steps that are reported of a proof and of its optimisation. The optimiser takes
the number of a pass for the place of a step in the record. That is right because no pass is idle
before the last step, and so the steps that it leaves out are steps of the record. -/
namespace LogicTutor

namespace Paced

variable {i n : Nat} {success : Bool} {steps : List Step}

theorem iteration_lt (h : Paced i success n steps) {st : Step} (hst : st ∈ steps) :
    st.iteration < i + steps.length := by
  have hmem : st.iteration ∈ steps.map Step.iteration := List.mem_map_of_mem hst
  rw [h.numbered, List.mem_range'_1] at hmem
  exact hmem.2

theorem iteration_eq (h : Paced i success n steps) {k : Nat} {st : Step}
    (hst : steps[k]? = some st) : st.iteration = i + k := by
  have hget : (steps.map Step.iteration)[k]? = some st.iteration := by
    rw [List.getElem?_map, hst, Option.map_some]
  rw [h.numbered] at hget
  obtain ⟨hk, hval⟩ := List.getElem?_eq_some_iff.mp hget
  rw [← hval, List.getElem_range'_1]

end Paced

/-- A waypoint is what the milestone's text reads as, at the milestone's place. -/
theorem Waypoint.ofMilestone?_eq_some {reading : Nat} {m : Milestone} {w : Waypoint}
    (h : ofMilestone? reading m = some w) :
    Formula.parse reading m.result = .ok w.formula ∧ m.iteration = some w.step := by
  unfold ofMilestone? at h
  split at h
  next => cases h
  next => cases h
  next hparse =>
    split at h
    next i hi =>
      split at h
      next =>
        cases h
        exact ⟨hparse, hi⟩
      next => cases h
    next => cases h

theorem Waypoint.wellFormed {reading : Nat} {m : Milestone} {w : Waypoint}
    (h : ofMilestone? reading m = some w) : w.formula.WellFormed :=
  (Formula.readIn_of_parse (ofMilestone?_eq_some h).1).legible.wellFormed

namespace Optimisation

variable {before ways : Nat} {as : List Approach} {inner : List Shortcut} {a : Approach}

theorem savings_pos_of_foldl_better (best : Option Approach)
    (hbest : ∀ b ∈ best, 0 < b.savings before) (h : as.foldl (better before) best = some a) :
    0 < a.savings before := by
  induction as generalizing best with
  | nil => exact hbest a h
  | cons b as ih =>
    refine ih (better before best b) (fun x hx => ?_) h
    unfold better at hx
    split at hx
    next hsave =>
      cases hx
      -- the first one kept saves more than nothing, a later one more than the one before it
      have hmore := of_decide_eq_true (Bool.and_eq_true_iff.mp hsave).2
      cases best with
      | none => exact hmore
      | some c =>
        have hc := hbest c rfl
        rw [Option.map_some, Option.getD_some] at hmore
        omega
    next => exact hbest x hx

theorem savings_pos_of_best? (h : (searched before ways as inner).best? = some a) :
    0 < a.savings before :=
  savings_pos_of_foldl_better none (fun _ hb => by cases hb) h

end Optimisation

namespace Prover

variable {σ : Type} {A : Advisor σ} {passes tries : Nat} {f g : Formula} {s s' : σ}

theorem contrapositive_paced {r : Run} (h : contrapositive A passes f g s = .ok (r, s')) :
    Paced 0 r.success r.iterations r.steps := by
  obtain ⟨nf, -, h⟩ := exists_of_bind_eq_ok h
  obtain ⟨ng, -, h⟩ := exists_of_bind_eq_ok h
  exact guidedFrom_paced h

theorem absurdity_paced {r : Run} (h : absurdity A passes f g s = .ok (r, s')) :
    Paced 0 r.success r.iterations r.steps := by
  obtain ⟨a, -, h⟩ := exists_of_bind_eq_ok h
  split at h
  next advise _ =>
    obtain ⟨⟨q, t⟩, hq, h⟩ := exists_of_bind_eq_ok h
    cases h
    exact simplifyFrom_paced hq
  next => exact guidedFrom_paced h

theorem inTurn_paced {c : Campaign} (h : inTurn A passes f g s = .ok (c, s')) :
    ∀ w ∈ c.runs, Paced 0 w.2.success w.2.iterations w.2.steps := by
  unfold inTurn at h
  obtain ⟨⟨d, u⟩, hd, h⟩ := exists_of_bind_eq_ok h
  have hdirect := guidedFrom_paced hd
  simp only at h
  split at h
  next =>
    cases h
    simpa [Campaign.runs] using hdirect
  next =>
    obtain ⟨⟨q, w⟩, hq, h⟩ := exists_of_bind_eq_ok h
    have hcontra := contrapositive_paced hq
    simp only at h
    split at h
    next =>
      cases h
      simpa [Campaign.runs] using ⟨hdirect, hcontra⟩
    next =>
      obtain ⟨⟨a, w'⟩, ha, h⟩ := exists_of_bind_eq_ok h
      have habsurd := absurdity_paced ha
      cases h
      simpa [Campaign.runs] using ⟨hdirect, hcontra, habsurd⟩

/-- What is optimised is the record of a run, in which no pass was idle. -/
theorem exists_run_of_optimised {p : Optimised} {o : Optimisation}
    (h : proveAndOptimise A passes tries f g s = .ok (p, s')) (ho : p.optimisation = some o) :
    ∃ (r : Run) (u u' : σ), Paced 0 r.success r.iterations r.steps ∧ p.initialSteps = r.steps ∧
      optimise A tries true (r.steps.map .ofStep) f u = .ok (o, u') := by
  unfold proveAndOptimise at h
  obtain ⟨⟨d, t⟩, hd, h⟩ := exists_of_bind_eq_ok h
  simp only at h
  split at h
  next hs =>
    obtain ⟨⟨q, u⟩, hq, h⟩ := exists_of_bind_eq_ok h
    cases h
    cases ho
    exact ⟨d, t, u, guidedFrom_paced hd, by simp [Optimised.initialSteps, hs], hq⟩
  next hs =>
    obtain ⟨⟨c, t'⟩, hc, h⟩ := exists_of_bind_eq_ok h
    simp only at h
    split at h
    next =>
      cases h
      cases ho
    next m r hw =>
      obtain ⟨⟨q, u⟩, hq, h⟩ := exists_of_bind_eq_ok h
      cases h
      cases ho
      have hpaced := inTurn_paced hc (m, r) (List.mem_of_find?_eq_some hw)
      exact ⟨r, t', u, hpaced, by simp [Optimised.initialSteps, hs, hw], hq⟩

/-- If each step of the record is numbered below its length, then optimisation leaves between none
and all of the steps, and fewer exactly if it found something. -/
theorem finalSteps_bounds {record : List Milestone} {success : Bool} {o : Optimisation}
    (h : optimise A tries success record f s = .ok (o, s'))
    (hrecord : ∀ m ∈ record, ∀ i ∈ m.iteration, i < record.length) :
    0 ≤ Report.finalSteps record.length o ∧
      Report.finalSteps record.length o ≤ record.length ∧
      (Report.finalSteps record.length o < record.length ↔ o.best?.isSome = true) := by
  cases ha : o.best? with
  | none => simp [Report.finalSteps, ha]
  | some a =>
    obtain ⟨-, ⟨m, hm, reading, hway⟩, -⟩ := exists_of_best? h ha
    have hstep : a.waypoint.step < record.length :=
      hrecord m hm _ (Waypoint.ofMilestone?_eq_some hway).2
    have hsaved : 0 < a.savings record.length := by
      obtain ⟨ways, as, inner, rfl, -⟩ := exists_searched_of_best? h ha
      exact Optimisation.savings_pos_of_best? ha
    have hfinal : Report.finalSteps record.length o = a.totalSteps record.length := by
      simp [Report.finalSteps, ha]
    rw [hfinal, Option.isSome_some]
    unfold Approach.savings at hsaved
    unfold Approach.totalSteps at hsaved ⊢
    exact ⟨by omega, by omega, fun _ => rfl, fun _ => by omega⟩

/-! Optimisation comes to an end on well-formed formulas, if there is somebody to advise. -/
section

variable {I : σ → Prop}

theorem approachAll_yields (hA : A.Answers I) (hf : f.WellFormed) {ws : List Waypoint}
    (hws : ∀ w ∈ ws, w.formula.WellFormed) (hs : I s) :
    Yields (approachAll A passes f ws s) fun r => I r.2 := by
  induction ws generalizing s with
  | nil => exact .ok hs
  | cons w ws ih =>
    rw [List.forall_mem_cons] at hws
    refine (guidedFrom_yields hA passes 0 hs hf hws.1).bind fun r hr => ?_
    exact (ih hws.2 hr).bind fun _ ht => .ok ht

theorem between_yields (hA : A.Answers I) {source : Waypoint} (hsource : source.formula.WellFormed)
    {ws : List Waypoint} (hws : ∀ w ∈ ws, w.formula.WellFormed) (hs : I s) :
    Yields (between A passes source ws s) fun r => I r.2 := by
  induction ws generalizing s with
  | nil => exact .ok hs
  | cons w ws ih =>
    rw [List.forall_mem_cons] at hws
    rw [between]
    dsimp only
    split
    · exact ih hws.2 hs
    · refine (guidedFrom_yields hA _ 0 hs hsource hws.1).bind fun r hr => ?_
      refine (ih hws.2 hr).bind fun q hq => ?_
      split
      · exact .ok hq
      · exact .ok hq

theorem betweenAll_yields (hA : A.Answers I) {ws : List Waypoint}
    (hws : ∀ w ∈ ws, w.formula.WellFormed) (hs : I s) :
    Yields (betweenAll A passes ws s) fun r => I r.2 := by
  induction ws generalizing s with
  | nil => exact .ok hs
  | cons w ws ih =>
    rw [List.forall_mem_cons] at hws
    have hlater : ∀ x ∈ ws.drop 2, x.formula.WellFormed := fun x hx =>
      hws.2 x (List.mem_of_mem_drop hx)
    refine (between_yields hA hws.1 hlater hs).bind fun r hr => ?_
    exact (ih hws.2 hr).bind fun _ ht => .ok ht

theorem optimise_yields (hA : A.Answers I) (hf : f.WellFormed) (success : Bool)
    (record : List Milestone) (hs : I s) :
    Yields (optimise A tries success record f s) fun r => I r.2 := by
  have hways : ∀ w ∈ Waypoint.ofRecord record, w.formula.WellFormed := by
    intro w hw
    obtain ⟨m, -, reading, hm⟩ := Waypoint.exists_of_mem_ofRecord hw
    exact Waypoint.wellFormed hm
  have htargets : ∀ w ∈ ((Waypoint.ofRecord record).drop 1).reverse.filter
      (fun w => 2 ≤ w.step), w.formula.WellFormed := fun w hw =>
    hways w (List.mem_of_mem_drop (List.mem_reverse.mp (List.mem_filter.mp hw).1))
  unfold optimise
  dsimp only
  split
  · exact .ok hs
  split
  · exact .ok hs
  split
  · exact .ok hs
  · refine (approachAll_yields hA hf htargets hs).bind fun r hr => ?_
    exact (betweenAll_yields hA hways hr).bind fun _ ht => .ok ht

theorem proveAndOptimise_yields (hA : A.Answers I) (hs : I s) (hf : f.WellFormed)
    (hg : g.WellFormed) : Yields (proveAndOptimise A passes tries f g s) fun r => I r.2 := by
  have hpair : A.pairOnly.Answers I := ⟨hA.draw, hA.pair, fun _ hadvise => by cases hadvise⟩
  refine (guidedFrom_yields hA passes 0 hs hf hg).bind fun d hd => ?_
  dsimp only
  split
  · exact (optimise_yields hA hf true _ hd).bind fun _ ht => .ok ht
  · refine (inTurn_yields hpair hd hf hg).bind fun c hc => ?_
    split
    · exact .ok hc
    · exact (optimise_yields hA hf true _ hc).bind fun _ ht => .ok ht

end

/-- The steps of a guided proof or of a simplification bear the numbers 0, 1, 2 and so on of its
passes, and a success comes right after the last of them. A pass makes no step only where no law
applies to any formula at hand, which leaves leaves and negated atoms among the well-formed ones,
and no later pass makes a step then. Hence what is reported of an optimised proof are numbers of
steps: it keeps between none and all of them, and fewer exactly if it was optimised. -/
theorem passes_step_until_stuck (A : Advisor σ)
    (advise : σ → Formula → String → Except Fault (String × σ)) (goal : String)
    (passes tries : Nat) (f g : Formula) (s : σ) :
    (∀ r s', guided A passes f g s = .ok (r, s') →
      (∀ (k : Nat) (st : Step), r.steps[k]? = some st → st.iteration = k) ∧
      (r.success = true → r.iterations = r.steps.length)) ∧
    (∀ r s', simplify A advise goal passes f s = .ok (r, s') →
      (∀ (k : Nat) (st : Step), r.steps[k]? = some st → st.iteration = k) ∧
      (r.success = true → r.iterations = r.steps.length)) ∧
    (∀ s', guidedMove A f g s = .ok (none, s') → Law.Stuck f ∧ Law.Stuck g ∧
      ∀ k i r s'', guidedFrom A k i f g s' = .ok (r, s'') → r.steps = []) ∧
    (∀ s', simplifyingMove A advise goal f s = .ok (none, s') → Law.Stuck f ∧
      ∀ k i r s'', simplifyFrom A advise goal k i f s' = .ok (r, s'') → r.steps = []) ∧
    (f.WellFormed → (Law.Stuck f ↔ (∃ l, f = .leaf l) ∨ ∃ a, f = .neg (.var a))) ∧
    (∀ p s', proveAndOptimise A passes tries f g s = .ok (p, s') → p.optimisation.isSome = true →
      ∃ final original better,
        (Report.optimised p).get? "final_steps" = some (.int final) ∧
        (Report.optimised p).get? "original_steps" = some (.int original) ∧
        (Report.optimised p).get? "was_optimized" = some (.bool better) ∧
        0 ≤ final ∧ final ≤ original ∧ (final < original ↔ better = true)) ∧
    ∀ I : σ → Prop, A.Answers I → I s → f.WellFormed → g.WellFormed →
      ∃ p s', proveAndOptimise A passes tries f g s = .ok (p, s') := by
  refine ⟨fun r s' h => ?_, fun r s' h => ?_, fun s' h => ?_, fun s' h => ?_,
    Law.Stuck.iff_of_wellFormed, fun p s' h hp => ?_, fun I hA hs hf hg => ?_⟩
  · have hpaced := guidedFrom_paced h
    exact ⟨fun k st hst => (hpaced.iteration_eq hst).trans (Nat.zero_add k),
      fun hr => (hpaced.prompt hr).trans (Nat.zero_add _)⟩
  · have hpaced := simplifyFrom_paced h
    exact ⟨fun k st hst => (hpaced.iteration_eq hst).trans (Nat.zero_add k),
      fun hr => (hpaced.prompt hr).trans (Nat.zero_add _)⟩
  · obtain ⟨hf, hg⟩ := stuck_of_guidedMove h
    exact ⟨hf, hg, fun k i r s'' hr => (guidedFrom_of_stuck hr hf hg).1⟩
  · have hf := stuck_of_simplifyingMove h
    exact ⟨hf, fun k i r s'' hr => (simplifyFrom_of_stuck hr hf).1⟩
  · obtain ⟨o, ho⟩ := Option.isSome_iff_exists.mp hp
    obtain ⟨r, u, u', hpaced, hsteps, hoptimise⟩ := exists_run_of_optimised h ho
    have hbounds := finalSteps_bounds hoptimise fun m hm i hi => by
      obtain ⟨st, hst, rfl⟩ := List.mem_map.mp hm
      cases hi
      have hlt := hpaced.iteration_lt hst
      rw [List.length_map]
      omega
    rw [List.length_map, ← hsteps] at hbounds
    refine ⟨_, _, _, ?_, ?_, ?_, hbounds⟩ <;> rw [Report.optimised, ho] <;> rfl
  · obtain ⟨⟨p, s'⟩, h, -⟩ := proveAndOptimise_yields hA hs hf hg
    exact ⟨p, s', h⟩

/-- Three double negations go away in three passes, and none of them is left in the end. Atoms and
negated atoms are left alone. -/
theorem passes_step_until_stuck_double_negations :
    let f : Formula := .var ⟨0, 0, "p"⟩ &&& .var ⟨0, 1, "q"⟩
    let g : Formula := .var ⟨1, 0, "p"⟩ &&& .var ⟨1, 1, "q"⟩
    let g' : Formula := .neg (.neg (.neg (.neg (.neg (.neg g)))))
    let x : Formula := .var ⟨0, 0, "p"⟩
    let y : Formula := .neg (.var ⟨1, 1, "q"⟩)
    f.WellFormed ∧ g'.WellFormed ∧ heedless.Answers (fun _ => True) ∧
      Yields (guided heedless 5 f g' 1) (fun r => r.1.success = true ∧ r.1.steps.length = 3 ∧
        r.1.iterations = 3) ∧
      Yields (proveAndOptimise heedless 5 5 f g' 1) (fun r => r.1.optimisation.isSome = true ∧
        ∃ final original better,
          (Report.optimised r.1).get? "final_steps" = some (.int final) ∧
          (Report.optimised r.1).get? "original_steps" = some (.int original) ∧
          (Report.optimised r.1).get? "was_optimized" = some (.bool better) ∧
          0 ≤ final ∧ final ≤ original ∧ (final < original ↔ better = true)) ∧
      Yields (guidedMove heedless x y 1) (fun r => r.1 = none) ∧ y.WellFormed ∧
      Law.Stuck x ∧ Law.Stuck y := by
  intro f g g' x y
  have hf : f.WellFormed := by decide
  have hg : g'.WellFormed := by decide
  have hA : heedless.Answers (fun _ => True) :=
    ⟨fun _ _ => trivial, fun _ _ _ _ _ _ => .ok trivial, fun _ hadvise => by cases hadvise⟩
  have hguided : Yields (guided heedless 5 f g' 1)
      (fun r => r.1.success = true ∧ r.1.steps.length = 3) := by decide
  have hidle : Yields (guidedMove heedless x y 1) (fun r => r.1 = none) := by decide
  obtain ⟨hrun, -, -, -, -, hreport, htotal⟩ :=
    passes_step_until_stuck heedless (fun n _ _ => .ok ("nothing", n)) "F" 5 5 f g' 1
  obtain ⟨-, -, hstuck, -⟩ :=
    passes_step_until_stuck heedless (fun n _ _ => .ok ("nothing", n)) "F" 5 5 x y 1
  obtain ⟨⟨r, s⟩, hr, hsuccess, hlength⟩ := hguided
  obtain ⟨p, t, hp⟩ := htotal (fun _ => True) hA trivial hf hg
  have hoptimised : (proveAndOptimise heedless 5 5 f g' 1).toOption.map
      (·.1.optimisation.isSome) = some true := by cbv
  have hsome : p.optimisation.isSome = true := by
    rw [hp] at hoptimised
    exact Option.some.inj hoptimised
  obtain ⟨⟨m, u⟩, hm, hnone⟩ := hidle
  obtain rfl : m = none := hnone
  obtain ⟨hx, hy, -⟩ := hstuck u hm
  exact ⟨hf, hg, hA, ⟨_, hr, hsuccess, hlength, ((hrun r s hr).2 hsuccess).trans hlength⟩,
    ⟨_, hp, hsome, hreport p t hp hsome⟩, ⟨_, hm, rfl⟩, by decide, hx, hy⟩

end Prover

end LogicTutor
