import LogicTutor.Proofs.Formula.Parts
import LogicTutor.Proofs.Law.Reach
import LogicTutor.Proofs.Prover.Derivation
import LogicTutor.Proofs.Prover.Rereading
import LogicTutor.Proofs.Prover.Stalling

/-! How long the proofs are that the optimiser speaks of. It counts the steps of a shortcut and the
steps of the record after the place that the shortcut leads to. What the record did to the second
formula before that place is left out of the count, so there may be no proof of that length. -/
namespace LogicTutor

theorem Law.kept_readIn {reading : Nat} {names : List String} :
    Law.Kept (Formula.ReadIn reading names) := fun law f g h hf =>
  ⟨Law.kept_legible law f g h hf.legible, Law.kept_over (fun _ => rfl) law f g h hf.own⟩

/-- A waypoint comes from one of the milestones. -/
theorem Waypoint.exists_of_mem_ofRecord {record : List Milestone} {w : Waypoint}
    (h : w ∈ ofRecord record) : ∃ m ∈ record, ∃ reading, ofMilestone? reading m = some w := by
  obtain ⟨⟨m, reading⟩, hm, hw⟩ := List.mem_filterMap.mp h
  exact ⟨m, List.fst_mem_of_mem_zipIdx hm, reading, hw⟩

namespace Trail

variable {α : Type} {R : Step → α → α → Prop} {a c : α} {xs ys : List Step}

theorem split (t : Trail R a (xs ++ ys) c) : ∃ b, Trail R a xs b ∧ Trail R b ys c := by
  induction xs generalizing a with
  | nil => exact ⟨a, .nil a, t⟩
  | cons st xs ih =>
    cases t with
    | cons h t =>
      obtain ⟨b, hx, hy⟩ := ih t
      exact ⟨b, .cons h hx, hy⟩

theorem of_singleton {st : Step} (t : Trail R a [st] c) : R st a c := by
  cases t with
  | cons h t =>
    cases t
    exact h

end Trail

namespace Step

/-- How many of the steps changed the first formula. -/
def onFirst (sts : List Step) : Nat := sts.countP fun st => st.side = 1

/-- How many of the steps changed the second formula. -/
def onSecond (sts : List Step) : Nat := sts.countP fun st => st.side ≠ 1

theorem onFirst_add_onSecond (sts : List Step) : onFirst sts + onSecond sts = sts.length := by
  rw [onFirst, onSecond, List.length_eq_countP_add_countP (fun st => st.side = 1) (l := sts)]
  simp

theorem onSecond_eq_zero {sts : List Step} (h : ∀ st ∈ sts, st.side = 1) : onSecond sts = 0 := by
  rw [onSecond, List.countP_eq_zero]
  simpa using h

end Step

namespace Trail

variable {a b : Formula × Formula} {sts : List Step}

/-- A record applies as many laws to each of the formulas as it has steps on their side. -/
theorem reaches (t : Trail Step.OfPair a sts b) :
    Formula.Reaches (Step.onFirst sts) a.1 b.1 ∧ Formula.Reaches (Step.onSecond sts) a.2 b.2 := by
  induction t with
  | nil a => exact ⟨.refl a.1, .refl a.2⟩
  | cons h t ih =>
    rw [Step.onFirst, Step.onSecond, List.countP_cons, List.countP_cons]
    rcases h.change with ⟨hs, ht, he⟩ | ⟨hs, ht, he⟩
    · obtain ⟨p, hp, hb, -⟩ := ht.change
      rw [hb, he] at ih
      simp only [hs, ne_eq, not_true_eq_false, decide_true, decide_false, ↓reduceIte]
      exact ⟨.step hp ih.1, ih.2⟩
    · obtain ⟨p, hp, hb, -⟩ := ht.change
      rw [hb, he] at ih
      simp only [hs, ne_eq, not_false_eq_true, decide_true, decide_false, ↓reduceIte]
      exact ⟨ih.1, .step hp ih.2⟩

end Trail

namespace Optimisation

variable {before ways : Nat} {as : List Approach} {inner : List Shortcut} {a : Approach}

theorem foldl_better (best : Option Approach) (h : as.foldl (better before) best = some a) :
    best = some a ∨ a ∈ as ∧ a.run.success = true := by
  induction as generalizing best with
  | nil => exact .inl h
  | cons b as ih =>
    rcases ih _ h with hb | ⟨ha, hs⟩
    · unfold better at hb
      split at hb
      next hsave =>
        obtain rfl := Option.some.inj hb
        exact .inr ⟨List.mem_cons_self, (Bool.and_eq_true_iff.mp hsave).1⟩
      next => exact .inl hb
    · exact .inr ⟨List.mem_cons_of_mem b ha, hs⟩

theorem mem_of_best? (h : (searched before ways as inner).best? = some a) :
    a ∈ as ∧ a.run.success = true := by
  rcases foldl_better none h with h | h
  · cases h
  · exact h

end Optimisation

namespace Prover

variable {σ τ : Type} {A : Advisor σ} {B : Advisor τ} {f g : Formula} {s s' : σ} {r : Run}
  {passes tries : Nat}

/-- Every approach is a run of the prover from the start to its waypoint. -/
theorem mem_approachAll {ws : List Waypoint} {as : List Approach}
    (h : approachAll A passes f ws s = .ok (as, s')) :
    ∀ a ∈ as, a.waypoint ∈ ws ∧
      ∃ u u', guided A passes f a.waypoint.formula u = .ok (a.run, u') := by
  induction ws generalizing s as with
  | nil =>
    cases h
    simp
  | cons w ws ih =>
    rw [approachAll] at h
    obtain ⟨⟨q, u⟩, hq, h⟩ := exists_of_bind_eq_ok h
    obtain ⟨⟨rest, u'⟩, hrest, h⟩ := exists_of_bind_eq_ok h
    cases h
    intro a ha
    rcases List.mem_cons.mp ha with rfl | ha
    · exact ⟨List.mem_cons_self, s, u, hq⟩
    · obtain ⟨hw, hrun⟩ := ih hrest a ha
      exact ⟨List.mem_cons_of_mem w hw, hrun⟩

/-- The optimiser takes an approach only out of a search, which counts the steps of the record. -/
theorem exists_searched_of_best? {record : List Milestone} {success : Bool} {o : Optimisation}
    {a : Approach} (h : optimise A passes success record f s = .ok (o, s'))
    (ha : o.best? = some a) :
    ∃ ways as inner, o = .searched record.length ways as inner ∧
      ∀ b ∈ as, (∃ m ∈ record, ∃ reading, Waypoint.ofMilestone? reading m = some b.waypoint) ∧
        ∃ u u', guided A passes f b.waypoint.formula u = .ok (b.run, u') := by
  unfold optimise at h
  simp only at h
  split at h
  next => cases h; cases ha
  split at h
  next => cases h; cases ha
  split at h
  next => cases h; cases ha
  next =>
    obtain ⟨⟨as, u⟩, has, h⟩ := exists_of_bind_eq_ok h
    obtain ⟨⟨inner, u'⟩, -, h⟩ := exists_of_bind_eq_ok h
    cases h
    refine ⟨_, as, inner, rfl, fun b hb => ?_⟩
    obtain ⟨hw, hrun⟩ := mem_approachAll has b hb
    refine ⟨?_, hrun⟩
    exact Waypoint.exists_of_mem_ofRecord
      (List.mem_of_mem_drop (List.mem_reverse.mp (List.mem_filter.mp hw).1))

/-- The approach that the optimiser takes succeeded, and it leads to a formula that the record
passed through. -/
theorem exists_of_best? {record : List Milestone} {success : Bool} {o : Optimisation} {a : Approach}
    (h : optimise A passes success record f s = .ok (o, s')) (ha : o.best? = some a) :
    a.run.success = true ∧
      (∃ m ∈ record, ∃ reading, Waypoint.ofMilestone? reading m = some a.waypoint) ∧
      ∃ u u', guided A passes f a.waypoint.formula u = .ok (a.run, u') := by
  obtain ⟨ways, as, inner, rfl, hall⟩ := exists_searched_of_best? h ha
  obtain ⟨hmem, hsuccess⟩ := Optimisation.mem_of_best? ha
  exact ⟨hsuccess, hall a hmem⟩

/-- A run that succeeds applies the laws it records and makes the formulas the same. -/
theorem reaches_of_success (h : guided A passes f g s = .ok (r, s')) (hr : r.success = true) :
    Formula.Reaches (Step.onFirst r.steps) f r.final1 ∧
      Formula.Reaches (Step.onSecond r.steps) g r.final2 ∧ r.final1.same r.final2 = true := by
  have hp := guidedFrom_passes h
  exact ⟨hp.trail.reaches.1, hp.trail.reaches.2, hp.success_eq.symm.trans hr⟩

/-- The place of the waypoint in the record: the step that led there, with the formula that it
wrote. -/
theorem exists_step_of_waypoint (h : guided A passes f g s = .ok (r, s')) (hr : r.success = true)
    (hf : f.Legible) (hg : g.Legible) {w : Waypoint}
    (hw : ∃ m ∈ r.steps.map Milestone.ofStep, ∃ reading,
      Waypoint.ofMilestone? reading m = some w) :
    ∃ pre st post b reading, r.steps = (pre ++ [st]) ++ post ∧ w.step = pre.length ∧
      w.formula = (sideOf st.side b.1 b.2).withReading reading ∧
      Trail Step.OfPair (f, g) (pre ++ [st]) b ∧
      Trail Step.OfPair b post (r.final1, r.final2) := by
  obtain ⟨_, hm, reading, hw⟩ := hw
  obtain ⟨st, hst, rfl⟩ := List.mem_map.mp hm
  obtain ⟨pre, post, hsplit⟩ := List.append_of_mem hst
  have hsteps : r.steps = (pre ++ [st]) ++ post := by simpa using hsplit
  have hiteration : st.iteration = pre.length := by
    have hmap := (guidedFrom_unbroken h hr).1
    rw [hsplit] at hmap
    have hget := congrArg (·[pre.length]?) hmap
    simpa using hget
  have htrail := guided_rereads h hf hg
  rw [Run.Rereads, hsteps] at htrail
  obtain ⟨b, hbefore, hafter⟩ := htrail.split
  obtain ⟨c, -, hlast⟩ := hbefore.split
  have hway := hlast.of_singleton.2.waypoint reading
  rw [hw] at hway
  split at hway
  next => cases hway
  next =>
    obtain rfl := Option.some.inj hway
    exact ⟨pre, st, post, b, reading, hsteps, congrArg _ hiteration, rfl,
      hbefore.mono fun _ _ _ h => h.1, hafter.mono fun _ _ _ h => h.1⟩

variable {m n : Nat} {p q : String} {o : Optimisation} {a : Approach} {t t' : τ}

/-- The optimiser counts the steps of its shortcut and the steps of the record after the waypoint.
Where the waypoint is a state of the second formula, the shortcut makes a proof together with what
the record did to this formula up to there. Where it is a state of the first formula and the
shortcut changes only that, what is counted makes a proof together with what the record did to the
second formula up to there. In any case there is the record itself. -/
theorem meet_of_optimised (hf : Formula.parse m p = .ok f) (hg : Formula.parse n q = .ok g)
    (hrun : guided A passes f g s = .ok (r, s')) (hr : r.success = true)
    (ho : optimise B tries r.success (r.steps.map .ofStep) f t = .ok (o, t'))
    (ha : o.best? = some a) :
    Formula.Meet r.steps.length f g ∧
    ∃ pre st post, r.steps = (pre ++ [st]) ++ post ∧ a.waypoint.step = pre.length ∧
      a.totalSteps r.steps.length = a.run.steps.length + post.length ∧
      (st.side ≠ 1 → Formula.Meet (a.run.steps.length + Step.onSecond (pre ++ [st])) f g) ∧
      (st.side = 1 → (∀ st' ∈ a.run.steps, st'.side = 1) →
        Formula.Meet (a.run.steps.length + post.length + Step.onSecond (pre ++ [st])) f g) := by
  have hrf := Formula.readIn_of_parse hf
  have hrg := Formula.readIn_of_parse hg
  obtain ⟨hsuccess, hway, u, u', hshort⟩ := exists_of_best? ho ha
  obtain ⟨pre, st, post, b, reading, hsteps, hstep, hformula, hbefore, hafter⟩ :=
    exists_step_of_waypoint hrun hr hrf.legible hrg.legible hway
  obtain ⟨hfinal1, hfinal2, hmeet⟩ := reaches_of_success hrun hr
  obtain ⟨hx, hy, hsame⟩ := reaches_of_success hshort hsuccess
  have hcount := Step.onFirst_add_onSecond a.run.steps
  refine ⟨⟨_, _, _, _, hfinal1, hfinal2, hmeet, (Step.onFirst_add_onSecond r.steps).le⟩,
    pre, st, post, hsteps, hstep, ?_, fun hside => ?_, fun hside hall => ?_⟩
  · have hiterations := (guidedFrom_unbroken hshort hsuccess).2
    have hlength : r.steps.length = pre.length + 1 + post.length := by
      rw [hsteps, List.length_append, List.length_append, List.length_singleton]
    rw [Approach.totalSteps, hstep, hiterations, hlength]
    omega
  · -- the shortcut meets the second chain at the waypoint
    rw [hformula, sideOf, if_neg hside] at hy
    obtain ⟨y, hy, he⟩ := hy.of_renumbered
    rw [he, Formula.same_renumbered_right] at hsame
    exact ⟨_, _, _, _, hx, hbefore.reaches.2.trans hy, hsame, by omega⟩
  · -- the shortcut ends at the very formula that the first chain has at the waypoint
    rw [hformula, sideOf, if_pos hside, Step.onSecond_eq_zero hall] at hy
    rw [hy.eq_of_zero, Formula.withReading, Formula.same_renumbered_right] at hsame
    have hfinal : a.run.final1 = b.1 :=
      (hx.keeps Law.kept_readIn hrf).eq_of_text_eq
        (hbefore.reaches.1.keeps Law.kept_readIn hrf) (Formula.text_eq_of_same hsame)
    rw [hfinal] at hx
    obtain ⟨hfirst, hsecond⟩ := hafter.reaches
    have hpost := Step.onFirst_add_onSecond post
    exact ⟨_, _, _, _, hx.trans hfirst, hbefore.reaches.2.trans hsecond, hmeet, by omega⟩

/-- All steps of this record were made on the second formula and the last of them made it the same
as the first. The way from the first formula to there has no steps, and none are left after it. -/
theorem optimised_without_proof :
    let f : Formula := .var ⟨0, 0, "p"⟩ &&& .var ⟨0, 1, "q"⟩
    let g : Formula := .var ⟨1, 0, "p"⟩ &&& .var ⟨1, 1, "q"⟩
    let g' : Formula := .neg (.neg (.neg (.neg (.neg (.neg g)))))
    Formula.parse 0 "p ^ q" = .ok f ∧ Formula.parse 1 "~~~~~~(p ^ q)" = .ok g' ∧
      (do
        let (r, n) ← guided heedless 5 f g' 1
        let (o, _) ← optimise heedless 5 r.success (r.steps.map .ofStep) f n
        return (r.success, o.best?.map fun a => a.totalSteps r.steps.length) :
        Except Fault (Bool × Option Int)) = .ok (true, some 0) ∧ ¬ Formula.Meet 0 f g' := by
  intro f g g'
  refine ⟨by cbv, by cbv, by cbv, fun h => ?_⟩
  have hs := h.zero
  revert hs
  decide

/-- Here the record exchanges the operands three times and the shortcut only once. -/
theorem meet_of_optimised_commutativity :
    let f : Formula := .var ⟨0, 0, "p"⟩ &&& .var ⟨0, 1, "q"⟩
    let g : Formula := .neg (.neg (.var ⟨1, 0, "q"⟩) ||| .neg (.var ⟨1, 1, "p"⟩))
    let exchanging (k : Nat) : Advisor Nat := { heedless with
      pair := fun n _ _ => .ok ((1, if n < k then "commutativity" else "de_morgan_reverse"), n) }
    Formula.parse 0 "p ^ q" = .ok f ∧ Formula.parse 1 "~(~q v ~p)" = .ok g ∧
      ∃ r s' o t' a, guided (exchanging 3) 4 f g 0 = .ok (r, s') ∧ r.success = true ∧
        optimise (exchanging 1) 2 r.success (r.steps.map .ofStep) f 0 = .ok (o, t') ∧
        o.best? = some a ∧ r.steps.length = 4 ∧ a.totalSteps 4 = 2 ∧ Formula.Meet 2 f g := by
  intro f g exchanging
  have hf : Formula.parse 0 "p ^ q" = .ok f := by cbv
  have hg : Formula.parse 1 "~(~q v ~p)" = .ok g := by cbv
  have hcount : (do
      let (r, _) ← guided (exchanging 3) 4 f g 0
      let (o, _) ← optimise (exchanging 1) 2 r.success (r.steps.map .ofStep) f 0
      return (r.success, r.steps.map Step.side, o.best?.map fun a =>
        (a.totalSteps 4, a.run.steps.map Step.side)) :
      Except Fault (Bool × List Int × Option (Int × List Int))) =
        .ok (true, [1, 1, 1, 1], some (2, [1, 1])) := by cbv
  obtain ⟨⟨r, s'⟩, hr, hcount⟩ := exists_of_bind_eq_ok hcount
  obtain ⟨⟨o, t'⟩, ho, hcount⟩ := exists_of_bind_eq_ok hcount
  obtain ⟨hsuccess, hrest⟩ := Prod.mk.inj (Except.ok.inj hcount)
  obtain ⟨hsides, hbest⟩ := Prod.mk.inj hrest
  obtain ⟨a, ha, hval⟩ := Option.map_eq_some_iff.mp hbest
  obtain ⟨htotal, hsides'⟩ := Prod.mk.inj hval
  have hfirst {sts : List Step} {k : Nat} (h : sts.map Step.side = List.replicate k 1) :
      ∀ st ∈ sts, st.side = 1 := fun st hst =>
    List.eq_of_mem_replicate (h ▸ List.mem_map_of_mem hst)
  have hlength : r.steps.length = 4 := by simpa using congrArg List.length hsides
  obtain ⟨-, pre, st, post, hsteps, -, hcounted, -, hmeet⟩ :=
    meet_of_optimised hf hg hr hsuccess ho ha
  have hall : ∀ st ∈ r.steps, st.side = 1 := hfirst (k := 4) hsides
  have hone : Step.onSecond (pre ++ [st]) = 0 := Step.onSecond_eq_zero fun st' hst' =>
    hall st' (hsteps ▸ List.mem_append_left post hst')
  have hmeet := hmeet (hall st (by simp [hsteps])) (hfirst (k := 2) hsides')
  rw [hlength, htotal] at hcounted
  have htwo : a.run.steps.length + post.length = 2 := by omega
  rw [hone, htwo] at hmeet
  exact ⟨hf, hg, r, s', o, t', a, hr, hsuccess, ho, ha, hlength, htotal, hmeet⟩

end Prover

end LogicTutor
