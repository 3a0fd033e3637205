import LogicTutor.Proofs.Computation
import LogicTutor.Proofs.Law.Rewriting
import LogicTutor.Prover.Run

/-! What a prover's move can be, whoever advises it: one law, applied at one of the positions
where it applies, to the formula on the side that the move names. -/
namespace LogicTutor

variable {σ : Type} {A : Advisor σ} {s s' : σ} {f g : Formula} {law : Law}

namespace Advisor

variable {α : Type} {x : α} {xs : List α}

theorem mem_of_choose (h : (A.choose xs s).1 = some x) : x ∈ xs := by
  cases xs with
  | nil => simp [choose] at h
  | cons y ys => exact List.mem_of_getElem? h

theorem exists_choose (h : xs ≠ []) (A : Advisor σ) (s : σ) :
    ∃ x ∈ xs, (A.choose xs s).1 = some x := by
  cases xs with
  | nil => exact absurd rfl h
  | cons y ys =>
    have hlt : (A.draw s).1 % (ys.length + 1) < (y :: ys).length := Nat.mod_lt _ (by simp)
    exact ⟨_, List.getElem_mem hlt, List.getElem?_eq_getElem hlt⟩

end Advisor

namespace Move

variable {m : Move}

/-- The move applies its law to the formula at a position where the law applies, and shows what
stood there if that was not the whole formula. -/
def Changes (m : Move) (f : Formula) : Prop :=
  ∃ p ∈ m.law.positions f, m.result = m.law.applyAt f p ∧ m.matched = Law.shownAt f p

theorem Changes.rewritesInside (h : m.Changes f) : m.law.RewritesInside f m.result := by
  obtain ⟨p, hp, hr, -⟩ := h
  rw [hr]
  exact Law.rewritesInside_of_mem_positions hp

theorem drawn_changes (h : law.appliesInside f = true) (A : Advisor σ) (side : Int) (s : σ) :
    (drawn A side law f s).1.side = side ∧ (drawn A side law f s).1.law = law ∧
      (drawn A side law f s).1.Changes f := by
  obtain ⟨p, hp, hc⟩ := Advisor.exists_choose (Law.appliesInside_iff.mp h) A s
  have hd : (drawn A side law f s).1 = ⟨side, law, law.applyAt f p, Law.shownAt f p⟩ := by
    unfold drawn
    split
    next hn => rw [hn] at hc; cases hc
    next q _ hq =>
      rw [hq] at hc
      cases hc
      rfl
  rw [hd]
  exact ⟨rfl, rfl, p, hp, rfl, rfl⟩

theorem mem_candidates {laws : List Law} {sides : List (Int × Formula)} {c : Candidate} :
    c ∈ candidates laws sides ↔ c.law ∈ laws ∧ (c.side, c.formula) ∈ sides ∧
      c.law.appliesInside c.formula = true := by
  simp only [candidates, List.mem_flatMap, List.mem_map, List.mem_filter]
  constructor
  · rintro ⟨law, hl, x, ⟨hx, ha⟩, rfl⟩
    exact ⟨hl, hx, ha⟩
  · rintro ⟨hl, hx, ha⟩
    exact ⟨c.law, hl, (c.side, c.formula), ⟨hx, ha⟩, rfl⟩

theorem ofCandidate_changes {laws : List Law} {sides : List (Int × Formula)} {c : Candidate}
    (hc : c ∈ candidates laws sides) (A : Advisor σ) (s : σ) :
    ∃ x ∈ sides, (ofCandidate A c s).1.side = x.1 ∧ (ofCandidate A c s).1.Changes x.2 := by
  obtain ⟨-, hx, ha⟩ := mem_candidates.mp hc
  obtain ⟨hs, -, hm⟩ := drawn_changes ha A c.side s
  exact ⟨_, hx, hs, hm⟩

/-- A move made without advice changes one of the formulas it could choose from. -/
theorem unadvised_changes {sides : List (Int × Formula)}
    (h : (unadvised A sides s).1 = some m) : ∃ x ∈ sides, m.side = x.1 ∧ m.Changes x.2 := by
  unfold unadvised at h
  split at h
  next c cs hc =>
    cases h
    exact ofCandidate_changes (hc ▸ List.mem_cons_self) A s
  next =>
    split at h
    next c t hc =>
      cases h
      exact ofCandidate_changes (Advisor.mem_of_choose (congrArg Prod.fst hc)) A t
    next t _ =>
      simp only at h
      split at h
      · split at h
        next c u hc =>
          cases h
          exact ofCandidate_changes (Advisor.mem_of_choose (congrArg Prod.fst hc)) A u
        next => cases h
      · cases h

theorem advised_changes {side : Int} {name : String} (h : advised A side name f s = some (m, s')) :
    m.side = side ∧ m.Changes f := by
  unfold advised at h
  split at h
  next law _ =>
    split at h
    next ha =>
      obtain ⟨hs, -, hm⟩ := drawn_changes ha A side s
      rw [Option.some.inj h] at hs hm
      exact ⟨hs, hm⟩
    next => cases h
  next => cases h

end Move

namespace Prover

variable {m : Move} {b : Bool}

/-- The formula on a side: the first on side 1, the second on any other. -/
def sideOf (side : Int) (f g : Formula) : Formula := if side = 1 then f else g

theorem guidedMove_changes (h : guidedMove A f g s = .ok (some (m, b), s')) :
    m.Changes (sideOf m.side f g) := by
  unfold guidedMove at h
  obtain ⟨⟨⟨side, name⟩, t⟩, -, h⟩ := exists_of_bind_eq_ok h
  simp only at h
  split at h
  next m' t' hm =>
    cases h
    obtain ⟨hs, hc⟩ := Move.advised_changes hm
    rw [hs]
    exact hc
  next =>
    cases hu : (Move.unadvised A [(1, f), (2, g)] t).1 with
    | none => simp [hu, pure, Except.pure] at h
    | some m' =>
      simp only [hu, pure, Except.pure, Option.map_some, Except.ok.injEq, Prod.mk.injEq,
        Option.some.injEq] at h
      obtain ⟨⟨rfl, -⟩, -⟩ := h
      obtain ⟨x, hx, hs, hc⟩ := Move.unadvised_changes hu
      rw [hs]
      simp only [List.mem_cons, List.not_mem_nil, or_false] at hx
      rcases hx with rfl | rfl <;> exact hc

theorem simplifyingMove_changes {advise : σ → Formula → String → Except Fault (String × σ)}
    {goal : String} (h : simplifyingMove A advise goal f s = .ok (some (m, b), s')) :
    m.Changes f := by
  unfold simplifyingMove at h
  obtain ⟨⟨name, t⟩, -, h⟩ := exists_of_bind_eq_ok h
  simp only at h
  split at h
  next m' t' hm =>
    cases h
    exact (Move.advised_changes hm).2
  next =>
    split at h
    next c cs hc =>
      cases h
      obtain ⟨x, hx, -, hm⟩ := Move.ofCandidate_changes (hc ▸ List.mem_cons_self) A t
      rw [List.mem_singleton.mp hx] at hm
      exact hm
    next => cases h

end Prover

end LogicTutor
