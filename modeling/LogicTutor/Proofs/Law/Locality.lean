import LogicTutor.Proofs.Formula.Glossary
import LogicTutor.Proofs.Law.Rewriting
import LogicTutor.Prover.Advisor

/-! Where laws apply and what they leave alone. The locations of a law are all parts below the root
that it applies to, in preorder, and a law that is applied at a position changes what stands there
and nothing at any position that is not below it. -/
namespace LogicTutor

namespace Path

variable {p q : Path}

/-- In preorder `p` comes before `q`: `q` leads on from where `p` ends, or at the first step that
they do not share `p` goes left and `q` goes right. -/
def Before (p q : Path) : Prop :=
  (∃ e r, q = p ++ e :: r) ∨ ∃ r s t, p = r ++ .left :: s ∧ q = r ++ .right :: t

theorem nil_before (e : Direction) (p : Path) : Before [] (e :: p) := .inl ⟨e, p, rfl⟩

theorem before_cons_cons {d e : Direction} :
    Before (d :: p) (e :: q) ↔ d = .left ∧ e = .right ∨ d = e ∧ Before p q := by
  constructor
  · rintro (⟨c, r, h⟩ | ⟨r, s, t, hp, hq⟩)
    · obtain ⟨rfl, rfl⟩ := List.cons.inj h
      exact .inr ⟨rfl, .inl ⟨c, r, rfl⟩⟩
    · cases r with
      | nil => exact .inl ⟨(List.cons.inj hp).1, (List.cons.inj hq).1⟩
      | cons c r =>
        obtain ⟨rfl, rfl⟩ := List.cons.inj hp
        obtain ⟨rfl, rfl⟩ := List.cons.inj hq
        exact .inr ⟨rfl, .inr ⟨r, s, t, rfl, rfl⟩⟩
  · rintro (⟨rfl, rfl⟩ | ⟨rfl, ⟨c, r, rfl⟩ | ⟨r, s, t, rfl, rfl⟩⟩)
    · exact .inr ⟨[], p, q, rfl, rfl⟩
    · exact .inl ⟨c, r, rfl⟩
    · exact .inr ⟨d :: r, s, t, rfl, rfl⟩

theorem not_before_nil (p : Path) : ¬ Before p [] := by
  rintro (⟨e, r, h⟩ | ⟨r, s, t, -, h⟩) <;> simp at h

theorem Before.asymm (h : Before p q) : ¬ Before q p := by
  induction p generalizing q with
  | nil => exact not_before_nil q
  | cons d p ih =>
    cases q with
    | nil => exact absurd h (not_before_nil _)
    | cons e q =>
      intro h'
      rcases before_cons_cons.mp h with ⟨rfl, rfl⟩ | ⟨rfl, hpq⟩ <;>
        rcases before_cons_cons.mp h' with ⟨hd, he⟩ | ⟨hd, hqp⟩
      · cases hd
      · cases hd
      · rw [hd] at he
        cases he
      · exact ih hpq hqp

theorem Before.ne (h : Before p q) : p ≠ q := by
  rintro rfl
  exact h.asymm h

end Path

/-- What stands at one place of a tree, without what stands below it. -/
inductive Node where
  | blank
  | leaf (l : Leaf)
  | unary (c : Connective)
  | binary (c : Connective)
  deriving DecidableEq, Repr

namespace Formula

variable {f x : Formula} {p : Path}

/-- The node at the root. -/
def node : Formula → Node
  | .blank => .blank
  | .leaf l => .leaf l
  | .unary c _ => .unary c
  | .binary c _ _ => .binary c

/-- The node that a path of steps down leads to. -/
def node? (f : Formula) (p : Path) : Option Node := (f.part? p).map node

/-- At the top stands a connective. -/
def IsOperator : Formula → Prop
  | .blank | .leaf _ => False
  | .unary _ _ | .binary _ _ _ => True

theorem node?_cons (f : Formula) (e : Direction) (p : Path) :
    f.node? (e :: p) = (f.operand? e).bind fun x => x.node? p := by
  simp only [node?, part?]
  cases f.operand? e <;> rfl

end Formula

namespace Law

variable {law : Law} {f g x : Formula} {p : Path}

theorem isOperator_of_applies (h : law.applies x = true) : x.IsOperator := by
  cases x with
  | blank => cases law <;> cases h
  | leaf l => cases law <;> cases h
  | unary c y => trivial
  | binary c y z => trivial

/-! Where a law applies. -/

theorem nil_not_mem_locations : [] ∉ law.locations f := by
  cases f <;> simp [locations, locations.below]

theorem mem_locations_iff : p ∈ law.locations f ↔ p ≠ [] ∧ p ∈ law.positions f := by
  constructor
  · intro h
    constructor
    · rintro rfl
      exact nil_not_mem_locations h
    · exact List.mem_append_right _ h
  · rintro ⟨hne, h⟩
    rcases List.mem_append.mp h with h | h
    · split at h
      · exact absurd (List.mem_singleton.mp h) hne
      · cases h
    · exact h

/-- The positions are found in preorder: the root first, then what is on the left, then what is on
the right. -/
theorem positions_pairwise (law : Law) (f : Formula) :
    (law.positions f).Pairwise Path.Before := by
  have hroot (f : Formula) (h : (law.locations f).Pairwise Path.Before) :
      (law.positions f).Pairwise Path.Before := by
    rw [positions, List.pairwise_append]
    refine ⟨by split <;> simp, h, ?_⟩
    intro p hp q hq
    obtain rfl : p = [] := by
      split at hp
      · exact List.mem_singleton.mp hp
      · cases hp
    cases q with
    | nil => exact absurd hq nil_not_mem_locations
    | cons e q => exact Path.nil_before e q
  have hstep (d : Direction) (ps : List Path) (h : ps.Pairwise Path.Before) :
      (ps.map (d :: ·)).Pairwise Path.Before :=
    List.pairwise_map.mpr (h.imp fun hpq => Path.before_cons_cons.mpr (.inr ⟨rfl, hpq⟩))
  induction f with
  | blank =>
    apply hroot
    simp [locations]
  | leaf l =>
    apply hroot
    simp [locations]
  | unary c x ih =>
    apply hroot
    rw [locations_unary]
    exact hstep _ _ ih
  | binary c x y ihx ihy =>
    apply hroot
    rw [locations_binary, List.pairwise_append]
    refine ⟨hstep _ _ ihx, hstep _ _ ihy, ?_⟩
    intro p hp q hq
    obtain ⟨p, -, rfl⟩ := List.mem_map.mp hp
    obtain ⟨q, -, rfl⟩ := List.mem_map.mp hq
    exact Path.before_cons_cons.mpr (.inl ⟨rfl, rfl⟩)

theorem locations_pairwise (law : Law) (f : Formula) :
    (law.locations f).Pairwise Path.Before :=
  (positions_pairwise law f).sublist (List.sublist_append_right _ _)

theorem appliesInside_iff_locations :
    law.appliesInside f = true ↔ law.applies f = true ∨ law.locations f ≠ [] := by
  rw [appliesInside_iff, positions]
  by_cases h : law.applies f = true <;> simp [h]

/-! What a law changes. -/

theorem part?_applyAt (law : Law) (h : f.part? p = some x) :
    (law.applyAt f p).part? p = some (law.apply x) := by
  induction p generalizing f with
  | nil =>
    obtain rfl : f = x := by simpa [Formula.part?] using h
    rw [applyAt, Formula.part?]
  | cons e p ih =>
    obtain ⟨y, hy, hx⟩ := Option.bind_eq_some_iff.mp h
    cases f <;> cases e <;> simp only [Formula.operand?, Option.some.injEq, reduceCtorEq] at hy
    all_goals
      subst hy
      simpa [applyAt, Formula.part?, Formula.operand?] using ih hx

/-- A law changes nothing at a position that is not below the one where it is applied. -/
theorem node?_applyAt (law : Law) (f : Formula) {q : Path} (h : ¬ p <+: q) :
    (law.applyAt f p).node? q = f.node? q := by
  -- follow the path: a step that leaves it leads to an operand that is kept as it is
  fun_induction applyAt law f p generalizing q with
  | case1 f => exact absurd List.nil_prefix h
  | case2 c x p ih =>
    cases q with
    | nil => rfl
    | cons e q =>
      cases e <;> simp only [Formula.node?_cons, Formula.operand?, Option.bind_some]
      exact ih fun hp => h (List.cons_prefix_cons.mpr ⟨rfl, hp⟩)
  | case3 c x y p ih =>
    cases q with
    | nil => rfl
    | cons e q =>
      cases e <;> simp only [Formula.node?_cons, Formula.operand?, Option.bind_some]
      exact ih fun hp => h (List.cons_prefix_cons.mpr ⟨rfl, hp⟩)
  | case4 c x y p ih =>
    cases q with
    | nil => rfl
    | cons e q =>
      cases e <;> simp only [Formula.node?_cons, Formula.operand?, Option.bind_some]
      exact ih fun hp => h (List.cons_prefix_cons.mpr ⟨rfl, hp⟩)
  | case5 => rfl

/-- The law is applied to the part of `f` that the path leads to, where it does apply, and `g` is
what comes of it: what the law makes of the part stands in the part's place, and at all positions
that are not below stands what stood there before. -/
structure ActsAt (law : Law) (p : Path) (f g : Formula) : Prop where
  there : ∃ x, f.part? p = some x ∧ law.applies x = true ∧ g.part? p = some (law.apply x)
  elsewhere : ∀ q, ¬ p <+: q → g.node? q = f.node? q

theorem actsAt_of_mem_positions (h : p ∈ law.positions f) : law.ActsAt p f (law.applyAt f p) where
  there := by
    obtain ⟨x, hx, ha⟩ := mem_positions_iff.mp h
    exact ⟨x, hx, ha, part?_applyAt law hx⟩
  elsewhere _ hq := node?_applyAt law f hq

/-! What a draw picks. -/

theorem exists_pick? (h : law.positions f ≠ []) (n : Nat) :
    ∃ p ∈ law.positions f, law.pick? f n = some p := by
  have hlt : n % (law.positions f).length < (law.positions f).length :=
    Nat.mod_lt _ (List.length_pos_of_ne_nil h)
  exact ⟨_, List.getElem_mem hlt, List.getElem?_eq_getElem hlt⟩

theorem exists_draw (h : p ∈ law.positions f) : ∃ n, law.pick? f n = some p := by
  obtain ⟨n, hn, rfl⟩ := List.getElem_of_mem h
  refine ⟨n, ?_⟩
  simp only [pick?, Nat.mod_eq_of_lt hn]
  exact List.getElem?_eq_getElem hn

theorem positions_ne_nil_of_pick? {n : Nat} (h : law.pick? f n = some p) :
    law.positions f ≠ [] :=
  List.ne_nil_of_mem (List.mem_of_getElem? h)

end Law

theorem Compound.applyDrawn_eq {γ : Type} [Source γ] {law : Law} {c : Compound} {g : γ} {p : Path}
    (h : law.pick? c.formula (Source.draw g).1 = some p) :
    (c.applyDrawn law g).1.formula = law.applyAt c.formula p ∧
      (c.applyDrawn law g).2.2 = (Source.draw g).2 := by
  have hne : ¬ (law.positions c.formula).isEmpty = true := by
    simpa using Law.positions_ne_nil_of_pick? h
  unfold applyDrawn
  rw [if_neg hne]
  simp only [h]
  cases p with
  | nil =>
    rw [Law.applyAt]
    exact ⟨formula_wrap _, rfl⟩
  | cons e p => exact ⟨rfl, rfl⟩

theorem Move.drawn_eq {σ : Type} {A : Advisor σ} {s : σ} {law : Law} {f : Formula} {p : Path}
    (h : law.pick? f (A.draw s).1 = some p) (side : Int) :
    drawn A side law f s =
      (⟨side, law, law.applyAt f p, Law.shownAt f p⟩, (A.draw s).2) := by
  have hchoose : A.choose (law.positions f) s = (some p, (A.draw s).2) := by
    rw [← h, Law.pick?]
    cases hps : law.positions f with
    | nil => exact absurd hps (Law.positions_ne_nil_of_pick? h)
    | cons q ps => rfl
  rw [drawn, hchoose]

namespace Law

/-- The locations of a law are the parts below the root that it applies to, each once and in
preorder. The law applies inside a formula exactly if it applies to the whole or has a location.
Then every draw picks the root or a location, and each of them can be drawn; a draw is made, the
law is applied where it fell, and nothing changes at the positions that are not below. -/
theorem locations_complete_and_local (law : Law) (f : Formula) :
    (∀ p, p ∈ law.locations f ↔
      p ≠ [] ∧ ∃ x, f.part? p = some x ∧ x.IsOperator ∧ law.applies x = true) ∧
    (law.locations f).Pairwise Path.Before ∧ (law.locations f).Nodup ∧
    (law.appliesInside f = true ↔ law.applies f = true ∨ law.locations f ≠ []) ∧
    (law.appliesInside f = true →
      law.positions f ≠ [] ∧
      (∀ {γ : Type} [Source γ] (c : Compound) (g : γ), c.formula = f → ∃ p ∈ law.positions f,
        law.pick? f (Source.draw g).1 = some p ∧
        law.ActsAt p f (c.applyDrawn law g).1.formula ∧
        (c.applyDrawn law g).2.2 = (Source.draw g).2) ∧
      ∀ (σ : Type) (A : Advisor σ) (side : Int) (s : σ), ∃ p ∈ law.positions f,
        law.pick? f (A.draw s).1 = some p ∧ law.ActsAt p f (Move.drawn A side law f s).1.result ∧
        (Move.drawn A side law f s).2 = (A.draw s).2) ∧
    ∀ p, p = [] ∧ law.applies f = true ∨ p ∈ law.locations f ↔ ∃ n, law.pick? f n = some p := by
  have hordered := locations_pairwise law f
  refine ⟨?_, hordered, ?_, appliesInside_iff_locations, ?_, ?_⟩
  · intro p
    rw [mem_locations_iff, mem_positions_iff]
    apply and_congr_right
    intro _
    constructor
    · rintro ⟨x, hx, ha⟩
      exact ⟨x, hx, isOperator_of_applies ha, ha⟩
    · rintro ⟨x, hx, -, ha⟩
      exact ⟨x, hx, ha⟩
  · exact hordered.imp Path.Before.ne
  · intro h
    have hne := appliesInside_iff.mp h
    refine ⟨hne, ?_, ?_⟩
    · rintro γ _ c g rfl
      obtain ⟨p, hp, hpick⟩ := exists_pick? hne (Source.draw g).1
      obtain ⟨hformula, hchance⟩ := Compound.applyDrawn_eq hpick
      refine ⟨p, hp, hpick, ?_, hchance⟩
      rw [hformula]
      exact actsAt_of_mem_positions hp
    · intro σ A side s
      obtain ⟨p, hp, hpick⟩ := exists_pick? hne (A.draw s).1
      refine ⟨p, hp, hpick, ?_⟩
      rw [Move.drawn_eq hpick side]
      exact ⟨actsAt_of_mem_positions hp, rfl⟩
  · intro p
    have hmem : p = [] ∧ law.applies f = true ∨ p ∈ law.locations f ↔ p ∈ law.positions f := by
      cases p with
      | nil => simp [mem_positions_nil, nil_not_mem_locations]
      | cons e p => simp [mem_locations_iff]
    rw [hmem]
    constructor
    · exact exists_draw
    · rintro ⟨n, hn⟩
      exact List.mem_of_getElem? hn

/-- A conjunction that stands twice is found twice, and only the one that is drawn is turned
round. -/
theorem locations_complete_and_local_repeated :
    let p : Formula := .var ⟨0, 0, "p"⟩
    let q : Formula := .var ⟨0, 1, "q"⟩
    let f : Formula := .imp (.neg (p &&& q)) (p &&& q)
    let g : Formula := .imp (.neg (q &&& p)) (p &&& q)
    let turned : Compound :=
      (Compound.applyDrawn commutativity (.ofFormula f) (Chance.ofSeed 1)).1
    commutativity.locations f = [[.left, .left], [.right]] ∧
      commutativity.appliesInside f = true ∧ turned.formula = g ∧
      commutativity.ActsAt [.left, .left] f g ∧ g.node? [.right] = some (.binary .and) := by
  intro p q f g turned
  have happlies : commutativity.appliesInside f = true := by decide
  have hg : turned.formula = g := by decide
  obtain ⟨-, -, -, -, hdraw, -⟩ := locations_complete_and_local commutativity f
  obtain ⟨path, -, hpick, hacts, -⟩ := (hdraw happlies).2.1 (.ofFormula f) (Chance.ofSeed 1) rfl
  obtain rfl : [.left, .left] = path := by
    have hfirst : commutativity.pick? f (Chance.ofSeed 1).next.1 = some [.left, .left] := by decide
    exact Option.some.inj (hfirst.symm.trans hpick)
  refine ⟨by decide, happlies, hg, hg ▸ hacts, ?_⟩
  rw [← hg, hacts.elsewhere [.right] (by decide)]
  rfl

end Law

end LogicTutor
