import LogicTutor.Law.Position

/-! What each law can do to a formula, said once as a relation on formulas, and that the laws as
they are applied do nothing else. -/
namespace LogicTutor

/-- The operand that a step down leads to. -/
def Formula.operand? : Formula → Direction → Option Formula
  | .unary _ x, .left => some x
  | .binary _ x _, .left => some x
  | .binary _ _ y, .right => some y
  | _, _ => none

/-- The part that a path of steps down leads to. -/
def Formula.part? (f : Formula) : Path → Option Formula
  | [] => some f
  | e :: p => (f.operand? e).bind fun x => x.part? p

namespace Law

/-- `f` joins `x` and `y` by `c`, in one order or the other. -/
def Joins (c : Connective) (x y f : Formula) : Prop := f = .binary c x y ∨ f = .binary c y x

/-- Joining anything with the constant `b` by `c` changes nothing. -/
def Neutral (c : Connective) (b : Bool) : Prop := c = .or ∧ b = false ∨ c = .and ∧ b = true

/-- Joining anything with the constant `b` by `c` gives that constant. -/
def Dominant (c : Connective) (b : Bool) : Prop := c = .or ∧ b = true ∨ c = .and ∧ b = false

/-- The law turns the formula `f` as a whole into `g`. -/
inductive Rewrites : (law : Law) → (f g : Formula) → Prop where
  | doubleNegation {x} : Rewrites .doubleNegation (.neg (.neg x)) x
  | deMorgan {c d x y} (h : dual? c = some d) :
      Rewrites .deMorgan (.neg (.binary c x y)) (.binary d (.neg x) (.neg y))
  | deMorganReverse {c d x y} (h : dual? c = some d) :
      Rewrites .deMorganReverse (.binary c x y) (.neg (.binary d (.neg x) (.neg y)))
  | commutativity {c d x y} (h : dual? c = some d) :
      Rewrites .commutativity (.binary c x y) (.binary c y x)
  | associativity {c d x y z} (h : dual? c = some d) :
      Rewrites .associativity (.binary c (.binary c x y) z) (.binary c x (.binary c y z))
  | idempotence {c d x y} (h : dual? c = some d) (hxy : x.same y = true) :
      Rewrites .idempotence (.binary c x y) x
  | absorption {c d x x' y z f} (h : dual? c = some d) (hx : x.same x' = true)
      (hy : Joins d x' z y) (hf : Joins c x y f) : Rewrites .absorption f x
  | distributivity {c d x y z f} (h : dual? c = some d) (hf : Joins c x (.binary d y z) f) :
      Rewrites .distributivity f (.binary d (.binary c x y) (.binary c x z))
  | factoring {c d x x' y z f g} (h : dual? c = some d) (hx : x.same x' = true)
      (hf : Joins d x y f) (hg : Joins d x' z g) :
      Rewrites .factoring (.binary c f g) (.binary d x (.binary c y z))
  | implicationElimination {x y} :
      Rewrites .implicationElimination (.imp x y) (.binary .or (.neg x) y)
  | implicationIntroduction {x y} :
      Rewrites .implicationIntroduction (.binary .or (.neg x) y) (.imp x y)
  | contraposition {x y} : Rewrites .contraposition (.imp x y) (.imp (.neg y) (.neg x))
  | identity {c b x f} (h : Neutral c b) (hf : Joins c x (.const b) f) : Rewrites .identity f x
  | domination {c b x f} (h : Dominant c b) (hf : Joins c x (.const b) f) :
      Rewrites .domination f (.const b)
  | negationConstant {b} : Rewrites .negationConstant (.neg (.const b)) (.const !b)
  | complement {c b x y f} (h : Dominant c b) (hxy : x.same y = true)
      (hf : Joins c x (.neg y) f) : Rewrites .complement f (.const b)
  | impliedByTrue {x} : Rewrites .implicationConstant (.imp (.const true) x) x
  | impliedByFalse {x} : Rewrites .implicationConstant (.imp (.const false) x) (.const true)
  | impliesTrue {x} : Rewrites .implicationConstant (.imp x (.const true)) (.const true)
  | impliesFalse {x} : Rewrites .implicationConstant (.imp x (.const false)) (.neg x)

/-- The law turns one part of `f`, which may be the whole, and so `f` into `g`. -/
inductive RewritesInside (law : Law) : Formula → Formula → Prop where
  | whole {f g} (h : law.Rewrites f g) : RewritesInside law f g
  | operand {c x y} (h : RewritesInside law x y) : RewritesInside law (.unary c x) (.unary c y)
  | left {c x y z} (h : RewritesInside law x y) :
      RewritesInside law (.binary c x z) (.binary c y z)
  | right {c x y z} (h : RewritesInside law x y) :
      RewritesInside law (.binary c z x) (.binary c z y)

/-- Whatever has the property keeps it under every law. -/
def Kept (P : Formula → Prop) : Prop := ∀ law f g, RewritesInside law f g → P f → P g

variable {law : Law} {f g x y z w : Formula} {c d : Connective}

theorem exists_dual_of_isLattice (h : isLattice c = true) : ∃ d, dual? c = some d := by
  cases c with
  | or => exact ⟨.and, rfl⟩
  | and => exact ⟨.or, rfl⟩
  | not => cases h
  | imp => cases h

theorem dual?_cases (h : dual? c = some d) : c = .or ∧ d = .and ∨ c = .and ∧ d = .or := by
  cases c with
  | or => exact .inl ⟨rfl, (Option.some.inj h).symm⟩
  | and => exact .inr ⟨rfl, (Option.some.inj h).symm⟩
  | not => cases h
  | imp => cases h

theorem exists_binary_of_isCross (hc : isLattice c = true) (h : isCross c x = true) :
    ∃ d y z, x = .binary d y z ∧ dual? c = some d := by
  unfold isCross at h
  split at h
  next d y z =>
    refine ⟨d, y, z, rfl, ?_⟩
    cases c <;> cases d <;> simp_all [isLattice, dual?]
  next => simp at h

theorem exists_joins_of_absorbs (h : absorbs c x y = true) :
    ∃ d x' z, dual? c = some d ∧ x.same x' = true ∧ Joins d x' z y := by
  unfold absorbs at h
  split at h
  next d y z =>
    simp only [Bool.and_eq_true, beq_iff_eq, Bool.or_eq_true] at h
    rcases h.2 with hy | hz
    · exact ⟨d, y, z, h.1, hy, .inl rfl⟩
    · exact ⟨d, z, y, h.1, hz, .inr rfl⟩
  next => simp at h

theorem exists_neg_of_negates (h : negates x y = true) : ∃ z, y = .neg z ∧ x.same z = true := by
  unfold negates at h
  split at h
  next z => exact ⟨z, rfl, h⟩
  next => simp at h

theorem eq_const_of_isTrue (h : x.isTrue = true) : x = .const true := by
  unfold Formula.isTrue at h
  split at h
  next => rfl
  next => simp at h

theorem eq_const_of_isFalse (h : x.isFalse = true) : x = .const false := by
  unfold Formula.isFalse at h
  split at h
  next => rfl
  next => simp at h

theorem exists_eq_const_of_isConstant (h : x.isConstant = true) : ∃ b, x = .const b := by
  unfold Formula.isConstant at h
  split at h
  next b => exact ⟨b, rfl⟩
  next => simp at h

theorem exists_factor (h : dual? c = some d)
    (hs : x.same z = true ∨ x.same w = true ∨ y.same z = true ∨ y.same w = true) :
    ∃ g, factor c d x y z w = some g ∧
      Rewrites .factoring (.binary c (.binary d x y) (.binary d z w)) g := by
  unfold factor
  split
  next hxz => exact ⟨_, rfl, .factoring h hxz (.inl rfl) (.inl rfl)⟩
  split
  next hxw => exact ⟨_, rfl, .factoring h hxw (.inl rfl) (.inr rfl)⟩
  split
  next hyz => exact ⟨_, rfl, .factoring h hyz (.inr rfl) (.inl rfl)⟩
  split
  next hyw => exact ⟨_, rfl, .factoring h hyw (.inr rfl) (.inr rfl)⟩
  next hxz hxw hyz hyw => simp [hxz, hxw, hyz, hyw] at hs

/-- One of two operands is the constant `b`; what remains is the other. -/
theorem exists_joins_of_constant {q : Formula → Bool} {b : Bool}
    (hq : ∀ x, q x = true → x = .const b) (h : (q x || q y) = true) :
    ∃ z, (if q y then some x else if q x then some y else none) = some z ∧
      Joins c z (.const b) (.binary c x y) := by
  by_cases hy : q y = true
  · exact ⟨x, if_pos hy, .inl (by rw [hq y hy])⟩
  · have hx : q x = true := (Bool.or_eq_true_iff.mp h).resolve_right hy
    exact ⟨y, by rw [if_neg hy, if_pos hx], .inr (by rw [hq x hx])⟩

theorem exists_joins_of_negates (h : (negates x y || negates y x) = true) :
    ∃ z w, z.same w = true ∧ Joins c z (.neg w) (.binary c x y) := by
  rcases Bool.or_eq_true_iff.mp h with h | h
  · obtain ⟨w, rfl, hw⟩ := exists_neg_of_negates h
    exact ⟨x, w, hw, .inl rfl⟩
  · obtain ⟨w, rfl, hw⟩ := exists_neg_of_negates h
    exact ⟨y, w, hw, .inr rfl⟩

theorem exists_implicationConstant (h : (x.isConstant || y.isConstant) = true) :
    ∃ g, transform? .implicationConstant (.imp x y) = some g ∧
      Rewrites .implicationConstant (.imp x y) g := by
  by_cases hx : x.isConstant = true
  · obtain ⟨b, rfl⟩ := exists_eq_const_of_isConstant hx
    cases b with
    | true => exact ⟨_, rfl, .impliedByTrue⟩
    | false => exact ⟨_, rfl, .impliedByFalse⟩
  · have ht : ¬ x.isTrue = true := fun h => hx (by rw [eq_const_of_isTrue h]; rfl)
    have hf : ¬ x.isFalse = true := fun h => hx (by rw [eq_const_of_isFalse h]; rfl)
    obtain ⟨b, rfl⟩ :=
      exists_eq_const_of_isConstant ((Bool.or_eq_true_iff.mp h).resolve_left hx)
    cases b with
    | true => exact ⟨.const true, (if_neg ht).trans (if_neg hf), .impliesTrue⟩
    | false => exact ⟨.neg x, (if_neg ht).trans (if_neg hf), .impliesFalse⟩

/-- Where a law applies it rewrites: none of its branches gives up. -/
theorem exists_rewrites_of_applies (h : law.applies f = true) :
    ∃ g, law.transform? f = some g ∧ law.Rewrites f g := by
  unfold applies at h
  split at h
  next x => exact ⟨x, rfl, .doubleNegation⟩
  next c x y =>
    obtain ⟨d, hd⟩ := exists_dual_of_isLattice h
    exact ⟨_, by simp [transform?, hd], .deMorgan hd⟩
  next c x y =>
    obtain ⟨d, hd⟩ := exists_dual_of_isLattice h
    exact ⟨_, by simp [transform?, hd], .deMorganReverse hd⟩
  next c x y =>
    obtain ⟨d, hd⟩ := exists_dual_of_isLattice h
    exact ⟨_, rfl, .commutativity hd⟩
  next c d x y z =>
    simp only [Bool.and_eq_true, beq_iff_eq] at h
    obtain ⟨hc, rfl⟩ := h
    obtain ⟨d, hd⟩ := exists_dual_of_isLattice hc
    exact ⟨_, rfl, .associativity hd⟩
  next c x y =>
    simp only [Bool.and_eq_true] at h
    obtain ⟨d, hd⟩ := exists_dual_of_isLattice h.1
    exact ⟨_, rfl, .idempotence hd h.2⟩
  next c x y =>
    simp only [Bool.and_eq_true, Bool.or_eq_true] at h
    by_cases hxy : absorbs c x y = true
    · obtain ⟨d, x', z, hd, hx, hy⟩ := exists_joins_of_absorbs hxy
      exact ⟨x, by simp [transform?, hxy], .absorption hd hx hy (.inl rfl)⟩
    · have hyx := h.2.resolve_left hxy
      obtain ⟨d, y', z, hd, hy, hx⟩ := exists_joins_of_absorbs hyx
      exact ⟨y, by simp [transform?, hxy, hyx], .absorption hd hy hx (.inr rfl)⟩
  next c x y =>
    simp only [Bool.and_eq_true, Bool.or_eq_true] at h
    by_cases hy : isCross c y = true
    · obtain ⟨d, u, w, rfl, hd⟩ := exists_binary_of_isCross h.1 hy
      exact ⟨_, by simp [transform?, hy], .distributivity hd (.inl rfl)⟩
    · obtain ⟨d, u, w, rfl, hd⟩ := exists_binary_of_isCross h.1 (h.2.resolve_right hy)
      refine ⟨_, ?_, .distributivity hd (.inr rfl)⟩
      cases y <;> simp [transform?, hy]
  next c d x y e z w =>
    simp only [Bool.and_eq_true, beq_iff_eq, Bool.or_eq_true, or_assoc] at h
    obtain ⟨⟨⟨-, hd⟩, he⟩, hs⟩ := h
    obtain rfl : d = e := Option.some.inj (hd.symm.trans he)
    exact exists_factor hd hs
  next x y => exact ⟨_, rfl, .implicationElimination⟩
  next x y => exact ⟨_, rfl, .implicationIntroduction⟩
  next x y => exact ⟨_, rfl, .contraposition⟩
  next x y =>
    obtain ⟨z, hz, hj⟩ := exists_joins_of_constant (fun _ => eq_const_of_isFalse) h
    exact ⟨z, hz, .identity (.inl ⟨rfl, rfl⟩) hj⟩
  next x y =>
    obtain ⟨z, hz, hj⟩ := exists_joins_of_constant (fun _ => eq_const_of_isTrue) h
    exact ⟨z, hz, .identity (.inr ⟨rfl, rfl⟩) hj⟩
  next x y =>
    obtain ⟨z, -, hj⟩ := exists_joins_of_constant (fun _ => eq_const_of_isTrue) h
    exact ⟨_, rfl, .domination (.inl ⟨rfl, rfl⟩) hj⟩
  next x y =>
    obtain ⟨z, -, hj⟩ := exists_joins_of_constant (fun _ => eq_const_of_isFalse) h
    exact ⟨_, rfl, .domination (.inr ⟨rfl, rfl⟩) hj⟩
  next x =>
    obtain ⟨b, rfl⟩ := exists_eq_const_of_isConstant h
    exact ⟨.const !b, by cases b <;> rfl, .negationConstant⟩
  next c x y =>
    simp only [Bool.and_eq_true] at h
    obtain ⟨d, hd⟩ := exists_dual_of_isLattice h.1
    obtain ⟨z, w, hs, hj⟩ := exists_joins_of_negates (c := c) h.2
    rcases dual?_cases hd with ⟨rfl, -⟩ | ⟨rfl, -⟩
    · exact ⟨_, rfl, .complement (.inl ⟨rfl, rfl⟩) hs hj⟩
    · exact ⟨_, rfl, .complement (.inr ⟨rfl, rfl⟩) hs hj⟩
  next x y => exact exists_implicationConstant h
  next => simp at h

theorem transform?_eq_some_apply (h : law.applies f = true) :
    law.transform? f = some (law.apply f) := by
  obtain ⟨g, hg, -⟩ := exists_rewrites_of_applies h
  simp only [apply, h, ↓reduceIte, hg, Option.getD_some]

theorem apply_rewrites (h : law.applies f = true) : law.Rewrites f (law.apply f) := by
  obtain ⟨g, hg, hr⟩ := exists_rewrites_of_applies h
  rw [transform?_eq_some_apply h] at hg
  exact Option.some.inj hg ▸ hr

theorem apply_of_not_applies (h : ¬ law.applies f = true) : law.apply f = f := if_neg h

/-- Along any path a law either changes nothing or rewrites the part at its end. -/
theorem applyAt_eq_or_rewritesInside (law : Law) (f : Formula) (p : Path) :
    law.applyAt f p = f ∨ law.RewritesInside f (law.applyAt f p) := by
  fun_induction applyAt law f p with
  | case1 f =>
    by_cases h : law.applies f = true
    · exact .inr (.whole (apply_rewrites h))
    · exact .inl (apply_of_not_applies h)
  | case2 c x p ih => exact ih.imp (congrArg _) .operand
  | case3 c x y p ih => exact ih.imp (congrArg (Formula.binary c · y)) .left
  | case4 c x y p ih => exact ih.imp (congrArg _) .right
  | case5 => exact .inl rfl

theorem locations_unary :
    law.locations (.unary c x) = (law.positions x).map (.left :: ·) := rfl

theorem locations_binary : law.locations (.binary c x y) =
    (law.positions x).map (.left :: ·) ++ (law.positions y).map (.right :: ·) := rfl

theorem mem_positions_nil : [] ∈ law.positions f ↔ law.applies f = true := by
  have hl : [] ∉ law.locations f := by
    cases f <;> simp [locations, locations.below]
  simp [positions, hl]

/-- A law applies along a path that goes down to an operand if it applies there along the rest. -/
theorem mem_positions_cons {e : Direction} {p : Path} :
    e :: p ∈ law.positions f ↔ ∃ x, f.operand? e = some x ∧ p ∈ law.positions x := by
  rw [positions]
  cases f with
  | blank => simp [locations, Formula.operand?]
  | leaf l => simp [locations, Formula.operand?]
  | unary c x => cases e <;> simp [locations_unary, Formula.operand?]
  | binary c x y => cases e <;> simp [locations_binary, Formula.operand?]

/-- A law applies along a path exactly if it applies to the part that the path leads to. -/
theorem mem_positions_iff {p : Path} :
    p ∈ law.positions f ↔ ∃ x, f.part? p = some x ∧ law.applies x = true := by
  induction p generalizing f with
  | nil => simp [mem_positions_nil, Formula.part?]
  | cons e p ih =>
    rw [mem_positions_cons, Formula.part?]
    constructor
    · rintro ⟨x, hx, hp⟩
      rw [hx, Option.bind_some]
      exact ih.mp hp
    · rintro ⟨y, hy, ha⟩
      obtain ⟨x, hx, hy⟩ := Option.bind_eq_some_iff.mp hy
      exact ⟨x, hx, ih.mpr ⟨y, hy, ha⟩⟩

theorem rewritesInside_of_mem_positions {p : Path} (h : p ∈ law.positions f) :
    law.RewritesInside f (law.applyAt f p) := by
  induction p generalizing f with
  | nil =>
    rw [applyAt]
    exact .whole (apply_rewrites (mem_positions_nil.mp h))
  | cons e p ih =>
    obtain ⟨x, hx, hp⟩ := mem_positions_cons.mp h
    cases f <;> cases e <;> simp only [Formula.operand?, Option.some.injEq, reduceCtorEq] at hx
    · subst hx
      exact .operand (ih hp)
    · subst hx
      exact .left (ih hp)
    · subst hx
      exact .right (ih hp)

theorem appliesInside_iff : law.appliesInside f = true ↔ law.positions f ≠ [] := by
  induction f with
  | blank => cases law <;> simp [appliesInside, positions, locations, applies]
  | leaf l => cases law <;> simp [appliesInside, positions, locations, applies]
  | unary c x ih =>
    rw [positions, locations_unary, appliesInside, Bool.or_eq_true, ih]
    by_cases h : law.applies (.unary c x) = true <;> simp [h]
  | binary c x y ihx ihy =>
    rw [positions, locations_binary, appliesInside, Bool.or_eq_true, Bool.or_eq_true, ihx, ihy]
    by_cases h : law.applies (.binary c x y) = true
    · simp [h]
    · by_cases hx : law.positions x = [] <;> simp [h, hx]

end Law

end LogicTutor
