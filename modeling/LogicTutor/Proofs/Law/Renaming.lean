import LogicTutor.Proofs.Formula.RoundTrip
import LogicTutor.Proofs.Law.Rewriting

/-! The laws look at the names of atoms and not at the readings these belong to: on the same tree
over the atoms of another reading they apply at the same places and do the same. -/
namespace LogicTutor

namespace Formula

variable {n : Nat} {names : List String}

theorem same_renumbered_right (f g : Formula) : f.same (g.renumbered n names) = f.same g := by
  induction f generalizing g with
  | blank => cases g <;> rfl
  | leaf l => cases g <;> simp [renumbered, same]
  | unary c x ih => cases g <;> simp [renumbered, same, ih]
  | binary c x y ihx ihy => cases g <;> simp [renumbered, same, ihx, ihy]

@[simp] theorem same_renumbered_renumbered (f g : Formula) :
    (f.renumbered n names).same (g.renumbered n names) = f.same g := by
  rw [same_renumbered, same_renumbered_right]

@[simp] theorem isTrue_renumbered (f : Formula) : (f.renumbered n names).isTrue = f.isTrue := by
  rcases f with _ | (a | b) | _ | _ <;> rfl

@[simp] theorem isFalse_renumbered (f : Formula) : (f.renumbered n names).isFalse = f.isFalse := by
  rcases f with _ | (a | b) | _ | _ <;> rfl

@[simp] theorem isConstant_renumbered (f : Formula) :
    (f.renumbered n names).isConstant = f.isConstant := by
  rcases f with _ | (a | b) | _ | _ <;> rfl

end Formula

namespace Law

open Formula (renumbered)

variable {law : Law} {n : Nat} {names : List String}

@[simp] theorem isCross_renumbered (c : Connective) (f : Formula) :
    isCross c (f.renumbered n names) = isCross c f := by
  cases f <;> rfl

@[simp] theorem absorbs_renumbered (c : Connective) (f g : Formula) :
    absorbs c (f.renumbered n names) (g.renumbered n names) = absorbs c f g := by
  cases g <;> simp [absorbs, renumbered]

@[simp] theorem negates_renumbered (f g : Formula) :
    negates (f.renumbered n names) (g.renumbered n names) = negates f g := by
  rcases g with _ | _ | ⟨c, x⟩ | _
  case unary => cases c <;> simp [negates, renumbered]
  all_goals rfl

theorem applies_unary_renumbered (law : Law) (c : Connective) (x : Formula) :
    law.applies (.unary c (x.renumbered n names)) = law.applies (.unary c x) := by
  cases c with
  | not =>
    cases law with
    | doubleNegation =>
      rcases x with _ | l | ⟨d, y⟩ | ⟨d, y, z⟩
      case unary => cases d <;> rfl
      all_goals rfl
    | deMorgan => cases x <;> rfl
    | negationConstant => exact Formula.isConstant_renumbered x
    | _ => rfl
  | _ => cases law <;> rfl

theorem applies_binary_renumbered (law : Law) (c : Connective) (x y : Formula) :
    law.applies (.binary c (x.renumbered n names) (y.renumbered n names)) =
      law.applies (.binary c x y) := by
  cases law with
  | associativity => cases x <;> rfl
  | factoring => cases x <;> cases y <;> simp [applies, renumbered]
  | implicationIntroduction =>
    rcases x with _ | l | ⟨d, z⟩ | ⟨d, z, w⟩
    case unary => cases c <;> cases d <;> rfl
    all_goals cases c <;> rfl
  | implicationElimination | contraposition => cases c <;> rfl
  | identity | domination | implicationConstant => cases c <;> simp [applies]
  | idempotence | absorption | distributivity | complement => simp [applies]
  | _ => rfl

theorem applies_renumbered (law : Law) (f : Formula) :
    law.applies (f.renumbered n names) = law.applies f := by
  cases f with
  | blank => rfl
  | leaf l => cases law <;> rfl
  | unary c x => exact applies_unary_renumbered law c x
  | binary c x y => exact applies_binary_renumbered law c x y

theorem transform?_unary_renumbered (law : Law) (c : Connective) (x : Formula) :
    law.transform? (.unary c (x.renumbered n names)) =
      (law.transform? (.unary c x)).map (renumbered n names) := by
  cases c with
  | not =>
    cases law with
    | doubleNegation =>
      rcases x with _ | l | ⟨d, y⟩ | ⟨d, y, z⟩
      case unary => cases d <;> rfl
      all_goals rfl
    | deMorgan =>
      rcases x with _ | l | ⟨d, y⟩ | ⟨d, y, z⟩
      case binary => cases d <;> rfl
      all_goals rfl
    | negationConstant =>
      simp only [transform?, Formula.isTrue_renumbered, Formula.isFalse_renumbered]
      split
      · rfl
      · split <;> rfl
    | _ => rfl
  | _ => cases law <;> rfl

theorem factor_renumbered (c d : Connective) (x y z w : Formula) :
    factor c d (x.renumbered n names) (y.renumbered n names) (z.renumbered n names)
        (w.renumbered n names) =
      (factor c d x y z w).map (renumbered n names) := by
  simp only [factor, Formula.same_renumbered_renumbered,
    apply_ite (Option.map (renumbered n names)), Option.map_some, Option.map_none, renumbered]

theorem distributivity_renumbered (c : Connective) (x y : Formula) :
    transform? .distributivity (.binary c (x.renumbered n names) (y.renumbered n names)) =
      (transform? .distributivity (.binary c x y)).map (renumbered n names) := by
  rcases y with _ | l | ⟨d, z⟩ | ⟨d, z, w⟩
  case binary =>
    by_cases hc : isCross c (.binary d z w) = true
    · have hc' : isCross c (.binary d (z.renumbered n names) (w.renumbered n names)) = true := hc
      simp only [transform?, renumbered, hc, hc', ↓reduceIte, Option.map_some]
    · have hc' : ¬ isCross c (.binary d (z.renumbered n names) (w.renumbered n names)) = true := hc
      cases x <;> simp only [transform?, renumbered, hc, hc', ↓reduceIte, Option.map_some,
        Option.map_none, Bool.false_eq_true]
  all_goals cases x <;> rfl

theorem transform?_binary_renumbered (law : Law) (c : Connective) (x y : Formula) :
    law.transform? (.binary c (x.renumbered n names) (y.renumbered n names)) =
      (law.transform? (.binary c x y)).map (renumbered n names) := by
  cases law with
  | deMorganReverse => cases c <;> rfl
  | associativity => cases x <;> rfl
  | absorption =>
    simp only [transform?, absorbs_renumbered, apply_ite (Option.map (renumbered n names)),
      Option.map_some, Option.map_none]
  | distributivity => exact distributivity_renumbered c x y
  | factoring =>
    cases x <;> cases y <;> first | rfl | exact factor_renumbered ..
  | implicationIntroduction => cases x <;> rfl
  | identity =>
    cases c <;> simp only [transform?, Formula.isTrue_renumbered, Formula.isFalse_renumbered,
      apply_ite (Option.map (renumbered n names)), Option.map_some, Option.map_none]
  | domination | complement => cases c <;> rfl
  | implicationConstant =>
    simp only [transform?, Formula.isTrue_renumbered, Formula.isFalse_renumbered,
      apply_ite (Option.map (renumbered n names)), Option.map_some, Option.map_none]
    rfl
  | _ => rfl

theorem transform?_renumbered (law : Law) (f : Formula) :
    law.transform? (f.renumbered n names) = (law.transform? f).map (renumbered n names) := by
  cases f with
  | blank => cases law <;> rfl
  | leaf l => cases law <;> rfl
  | unary c x => exact transform?_unary_renumbered law c x
  | binary c x y => exact transform?_binary_renumbered law c x y

theorem apply_renumbered (law : Law) (f : Formula) :
    law.apply (f.renumbered n names) = (law.apply f).renumbered n names := by
  rw [apply, apply, applies_renumbered, transform?_renumbered]
  split
  · cases law.transform? f <;> rfl
  · rfl

theorem applyAt_renumbered (law : Law) (f : Formula) (p : Path) :
    law.applyAt (f.renumbered n names) p = (law.applyAt f p).renumbered n names := by
  induction p generalizing f with
  | nil => rw [applyAt, applyAt, apply_renumbered]
  | cons e p ih =>
    cases f with
    | blank => cases e <;> rfl
    | leaf l => cases e <;> rfl
    | unary c x =>
      cases e with
      | left => exact congrArg (Formula.unary c) (ih x)
      | _ => rfl
    | binary c x y =>
      cases e with
      | left => exact congrArg (Formula.binary c · (y.renumbered n names)) (ih x)
      | right => exact congrArg (Formula.binary c (x.renumbered n names)) (ih y)
      | other => rfl

theorem locations_renumbered (law : Law) (f : Formula) :
    law.locations (f.renumbered n names) = law.locations f := by
  induction f with
  | blank => rfl
  | leaf l => rfl
  | unary c x ih => simp only [renumbered, locations, locations.below, applies_renumbered, ih]
  | binary c x y ihx ihy =>
    simp only [renumbered, locations, locations.below, applies_renumbered, ihx, ihy]

theorem positions_renumbered (law : Law) (f : Formula) :
    law.positions (f.renumbered n names) = law.positions f := by
  rw [positions, positions, applies_renumbered, locations_renumbered]

end Law

end LogicTutor
