import LogicTutor.Feature.Row
import LogicTutor.Proofs.Semantics.Equivalence
import Mathlib.Data.List.Induction
import Mathlib.Data.List.Nodup
import Mathlib.Logic.Function.Basic

/-! What the analysis of usefulness finds. It gives values to the last atom of each name alone, so
what it says is said of another formula: the one in which every atom that it does not reach is the
constant that the atom holds. Of that formula it is exact. -/
namespace LogicTutor

namespace Formula

variable {f x : Formula} {n : String} {loose : List Atom} {v w : Valuation} {a : Atom}

/-- Under some valuation of the other names the value changes with this one. -/
def DependsOn (f : Formula) (n : String) : Prop :=
  ∃ u : String → Bool, f.holds (Function.update u n false) ≠ f.holds (Function.update u n true)

theorem DependsOn.mem_names (h : f.DependsOn n) : n ∈ f.names := by
  by_contra hn
  obtain ⟨u, hu⟩ := h
  refine hu (holds_congr fun m hm => ?_)
  have hmn : m ≠ n := fun he => hn (he ▸ hm)
  rw [Function.update_of_ne hmn, Function.update_of_ne hmn]

theorem holds_update (h : ¬ f.DependsOn n) (u : String → Bool) (b : Bool) :
    f.holds (Function.update u n b) = f.holds u := by
  have hflip : f.holds (Function.update u n false) = f.holds (Function.update u n true) := by
    by_contra hne
    exact h ⟨u, hne⟩
  have hself : f.holds u = f.holds (Function.update u n (u n)) := by rw [Function.update_eq_self]
  rw [hself]
  cases b <;> cases u n <;> simp only [hflip]

/-- Only the names that a formula depends on decide its value. -/
theorem holds_congr_of_dependsOn {u u' : String → Bool} (h : ∀ n, f.DependsOn n → u n = u' n) :
    f.holds u = f.holds u' := by
  -- one name after the other is given its new value
  have hchange (ns : List String) :
      f.holds (fun n => if n ∈ ns then u' n else u n) = f.holds u := by
    induction ns with
    | nil => simp
    | cons n ns ih =>
      have hcons : (fun m => if m ∈ n :: ns then u' m else u m) =
          Function.update (fun m => if m ∈ ns then u' m else u m) n (u' n) := by
        funext m
        by_cases hm : m = n <;> simp [hm]
      rw [hcons, ← ih]
      by_cases hn : f.DependsOn n
      · rw [Function.update_eq_self_iff.mpr (by simp [h n hn])]
      · exact holds_update hn _ _
  rw [← hchange f.names]
  refine holds_congr fun n hn => ?_
  simp only [hn, ↓reduceIte]

theorem Equivalent.dependsOn_iff (h : f.Equivalent x) : f.DependsOn n ↔ x.DependsOn n := by
  simp only [DependsOn, h _]

theorem WellFormed.exists_mem_leaves (hf : f.WellFormed) : ∃ l, l ∈ f.leaves := by
  induction f with
  | blank => exact hf.elim
  | leaf l => exact ⟨l, by simp [leaves]⟩
  | unary c x ih => exact ih hf.2
  | binary c x y ihx ihy =>
    obtain ⟨l, hl⟩ := ihx hf.2.1
    exact ⟨l, List.mem_append_left _ hl⟩

/-- The formula with every atom but the loose ones replaced by the value it holds. -/
def pin (loose : List Atom) (v : Valuation) : Formula → Formula
  | .blank => .blank
  | .leaf (.atom a) => if a ∈ loose then .var a else .const (v.get a)
  | .leaf (.truth b) => .const b
  | .unary c x => .unary c (x.pin loose v)
  | .binary c x y => .binary c (x.pin loose v) (y.pin loose v)

theorem WellFormed.pin (hf : f.WellFormed) (loose : List Atom) (v : Valuation) :
    (f.pin loose v).WellFormed := by
  induction f with
  | blank => exact hf.elim
  | leaf l =>
    cases l with
    | atom a =>
      rw [Formula.pin]
      split <;> trivial
    | truth b => trivial
  | unary c x ih => exact ⟨hf.1, ih hf.2⟩
  | binary c x y ihx ihy => exact ⟨hf.1, ihx hf.2.1, ihy hf.2.2⟩

theorem mem_leaves_pin : .atom a ∈ (f.pin loose v).leaves ↔ .atom a ∈ f.leaves ∧ a ∈ loose := by
  induction f with
  | blank => simp [pin, leaves]
  | leaf l =>
    cases l with
    | atom b =>
      by_cases hb : b ∈ loose
      · simp only [pin, hb, ↓reduceIte, leaves, List.mem_singleton, Leaf.atom.injEq]
        exact ⟨fun h => ⟨h, h ▸ hb⟩, And.left⟩
      · simp only [pin, hb, ↓reduceIte, leaves, List.mem_singleton, Leaf.atom.injEq, reduceCtorEq,
          false_iff, not_and]
        exact fun h => h ▸ hb
    | truth b => simp [pin, leaves]
  | unary c x ih => exact ih
  | binary c x y ihx ihy => simp only [pin, leaves, List.mem_append, ihx, ihy, or_and_right]

theorem eval?_pin (h : ∀ a, .atom a ∈ f.leaves → a ∉ loose → w.get a = v.get a) :
    (f.pin loose v).eval? w = f.eval? w := by
  induction f with
  | blank => rfl
  | leaf l =>
    cases l with
    | atom a =>
      by_cases ha : a ∈ loose
      · simp only [pin, ha, ↓reduceIte]
      · simp [pin, ha, eval?, h a (by simp [leaves]) ha]
    | truth b => rfl
  | unary c x ih => simp only [pin, eval?, ih h]
  | binary c x y ihx ihy =>
    have hx := ihx fun a ha => h a (List.mem_append_left _ ha)
    have hy := ihy fun a ha => h a (List.mem_append_right _ ha)
    simp only [pin, eval?, hx, hy]

/-- Nothing is replaced where all atoms are loose. -/
theorem pin_eq_self (h : ∀ a, .atom a ∈ f.leaves → a ∈ loose) (v : Valuation) :
    f.pin loose v = f := by
  induction f with
  | blank => rfl
  | leaf l =>
    cases l with
    | atom a => simp [pin, h a (by simp [leaves])]
    | truth b => rfl
  | unary c x ih => rw [pin, ih h]
  | binary c x y ihx ihy =>
    rw [pin, ihx fun a ha => h a (List.mem_append_left _ ha),
      ihy fun a ha => h a (List.mem_append_right _ ha)]

end Formula

/-- The two valuations differ on these atoms at most. -/
def Valuation.AgreeBut (atoms : List Atom) (v w : Valuation) : Prop :=
  ∀ a, a ∉ atoms → w.get a = v.get a

namespace Usefulness

open Formula

variable {table : List (String × Leaf)} {t : String} {l m : Leaf} {a : Atom} {f : Formula}
  {v w : Valuation} {u : String → Bool}

theorem map_fst_enter (table : List (String × Leaf)) (m : Leaf) :
    (enter table m).map Prod.fst =
      if m.text ∈ table.map Prod.fst then table.map Prod.fst
      else table.map Prod.fst ++ [m.text] := by
  induction table with
  | nil => simp [enter]
  | cons e rest ih =>
    obtain ⟨s, k⟩ := e
    by_cases hs : s = m.text
    · simp [enter, hs]
    · have hs' : m.text ≠ s := Ne.symm hs
      simp only [enter, hs, ↓reduceIte, List.map_cons, ih, List.mem_cons, hs', false_or]
      split <;> rfl

theorem mem_enter (hn : (table.map Prod.fst).Nodup) :
    (t, l) ∈ enter table m ↔ if t = m.text then l = m else (t, l) ∈ table := by
  induction table with
  | nil =>
    by_cases ht : t = m.text <;> simp [enter, ht]
  | cons e rest ih =>
    obtain ⟨s, k⟩ := e
    obtain ⟨hs, hrest⟩ := List.nodup_cons.mp hn
    -- no later entry has the key `s`
    have hnot (l : Leaf) : (s, l) ∉ rest := fun hl => hs (List.mem_map.mpr ⟨_, hl, rfl⟩)
    by_cases hsm : s = m.text
    · subst hsm
      by_cases ht : t = m.text
      · subst ht
        simp [enter, hnot]
      · simp [enter, ht]
    · rw [enter, if_neg hsm, List.mem_cons, List.mem_cons, ih hrest]
      split
      next ht =>
        have hts : t ≠ s := fun h => hsm (h ▸ ht)
        simp [hts]
      next => exact Iff.rfl

/-- The table after a row of leaves: each text once, with the last leaf that reads so. -/
theorem foldl_enter (ls : List Leaf) : ((ls.foldl enter []).map Prod.fst).Nodup ∧
    ∀ t l, (t, l) ∈ ls.foldl enter [] ↔ ls.reverse.find? (fun m => m.text = t) = some l := by
  induction ls using List.reverseRecOn with
  | nil => simp
  | append_singleton ls m ih =>
    obtain ⟨hn, hmem⟩ := ih
    rw [List.foldl_append, List.foldl_cons, List.foldl_nil]
    constructor
    · rw [map_fst_enter]
      split
      · exact hn
      next hm => exact List.nodup_append.mpr ⟨hn, List.nodup_singleton _, by grind⟩
    · intro t l
      rw [mem_enter hn, hmem, List.reverse_append, List.reverse_singleton, List.singleton_append,
        List.find?_cons]
      by_cases ht : t = m.text
      · simp [ht, eq_comm]
      · simp [ht, Ne.symm ht]

theorem mem_leafTable :
    (t, l) ∈ leafTable f ↔ f.leaves.reverse.find? (fun m => m.text = t) = some l :=
  (foldl_enter f.leaves).2 t l

theorem text_of_mem_leafTable (h : (t, l) ∈ leafTable f) : l.text = t := by
  simpa using List.find?_some (mem_leafTable.mp h)

theorem mem_leaves_of_mem_leafTable (h : (t, l) ∈ leafTable f) : l ∈ f.leaves :=
  List.mem_reverse.mp (List.mem_of_find?_eq_some (mem_leafTable.mp h))

theorem exists_mem_leafTable (h : l ∈ f.leaves) : ∃ m, (l.text, m) ∈ leafTable f := by
  have hsome : (f.leaves.reverse.find? fun m => m.text = l.text).isSome := by
    rw [List.find?_isSome]
    exact ⟨l, List.mem_reverse.mpr h, by simp⟩
  obtain ⟨m, hm⟩ := Option.isSome_iff_exists.mp hsome
  exact ⟨m, mem_leafTable.mpr hm⟩

/-- The atoms that the analysis gives values to. -/
def varied (f : Formula) : List Atom :=
  (leafTable f).filterMap fun e => match e.2 with
    | .atom a => some a
    | .truth _ => none

theorem mem_varied_iff_mem_leafTable : a ∈ varied f ↔ (a.name, .atom a) ∈ leafTable f := by
  simp only [varied, List.mem_filterMap]
  constructor
  · rintro ⟨⟨t, l⟩, he, h⟩
    cases l with
    | atom b =>
      obtain rfl := Option.some.inj h
      obtain rfl := text_of_mem_leafTable he
      exact he
    | truth b => cases h
  · exact fun h => ⟨_, h, rfl⟩

/-- An atom is given values if it is the last leaf with its name. -/
theorem mem_varied :
    a ∈ varied f ↔ f.leaves.reverse.find? (fun m => m.text = a.name) = some (.atom a) :=
  mem_varied_iff_mem_leafTable.trans mem_leafTable

theorem mem_atomOf : a ∈ atomOf (leafTable f) t ↔ a ∈ varied f ∧ a.name = t := by
  rw [mem_varied_iff_mem_leafTable, atomOf, List.mem_filterMap]
  constructor
  · rintro ⟨⟨s, l⟩, he, h⟩
    cases l with
    | atom b =>
      obtain ⟨rfl, hb⟩ := Option.ite_none_right_eq_some.mp h
      obtain rfl := Option.some.inj hb
      obtain rfl := text_of_mem_leafTable he
      exact ⟨he, rfl⟩
    | truth b => cases h
  · rintro ⟨h, rfl⟩
    exact ⟨_, h, if_pos rfl⟩

/-- The texts of the leaves in order. -/
def texts (f : Formula) : List String := Semantics.sortNames ((leafTable f).map (·.1))

theorem nodup_texts (f : Formula) : (texts f).Nodup := Semantics.nodup_sortNames _

theorem name_mem_texts (h : a ∈ varied f) : a.name ∈ texts f :=
  Semantics.mem_sortNames.mpr (List.mem_map_of_mem (mem_varied_iff_mem_leafTable.mp h))

theorem names_pin_subset (f : Formula) (v : Valuation) :
    (f.pin (varied f) v).names ⊆ texts f := by
  intro n hn
  obtain ⟨a, ha, rfl⟩ := mem_names.mp hn
  exact name_mem_texts (mem_leaves_pin.mp ha).2

/-- The value that the analysis sees. -/
theorem value_eq (hf : f.WellFormed) (hw : v.AgreeBut (varied f) w)
    (hu : ∀ a ∈ varied f, w.get a = u a.name) :
    f.value w = .ok (some ((f.pin (varied f) v).holds u)) := by
  refine value_of_eval? ?_
  rw [← eval?_pin fun a _ ha => hw a ha]
  exact eval?_eq_holds (hf.pin _ v) fun a ha => hu a (mem_leaves_pin.mp ha).2

theorem agreeBut_setBits (hw : v.AgreeBut (varied f) w) (names : List String) (i : Nat) :
    v.AgreeBut (varied f) (w.setBits (names.map (atomOf (leafTable f))) i) := by
  intro a ha
  rw [Valuation.get_setBits_of_forall_not_mem, hw a ha]
  intro l hl hmem
  obtain ⟨n, -, rfl⟩ := List.mem_map.mp hl
  exact ha (mem_atomOf.mp hmem).1

theorem get_setBits_atomOf (ha : a ∈ varied f) {names : List String} (hn : names.Nodup)
    (hm : a.name ∈ names) (i : Nat) (w : Valuation) :
    (w.setBits (names.map (atomOf (leafTable f))) i).get a = Valuation.bitOf names i a.name :=
  Valuation.get_setBits (fun _ _ hb => (mem_atomOf.mp hb).2) hn (mem_atomOf.mpr ⟨ha, rfl⟩) hm i w

theorem agreeBut_setAll (hw : v.AgreeBut (varied f) w) {atoms : List Atom}
    (hatoms : atoms ⊆ varied f) (b : Bool) : v.AgreeBut (varied f) (setAll w atoms b) := by
  intro a ha
  rw [setAll, Valuation.get_foldl_set, if_neg fun h => ha (hatoms h), hw a ha]

/-- One test of a text: the other texts have the values of the assignment, and this one is tried
with both. -/
theorem indifferent_yields (hf : f.WellFormed) (hw : v.AgreeBut (varied f) w) (t : String)
    (i : Nat) :
    let others := (texts f).filter fun s => s ≠ t
    let u := Valuation.bitOf others i
    Yields (indifferent f (atomOf (leafTable f) t)
        (w.setBits (others.map (atomOf (leafTable f))) i)) fun r =>
      (r.1 = ((f.pin (varied f) v).holds (Function.update u t false) ==
        (f.pin (varied f) v).holds (Function.update u t true))) ∧
      v.AgreeBut (varied f) r.2 := by
  intro others u
  let w' := w.setBits (others.map (atomOf (leafTable f))) i
  have hagree (b : Bool) : v.AgreeBut (varied f) (setAll w' (atomOf (leafTable f) t) b) :=
    agreeBut_setAll (agreeBut_setBits hw others i) (fun a ha => (mem_atomOf.mp ha).1) b
  have hget (b : Bool) : ∀ a ∈ varied f,
      (setAll w' (atomOf (leafTable f) t) b).get a = Function.update u t b a.name := by
    intro a ha
    rw [setAll, Valuation.get_foldl_set]
    by_cases hat : a.name = t
    · simp [mem_atomOf, ha, hat]
    · have hothers : a.name ∈ others := List.mem_filter.mpr ⟨name_mem_texts ha, by simpa using hat⟩
      have hbit : w'.get a = u a.name :=
        get_setBits_atomOf ha ((nodup_texts f).filter _) hothers i w
      simp [mem_atomOf, hat, hbit]
  refine ⟨(_, setAll w' (atomOf (leafTable f) t) true), ?_, rfl, hagree true⟩
  simp only [indifferent, w', value_eq hf (hagree _) (hget _), ok_bind]
  rfl

theorem isUseful_yields (hf : f.WellFormed) (hw : v.AgreeBut (varied f) w) (t : String) :
    Yields (isUseful f (leafTable f) (texts f) t w) fun r =>
      (r.1 = true ↔ (f.pin (varied f) v).DependsOn t) ∧ v.AgreeBut (varied f) r.2 := by
  let k := f.pin (varied f) v
  let others := (texts f).filter fun s => s ≠ t
  have hcongr (u u' : String → Bool) (hu : ∀ n ∈ others, u n = u' n) (b : Bool) :
      k.holds (Function.update u t b) = k.holds (Function.update u' t b) := by
    refine holds_congr fun n hn => ?_
    by_cases hnt : n = t
    · simp [hnt]
    · have hmem : n ∈ others := List.mem_filter.mpr ⟨names_pin_subset f v hn, by simpa using hnt⟩
      simp [Function.update_of_ne hnt, hu n hmem]
  rw [isUseful]
  refine (Valuation.forAll_decides_keeping
    (Q := fun u => k.holds (Function.update u t false) == k.holds (Function.update u t true))
    (fun w i hw => indifferent_yields hf hw t i)
    (fun u u' hu => by simp only [hcongr u u' hu]) hw).bind ?_
  rintro ⟨same, w'⟩ ⟨hsame, hw'⟩
  refine .ok ⟨?_, hw'⟩
  have hnot : (!same) = true ↔ ¬ (same = true) := by simp
  rw [hnot, hsame]
  simp only [beq_iff_eq, not_forall]
  rfl

open Classical in
theorem split_yields (hf : f.WellFormed) (ts : List String) (hw : v.AgreeBut (varied f) w) :
    Yields (split f (leafTable f) (texts f) ts w) fun r =>
      r.1 = (ts.filter fun t => (f.pin (varied f) v).DependsOn t,
        ts.filter fun t => ¬ (f.pin (varied f) v).DependsOn t) ∧
      v.AgreeBut (varied f) r.2 := by
  induction ts generalizing w with
  | nil => exact .ok ⟨rfl, hw⟩
  | cons t ts ih =>
    rw [split]
    refine (isUseful_yields hf hw t).bind ?_
    rintro ⟨useful, w'⟩ ⟨huseful, hw'⟩
    refine (ih hw').bind ?_
    rintro ⟨⟨yes, no⟩, w''⟩ ⟨hsplit, hw''⟩
    obtain ⟨rfl, rfl⟩ := Prod.mk.inj hsplit
    refine .ok ⟨?_, hw''⟩
    cases useful with
    | true => simp [huseful.mp rfl]
    | false =>
      have hnot : ¬ (f.pin (varied f) v).DependsOn t := fun h => nomatch huseful.mpr h
      simp [hnot]

open Classical in
/-- What there is to find out about a formula whose atoms hold the values `v`. -/
noncomputable def exactly (f : Formula) (v : Valuation) : Usefulness where
  leaves := leafTable f
  useful := (texts f).filter fun t => (f.pin (varied f) v).DependsOn t
  useless := (texts f).filter fun t => ¬ (f.pin (varied f) v).DependsOn t
  tautology := decide (∀ u, (f.pin (varied f) v).holds u = true)
  contradiction := decide (∀ u, (f.pin (varied f) v).holds u = false)

theorem exactly_congr (h : (f.pin (varied f) v).Equivalent (f.pin (varied f) w)) :
    exactly f v = exactly f w := by
  have hdepends : (f.pin (varied f) v).DependsOn = (f.pin (varied f) w).DependsOn :=
    funext fun _ => propext h.dependsOn_iff
  have hholds (b : Bool) : (∀ u, (f.pin (varied f) v).holds u = b) =
      ∀ u, (f.pin (varied f) w).holds u = b := propext (forall_congr' fun u => by rw [h u])
  rw [exactly, exactly, hdepends, hholds, hholds]

theorem leafTable_ne_nil (hf : f.WellFormed) : leafTable f ≠ [] := by
  obtain ⟨l, hl⟩ := hf.exists_mem_leaves
  obtain ⟨m, hm⟩ := exists_mem_leafTable hl
  exact List.ne_nil_of_mem hm

/-- The analysis finds out what there is to find, and changes no atom that it does not give values
to. -/
theorem ofFormula_yields (hf : f.WellFormed) (v : Valuation) :
    Yields (ofFormula f v) fun r => r.1 = exactly f v ∧ v.AgreeBut (varied f) r.2 := by
  let k := f.pin (varied f) v
  have hempty : (leafTable f).isEmpty = false := by simpa using leafTable_ne_nil hf
  simp only [ofFormula, hempty, Bool.false_eq_true, ↓reduceIte]
  refine (split_yields hf (texts f) (fun _ _ => rfl)).bind ?_
  rintro ⟨⟨useful, useless⟩, w⟩ ⟨hsplit, hw⟩
  obtain ⟨rfl, rfl⟩ := Prod.mk.inj hsplit
  dsimp only
  split
  next hlen =>
    have hall : ∀ t ∈ texts f, ¬ k.DependsOn t := by
      simpa using List.length_filter_eq_length_iff.mp hlen
    have hconst (u u' : String → Bool) : k.holds u = k.holds u' :=
      holds_congr_of_dependsOn fun n hn => absurd hn (hall n (names_pin_subset f v hn.mem_names))
    have hatoms : (texts f).flatMap (atomOf (leafTable f)) ⊆ varied f := by
      intro a ha
      obtain ⟨t, -, ha⟩ := List.mem_flatMap.mp ha
      exact (mem_atomOf.mp ha).1
    have hget : ∀ a ∈ varied f,
        (setAll w ((texts f).flatMap (atomOf (leafTable f))) false).get a = false := by
      intro a ha
      rw [setAll, Valuation.get_foldl_set, if_pos]
      exact List.mem_flatMap.mpr ⟨a.name, name_mem_texts ha, mem_atomOf.mpr ⟨ha, rfl⟩⟩
    have hw' := agreeBut_setAll hw hatoms false
    have hiff (b : Bool) : (∀ u, k.holds u = b) ↔ k.holds (fun _ => false) = b :=
      ⟨fun h => h _, fun h u => (hconst u _).trans h⟩
    have hvalue := value_eq hf hw' (u := fun _ => false) hget
    refine Yields.bind (P := fun x => x = some (k.holds fun _ => false)) ⟨_, hvalue, rfl⟩ ?_
    rintro _ rfl
    refine .ok ⟨?_, hw'⟩
    simp only [exactly, k, hiff]
    cases holds (fun _ => false) (f.pin (varied f) v) <;> simp
  next hlen =>
    have hsome : ∃ t, k.DependsOn t := by
      by_contra hnone
      refine hlen (List.length_filter_eq_length_iff.mpr fun t _ => ?_)
      simpa using fun ht => hnone ⟨t, ht⟩
    obtain ⟨t, u, hu⟩ := hsome
    have hnot (b : Bool) : ¬ ∀ u, k.holds u = b := fun h => hu ((h _).trans (h _).symm)
    refine .ok ⟨?_, hw⟩
    simp only [exactly, k, hnot, decide_false]

end Usefulness

/-! The features of a well-formed formula. -/
namespace Feature

open Usefulness (exactly varied)

variable {f g : Formula}

theorem row_yields (hf : f.WellFormed) (v : Valuation) :
    Yields (row (.compound f) v) fun r =>
      r.1 = shape f ++ usefulness (exactly f v) ∧ v.AgreeBut (varied f) r.2 := by
  refine (Usefulness.ofFormula_yields hf v).bind ?_
  rintro ⟨u, w⟩ ⟨rfl, hw⟩
  exact .ok ⟨rfl, hw⟩

theorem pairRow_yields (hf : f.WellFormed) (hg : g.WellFormed) (v : Valuation) :
    Yields (pairRow (.compound f) (.compound g) v) fun _ => True :=
  (row_yields hf v).bind fun r _ => (row_yields hg r.2).bind fun _ _ => .ok trivial

/-- What there is to find out about a formula that is to be simplified to a constant. -/
noncomputable def exactRow (f : Formula) (goal : String) (v : Valuation) : List Rat :=
  shape f ++ usefulness (exactly f v) ++ applicability (.compound f) ++ [flag (isTrueGoal goal)]

theorem singleRow_yields (hf : f.WellFormed) (goal : String) (v : Valuation) :
    Yields (singleRow (.compound f) goal v) fun r => r.1 = exactRow f goal v := by
  refine (row_yields hf v).bind ?_
  rintro ⟨a, w⟩ ⟨rfl, -⟩
  exact .ok rfl

end Feature

end LogicTutor
