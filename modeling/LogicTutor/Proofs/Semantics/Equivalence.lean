import LogicTutor.Proofs.Computation
import LogicTutor.Proofs.Formula.Meaning
import LogicTutor.Proofs.Lists
import LogicTutor.Semantics.Table

/-! Running through numbered assignments decides equivalence: the assignment with the number `i`
gives the `j`-th name the `j`-th binary digit of `i`, whatever the atoms held before, and every
valuation of the names has a number. -/
namespace LogicTutor

namespace Valuation

variable {v : Valuation} {a : Atom} {names : List String} {group : String → List Atom}

@[simp] theorem get_foldl_set (group : List Atom) (x : Bool) (v : Valuation) (a : Atom) :
    (group.foldl (fun w a => w.set a x) v).get a = if a ∈ group then x else v.get a := by
  induction group generalizing v with
  | nil => simp
  | cons b group ih =>
    rw [List.foldl_cons, ih]
    by_cases ha : a ∈ group
    · simp [ha]
    · simp [ha, eq_comm]

theorem get_setBits_of_forall_not_mem {groups : List (List Atom)} (h : ∀ l ∈ groups, a ∉ l)
    (i : Nat) (v : Valuation) : (v.setBits groups i).get a = v.get a := by
  induction groups generalizing i v with
  | nil => rfl
  | cons l groups ih =>
    obtain ⟨hl, hg⟩ := List.forall_mem_cons.mp h
    rw [setBits, ih hg, get_foldl_set, if_neg hl]

/-- What the assignment with the number `i` gives to a name. -/
def bitOf : List String → Nat → String → Bool
  | [], _, _ => false
  | n :: ns, i, m => if m = n then i % 2 == 1 else bitOf ns (i / 2) m

/-- After the assignment with the number `i`, the atoms that are grouped by their names hold the
values that it gives to these. -/
theorem get_setBits (hgroup : ∀ n, ∀ b ∈ group n, b.name = n) (hn : names.Nodup)
    (ha : a ∈ group a.name) (hm : a.name ∈ names) (i : Nat) (v : Valuation) :
    (v.setBits (names.map group) i).get a = bitOf names i a.name := by
  induction names generalizing i v with
  | nil => simp at hm
  | cons n ns ih =>
    obtain ⟨hnot, hns⟩ := List.nodup_cons.mp hn
    rw [List.map_cons, setBits]
    by_cases hname : a.name = n
    · -- later groups belong to other names
      have hrest : ∀ l ∈ ns.map group, a ∉ l := by
        intro l hl hmem
        obtain ⟨m, hm, rfl⟩ := List.mem_map.mp hl
        exact hnot (hname ▸ hgroup m a hmem ▸ hm)
      rw [get_setBits_of_forall_not_mem hrest, get_foldl_set, if_pos (hname ▸ ha)]
      simp [hname, bitOf]
    · have hm' : a.name ∈ ns := (List.mem_cons.mp hm).resolve_left hname
      rw [bitOf, if_neg hname]
      exact ih hns hm' _ _

/-- Every valuation of the names is one of the assignments. -/
theorem exists_bitOf (names : List String) (u : String → Bool) :
    ∃ i < Nat.pow 2 names.length, ∀ n ∈ names, bitOf names i n = u n := by
  induction names with
  | nil => exact ⟨0, by simp, by simp⟩
  | cons n ns ih =>
    obtain ⟨i, hi, hb⟩ := ih
    refine ⟨2 * i + (u n).toNat, ?_, fun m hm => ?_⟩
    · have := (u n).toNat_le
      change _ < Nat.pow 2 ns.length * 2
      omega
    · rw [bitOf]
      split
      next h =>
        subst h
        have hm : (2 * i + (u m).toNat) % 2 = (u m).toNat := by
          have := (u m).toNat_le
          omega
        rw [hm]
        cases u m <;> rfl
      next h =>
        have hd : (2 * i + (u n).toNat) / 2 = i := by
          have := (u n).toNat_le
          omega
        rw [hd]
        exact hb m ((List.mem_cons.mp hm).resolve_left h)

/-- A test whose answer depends on the number of the assignment alone, as long as the values are of
the kind `P` that it leaves behind, is passed by all assignments or not. -/
theorem passAll_yields {ε : Type} {groups : List (List Atom)}
    {test : Valuation → Except ε (Bool × Valuation)} {Q : Nat → Bool} {P : Valuation → Prop}
    (hQ : ∀ (v : Valuation) i, P v → Yields (test (v.setBits groups i)) fun r =>
      r.1 = Q i ∧ P r.2)
    (k i : Nat) (hv : P v) : Yields (passAll groups test k i v) fun r =>
      (r.1 = true ↔ ∀ j, i ≤ j → j < i + k → Q j = true) ∧ P r.2 := by
  induction k generalizing i v with
  | zero => exact .ok ⟨⟨fun _ j hj hk => by omega, fun _ => rfl⟩, hv⟩
  | succ k ih =>
    obtain ⟨⟨b, w⟩, hw, hb, hP⟩ := hQ v i hv
    rw [passAll, hw]
    cases b with
    | false =>
      refine ⟨(false, w), rfl, ⟨nofun, fun h => ?_⟩, hP⟩
      exact hb.trans (h i (Nat.le_refl i) (by omega))
    | true =>
      obtain ⟨r, hr, hall, hP⟩ := ih (i + 1) hP
      refine ⟨r, hr, hall.trans ⟨fun h j hj hk => ?_, fun h j hj hk => h j (by omega) (by omega)⟩,
        hP⟩
      by_cases hij : j = i
      · exact hij ▸ hb.symm
      · exact h j (by omega) (by omega)

/-- A test that depends on the values of the names alone is passed by all assignments exactly if
it is passed by all valuations. -/
theorem forAll_decides_keeping {ε : Type} {test : Valuation → Except ε (Bool × Valuation)}
    {Q : (String → Bool) → Bool} {P : Valuation → Prop}
    (htest : ∀ (v : Valuation) i, P v →
      Yields (test (v.setBits (names.map group) i)) fun r =>
        r.1 = Q (bitOf names i) ∧ P r.2)
    (hQ : ∀ u u', (∀ n ∈ names, u n = u' n) → Q u = Q u') (hv : P v) :
    Yields (v.forAll (names.map group) test) fun r =>
      (r.1 = true ↔ ∀ u, Q u = true) ∧ P r.2 := by
  obtain ⟨r, hr, hall, hP⟩ :=
    passAll_yields htest (Nat.pow 2 (names.map group).length) 0 hv
  refine ⟨r, hr, hall.trans ⟨fun h u => ?_, fun h j _ _ => h _⟩, hP⟩
  -- the number of the valuation `u`
  obtain ⟨i, hi, hu⟩ := exists_bitOf names u
  have hlen : (names.map group).length = names.length := List.length_map _
  rw [← hQ _ _ hu]
  exact h i (Nat.zero_le i) (by rw [hlen]; omega)

/-- A test that leaves the values alone is decided in the same way. -/
theorem forAll_decides {ε : Type} {test : Valuation → Except ε (Bool × Valuation)}
    {Q : (String → Bool) → Bool}
    (htest : ∀ (v : Valuation) i, test (v.setBits (names.map group) i) =
      .ok (Q (bitOf names i), v.setBits (names.map group) i))
    (hQ : ∀ u u', (∀ n ∈ names, u n = u' n) → Q u = Q u') (v : Valuation) :
    Yields (v.forAll (names.map group) test) fun r =>
      r.1 = true ↔ ∀ u, Q u = true := by
  obtain ⟨r, hr, hall, -⟩ := forAll_decides_keeping (P := fun _ => True)
    (fun w i _ => ⟨_, htest w i, rfl, trivial⟩) hQ (v := v) trivial
  exact ⟨r, hr, hall⟩

end Valuation

namespace Formula

variable {f g : Formula} {n : String} {a : Atom}

theorem mem_atoms : a ∈ f.atoms ↔ .atom a ∈ f.leaves := by
  simp only [atoms, components, List.mem_filterMap, List.mem_eraseDups]
  constructor
  · rintro ⟨l, hl, h⟩
    cases l with
    | atom b => exact Option.some.inj h ▸ hl
    | truth b => cases h
  · exact fun h => ⟨_, h, rfl⟩

theorem mem_names : n ∈ f.names ↔ ∃ a, .atom a ∈ f.leaves ∧ a.name = n := by
  simp only [names, List.mem_eraseDups, List.mem_map, mem_atoms]

/-- The meaning depends on the values of the names that occur. -/
theorem holds_congr {u v : String → Bool} (h : ∀ n ∈ f.names, u n = v n) :
    f.holds u = f.holds v := by
  simp only [mem_names] at h
  induction f with
  | blank => rfl
  | leaf l =>
    cases l with
    | atom a => exact h _ ⟨a, by simp [leaves], rfl⟩
    | truth b => rfl
  | unary c x ih => cases c <;> simp only [holds, ih h]
  | binary c x y ihx ihy =>
    have hx : x.holds u = x.holds v := ihx <| by
      rintro n ⟨a, ha, hn⟩
      exact h n ⟨a, List.mem_append_left _ ha, hn⟩
    have hy : y.holds u = y.holds v := ihy <| by
      rintro n ⟨a, ha, hn⟩
      exact h n ⟨a, List.mem_append_right _ ha, hn⟩
    cases c <;> simp only [holds, hx, hy]

end Formula

theorem Formula.WellFormed.value_yields {f : Formula} (hf : f.WellFormed) (v : Valuation) :
    Yields (f.value v) fun _ => True := by
  obtain ⟨b, hb⟩ := exists_value hf v
  exact ⟨some b, hb, trivial⟩

/-- Under each name stands an atom that has it. -/
def Glossary.Named (d : Glossary) : Prop := ∀ n a, d.find? n = some a → a.name = n

/-- The glossary lists the names of the formula, with the atoms that have them there. -/
structure Glossary.Describes (d : Glossary) (f : Formula) : Prop where
  names : d.names = f.names
  named : d.Named
  finds : ∀ a, .atom a ∈ f.leaves → d.find? a.name = some a

namespace Semantics

variable {f g : Formula} {d e : Glossary} {names : List String} {n : String}

theorem mem_sortNames : n ∈ sortNames names ↔ n ∈ names := by
  rw [sortNames, List.mem_mergeSort, List.mem_eraseDups]

theorem nodup_sortNames (names : List String) : (sortNames names).Nodup :=
  (List.mergeSort_perm _ _).nodup_iff.mpr (nodup_eraseDups names)

theorem mem_sharedNames :
    n ∈ sharedNames d e ↔ (n ∈ d.names ∨ n ∈ e.names) ∧ n ≠ "T" ∧ n ≠ "F" := by
  simp only [sharedNames, mem_sortNames, List.mem_filter, List.mem_append, decide_eq_true_eq]

theorem names_subset_sharedNames (hd : d.Describes f) (he : e.Describes g)
    (hf : f.Over Leaf.Plain) (hg : g.Over Leaf.Plain) :
    f.names ⊆ sharedNames d e ∧ g.names ⊆ sharedNames d e := by
  have hplain {k : Formula} (hk : k.Over Leaf.Plain) : ∀ n ∈ k.names, n ≠ "T" ∧ n ≠ "F" := by
    intro n hn
    obtain ⟨a, ha, rfl⟩ := Formula.mem_names.mp hn
    exact hk _ ha
  exact ⟨fun n hn => mem_sharedNames.mpr ⟨.inl (hd.names ▸ hn), hplain hf n hn⟩,
    fun n hn => mem_sharedNames.mpr ⟨.inr (he.names ▸ hn), hplain hg n hn⟩⟩

/-- The formula is well-formed, its names are among these, and its atoms stand under them in the
glossaries. -/
structure Ranges (names : List String) (ds : List Glossary) (f : Formula) : Prop where
  wellFormed : f.WellFormed
  names_subset : f.names ⊆ names
  listed : ∀ a, .atom a ∈ f.leaves → ∃ d ∈ ds, d.find? a.name = some a

/-- Under the assignment with the number `i` a formula takes the value that its meaning gives. -/
theorem Ranges.eval? {ds : List Glossary} (h : Ranges names ds f) (hds : ∀ d ∈ ds, d.Named)
    (hn : names.Nodup) (v : Valuation) (i : Nat) :
    f.eval? (v.setBits (groups names ds) i) = some (f.holds (Valuation.bitOf names i)) := by
  refine Formula.eval?_eq_holds h.wellFormed fun a ha => ?_
  have hgroup : ∀ n, ∀ b ∈ ds.filterMap (fun d => d.find? n), b.name = n := by
    intro n b hb
    obtain ⟨d, hd, hfind⟩ := List.mem_filterMap.mp hb
    exact hds d hd n b hfind
  exact Valuation.get_setBits hgroup hn (List.mem_filterMap.mpr (h.listed a ha))
    (h.names_subset (Formula.mem_names.mpr ⟨a, ha, rfl⟩)) i v

theorem named_shared (hd : d.Describes f) (he : e.Describes g) : ∀ k ∈ [d, e], k.Named := by
  simpa using ⟨hd.named, he.named⟩

theorem ranges_shared (hd : d.Describes f) (he : e.Describes g) (hf : f.Proper) (hg : g.Proper) :
    Ranges (sharedNames d e) [d, e] f ∧ Ranges (sharedNames d e) [d, e] g := by
  obtain ⟨hsf, hsg⟩ := names_subset_sharedNames hd he hf.plain hg.plain
  exact ⟨⟨hf.wellFormed, hsf, fun a ha => ⟨d, by simp, hd.finds a ha⟩⟩,
    ⟨hg.wellFormed, hsg, fun a ha => ⟨e, by simp, he.finds a ha⟩⟩⟩

/-- Comparing two formulas on all assignments to their names decides whether they are
equivalent. -/
theorem agree_yields (hd : d.Describes f) (he : e.Describes g) (hf : f.Proper) (hg : g.Proper)
    (v : Valuation) : Yields (agree f d g e v) fun r => r.1 = true ↔ f.Equivalent g := by
  let names := sharedNames d e
  let test (w : Valuation) : Except Fault (Bool × Valuation) := do
    let x ← f.value w
    let y ← g.value w
    return (x == y, w)
  obtain ⟨hrf, hrg⟩ := ranges_shared hd he hf hg
  have hnodup : names.Nodup := nodup_sortNames _
  have hnamed := named_shared hd he
  have htest (v : Valuation) (i : Nat) : test (v.setBits (sharedGroups d e) i) =
      .ok (f.holds (Valuation.bitOf names i) == g.holds (Valuation.bitOf names i),
        v.setBits (sharedGroups d e) i) := by
    have hx := Formula.value_of_eval? (hrf.eval? hnamed hnodup v i)
    have hy := Formula.value_of_eval? (hrg.eval? hnamed hnodup v i)
    simp only [test, sharedGroups, hx, hy]
    rfl
  have hsame (u u' : String → Bool) (hu : ∀ n ∈ names, u n = u' n) :
      (f.holds u == g.holds u) = (f.holds u' == g.holds u') := by
    rw [Formula.holds_congr fun n hn => hu n (hrf.names_subset hn),
      Formula.holds_congr fun n hn => hu n (hrg.names_subset hn)]
  obtain ⟨r, hr, hb⟩ :=
    Valuation.forAll_decides (Q := fun u => f.holds u == g.holds u) htest hsame v
  exact ⟨r, hr, hb.trans (forall_congr' fun u => beq_iff_eq)⟩

end Semantics

namespace TruthTable

variable {f g : Formula}

theorem rowsFrom_yields (hf : f.WellFormed) (hg : g.WellFormed) (groups : List (List Atom))
    (negated : String → Bool) (names : List String) (inner1 inner2 : List Formula) (k i : Nat)
    (v : Valuation) :
    Yields (rowsFrom f g groups negated names inner1 inner2 k i v) fun _ => True := by
  induction k generalizing i v with
  | zero => exact .ok trivial
  | succ k ih =>
    exact (hf.value_yields _).bind fun _ _ => (hg.value_yields _).bind fun _ _ =>
      (ih (i + 1) _).bind fun _ _ => .ok trivial

/-- Well-formed formulas have a truth table. -/
theorem make_yields (hf : f.WellFormed) (hg : g.WellFormed) (d e : Glossary) (v : Valuation) :
    Yields (make f d g e v) fun _ => True := by
  simp only [make]
  split
  · exact (hf.value_yields v).bind fun _ _ => (hg.value_yields v).bind fun _ _ => .ok trivial
  · exact (rowsFrom_yields hf hg _ _ _ _ _ _ 0 v).bind fun _ _ => .ok trivial

end TruthTable

end LogicTutor
