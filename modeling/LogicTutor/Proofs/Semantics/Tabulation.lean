import Mathlib
import LogicTutor.Proofs.Formula.Glossary

/-! The truth table of two formulas: its rows are all assignments to the names, each once and in
the order of their numbers, and what stands in a row is what the formulas and their inner formulas
mean under its assignment. -/
namespace LogicTutor

theorem Token.Nameable.ne_negated {n m : String} (h : Nameable n) : n ≠ "~" ++ m := by
  rintro rfl
  have hname := nameable_iff.mp h
  rw [String.toList_append] at hname
  exact absurd hname.1 (by decide)

namespace Valuation

variable {names : List String} {n : String} {i j : Nat}

end Valuation

namespace Semantics

variable {f x : Formula} {names : List String} {ds : List Glossary}

theorem Ranges.of_inside (h : Ranges names ds f) (hx : x.Inside f) : Ranges names ds x where
  wellFormed := hx.wellFormed h.wellFormed
  names_subset := List.Subset.trans (Formula.names_subset hx.leaves_subset) h.names_subset
  listed a ha := h.listed a (hx.leaves_subset ha)

end Semantics

namespace TruthTable

variable {f g x : Formula} {reading : Nat} {names : List String}

/-! The columns of inner formulas. -/

theorem mem_innerFormulas (depth : Nat) :
    x ∈ (innerFormulas depth f).map (·.1) ↔ x.IsBinary ∧ (x = f ∨ x.Inside f) := by
  induction f generalizing depth with
  | blank =>
    refine ⟨by simp [innerFormulas], ?_⟩
    rintro ⟨⟨c, y, z, rfl⟩, h | h⟩
    · cases h
    · exact h.elim
  | leaf l =>
    refine ⟨by simp [innerFormulas], ?_⟩
    rintro ⟨⟨c, y, z, rfl⟩, h | h⟩
    · cases h
    · exact h.elim
  | unary c y ih =>
    rw [innerFormulas, ih]
    refine and_congr_right fun hx => ?_
    have hne : x ≠ .unary c y := by
      obtain ⟨d, z, w, rfl⟩ := hx
      simp
    exact (or_iff_right hne).symm
  | binary c y z ihy ihz =>
    rw [innerFormulas, List.map_append, List.map_append, List.mem_append, List.mem_append, ihy, ihz,
      ← and_or_left, List.map_singleton, List.mem_singleton]
    constructor
    · rintro (⟨hx, h⟩ | rfl)
      · exact ⟨hx, .inr h⟩
      · exact ⟨⟨c, y, z, rfl⟩, .inl rfl⟩
    · rintro ⟨hx, rfl | h⟩
      · exact .inr rfl
      · exact .inl ⟨hx, h⟩

theorem distinctTexts_concat (fs : List (Formula × Nat)) (p : Formula × Nat) :
    distinctTexts (fs ++ [p]) =
      if (distinctTexts fs).any fun q => q.1.text == p.1.text then distinctTexts fs
      else distinctTexts fs ++ [p] := by
  rw [distinctTexts, List.foldl_append]
  rfl

/-- Of the formulas that are written alike one is kept. -/
theorem distinctTexts_keeps (fs : List (Formula × Nat)) :
    distinctTexts fs ⊆ fs ∧ ((distinctTexts fs).map fun p => p.1.text).Nodup ∧
      ∀ p ∈ fs, ∃ q ∈ distinctTexts fs, q.1.text = p.1.text := by
  induction fs using List.reverseRecOn with
  | nil => simp [distinctTexts]
  | append_singleton fs p ih =>
    obtain ⟨hsubset, hnodup, hkept⟩ := ih
    rw [distinctTexts_concat]
    split
    next hp =>
      obtain ⟨q, hq, he⟩ := List.any_eq_true.mp hp
      refine ⟨List.subset_append_of_subset_left _ hsubset, hnodup, fun r hr => ?_⟩
      rcases List.mem_append.mp hr with hr | hr
      · exact hkept r hr
      · exact ⟨q, hq, List.mem_singleton.mp hr ▸ beq_iff_eq.mp he⟩
    next hp =>
      refine ⟨List.append_subset.mpr ⟨List.subset_append_of_subset_left _ hsubset,
        List.subset_append_right _ _⟩, ?_, fun r hr => ?_⟩
      · rw [List.map_append, List.nodup_append]
        refine ⟨hnodup, by simp, ?_⟩
        rintro t ht u hu rfl
        obtain ⟨q, hq, rfl⟩ := List.mem_map.mp ht
        refine hp (List.any_eq_true.mpr ⟨q, hq, beq_iff_eq.mpr ?_⟩)
        simpa using hu
      · rcases List.mem_append.mp hr with hr | hr
        · obtain ⟨q, hq, he⟩ := hkept r hr
          exact ⟨q, List.mem_append_left _ hq, he⟩
        · exact ⟨p, List.mem_append_right _ (List.mem_singleton.mpr rfl),
            List.mem_singleton.mp hr ▸ rfl⟩

theorem nodup_innerColumns (f : Formula) : ((innerColumns f).map Formula.text).Nodup := by
  have hsort := (List.mergeSort_perm (distinctTexts (innerFormulas 0 f))
    fun a b => decide (b.2 ≤ a.2)).map fun p => p.1.text
  have hnodup := hsort.nodup_iff.mpr (distinctTexts_keeps (innerFormulas 0 f)).2.1
  rw [← Function.comp_def Formula.text, ← List.map_map] at hnodup
  exact hnodup.sublist (List.filter_sublist.map _)

theorem mem_innerColumns (hf : f.ReadIn reading names) :
    x ∈ innerColumns f ↔ x.IsBinary ∧ x.Inside f := by
  obtain ⟨hsubset, -, hkept⟩ := distinctTexts_keeps (innerFormulas 0 f)
  have hmem : x ∈ innerColumns f ↔
      x ∈ (distinctTexts (innerFormulas 0 f)).map (·.1) ∧ x.text ≠ f.text := by
    simp only [innerColumns, List.mem_filter, List.mem_map, List.mem_mergeSort, bne_iff_ne]
  rw [hmem]
  constructor
  · rintro ⟨hx, hne⟩
    obtain ⟨hb, rfl | hin⟩ := (mem_innerFormulas 0).mp (List.map_subset _ hsubset hx)
    · exact absurd rfl hne
    · exact ⟨hb, hin⟩
  · rintro ⟨hb, hin⟩
    have hx := hf.of_inside hin
    refine ⟨?_, fun he => hin.ne (hx.eq_of_text_eq hf he)⟩
    obtain ⟨p, hp, rfl⟩ := List.mem_map.mp ((mem_innerFormulas 0).mpr ⟨hb, .inr hin⟩)
    obtain ⟨q, hq, he⟩ := hkept p hp
    -- the formula kept for the text of `p` is a part as well, so it is `p`'s
    have hread : q.1.ReadIn reading names := by
      obtain ⟨-, hqf | hqf⟩ := (mem_innerFormulas 0).mp (List.mem_map_of_mem (hsubset hq))
      · exact hqf ▸ hf
      · exact hf.of_inside hqf
    exact hread.eq_of_text_eq hx he ▸ List.mem_map_of_mem hq

/-! The rows. -/

theorem lookup_setEntry {α : Type} (key n : String) (y : α) (es : List (String × α)) :
    (setEntry key y es).lookup n = if n = key then some y else es.lookup n := by
  induction es with
  | nil => exact lookup_cons key n y []
  | cons e es ih =>
    obtain ⟨k, z⟩ := e
    rw [setEntry, lookup_cons]
    split
    next hk =>
      subst hk
      rw [lookup_cons]
      split <;> rfl
    next hk =>
      rw [lookup_cons, ih]
      by_cases h : n = k
      · have hne : n ≠ key := h ▸ hk
        rw [if_pos h, if_neg hne, if_pos h]
      · rw [if_neg h, if_neg h]

section

variable {negated : String → Bool} {n : String}

theorem lookup_nameValues_of_not_mem (hn : n ∉ names) (hneg : ∀ m ∈ names, n ≠ "~" ++ m) (i : Nat)
    (acc : List (String × Bool)) :
    (nameValues negated names i acc).lookup n = acc.lookup n := by
  induction names generalizing i acc with
  | nil => rfl
  | cons m ns ih =>
    rw [List.mem_cons, not_or] at hn
    obtain ⟨hm, hns⟩ := List.forall_mem_cons.mp hneg
    rw [nameValues, ih hn.2 hns]
    split
    · rw [lookup_setEntry, if_neg hm, lookup_setEntry, if_neg hn.1]
    · rw [lookup_setEntry, if_neg hn.1]

/-- The row with the number `i` gives a name what the assignment with this number gives it. -/
theorem lookup_nameValues (hnodup : names.Nodup) (hneg : ∀ m ∈ names, n ≠ "~" ++ m)
    (hn : n ∈ names) (i : Nat) (acc : List (String × Bool)) :
    (nameValues negated names i acc).lookup n = some (Valuation.bitOf names i n) := by
  induction names generalizing i acc with
  | nil => simp at hn
  | cons m ns ih =>
    obtain ⟨hnot, hns⟩ := List.nodup_cons.mp hnodup
    obtain ⟨hm, hrest⟩ := List.forall_mem_cons.mp hneg
    rw [nameValues, Valuation.bitOf]
    by_cases h : n = m
    · subst h
      rw [lookup_nameValues_of_not_mem hnot hrest, if_pos rfl]
      split
      · rw [lookup_setEntry, if_neg hm, lookup_setEntry, if_pos rfl]
      · rw [lookup_setEntry, if_pos rfl]
    · rw [if_neg h]
      exact ih hns hrest ((List.mem_cons.mp hn).resolve_left h) _ _

/-- The row with the number `i`, in terms of what formulas mean. -/
def meantRow (f g : Formula) (negated : String → Bool) (names : List String)
    (inner1 inner2 : List Formula) (i : Nat) : TruthRow :=
  let u := Valuation.bitOf names i
  { values := nameValues negated names i []
    inner1 := inner1.map fun x => (x.text, some (x.holds u))
    inner2 := inner2.map fun x => (x.text, some (x.holds u))
    value1 := some (f.holds u)
    value2 := some (g.holds u) }

variable {inner1 inner2 : List Formula} {ds : List Glossary}

open Semantics

/-- Whatever the atoms hold at first, the rows are as the meaning of the formulas has them. -/
theorem rowsFrom_eq (negated : String → Bool) (hds : ∀ d ∈ ds, d.Named) (hnodup : names.Nodup)
    (hf : Ranges names ds f) (hg : Ranges names ds g) (h1 : ∀ x ∈ inner1, Ranges names ds x)
    (h2 : ∀ x ∈ inner2, Ranges names ds x) (k i : Nat) (v : Valuation) :
    ∃ w, rowsFrom f g (groups names ds) negated names inner1 inner2 k i v =
      .ok ((List.range' i k).map (meantRow f g negated names inner1 inner2), w) := by
  have hinner {xs : List Formula} (h : ∀ x ∈ xs, Ranges names ds x)
      (i : Nat) (v : Valuation) : innerValues (v.setBits (groups names ds) i) xs =
        xs.map fun x => (x.text, some (x.holds (Valuation.bitOf names i))) :=
    List.map_congr_left fun x hx => by rw [(h x hx).eval? hds hnodup]
  induction k generalizing i v with
  | zero => exact ⟨v, rfl⟩
  | succ k ih =>
    obtain ⟨w, hw⟩ := ih (i + 1) (v.setBits (groups names ds) i)
    refine ⟨w, ?_⟩
    simp only [rowsFrom, Formula.value_of_eval? (hf.eval? hds hnodup v i),
      Formula.value_of_eval? (hg.eval? hds hnodup v i), hinner h1, hinner h2, ok_bind, hw]
    rfl

end

end TruthTable

namespace TruthRow

/-- The row gives each of the names what `u` gives it. -/
def Gives (r : TruthRow) (names : List String) (u : String → Bool) : Prop :=
  ∀ n ∈ names, r.values.lookup n = some (u n)

/-- The row is the one with the number `i`: the `j`-th name has the `j`-th binary digit of `i`, and
all else is what the formulas mean if the names have these values. -/
structure Numbered (r : TruthRow) (i : Nat) (names : List String) (f g : Formula)
    (parts1 parts2 : List Formula) : Prop where
  digits : ∀ j n, names[j]? = some n → r.values.lookup n = some (i.testBit j)
  first : ∀ u, r.Gives names u → r.value1 = some (f.holds u)
  second : ∀ u, r.Gives names u → r.value2 = some (g.holds u)
  inner1 : ∀ u, r.Gives names u → r.inner1 = parts1.map fun x => (x.text, some (x.holds u))
  inner2 : ∀ u, r.Gives names u → r.inner2 = parts2.map fun x => (x.text, some (x.holds u))

end TruthRow

namespace TruthTable

open Semantics

variable {f g : Formula}

section

variable {names : List String} {negated : String → Bool} {parts1 parts2 : List Formula}
  {u : String → Bool} {i : Nat}

end

section

variable {m n : Nat} {s t : String} {d e : Glossary}

theorem ne_negated_of_mem_names (hf : f.Legible) {x : String} (hx : x ∈ f.names) (y : String) :
    x ≠ "~" ++ y := by
  obtain ⟨a, ha, rfl⟩ := Formula.mem_names.mp hx
  exact Token.Nameable.ne_negated (hf.nameable _ ha)

theorem ranges_of_readWith (hf : f.ReadWith m d) (hg : g.ReadWith n e) :
    Ranges (sharedNames d e) [d, e] f ∧ Ranges (sharedNames d e) [d, e] g :=
  ranges_shared hf.describes hg.describes hf.legible.proper hg.legible.proper

theorem mem_sharedNames_of_readWith (hf : f.ReadWith m d) (hg : g.ReadWith n e) {x : String} :
    x ∈ sharedNames d e ↔ x ∈ f.names ∨ x ∈ g.names := by
  obtain ⟨hrf, hrg⟩ := ranges_of_readWith hf hg
  refine ⟨fun h => ?_, fun h => h.elim (fun h => hrf.names_subset h) fun h => hrg.names_subset h⟩
  rw [← hf.describes.names, ← hg.describes.names]
  exact (mem_sharedNames.mp h).1

theorem ne_negated_of_mem_sharedNames (hf : f.ReadWith m d) (hg : g.ReadWith n e) (x : String) :
    ∀ y ∈ sharedNames d e, y ≠ "~" ++ x := by
  intro y hy
  rcases (mem_sharedNames_of_readWith hf hg).mp hy with hy | hy
  · exact ne_negated_of_mem_names hf.legible hy x
  · exact ne_negated_of_mem_names hg.legible hy x

/-- The text of one of the formulas negates the name. -/
def negatedIn (f g : Formula) (x : String) : Bool :=
  negatesName x.toList f.text.toList || negatesName x.toList g.text.toList

/-- The table that is made, in terms of what formulas mean. -/
theorem make_eq_negatedIn (hf : f.ReadWith m d) (hg : g.ReadWith n e) (hne : sharedNames d e ≠ [])
    (v : Valuation) :
    ∃ w, make f d g e v = .ok (⟨nameColumns (negatedIn f g) (sharedNames d e),
      (innerColumns f).map Formula.text, (innerColumns g).map Formula.text,
      (List.range (Nat.pow 2 (sharedNames d e).length)).map
        (meantRow f g (negatedIn f g) (sharedNames d e) (innerColumns f) (innerColumns g))⟩, w) := by
  obtain ⟨hrf, hrg⟩ := ranges_of_readWith hf hg
  have h1 : ∀ x ∈ innerColumns f, Ranges (sharedNames d e) [d, e] x :=
    fun x hx => hrf.of_inside ((mem_innerColumns hf.toReadIn).mp hx).2
  have h2 : ∀ x ∈ innerColumns g, Ranges (sharedNames d e) [d, e] x :=
    fun x hx => hrg.of_inside ((mem_innerColumns hg.toReadIn).mp hx).2
  have hnodup : (sharedNames d e).Nodup := nodup_sortNames _
  obtain ⟨w, hw⟩ :=
    rowsFrom_eq (negatedIn f g) (named_shared hf.describes hg.describes) hnodup hrf hrg h1 h2
      (Nat.pow 2 (sharedNames d e).length) 0 v
  have hempty : ¬ (sharedNames d e).isEmpty = true := by simpa using hne
  have hnegated : (fun x : String => negatesName x.toList f.text.toList ||
      negatesName x.toList g.text.toList) = negatedIn f g := rfl
  refine ⟨w, ?_⟩
  rw [List.range_eq_range']
  simp only [make, sharedGroups, hempty, ↓reduceIte, Bool.false_eq_true]
  rw [hnegated, hw]
  rfl

end

end TruthTable

end LogicTutor
