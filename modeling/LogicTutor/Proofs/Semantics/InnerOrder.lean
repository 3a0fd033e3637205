import Mathlib
import LogicTutor.Proofs.Law.Locality
import LogicTutor.Proofs.Semantics.Tabulation

/-! The order of the columns for inner formulas. They stand deepest first, but the depth that counts
is that of the first place where the formula stands, so that a formula may come after one that it
is a part of. -/
namespace LogicTutor

namespace Formula

variable {f x y : Formula} {e : Direction} {p q : Path}

theorem inside_of_part? (h : f.part? (e :: p) = some x) : x.Inside f := by
  induction p generalizing f e with
  | nil =>
    obtain ⟨y, hy, hx⟩ := Option.bind_eq_some_iff.mp h
    obtain rfl : y = x := by simpa [part?] using hx
    cases f <;> cases e <;> simp_all [operand?, Inside]
  | cons d p ih =>
    obtain ⟨y, hy, hx⟩ := Option.bind_eq_some_iff.mp h
    have hin := ih hx
    cases f <;> cases e <;> simp_all [operand?, Inside]

theorem eq_or_inside_of_part? (h : f.part? p = some x) : x = f ∨ x.Inside f := by
  cases p with
  | nil => exact .inl (by simpa [part?] using h.symm)
  | cons e p => exact .inr (inside_of_part? h)

theorem part?_append (f : Formula) (p q : Path) :
    f.part? (p ++ q) = (f.part? p).bind fun x => x.part? q := by
  induction p generalizing f with
  | nil => simp [part?]
  | cons e p ih =>
    simp only [List.cons_append, part?]
    cases f.operand? e with
    | none => rfl
    | some x => exact ih x

/-- In preorder the formula `x` stands in `f` for the first time where the path leads. -/
structure FirstAt (x f : Formula) (p : Path) : Prop where
  there : f.part? p = some x
  before : ∀ q, f.part? q = some x → q ≠ p → Path.Before p q

namespace FirstAt

theorem unique (hp : x.FirstAt f p) (hq : x.FirstAt f q) : p = q := by
  by_contra hne
  exact (hp.before q hq.there (Ne.symm hne)).asymm (hq.before p hp.there hne)

/-- A formula that is found below the root is found there in the operand that the path goes to. -/
theorem operand (h : x.FirstAt f (e :: p)) (hy : f.operand? e = some y) : x.FirstAt y p where
  there := by simpa [part?, hy] using h.there
  before q hq hne := by
    have hb := h.before (e :: q) (by simpa [part?, hy] using hq) (by simpa using hne)
    rcases Path.before_cons_cons.mp hb with ⟨rfl, he⟩ | ⟨-, hb⟩
    · cases he
    · exact hb

/-- Nothing that is found on the right first stands on the left. -/
theorem not_left (h : x.FirstAt f (.right :: p)) (q : Path) : f.part? (.left :: q) ≠ some x := by
  intro hq
  rcases Path.before_cons_cons.mp (h.before _ hq (by simp)) with ⟨he, -⟩ | ⟨he, -⟩ <;> cases he

/-- What is found first in an operand is found first in the whole, if it is not the whole and
stands in no operand further left. -/
theorem cons (h : x.FirstAt y p) (hy : f.operand? e = some y) (hne : x ≠ f)
    (hother : ∀ d q, f.part? (d :: q) = some x → d = e ∨ e = .left ∧ d = .right) :
    x.FirstAt f (e :: p) where
  there := by simpa [part?, hy] using h.there
  before q hq hqp := by
    cases q with
    | nil => exact absurd (by simpa [part?] using hq.symm) hne
    | cons d q =>
      rcases hother d q hq with rfl | hright
      · have hq : y.part? q = some x := by simpa [part?, hy] using hq
        exact Path.before_cons_cons.mpr (.inr ⟨rfl, h.before q hq (by simpa using hqp)⟩)
      · exact Path.before_cons_cons.mpr (.inl hright)

theorem left (h : x.FirstAt y p) (hy : f.operand? .left = some y) (hne : x ≠ f) :
    x.FirstAt f (.left :: p) := by
  apply h.cons hy hne
  intro d q hq
  cases d with
  | left => exact .inl rfl
  | right => exact .inr ⟨rfl, rfl⟩
  | other => cases f <;> simp [part?, operand?] at hq

end FirstAt

theorem firstAt_self (f : Formula) : f.FirstAt f [] where
  there := rfl
  before q hq hne := by
    cases q with
    | nil => exact absurd rfl hne
    | cons e q => exact absurd rfl (inside_of_part? hq).ne

theorem exists_firstAt (h : x = f ∨ x.Inside f) : ∃ p, x.FirstAt f p := by
  rcases h with rfl | h
  · exact ⟨[], firstAt_self x⟩
  induction f with
  | blank => exact h.elim
  | leaf l => exact h.elim
  | unary c y ih =>
    have hy : ∃ p, x.FirstAt y p := by
      rcases h with rfl | h
      · exact ⟨[], firstAt_self x⟩
      · exact ih h
    obtain ⟨p, hp⟩ := hy
    exact ⟨.left :: p, hp.left rfl h.ne⟩
  | binary c y z ihy ihz =>
    by_cases hy : ∃ p, x.FirstAt y p
    · obtain ⟨p, hp⟩ := hy
      exact ⟨.left :: p, hp.left rfl h.ne⟩
    · have hz : ∃ p, x.FirstAt z p := by
        rcases h with (rfl | h) | rfl | h
        · exact absurd ⟨[], firstAt_self x⟩ hy
        · exact absurd (ihy h) hy
        · exact ⟨[], firstAt_self x⟩
        · exact ihz h
      obtain ⟨p, hp⟩ := hz
      refine ⟨.right :: p, hp.cons rfl h.ne ?_⟩
      intro d q hq
      cases d with
      | left =>
        rcases eq_or_inside_of_part? (f := y) (p := q) hq with rfl | hin
        · exact absurd ⟨[], firstAt_self x⟩ hy
        · exact absurd (ihy hin) hy
      | right => exact .inl rfl
      | other => simp [part?, operand?] at hq

end Formula

namespace TruthTable

open scoped List

variable {f x y : Formula} {p q : Path} {reading depth k : Nat} {names : List String}
  {fs gs : List (Formula × Nat)}
  {e : Formula × Nat}

/-! The first of the entries for a formula. -/

theorem find?_innerFormulas_eq_none (h : ∀ p, f.part? p ≠ some x) (depth : Nat) :
    (innerFormulas depth f).find? (fun e => e.1 == x) = none := by
  rw [List.find?_eq_none]
  intro e he hx
  obtain rfl : e.1 = x := by simpa using hx
  obtain ⟨p, hp⟩ := Formula.exists_firstAt ((mem_innerFormulas depth).mp (List.mem_map_of_mem he)).2
  exact h p hp.there

/-- Formulas are entered operands first, and of several entries for one formula the first is that
for the place where it stands first. -/
theorem find?_innerFormulas (hx : x.IsBinary) (hp : x.FirstAt f p) (depth : Nat) :
    (innerFormulas depth f).find? (fun e => e.1 == x) = some (x, depth + p.length) := by
  induction f generalizing p depth with
  | blank =>
    obtain ⟨c, y, z, rfl⟩ := hx
    rcases Formula.eq_or_inside_of_part? hp.there with h | h
    · cases h
    · exact h.elim
  | leaf l =>
    obtain ⟨c, y, z, rfl⟩ := hx
    rcases Formula.eq_or_inside_of_part? hp.there with h | h
    · cases h
    · exact h.elim
  | unary c y ih =>
    have hthere := hp.there
    cases p with
    | nil =>
      obtain ⟨d, z, w, rfl⟩ := hx
      simp [Formula.part?] at hthere
    | cons d p =>
      cases d with
      | left =>
        rw [innerFormulas, ih (hp.operand rfl)]
        simp
        omega
      | right => simp [Formula.part?, Formula.operand?] at hthere
      | other => simp [Formula.part?, Formula.operand?] at hthere
  | binary c y z ihy ihz =>
    have hthere := hp.there
    rw [innerFormulas, List.find?_append, List.find?_append]
    cases p with
    | nil =>
      obtain rfl : Formula.binary c y z = x := by simpa [Formula.part?] using hthere
      -- the root is entered last, but nothing before it is an entry for the same formula
      have hy (q : Path) : y.part? q ≠ some (.binary c y z) := fun hq =>
        absurd rfl (Formula.inside_of_part? (f := .binary c y z) (e := .left) hq).ne
      have hz (q : Path) : z.part? q ≠ some (.binary c y z) := fun hq =>
        absurd rfl (Formula.inside_of_part? (f := .binary c y z) (e := .right) hq).ne
      simp [find?_innerFormulas_eq_none hy, find?_innerFormulas_eq_none hz]
    | cons d p =>
      cases d with
      | left =>
        rw [ihy (hp.operand rfl)]
        simp
        omega
      | right =>
        rw [find?_innerFormulas_eq_none fun q => hp.not_left q, ihz (hp.operand rfl)]
        simp
        omega
      | other => simp [Formula.part?, Formula.operand?] at hthere

/-- The entry that is kept for a text is the first one. -/
theorem find?_of_mem_distinctTexts (h : e ∈ distinctTexts fs) :
    fs.find? (fun r => r.1.text == e.1.text) = some e := by
  induction fs using List.reverseRecOn with
  | nil => simp [distinctTexts] at h
  | append_singleton fs r ih =>
    rw [distinctTexts_concat] at h
    rw [List.find?_append]
    split at h
    next => rw [ih h, Option.some_or]
    next hnew =>
      rcases List.mem_append.mp h with h | h
      · rw [ih h, Option.some_or]
      · obtain rfl : e = r := List.mem_singleton.mp h
        have hnone : fs.find? (fun r => r.1.text == e.1.text) = none := by
          rw [List.find?_eq_none]
          intro r hr he
          obtain ⟨k, hk, hkr⟩ := (distinctTexts_keeps fs).2.2 r hr
          apply hnew
          exact List.any_eq_true.mpr ⟨k, hk, by rw [hkr]; exact he⟩
        rw [hnone, Option.none_or]
        simp

theorem readIn_of_mem_innerFormulas (hf : f.ReadIn reading names) (h : e ∈ innerFormulas depth f) :
    e.1.IsBinary ∧ e.1.ReadIn reading names := by
  obtain ⟨hb, rfl | hin⟩ := (mem_innerFormulas depth).mp (List.mem_map_of_mem h)
  · exact ⟨hb, hf⟩
  · exact ⟨hb, hf.of_inside hin⟩

/-- The depth that is kept for a formula is that of the place where it stands first. -/
theorem depth_of_mem_distinctTexts (hf : f.ReadIn reading names) (hp : x.FirstAt f p)
    (h : (x, k) ∈ distinctTexts (innerFormulas 0 f)) : k = p.length := by
  obtain ⟨hx, hread⟩ := readIn_of_mem_innerFormulas hf ((distinctTexts_keeps _).1 h)
  have hfind := find?_innerFormulas hx hp 0
  have htext : ∀ r ∈ innerFormulas 0 f, (r.1.text == x.text) = (r.1 == x) := by
    intro r hr
    rw [Bool.eq_iff_iff, beq_iff_eq, beq_iff_eq]
    exact ⟨(readIn_of_mem_innerFormulas hf hr).2.eq_of_text_eq hread, congrArg Formula.text⟩
  rw [← List.find?_congr htext, find?_of_mem_distinctTexts h] at hfind
  simpa using hfind

/-! What the entries of a formula's parts come before. -/

/-- Each entry comes after entries for all parts of its formula that have two operands. -/
inductive BuildsUp : List (Formula × Nat) → Prop where
  | nil : BuildsUp []
  | concat {fs : List (Formula × Nat)} {e : Formula × Nat} (h : BuildsUp fs)
      (he : ∀ x : Formula, x.IsBinary → x.Inside e.1 → x ∈ fs.map (·.1)) : BuildsUp (fs ++ [e])

namespace BuildsUp

theorem append (hf : BuildsUp fs) (hg : BuildsUp gs) : BuildsUp (fs ++ gs) := by
  induction hg with
  | nil => simpa using hf
  | concat _ he ih =>
    rw [← List.append_assoc]
    apply ih.concat
    intro x hx hin
    rw [List.map_append]
    exact List.mem_append_right _ (he x hx hin)

theorem innerFormulas (depth : Nat) (f : Formula) : BuildsUp (innerFormulas depth f) := by
  induction f generalizing depth with
  | blank => exact .nil
  | leaf l => exact .nil
  | unary c x ih => exact ih (depth + 1)
  | binary c x y ihx ihy =>
    apply ((ihx (depth + 1)).append (ihy (depth + 1))).concat
    intro z hz hin
    rw [List.map_append, List.mem_append, mem_innerFormulas, mem_innerFormulas, ← and_or_left]
    exact ⟨hz, hin⟩

/-- Leaving out entries for formulas that were entered before does no harm. -/
theorem distinctTexts (h : BuildsUp fs) (hread : ∀ e ∈ fs, e.1.ReadIn reading names) :
    BuildsUp (distinctTexts fs) := by
  induction h with
  | nil => exact .nil
  | @concat fs e _ he ih =>
    have hfs : ∀ r ∈ fs, r.1.ReadIn reading names := fun r hr => hread r (List.mem_append_left _ hr)
    rw [distinctTexts_concat]
    split
    next => exact ih hfs
    next =>
      apply (ih hfs).concat
      intro x hx hin
      obtain ⟨r, hr, rfl⟩ := List.mem_map.mp (he x hx hin)
      obtain ⟨hsubset, -, hkept⟩ := distinctTexts_keeps fs
      obtain ⟨k, hk, hkr⟩ := hkept r hr
      rw [← (hfs k (hsubset hk)).eq_of_text_eq (hfs r hr) hkr]
      exact List.mem_map_of_mem hk

theorem exists_sublist (h : BuildsUp fs) (he : e ∈ fs) (hx : x.IsBinary) (hin : x.Inside e.1) :
    ∃ k, [(x, k), e] <+ fs := by
  induction h with
  | nil => cases he
  | @concat fs r _ hr ih =>
    rcases List.mem_append.mp he with he | he
    · obtain ⟨k, hk⟩ := ih he
      exact ⟨k, hk.trans (List.sublist_append_left _ _)⟩
    · obtain rfl : e = r := List.mem_singleton.mp he
      obtain ⟨⟨z, k⟩, hk, rfl⟩ := List.mem_map.mp (hr x hx hin)
      exact ⟨k, (List.singleton_sublist.mpr hk).append (List.Sublist.refl [e])⟩

end BuildsUp

/-! The order that sorting leaves. -/

theorem deeper_trans (a b c : Formula × Nat) (hab : decide (b.2 ≤ a.2) = true)
    (hbc : decide (c.2 ≤ b.2) = true) : decide (c.2 ≤ a.2) = true :=
  decide_eq_true ((of_decide_eq_true hbc).trans (of_decide_eq_true hab))

theorem deeper_total (a b : Formula × Nat) :
    (decide (b.2 ≤ a.2) || decide (a.2 ≤ b.2)) = true := by
  simpa using Nat.le_total b.2 a.2

theorem exists_mem_distinctTexts (h : x ∈ innerColumns f) :
    ∃ k, (x, k) ∈ distinctTexts (innerFormulas 0 f) := by
  obtain ⟨⟨y, k⟩, hk, rfl⟩ := List.mem_map.mp (List.mem_of_mem_filter h)
  exact ⟨k, List.mem_mergeSort.mp hk⟩

theorem innerColumns_pairwise (hf : f.ReadIn reading names) :
    (innerColumns f).Pairwise fun x y =>
      ∀ p q, x.FirstAt f p → y.FirstAt f q → q.length ≤ p.length := by
  apply List.Pairwise.filter
  rw [List.pairwise_map]
  have hsorted :=
    List.pairwise_mergeSort deeper_trans deeper_total (distinctTexts (innerFormulas 0 f))
  refine hsorted.imp_of_mem ?_
  intro a b ha hb hab p q hp hq
  rw [← depth_of_mem_distinctTexts hf hp (List.mem_mergeSort.mp ha),
    ← depth_of_mem_distinctTexts hf hq (List.mem_mergeSort.mp hb)]
  exact of_decide_eq_true hab

/-- Sorting leaves a part before the formula around it unless their depths tell it otherwise. -/
theorem pair_sublist_innerColumns (hf : f.ReadIn reading names) (hx : x ∈ innerColumns f)
    (hy : y ∈ innerColumns f) (hin : x.Inside y) (hp : x.FirstAt f p) (hq : y.FirstAt f q)
    (hle : q.length ≤ p.length) : [x, y] <+ innerColumns f := by
  obtain ⟨k, hk⟩ := exists_mem_distinctTexts hy
  have hread : ∀ e ∈ innerFormulas 0 f, e.1.ReadIn reading names := fun e he =>
    (readIn_of_mem_innerFormulas hf he).2
  obtain ⟨j, hj⟩ := ((BuildsUp.innerFormulas 0 f).distinctTexts hread).exists_sublist hk
    ((mem_innerColumns hf).mp hx).1 hin
  have hxj : (x, j) ∈ distinctTexts (innerFormulas 0 f) := hj.subset (by simp)
  have hdepth : k ≤ j := by
    rw [depth_of_mem_distinctTexts hf hp hxj, depth_of_mem_distinctTexts hf hq hk]
    exact hle
  -- the sort is stable, so equal depths leave the part where it was entered
  have hsorted := List.pair_sublist_mergeSort deeper_trans deeper_total (decide_eq_true hdepth) hj
  have hshown : [x, y].filter (fun g => g.text != f.text) = [x, y] := by
    rw [List.filter_cons_of_pos (List.of_mem_filter hx),
      List.filter_cons_of_pos (List.of_mem_filter hy), List.filter_nil]
  rw [← hshown]
  exact (hsorted.map (·.1)).filter _

theorem idxOf_lt_idxOf_of_sublist {l : List Formula} (hnodup : l.Nodup) (h : [x, y] <+ l) :
    l.idxOf x < l.idxOf y := by
  induction l with
  | nil => cases h
  | cons z l ih =>
    obtain ⟨hz, hl⟩ := List.nodup_cons.mp hnodup
    cases h with
    | cons _ h =>
      have hx : z ≠ x := fun he => hz (he ▸ h.subset (by simp))
      have hy : z ≠ y := fun he => hz (he ▸ h.subset (by simp))
      rw [List.idxOf_cons_ne _ hx, List.idxOf_cons_ne _ hy]
      exact Nat.succ_lt_succ (ih hl h)
    | cons_cons _ h =>
      have hy : x ≠ y := fun he => hz (he ▸ h.subset (by simp))
      rw [List.idxOf_cons_self, List.idxOf_cons_ne _ hy]
      exact Nat.succ_pos _

theorem idxOf_innerColumns_lt_iff (hf : f.ReadIn reading names) (hx : x ∈ innerColumns f)
    (hy : y ∈ innerColumns f) (hin : x.Inside y) (hp : x.FirstAt f p) (hq : y.FirstAt f q) :
    (innerColumns f).idxOf x < (innerColumns f).idxOf y ↔ q.length ≤ p.length := by
  constructor
  · intro hlt
    have h := List.pairwise_iff_getElem.mp (innerColumns_pairwise hf) _ _
      (List.idxOf_lt_length_of_mem hx) (List.idxOf_lt_length_of_mem hy) hlt
    rw [List.getElem_idxOf, List.getElem_idxOf] at h
    exact h p q hp hq
  · intro hle
    exact idxOf_lt_idxOf_of_sublist (nodup_innerColumns f).of_map
      (pair_sublist_innerColumns hf hx hy hin hp hq hle)

/-- Of a part that stands at one depth only, that depth exceeds the depth of what it is inside. -/
theorem length_le_of_inside (hin : x.Inside y) (hp : x.FirstAt f p) (hq : y.FirstAt f q)
    (hlevel : ∀ r s, f.part? r = some x → f.part? s = some x → r.length = s.length) :
    q.length ≤ p.length := by
  obtain ⟨r, hr⟩ := Formula.exists_firstAt (.inr hin)
  have hx : f.part? (q ++ r) = some x := by
    rw [Formula.part?_append, hq.there]
    exact hr.there
  rw [hlevel p (q ++ r) hp.there hx, List.length_append]
  omega

/-- The columns for the inner formulas of a formula that was read. There is one for each part that
has two operands, the whole apart, and they stand in the order of the depths at which these parts
are met first, the deepest first. A part so comes before one that it is inside exactly if it is not
met first at a smaller depth, and in particular if it stands at one depth only. -/
theorem inner_columns_by_first_depth {s : String} (hf : Formula.parse reading s = .ok f) :
    (∀ x, x ∈ innerColumns f ↔ x.IsBinary ∧ x.Inside f) ∧ (innerColumns f).Nodup ∧
      (∀ x ∈ innerColumns f, ∃! p, x.FirstAt f p) ∧
      ((innerColumns f).Pairwise fun x y =>
        ∀ p q, x.FirstAt f p → y.FirstAt f q → q.length ≤ p.length) ∧
      ∀ x ∈ innerColumns f, ∀ y ∈ innerColumns f, x.Inside y →
        (∀ p q, x.FirstAt f p → y.FirstAt f q →
          ((innerColumns f).idxOf x < (innerColumns f).idxOf y ↔ q.length ≤ p.length)) ∧
        ((∀ r s, f.part? r = some x → f.part? s = some x → r.length = s.length) →
          (innerColumns f).idxOf x < (innerColumns f).idxOf y) := by
  have hread := Formula.readIn_of_parse hf
  have hfirst : ∀ x ∈ innerColumns f, ∃ p, x.FirstAt f p := by
    intro x hx
    exact Formula.exists_firstAt (.inr ((mem_innerColumns hread).mp hx).2)
  refine ⟨fun x => mem_innerColumns hread, (nodup_innerColumns f).of_map, ?_,
    innerColumns_pairwise hread, ?_⟩
  · intro x hx
    obtain ⟨p, hp⟩ := hfirst x hx
    exact ⟨p, hp, fun q hq => hq.unique hp⟩
  · intro x hx y hy hin
    constructor
    · intro p q hp hq
      exact idxOf_innerColumns_lt_iff hread hx hy hin hp hq
    · intro hlevel
      obtain ⟨p, hp⟩ := hfirst x hx
      obtain ⟨q, hq⟩ := hfirst y hy
      rw [idxOf_innerColumns_lt_iff hread hx hy hin hp hq]
      exact length_le_of_inside hin hp hq hlevel

/-- A part that is met first inside another, and again further up, comes before it. -/
theorem inner_columns_by_first_depth_repeated :
    let pq : Formula := .binary .and (.var ⟨0, 0, "p"⟩) (.var ⟨0, 1, "q"⟩)
    let pqr : Formula := .binary .or pq (.var ⟨0, 2, "r"⟩)
    let f : Formula := .binary .imp pqr pq
    Formula.parse 0 "((p ^ q) v r) -> (p ^ q)" = .ok f ∧ pq ∈ innerColumns f ∧
      pqr ∈ innerColumns f ∧ pq.Inside pqr ∧ pq.FirstAt f [.left, .left] ∧ pqr.FirstAt f [.left] ∧
      (innerColumns f).idxOf pq < (innerColumns f).idxOf pqr := by
  intro pq pqr f
  have hf : Formula.parse 0 "((p ^ q) v r) -> (p ^ q)" = .ok f := by cbv
  obtain ⟨hmem, -, -, -, horder⟩ := inner_columns_by_first_depth hf
  have hin : pq.Inside pqr := .inl (.inl rfl)
  have hpq : pq ∈ innerColumns f := (hmem pq).mpr ⟨⟨_, _, _, rfl⟩, .inr (.inl rfl)⟩
  have hpqr : pqr ∈ innerColumns f := (hmem pqr).mpr ⟨⟨_, _, _, rfl⟩, .inl (.inl rfl)⟩
  have hinner : pq.FirstAt pqr [.left] := (Formula.firstAt_self pq).left rfl (by decide)
  have hp : pq.FirstAt f [.left, .left] := hinner.left rfl (by decide)
  have hq : pqr.FirstAt f [.left] := (Formula.firstAt_self pqr).left rfl (by decide)
  refine ⟨hf, hpq, hpqr, hin, hp, hq, ?_⟩
  rw [(horder pq hpq pqr hpqr hin).1 _ _ hp hq]
  decide

/-- A part that is met further up first comes after one that it is inside. -/
theorem inner_column_after_outer :
    let pq : Formula := .binary .and (.var ⟨0, 0, "p"⟩) (.var ⟨0, 1, "q"⟩)
    let pqr : Formula := .binary .or pq (.var ⟨0, 2, "r"⟩)
    let f : Formula := .binary .imp pq (.neg pqr)
    Formula.parse 0 "(p ^ q) -> ~((p ^ q) v r)" = .ok f ∧ pq.Inside pqr ∧
      innerColumns f = [pqr, pq] ∧ (innerColumns f).idxOf pqr < (innerColumns f).idxOf pq := by
  intro pq pqr f
  have hkept : distinctTexts (innerFormulas 0 f) = [(pq, 1), (pqr, 2), (f, 0)] := by
    decide +kernel
  have hcolumns : innerColumns f = [pqr, pq] := by
    rw [innerColumns, hkept]
    cbv
  refine ⟨by cbv, .inl (.inl rfl), hcolumns, ?_⟩
  rw [hcolumns]
  decide

end TruthTable

end LogicTutor
