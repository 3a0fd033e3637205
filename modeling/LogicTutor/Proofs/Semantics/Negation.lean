import Mathlib
import LogicTutor.Proofs.Semantics.Tabulation

/-! The columns of a truth table that hold negations. Whether a name gets one is looked up in the
written formulas, and there a name is told from a longer one only by the ASCII letter or digit that
it goes on with. -/
namespace LogicTutor

namespace Token

/-- The name is `stem`, or it goes on after `stem` with a character that is neither an ASCII letter
nor an ASCII digit. -/
def PassesFor (name stem : String) : Prop :=
  ∃ r, name.toList = stem.toList ++ r ∧ ∀ c ∈ r.head?, c.isAlphanum = false

theorem passesFor_self (name : String) : PassesFor name name := ⟨[], by simp, by simp⟩

theorem IsName.forall_isNameChar {cs : List Char} (h : IsName cs) :
    ∀ c ∈ cs, isNameChar c = true := by
  cases cs with
  | nil => exact h.elim
  | cons c r =>
    obtain ⟨hc, -, -, hr⟩ := h
    intro d hd
    rcases List.mem_cons.mp hd with rfl | hd
    · exact isNameChar_of_isLetter hc
    · exact hr d hd

end Token

namespace Formula

variable {f x y : Formula} {c : Connective} {n : String}

/-- The negation of an atom of this name is the formula or a part of it. -/
def NegatesAtom (f : Formula) (n : String) : Prop :=
  ∃ a : Atom, a.name = n ∧ (Formula.neg (.var a) = f ∨ (Formula.neg (.var a)).Inside f)

theorem not_negatesAtom_leaf {l : Leaf} : ¬ (Formula.leaf l).NegatesAtom n := by
  rintro ⟨a, -, h | h⟩
  · cases h
  · exact h

theorem negatesAtom_unary : (Formula.unary c x).NegatesAtom n ↔
    (c = .not ∧ ∃ a : Atom, a.name = n ∧ x = .var a) ∨ x.NegatesAtom n := by
  constructor
  · rintro ⟨a, ha, h | h⟩
    · obtain ⟨rfl, rfl⟩ := Formula.unary.inj h
      exact .inl ⟨rfl, a, ha, rfl⟩
    · exact .inr ⟨a, ha, h⟩
  · rintro (⟨rfl, a, ha, rfl⟩ | ⟨a, ha, h⟩)
    · exact ⟨a, ha, .inl rfl⟩
    · exact ⟨a, ha, .inr h⟩

theorem negatesAtom_binary :
    (Formula.binary c x y).NegatesAtom n ↔ x.NegatesAtom n ∨ y.NegatesAtom n := by
  constructor
  · rintro ⟨a, ha, h | h | h⟩
    · cases h
    · exact .inl ⟨a, ha, h⟩
    · exact .inr ⟨a, ha, h⟩
  · rintro (⟨a, ha, h⟩ | ⟨a, ha, h⟩)
    · exact ⟨a, ha, .inr (.inl h)⟩
    · exact ⟨a, ha, .inr (.inr h)⟩

theorem NegatesAtom.mem_names (h : f.NegatesAtom n) : n ∈ f.names := by
  obtain ⟨a, ha, h⟩ := h
  apply Formula.mem_names.mpr
  refine ⟨a, ?_, ha⟩
  rcases h with rfl | h
  · simp [leaves]
  · exact h.leaves_subset (by simp [leaves])

theorem Legible.isName_of_mem_names (hf : f.Legible) (h : n ∈ f.names) :
    Token.IsName n.toList := by
  obtain ⟨a, ha, rfl⟩ := Formula.mem_names.mp h
  exact Token.nameable_iff.mp (hf.nameable _ ha)

end Formula

namespace TruthTable

open Token

variable {f g x : Formula} {stem : String} {name w rest : List Char}

/-! Looking for a name after a sign of negation. -/

def isNegationSign (c : Char) : Bool := c == '~' || c == '!' || c == '¬'

theorem negatesName_cons (name : List Char) (c : Char) (cs : List Char) :
    negatesName name (c :: cs) =
      (isNegationSign c && startsWithName name cs || negatesName name cs) := rfl

theorem negatesName_append (h : ∀ c ∈ w, isNegationSign c = false) :
    negatesName name (w ++ rest) = negatesName name rest := by
  induction w with
  | nil => rfl
  | cons c w ih =>
    obtain ⟨hc, hw⟩ := List.forall_mem_cons.mp h
    rw [List.cons_append, negatesName_cons, hc, ih hw]
    simp

theorem not_isNegationSign_of_isNameChar {c : Char} (h : isNameChar c = true) :
    isNegationSign c = false := by
  apply Bool.eq_false_iff.mpr
  intro hc
  simp only [isNegationSign, Bool.or_eq_true, beq_iff_eq] at hc
  rcases hc with (rfl | rfl) | rfl <;> revert h <;> decide +kernel

/-- No sign of negation stands in a leaf. -/
theorem negatesName_leaf {l : Leaf} (hl : l.Nameable) :
    negatesName name (l.text.toList ++ rest) = negatesName name rest := by
  apply negatesName_append
  cases l with
  | atom a =>
    intro c hc
    exact not_isNegationSign_of_isNameChar ((nameable_iff.mp hl).forall_isNameChar c hc)
  | truth b => cases b <;> simp [Leaf.text, isNegationSign]

theorem startsWithName_cons {c : Char} (hc : Text.isBlank c = false) (cs : List Char) :
    startsWithName name (c :: cs) = true ↔ ∃ r, c :: cs = name ++ r ∧
      ∀ d ∈ r.head?, d.isAlphanum = false := by
  simp only [startsWithName, hc, Bool.false_and, Bool.or_false, Bool.and_eq_true,
    List.isPrefixOf_iff_prefix]
  constructor
  · rintro ⟨⟨r, hr⟩, hd⟩
    refine ⟨r, hr.symm, ?_⟩
    rw [← hr, List.drop_left] at hd
    cases r with
    | nil => simp
    | cons d r => simpa using hd
  · rintro ⟨r, hr, hd⟩
    rw [hr, List.drop_left]
    refine ⟨List.prefix_append _ _, ?_⟩
    cases r with
    | nil => rfl
    | cons d r => simpa using hd

/-- What comes before a parenthesis and begins with a name holds the whole of the name. -/
theorem exists_of_append_eq (hs : IsName stem.toList) {r : List Char}
    (h : w ++ ')' :: rest = stem.toList ++ r) :
    ∃ u, w = stem.toList ++ u ∧ r = u ++ ')' :: rest := by
  rcases List.append_eq_append_iff.mp h with ⟨u, hu, hr⟩ | ⟨u, hw, hr⟩
  · cases u with
    | nil => exact ⟨[], by simpa using hu.symm, by simpa using hr.symm⟩
    | cons d u =>
      have hd : isNameChar d = true := hs.forall_isNameChar d (by simp [hu])
      rw [List.cons_append, List.cons.injEq] at hr
      rw [← hr.1] at hd
      exact absurd hd (by decide)
  · exact ⟨u, hw, hr⟩

theorem startsWithName_word (hs : IsName stem.toList) {c : Char} (hc : Text.isBlank c = false)
    (cs : List Char) : startsWithName stem.toList ((c :: cs) ++ ')' :: rest) = true ↔
      ∃ u, c :: cs = stem.toList ++ u ∧ ∀ d ∈ u.head?, d.isAlphanum = false := by
  rw [List.cons_append, startsWithName_cons hc, ← List.cons_append]
  constructor
  · rintro ⟨r, hr, hd⟩
    obtain ⟨u, hu, rfl⟩ := exists_of_append_eq hs hr
    refine ⟨u, hu, ?_⟩
    cases u with
    | nil => simp
    | cons d u => simpa using hd
  · rintro ⟨u, hu, hd⟩
    refine ⟨u ++ ')' :: rest, by rw [hu, List.append_assoc], ?_⟩
    cases u with
    | nil => simp
    | cons d u => simpa using hd

theorem not_startsWithName_opening (hs : IsName stem.toList) (cs : List Char) :
    ¬ startsWithName stem.toList ('(' :: cs) = true := by
  rw [startsWithName_cons (by decide)]
  rintro ⟨r, hr, -⟩
  cases hstem : stem.toList with
  | nil => rwa [hstem] at hs
  | cons d ds =>
    have hd : isNameChar d = true := hs.forall_isNameChar d (by simp [hstem])
    rw [hstem, List.cons_append, List.cons.injEq] at hr
    rw [← hr.1] at hd
    exact absurd hd (by decide)

/-- A constant is written by one letter, and that is no name. -/
theorem not_startsWithName_truth (hs : IsName stem.toList) (b : Bool) :
    ¬ startsWithName stem.toList ((Leaf.truth b).text.toList ++ ')' :: rest) = true := by
  have hletter (c : Char) (hc : Text.isBlank c = false) (hnone : ¬ IsName [c]) :
      ¬ startsWithName stem.toList ([c] ++ ')' :: rest) = true := by
    rw [startsWithName_word hs hc]
    rintro ⟨u, hu, -⟩
    cases hstem : stem.toList with
    | nil => rwa [hstem] at hs
    | cons d ds =>
      rw [hstem, List.cons_append, List.cons.injEq] at hu
      obtain ⟨rfl, hnil⟩ := hu
      rw [hstem, (List.append_eq_nil_iff.mp hnil.symm).1] at hs
      exact hnone hs
  cases b with
  | true => exact hletter 'T' (by decide) (by decide)
  | false => exact hletter 'F' (by decide) (by decide)

/-- Where the operand of a negation is written, a name is found at its beginning exactly if the
operand is an atom that passes for that name. -/
theorem startsWithName_text (hs : IsName stem.toList) (hx : x.Over Leaf.Nameable) :
    startsWithName stem.toList (x.text.toList ++ ')' :: rest) = true ↔
      ∃ a : Atom, x = .var a ∧ PassesFor a.name stem := by
  cases x with
  | blank => simpa [Formula.text] using not_startsWithName_opening hs _
  | unary c y => simpa [Formula.text] using not_startsWithName_opening hs _
  | binary c y z => simpa [Formula.text] using not_startsWithName_opening hs _
  | leaf l =>
    cases l with
    | truth b => simpa [Formula.text] using not_startsWithName_truth hs b
    | atom a =>
      have hname : IsName a.name.toList := nameable_iff.mp (Formula.over_leaf.mp hx)
      have hword : startsWithName stem.toList (a.name.toList ++ ')' :: rest) = true ↔
          PassesFor a.name stem := by
        unfold PassesFor
        cases hcs : a.name.toList with
        | nil => rw [hcs] at hname; exact hname.elim
        | cons c cs => exact startsWithName_word hs (hname.not_blank c (by simp [hcs])) cs
      simpa [Formula.text, Leaf.text] using hword

/-- In a written formula a name is found after a sign of negation exactly if an atom that passes
for it is negated there. -/
theorem negatesName_text (hs : IsName stem.toList) (hf : f.WellFormed)
    (hn : f.Over Leaf.Nameable) (rest : List Char) :
    negatesName stem.toList (f.text.toList ++ rest) = true ↔
      (∃ y, f.NegatesAtom y ∧ PassesFor y stem) ∨ negatesName stem.toList rest = true := by
  induction f generalizing rest with
  | blank => exact hf.elim
  | leaf l =>
    rw [Formula.text, negatesName_leaf (Formula.over_leaf.mp hn)]
    simp [Formula.not_negatesAtom_leaf]
  | unary c x ih =>
    obtain ⟨rfl, hx⟩ := hf
    have hn : x.Over Leaf.Nameable := hn
    have htext : (Formula.neg x).text.toList ++ rest =
        '(' :: '¬' :: (x.text.toList ++ ')' :: rest) := by
      simp [Formula.text, Connective.sign]
    have hclose : negatesName stem.toList (')' :: rest) = negatesName stem.toList rest := rfl
    have hopen : isNegationSign '(' = false := by decide
    have hsign : isNegationSign '¬' = true := by decide
    rw [htext, negatesName_cons, negatesName_cons, hopen, hsign]
    simp only [Bool.false_and, Bool.false_or, Bool.true_and, Bool.or_eq_true,
      startsWithName_text hs hn, ih hx hn, hclose, Formula.negatesAtom_unary, true_and]
    constructor
    · rintro (⟨a, ha, hp⟩ | ⟨y, hy, hp⟩ | hr)
      · exact .inl ⟨a.name, .inl ⟨a, rfl, ha⟩, hp⟩
      · exact .inl ⟨y, .inr hy, hp⟩
      · exact .inr hr
    · rintro (⟨y, ⟨a, rfl, ha⟩ | hy, hp⟩ | hr)
      · exact .inl ⟨a, ha, hp⟩
      · exact .inr (.inl ⟨y, hy, hp⟩)
      · exact .inr (.inr hr)
  | binary c x y ihx ihy =>
    obtain ⟨hc, hx, hy⟩ := hf
    rw [Formula.over_binary] at hn
    have htext : (Formula.binary c x y).text.toList ++ rest =
        ['('] ++ (x.text.toList ++ ((' ' :: c.sign.toList ++ [' ']) ++ (y.text.toList ++
          ([')'] ++ rest)))) := by
      simp [Formula.text]
    -- a connective that stands between operands is no negation, so all that is found is in these
    have hsign : ∀ d ∈ ' ' :: c.sign.toList ++ [' '], isNegationSign d = false := by
      cases c with
      | not => exact absurd rfl hc
      | _ => simp [Connective.sign, isNegationSign]
    have hopen : ∀ d ∈ ['('], isNegationSign d = false := by simp [isNegationSign]
    have hclose : ∀ d ∈ [')'], isNegationSign d = false := by simp [isNegationSign]
    rw [htext, negatesName_append hopen, ihx hx hn.1, negatesName_append hsign, ihy hy hn.2,
      negatesName_append hclose]
    simp only [Formula.negatesAtom_binary, or_and_right, exists_or, or_assoc]

/-! The columns and their cells. -/

section

variable {names : List String} {negated : String → Bool} {x : String}

theorem mem_nameColumns_negated (hplain : ∀ n ∈ names, n ≠ "~" ++ x) :
    "~" ++ x ∈ nameColumns negated names ↔ x ∈ names ∧ negated x = true := by
  rw [nameColumns, List.mem_flatMap]
  constructor
  · rintro ⟨n, hn, h⟩
    have hne := (hplain n hn).symm
    split at h
    next hneg =>
      have he : "~" ++ x = "~" ++ n := by simpa [hne] using h
      obtain rfl : x = n := (String.append_right_inj "~").mp he
      exact ⟨hn, hneg⟩
    next => exact absurd (List.mem_singleton.mp h) hne
  · rintro ⟨hx, hneg⟩
    refine ⟨x, hx, ?_⟩
    rw [if_pos hneg]
    simp

/-- The row with the number `i` negates what it gives to a name, if the name has a column for
that. -/
theorem lookup_nameValues_negated (hnodup : names.Nodup) (hplain : ∀ n ∈ names, n ≠ "~" ++ x)
    (hx : x ∈ names) (i : Nat) (acc : List (String × Bool)) :
    (nameValues negated names i acc).lookup ("~" ++ x) =
      if negated x then some (!Valuation.bitOf names i x) else acc.lookup ("~" ++ x) := by
  induction names generalizing i acc with
  | nil => cases hx
  | cons m ns ih =>
    obtain ⟨hnot, hns⟩ := List.nodup_cons.mp hnodup
    obtain ⟨hm, hrest⟩ := List.forall_mem_cons.mp hplain
    rw [nameValues, Valuation.bitOf]
    by_cases h : x = m
    · subst h
      have hother : ∀ n ∈ ns, "~" ++ x ≠ "~" ++ n := by
        intro n hn he
        exact hnot ((String.append_right_inj "~").mp he ▸ hn)
      have hnone : "~" ++ x ∉ ns := fun hn => hrest _ hn rfl
      rw [lookup_nameValues_of_not_mem hnone hother]
      by_cases hneg : negated x = true
      · simp only [hneg, ↓reduceIte, lookup_setEntry]
      · simp only [hneg, Bool.false_eq_true, ↓reduceIte, lookup_setEntry, hm.symm]
    · have hne : "~" ++ x ≠ "~" ++ m := fun he => h ((String.append_right_inj "~").mp he)
      rw [ih hns hrest ((List.mem_cons.mp hx).resolve_left h), if_neg h]
      congr 1
      split <;> simp only [lookup_setEntry, hne, hm.symm, ↓reduceIte]

end

section

open Semantics

variable {m n : Nat} {s t : String} {d e : Glossary}

theorem negatedIn_iff (hf : f.Legible) (hg : g.Legible) (hs : IsName stem.toList) :
    negatedIn f g stem = true ↔
      ∃ y, PassesFor y stem ∧ (f.NegatesAtom y ∨ g.NegatesAtom y) := by
  have hone {f : Formula} (hf : f.Legible) :
      negatesName stem.toList f.text.toList = true ↔
        ∃ y, f.NegatesAtom y ∧ PassesFor y stem := by
    have h := negatesName_text hs hf.wellFormed hf.nameable []
    simpa [negatesName] using h
  rw [negatedIn, Bool.or_eq_true, hone hf, hone hg, ← exists_or]
  apply exists_congr
  intro y
  rw [← or_and_right, and_comm]

theorem mem_nameColumns_negatedIn (hf : f.ReadWith m d) (hg : g.ReadWith n e) (x : String) :
    "~" ++ x ∈ nameColumns (negatedIn f g) (sharedNames d e) ↔
      (x ∈ f.names ∨ x ∈ g.names) ∧ ∃ y, PassesFor y x ∧ (f.NegatesAtom y ∨ g.NegatesAtom y) := by
  rw [mem_nameColumns_negated (ne_negated_of_mem_sharedNames hf hg x),
    mem_sharedNames_of_readWith hf hg]
  apply and_congr_right
  intro hx
  apply negatedIn_iff hf.legible hg.legible
  rcases hx with hx | hx
  · exact hf.legible.isName_of_mem_names hx
  · exact hg.legible.isName_of_mem_names hx

/-- The table of two formulas that were read and have names between them. A name of theirs has a
column for its negation exactly if an atom is negated that passes for the name; so, where no other
name passes for it, exactly if an atom of that name is negated. In every row the cell of that
column holds the negation of the name's own cell, and without the column there is no such cell. -/
theorem negation_columns_by_text (hf : Formula.read m s = .ok (f, d))
    (hg : Formula.read n t = .ok (g, e)) (hne : f.names ++ g.names ≠ []) (v : Valuation) :
    ∃ (table : TruthTable) (v' : Valuation), make f d g e v = .ok (table, v') ∧
      (∀ x, "~" ++ x ∈ table.columns ↔ (x ∈ f.names ∨ x ∈ g.names) ∧
        ∃ y, PassesFor y x ∧ (f.NegatesAtom y ∨ g.NegatesAtom y)) ∧
      (∀ x, (∀ y, y ∈ f.names ∨ y ∈ g.names → PassesFor y x → y = x) →
        ("~" ++ x ∈ table.columns ↔ f.NegatesAtom x ∨ g.NegatesAtom x)) ∧
      ∀ x, x ∈ f.names ∨ x ∈ g.names → ∀ r ∈ table.rows, ∃ b, r.values.lookup x = some b ∧
        r.values.lookup ("~" ++ x) = if "~" ++ x ∈ table.columns then some (!b) else none := by
  have hrf := Formula.readWith_of_read hf
  have hrg := Formula.readWith_of_read hg
  have hmem (x : String) : x ∈ sharedNames d e ↔ x ∈ f.names ∨ x ∈ g.names :=
    mem_sharedNames_of_readWith hrf hrg
  have hplain := ne_negated_of_mem_sharedNames hrf hrg
  have hnames : sharedNames d e ≠ [] := by
    obtain ⟨x, hx⟩ := List.exists_mem_of_ne_nil _ hne
    exact List.ne_nil_of_mem ((hmem x).mpr (List.mem_append.mp hx))
  obtain ⟨v', hmake⟩ := make_eq_negatedIn hrf hrg hnames v
  have hcolumns := mem_nameColumns_negatedIn hrf hrg
  refine ⟨_, v', hmake, hcolumns, ?_, ?_⟩
  · intro x hone
    rw [hcolumns]
    constructor
    · rintro ⟨-, y, hy, hneg⟩
      have he : y = x := hone y (hneg.imp (·.mem_names) (·.mem_names)) hy
      rwa [he] at hneg
    · intro hneg
      exact ⟨hneg.imp (·.mem_names) (·.mem_names), x, passesFor_self x, hneg⟩
  · intro x hx r hr
    obtain ⟨i, -, rfl⟩ := List.mem_map.mp hr
    have hnodup : (sharedNames d e).Nodup := nodup_sortNames _
    have hx : x ∈ sharedNames d e := (hmem x).mpr hx
    refine ⟨_, lookup_nameValues hnodup (fun y _ => ?_) hx i [], ?_⟩
    · exact hplain y x hx
    · rw [meantRow, lookup_nameValues_negated hnodup (hplain x) hx]
      simp only [mem_nameColumns_negated (hplain x), hx, true_and, List.lookup_nil]

/-- A digit tells a longer name from a shorter one. -/
theorem negation_columns_by_text_digit :
    let p1 : Formula := .var ⟨0, 0, "p1"⟩
    let p : Formula := .var ⟨0, 1, "p"⟩
    let f : Formula := .binary .and (.neg p1) p
    let d : Glossary := ⟨0, [("p1", ⟨0, 0, "p1"⟩), ("p", ⟨0, 1, "p"⟩)], 2⟩
    let g : Formula := .var ⟨1, 0, "p"⟩
    let e : Glossary := ⟨1, [("p", ⟨1, 0, "p"⟩)], 1⟩
    Formula.read 0 "~p1 ^ p" = .ok (f, d) ∧ Formula.read 1 "p" = .ok (g, e) ∧
      f.names ++ g.names ≠ [] ∧
      (∀ y, y ∈ f.names ∨ y ∈ g.names → PassesFor y "p" → y = "p") ∧
      ∃ (table : TruthTable) (v' : Valuation), make f d g e .initial = .ok (table, v') ∧
        "~" ++ "p1" ∈ table.columns ∧ "~" ++ "p" ∉ table.columns ∧
        ∀ r ∈ table.rows, ∃ b, r.values.lookup "p1" = some b ∧
          r.values.lookup ("~" ++ "p1") = some (!b) := by
  intro p1 p f d g e
  have hf : Formula.read 0 "~p1 ^ p" = .ok (f, d) := by cbv
  have hg : Formula.read 1 "p" = .ok (g, e) := by cbv
  have hne : f.names ++ g.names ≠ [] := by decide
  have hp : f.NegatesAtom "p1" :=
    Formula.negatesAtom_binary.mpr
      (.inl (Formula.negatesAtom_unary.mpr (.inl ⟨rfl, ⟨0, 0, "p1"⟩, rfl, rfl⟩)))
  have hnone : ¬ (f.NegatesAtom "p" ∨ g.NegatesAtom "p") := by
    simp [f, g, p, p1, Formula.negatesAtom_binary, Formula.negatesAtom_unary,
      Formula.not_negatesAtom_leaf]
  have hone : ∀ y, y ∈ f.names ∨ y ∈ g.names → PassesFor y "p" → y = "p" := by
    intro y hy
    have hnames : y = "p1" ∨ y = "p" := by
      have hfn : f.names = ["p1", "p"] := by decide
      have hgn : g.names = ["p"] := by decide
      rw [hfn, hgn] at hy
      simpa [or_assoc] using hy
    rcases hnames with rfl | rfl
    · rintro ⟨r, hr, hd⟩
      obtain rfl : ['1'] = r := by simpa using hr
      simp at hd
    · intro _
      rfl
  obtain ⟨table, v', hmake, hcolumns, hexact, hcells⟩ :=
    negation_columns_by_text hf hg hne .initial
  have hcolumn : "~" ++ "p1" ∈ table.columns :=
    (hcolumns "p1").mpr ⟨.inl hp.mem_names, "p1", passesFor_self "p1", .inl hp⟩
  refine ⟨hf, hg, hne, hone, table, v', hmake, hcolumn, ?_, ?_⟩
  · rw [hexact "p" hone]
    exact hnone
  · intro r hr
    obtain ⟨b, hb, hnot⟩ := hcells "p1" (.inl hp.mem_names) r hr
    rw [if_pos hcolumn] at hnot
    exact ⟨b, hb, hnot⟩

/-- An underscore does not: the negated atom `p_1` brings a column for the negation of `p`, which
is negated nowhere. -/
theorem negation_column_without_negation :
    let p : Formula := .var ⟨0, 0, "p"⟩
    let f : Formula := .binary .and p (.neg (.var ⟨0, 1, "p_1"⟩))
    let d : Glossary := ⟨0, [("p", ⟨0, 0, "p"⟩), ("p_1", ⟨0, 1, "p_1"⟩)], 2⟩
    let g : Formula := .var ⟨1, 0, "p"⟩
    let e : Glossary := ⟨1, [("p", ⟨1, 0, "p"⟩)], 1⟩
    Formula.read 0 "p ^ ~p_1" = .ok (f, d) ∧ Formula.read 1 "p" = .ok (g, e) ∧
      (make f d g e .initial).map (fun made => made.1.columns) = .ok ["p", "~p", "p_1", "~p_1"] ∧
      ¬ f.NegatesAtom "p" ∧ ¬ g.NegatesAtom "p" := by
  intro p f d g e
  refine ⟨by cbv, by cbv, by cbv, ?_, Formula.not_negatesAtom_leaf⟩
  simp [f, p, Formula.negatesAtom_binary, Formula.negatesAtom_unary,
    Formula.not_negatesAtom_leaf]

end

end TruthTable

end LogicTutor
