import LogicTutor.Proofs.Formula.RoundTrip

/-! The language of formulas as a set of texts. A text is read as a formula exactly if its tokens
derive that formula, and tokens are read off a text however they are spelt there, as long as white
space keeps them apart. -/
namespace LogicTutor

theorem Text.ascii_of_isUpper_toUpper {c : Char} (h : c.toUpper.isUpper = true) :
    c.toNat < 128 := by
  unfold Char.toUpper at h
  split at h
  next hc =>
    have hz : c.toNat ≤ 'z'.toNat := UInt32.le_iff_toNat_le.mp hc.2
    exact Nat.lt_of_le_of_lt hz (by decide)
  next =>
    unfold Char.isUpper at h
    have hz : c.toNat ≤ 'Z'.toNat := UInt32.le_iff_toNat_le.mp (of_decide_eq_true h).2
    exact Nat.lt_of_le_of_lt hz (by decide)

namespace Token

/-- The signs that stand for a token. -/
def signs : Token → List String
  | .not => ["~", "!", "¬"]
  | .and => ["^", "&", "*"]
  | .or => ["v", "|", "+"]
  | .implies => ["->", "=>", "→"]
  | .opening => ["("]
  | .closing => [")"]
  | .atom _ | .truth _ => []

/-- The words that stand for a token, in capitals. -/
def keywords : Token → List String
  | .not => ["NOT"]
  | .and => ["AND"]
  | .or => ["OR"]
  | .implies => ["IMPLIES"]
  | .truth true => ["TRUE", "T"]
  | .truth false => ["FALSE", "F"]
  | .atom _ | .opening | .closing => []

/-- The characters spell the token: as one of its signs, as one of its words with each letter in
capitals or not, or as the name of the atom. -/
inductive Spells : List Char → Token → Prop where
  | sign {s t} (h : s ∈ signs t) : Spells s.toList t
  | keyword {w k t} (h : k ∈ keywords t) (hw : w.map Char.toUpper = k.toList) : Spells w t
  | name {n} (h : Nameable n) : Spells n.toList (.atom n)

/-- The characters spell the tokens one after the other, with white space between neighbours. -/
inductive Renders : List Char → List Token → Prop where
  | nil : Renders [] []
  | last {w t} (h : Spells w t) : Renders w [t]
  | cons {w b cs t u ts} (h : Spells w t) (hne : b ≠ []) (hb : ∀ c ∈ b, Text.isBlank c = true)
      (hs : Renders cs (u :: ts)) : Renders (w ++ (b ++ cs)) (t :: u :: ts)

/-- The whole text falls into the tokens. -/
def Lexes (cs : List Char) (ts : List Token) : Prop :=
  (TokenStream.ofChars cs.length cs).Reads ts .finish

variable {t : Token} {ts us : List Token} {c : Char} {k : String} {w gap cs rest : List Char}
  {total : Nat}

theorem Lexes.unique (h : Lexes cs ts) (h' : Lexes cs us) : us = ts :=
  h'.tokens_eq.symm.trans h.tokens_eq

/-! A word in any mixture of cases reads as its capitals do. -/

theorem capital_eq_toUpper (h : c.toUpper.isUpper = true) :
    Text.isLetter c = true ∧ capital c = c.toUpper :=
  Text.of_ascii (P := fun c => c.toUpper.isUpper = true →
    Text.isLetter c = true ∧ capital c = c.toUpper) (Text.ascii_of_isUpper_toUpper h) (by decide) h

/-- A keyword as it is listed: capitals, the first of them not that of `v`. -/
theorem keyword?_of_mem_keywords (h : k ∈ keywords t) :
    k.toList.all Char.isUpper = true ∧ k.toList ≠ [] ∧ k.toList.head? ≠ some 'V' ∧
      k.toList.map capital = k.toList ∧ keyword? k.toList = some t := by
  cases t with
  | atom n => cases h
  | opening => cases h
  | closing => cases h
  | truth b =>
    cases b <;> simp only [keywords, List.mem_cons, List.not_mem_nil, or_false] at h <;>
      rcases h with rfl | rfl <;> decide
  | _ =>
    obtain rfl := List.mem_singleton.mp h
    decide

theorem keyword?_congr {w' : List Char} (h : w.map capital = w'.map capital) :
    keyword? w = keyword? w' := by
  simp only [keyword?, h]

theorem reads_keyword (total : Nat) (h : k ∈ keywords t) (hw : w.map Char.toUpper = k.toList)
    (hr : Closes rest) :
    (TokenStream.ofChars total (w ++ rest)).Reads [t] (TokenStream.ofChars total rest) := by
  obtain ⟨hupper, hne, hhead, hcapital, hk⟩ := keyword?_of_mem_keywords h
  have hletters : ∀ c ∈ w, Text.isLetter c = true ∧ capital c = c.toUpper := fun c hc =>
    capital_eq_toUpper (List.all_eq_true.mp hupper _ (hw ▸ List.mem_map_of_mem hc))
  have hmap : w.map capital = k.toList :=
    (List.map_congr_left fun c hc => (hletters c hc).2).trans hw
  have hkw : keyword? w = some t := (keyword?_congr (hmap.trans hcapital.symm)).trans hk
  cases w with
  | nil => exact absurd hw.symm hne
  | cons c r =>
    have hc : Text.isLetter c = true := (hletters c List.mem_cons_self).1
    -- A word with `v` in front would be taken for a disjunction and a rest.
    have hv : c ≠ 'v' := by
      rintro rfl
      exact hhead (by rw [← hw]; rfl)
    exact TokenStream.reads_scan total (Text.not_blank_of_isLetter hc)
      (scanAt_keyword hc hv (fun e he => (hletters e (List.mem_cons_of_mem c he)).1) hkw hr)

theorem reads_sign (total : Nat) {s : String} (h : s ∈ signs t) :
    (TokenStream.ofChars total (s.toList ++ rest)).Reads [t] (TokenStream.ofChars total rest) := by
  cases t with
  | atom n => cases h
  | truth b => cases h
  | opening | closing =>
    obtain rfl := List.mem_singleton.mp h
    exact TokenStream.reads_scan total (by decide) rfl
  | _ =>
    simp only [signs, List.mem_cons, List.not_mem_nil, or_false] at h
    rcases h with rfl | rfl | rfl <;> exact TokenStream.reads_scan total (by decide) rfl

/-- A token is read off whatever spells it, if no character follows that a name could go on
with. -/
theorem Spells.reads (h : Spells w t) (total : Nat) (hr : Closes rest) :
    (TokenStream.ofChars total (w ++ rest)).Reads [t] (TokenStream.ofChars total rest) := by
  cases h with
  | sign h => exact reads_sign total h
  | keyword h hw => exact reads_keyword total h hw hr
  | name h => exact TokenStream.reads_name total (nameable_iff.mp h) hr

theorem ofChars_gap (hgap : ∀ c ∈ gap, Text.isBlank c = true) :
    TokenStream.ofChars total (gap ++ cs) = TokenStream.ofChars total cs := by
  induction gap with
  | nil => rfl
  | cons c gap ih =>
    rw [List.cons_append, TokenStream.ofChars_blank (hgap c List.mem_cons_self)]
    exact ih fun d hd => hgap d (List.mem_cons_of_mem c hd)

theorem closes_gap (hne : gap ≠ []) (hgap : ∀ c ∈ gap, Text.isBlank c = true)
    (cs : List Char) : Closes (gap ++ cs) := by
  cases gap with
  | nil => exact absurd rfl hne
  | cons c gap =>
    have hc : ¬ isNameChar c = true := fun hn => by
      simpa [not_blank_of_isNameChar hn] using hgap c List.mem_cons_self
    exact closes_cons (by simpa using hc) (gap ++ cs)

theorem Renders.reads (h : Renders cs ts) (total : Nat) :
    (TokenStream.ofChars total cs).Reads ts .finish := by
  induction h with
  | nil => exact TokenStream.ofChars_nil total ▸ .nil _
  | last h =>
    have hw := h.reads total closes_nil
    rwa [List.append_nil, TokenStream.ofChars_nil] at hw
  | @cons w b cs t u ts h hne hb hs ih =>
    have hw := h.reads total (closes_gap hne hb cs)
    rw [ofChars_gap hb] at hw
    exact hw.append ih

end Token

namespace Formula

open LogicTutor.Formula.Parser

/-- The text, cleared of white space at its ends, is not empty and falls into tokens that derive
the formula over the atoms numbered in the order in which their names come up. -/
def SpeltBy (reading : Nat) (f : Formula) (s : String) : Prop :=
  Text.trimChars s.toList ≠ [] ∧
    ∃ ts, Token.Lexes (Text.trimChars s.toList) ts ∧
      Derives (.numbered reading (Token.names ts)) .implication ts f

theorem parse_eq_ok_iff_speltBy {reading : Nat} {f : Formula} {s : String} :
    parse reading s = .ok f ↔ f.SpeltBy reading s := by
  rw [parse_eq_ok_iff]
  constructor
  · rintro ⟨ts, hs, hf⟩
    refine ⟨fun he => ?_, ts, hs, hf⟩
    rw [he, TokenStream.ofChars_nil] at hs
    cases hs
    exact hf.ne_nil rfl
  · rintro ⟨-, ts, hs, hf⟩
    exact ⟨ts, hs, hf⟩

/-- Texts are read by the grammar: as a formula exactly if they spell it, and with an error if they
spell none. Tokens that white space keeps apart are read off in any of their spellings. -/
theorem parse_follows_grammar (reading : Nat) :
    (∀ s f, parse reading s = .ok f ↔ f.SpeltBy reading s) ∧
    (∀ s, (∃ e, parse reading s = .error e) ↔ ∀ f : Formula, ¬ f.SpeltBy reading s) ∧
    ∀ cs ts, Token.Renders cs ts → ∀ us, Token.Lexes cs us ↔ us = ts := by
  refine ⟨fun s f => parse_eq_ok_iff_speltBy, fun s => ?_, fun cs ts h us => ?_⟩
  · constructor
    · rintro ⟨e, he⟩ f hf
      rw [parse_eq_ok_iff_speltBy.mpr hf] at he
      cases he
    · intro h
      cases hs : parse reading s with
      | error e => exact ⟨e, rfl⟩
      | ok f => exact absurd (parse_eq_ok_iff_speltBy.mp hs) (h f)
  · have hl : Token.Lexes cs ts := h.reads cs.length
    constructor
    · exact hl.unique
    · rintro rfl
      exact hl

theorem parse_follows_grammar_any_case :
    let cs := "nOt p\t=> ( q1 Or t )".toList
    let ts : List Token :=
      [.not, .atom "p", .implies, .opening, .atom "q1", .or, .truth true, .closing]
    let f : Formula := .imp (.neg (.var ⟨0, 0, "p"⟩)) (.var ⟨0, 1, "q1"⟩ ||| .const true)
    Token.Renders cs ts ∧ (∀ us, Token.Lexes cs us ↔ us = ts) ∧
      f.SpeltBy 0 "nOt p\t=> ( q1 Or t )" ∧ parse 0 "nOt p\t=> ( q1 Or t )" = .ok f ∧
      parse 0 " \t" = .error .empty ∧ ∀ g : Formula, ¬ g.SpeltBy 0 " \t" := by
  intro cs ts f
  have hr : Token.Renders cs ts := by
    have hspace : ∀ c ∈ [' '], Text.isBlank c = true := List.forall_mem_singleton.mpr (by decide)
    have htab : ∀ c ∈ ['\t'], Text.isBlank c = true := List.forall_mem_singleton.mpr (by decide)
    have hnot : Token.Spells "nOt".toList .not := .keyword (k := "NOT") (by decide) (by decide)
    have hor : Token.Spells "Or".toList .or := .keyword (k := "OR") (by decide) (by decide)
    have htrue : Token.Spells "t".toList (.truth true) :=
      .keyword (k := "T") (by decide) (by decide)
    have hp : Token.IsName ['p'] := ⟨by decide, by decide, by decide, by simp⟩
    have hq : Token.IsName ['q', '1'] :=
      ⟨by decide, by decide, by decide, List.forall_mem_singleton.mpr (by decide)⟩
    refine .cons hnot (by decide) hspace ?_
    refine .cons (.name (n := "p") (Token.nameable_iff.mpr hp)) (by decide) htab ?_
    refine .cons (.sign (s := "=>") (by decide)) (by decide) hspace ?_
    refine .cons (.sign (s := "(") (by decide)) (by decide) hspace ?_
    refine .cons (.name (n := "q1") (Token.nameable_iff.mpr hq)) (by decide) hspace ?_
    refine .cons hor (by decide) hspace ?_
    refine .cons htrue (by decide) hspace ?_
    exact .last (.sign (s := ")") (by decide))
  obtain ⟨hread, herror, hlex⟩ := parse_follows_grammar 0
  have hnames : Token.names ts = ["p", "q1"] := by decide
  have hleft : Derives (.numbered 0 ["p", "q1"]) .disjunction [.not, .atom "p"]
      (.neg (.var ⟨0, 0, "p"⟩)) :=
    .conjunction (.negation (.not (.primary (.atom "p"))))
  have hinner : Derives (.numbered 0 ["p", "q1"]) .implication [.atom "q1", .or, .truth true]
      (.var ⟨0, 1, "q1"⟩ ||| .const true) :=
    .disjunction (.or (.conjunction (.negation (.primary (.atom "q1"))))
      (.negation (.primary (.truth true))))
  have hright := (Derives.parentheses hinner).weaken .implication
  have htrim : Text.trimChars cs = cs := by decide
  have hs : f.SpeltBy 0 "nOt p\t=> ( q1 Or t )" :=
    ⟨by decide, ts, htrim.symm ▸ (hlex cs ts hr ts).mpr rfl,
      hnames.symm ▸ .implies hleft hright⟩
  have he : parse 0 " \t" = .error .empty := rfl
  exact ⟨hr, hlex cs ts hr, hs, (hread _ f).mpr hs, he, (herror _).mp ⟨_, he⟩⟩

end Formula

end LogicTutor
