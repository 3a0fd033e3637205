import LogicTutor.Proofs.Formula.Lexing
import LogicTutor.Proofs.Formula.Meaning

/-! Writing and reading formulas: what is written is read back as the same tree, and what is read
can be written and read again. -/
namespace LogicTutor

def Connective.token : Connective → Token
  | .or => .or
  | .and => .and
  | .not => .not
  | .imp => .implies

namespace Leaf

def token : Leaf → Token
  | .atom a => .atom a.name
  | .truth b => .truth b

/-- The atom of this name in another reading, numbered by its name; constants stay. -/
def renumbered (reading : Nat) (names : List String) : Leaf → Leaf
  | .atom a => .atom (.numbered reading names a.name)
  | .truth b => .truth b

@[simp] theorem text_renumbered (reading : Nat) (names : List String) (l : Leaf) :
    (l.renumbered reading names).text = l.text := by
  cases l <;> rfl

/-- The name of a leaf that is an atom. -/
def name? : Leaf → Option String
  | .atom a => some a.name
  | .truth _ => none

@[simp] theorem name?_renumbered (reading : Nat) (names : List String) (l : Leaf) :
    (l.renumbered reading names).name? = l.name? := by
  cases l <;> rfl

/-- A constant, or an atom whose name is read as one atom. -/
def Nameable : Leaf → Prop
  | .atom a => Token.Nameable a.name
  | .truth _ => True

instance : DecidablePred Nameable
  | .atom a => inferInstanceAs (Decidable (Token.Nameable a.name))
  | .truth _ => isTrue trivial

theorem Nameable.plain {l : Leaf} (h : l.Nameable) : l.Plain := by
  cases l with
  | truth b => trivial
  | atom a =>
    have hn := Token.nameable_iff.mp h
    constructor
    · intro ht
      rw [ht] at hn
      revert hn
      decide
    · intro hf
      rw [hf] at hn
      revert hn
      decide

end Leaf

namespace Formula

open TokenStream LogicTutor.Formula.Parser

variable {f g x : Formula} {reading total : Nat} {names : List String} {rest : List Char}
  {ts : List Token} {own : String → Atom} {d : Glossary}

/-- The tokens of the written form. -/
def words : Formula → List Token
  | .blank => [.opening, .closing]
  | .leaf l => [l.token]
  | .unary c x => .opening :: (c.token :: x.words ++ [.closing])
  | .binary c x y => .opening :: (x.words ++ c.token :: y.words ++ [.closing])

/-- The same tree over the atoms of another reading, which are numbered by the places of their
names. -/
def renumbered (reading : Nat) (names : List String) : Formula → Formula
  | .blank => .blank
  | .leaf l => .leaf (l.renumbered reading names)
  | .unary c x => .unary c (x.renumbered reading names)
  | .binary c x y => .binary c (x.renumbered reading names) (y.renumbered reading names)

/-- The same tree as it is when it is read from a text: its atoms are numbered in the order in
which they appear. -/
def withReading (reading : Nat) (f : Formula) : Formula := f.renumbered reading f.names

theorem names_eq_eraseDups (f : Formula) : f.names = (f.leaves.filterMap Leaf.name?).eraseDups := by
  rw [← eraseDups_filterMap_eraseDups, Formula.names, atoms, List.map_filterMap]
  congr 2
  funext l
  cases l <;> rfl

theorem renumbered_renumbered (f : Formula) (m n : Nat) (names names' : List String) :
    (f.renumbered m names').renumbered n names = f.renumbered n names := by
  induction f with
  | blank => rfl
  | leaf l => cases l <;> rfl
  | unary c x ih => rw [renumbered, renumbered, ih, renumbered]
  | binary c x y ihx ihy => rw [renumbered, renumbered, ihx, ihy, renumbered]

theorem leaves_renumbered (reading : Nat) (names : List String) (f : Formula) :
    (f.renumbered reading names).leaves = f.leaves.map (Leaf.renumbered reading names) := by
  induction f with
  | blank => rfl
  | leaf l => rfl
  | unary c x ih => exact ih
  | binary c x y ihx ihy => rw [renumbered, leaves, leaves, List.map_append, ihx, ihy]

theorem names_renumbered (reading : Nat) (names : List String) (f : Formula) :
    (f.renumbered reading names).names = f.names := by
  rw [names_eq_eraseDups, names_eq_eraseDups, leaves_renumbered, List.filterMap_map]
  congr 2
  funext l
  exact Leaf.name?_renumbered reading names l

/-- A formula that can be read back from its written form. -/
structure Legible (f : Formula) : Prop where
  wellFormed : f.WellFormed
  nameable : f.Over Leaf.Nameable

instance : Decidable f.Legible :=
  decidable_of_iff (f.WellFormed ∧ f.Over Leaf.Nameable)
    ⟨fun h => ⟨h.1, h.2⟩, fun h => ⟨h.1, h.2⟩⟩

theorem Legible.proper (hf : f.Legible) : f.Proper :=
  ⟨hf.wellFormed, hf.nameable.mono fun _ => Leaf.Nameable.plain⟩

theorem same_renumbered (f g : Formula) (reading : Nat) (names : List String) :
    (f.renumbered reading names).same g = f.same g := by
  induction f generalizing g with
  | blank => rfl
  | leaf l => cases g <;> simp [renumbered, same]
  | unary c x ih => cases g <;> simp [renumbered, same, ih]
  | binary c x y ihx ihy => cases g <;> simp [renumbered, same, ihx, ihy]

theorem same_withReading (f g : Formula) (reading : Nat) :
    (f.withReading reading).same g = f.same g := same_renumbered f g reading f.names

theorem same_of_withReading_eq (h : f.withReading reading = g.withReading reading)
    (hg : g.WellFormed) : f.same g = true := by
  rw [← same_withReading f g reading, h, same_withReading, same_self hg]

/-! The written form falls into its tokens, and these derive the tree. -/

theorem reads_sign (total : Nat) (c : Connective) (r : List Char) :
    (ofChars total (c.sign.toList ++ r)).Reads [c.token] (ofChars total r) := by
  cases c <;> exact reads_scan total (by decide) rfl

theorem reads_leaf (total : Nat) {l : Leaf} (hl : l.Nameable) (hr : Token.Closes rest) :
    (ofChars total (l.text.toList ++ rest)).Reads [l.token] (ofChars total rest) := by
  cases l with
  | atom a => exact reads_name total (Token.nameable_iff.mp hl) hr
  | truth b =>
    cases b
    · exact reads_scan total (by decide)
        (Token.scanAt_keyword (c := 'F') (r := []) (by decide) (by decide) (by simp) rfl hr)
    · exact reads_scan total (by decide)
        (Token.scanAt_keyword (c := 'T') (r := []) (by decide) (by decide) (by simp) rfl hr)

theorem reads_text (total : Nat) (hf : f.Over Leaf.Nameable) (hr : Token.Closes rest) :
    (ofChars total (f.text.toList ++ rest)).Reads f.words (ofChars total rest) := by
  have hopen (r : List Char) : (ofChars total ('(' :: r)).Reads [.opening] (ofChars total r) :=
    reads_scan total (by decide) rfl
  have hclose (r : List Char) : (ofChars total (')' :: r)).Reads [.closing] (ofChars total r) :=
    reads_scan total (by decide) rfl
  have hblank (r : List Char) : ofChars total (' ' :: r) = ofChars total r :=
    ofChars_blank (by decide)
  induction f generalizing rest with
  | blank => exact (hopen _).append (hclose rest)
  | leaf l => exact reads_leaf total (over_leaf.mp hf) hr
  | unary c x ih =>
    have hx := (ih hf (Token.closes_cons (by decide) rest)).append (hclose rest)
    simpa [text, words] using (hopen _).append ((reads_sign total c _).append hx)
  | binary c x y ihx ihy =>
    rw [over_binary] at hf
    have hy := (ihy hf.2 (Token.closes_cons (by decide) rest)).append (hclose rest)
    have hc := (reads_sign total c (' ' :: (y.text.toList ++ ')' :: rest))).append
      ((hblank _).symm ▸ hy)
    have hx := (ihx hf.1 (Token.closes_cons (c := ' ') (by decide) _)).append
      ((hblank _).symm ▸ hc)
    simpa [text, words] using (hopen _).append hx

/-- A primary formula belongs to every layer. -/
theorem Parser.Derives.weaken (h : Derives own .primary ts f) (layer : Layer) :
    Derives own layer ts f := by
  have hn : Derives own .negation ts f := .primary h
  have hc : Derives own .conjunction ts f := .negation hn
  have hd : Derives own .disjunction ts f := .conjunction hc
  cases layer with
  | primary => exact h
  | negation => exact hn
  | conjunction => exact hc
  | disjunction => exact hd
  | implication => exact .disjunction hd

/-- The tokens of the written form derive the formula. -/
theorem derives_words (reading : Nat) (names : List String) (hf : f.WellFormed) :
    Derives (.numbered reading names) .primary f.words (f.renumbered reading names) := by
  induction f with
  | blank => exact hf.elim
  | leaf l =>
    cases l with
    | atom a => exact .atom a.name
    | truth b => exact .truth b
  | unary c x ih =>
    obtain ⟨rfl, hx⟩ := hf
    have hnot := Derives.not ((ih hx).weaken .negation)
    exact .parentheses (.disjunction (.conjunction (.negation hnot)))
  | binary c x y ihx ihy =>
    have hx := ihx hf.2.1
    have hy := ihy hf.2.2
    cases c with
    | not => exact absurd rfl hf.1
    | and => exact .parentheses (.disjunction (.conjunction (.and (hx.weaken _) (hy.weaken _))))
    | or => exact .parentheses (.disjunction (.or (hx.weaken _) (hy.weaken _)))
    | imp => exact .parentheses (.implies (hx.weaken _) (hy.weaken _))

/-! What derives from tokens is well-formed, and its leaves are among them. -/

theorem Parser.Derives.ne_nil {layer : Layer} (h : Derives own layer ts f) : ts ≠ [] := by
  induction h with
  | disjunction _ ih | conjunction _ ih | negation _ ih | primary _ ih => exact ih
  | _ => simp

theorem Parser.Derives.wellFormed {layer : Layer} (h : Derives own layer ts f) :
    f.WellFormed := by
  induction h with
  | disjunction _ ih | conjunction _ ih | negation _ ih | primary _ ih => exact ih
  | parentheses _ ih => exact ih
  | implies _ _ ihx ihy | or _ _ ihx ihy | and _ _ ihx ihy => exact ⟨by decide, ihx, ihy⟩
  | not _ ih => exact ⟨rfl, ih⟩
  | atom | truth => trivial

theorem Parser.Derives.over_tokens {layer : Layer}
    (h : Derives (.numbered reading names) layer ts f) :
    f.Over fun l => l.token ∈ ts ∧ l.renumbered reading names = l := by
  induction h with
  | disjunction _ ih | conjunction _ ih | negation _ ih | primary _ ih => exact ih
  | implies _ _ ihx ihy | or _ _ ihx ihy | and _ _ ihx ihy =>
    exact over_binary.mpr ⟨ihx.mono (by grind), ihy.mono (by grind)⟩
  | not _ ih => exact ih.mono (by grind)
  | parentheses _ ih => exact ih.mono (by grind)
  | atom name => simp [Leaf.token, Leaf.renumbered, Atom.numbered]
  | truth b => simp [Leaf.token, Leaf.renumbered]

/-- A tree has the names that its tokens read as, in their order. -/
theorem Parser.Derives.filterMap_name? {layer : Layer}
    (h : Derives (.numbered reading names) layer ts f) :
    ts.filterMap Token.name? = f.leaves.filterMap Leaf.name? := by
  induction h with
  | disjunction _ ih | conjunction _ ih | negation _ ih | primary _ ih => exact ih
  | implies _ _ ihx ihy | or _ _ ihx ihy | and _ _ ihx ihy =>
    rw [leaves, List.filterMap_append, List.filterMap_append, ihx, List.filterMap_cons, ihy]
    rfl
  | not _ ih => exact ih
  | parentheses _ ih =>
    rw [List.filterMap_cons, List.filterMap_append, ih]
    exact List.append_nil _
  | atom name => rfl
  | truth b => rfl

theorem Parser.Derives.names_eq {layer : Layer}
    (h : Derives (.numbered reading names) layer ts f) : Token.names ts = f.names := by
  rw [Token.names, h.filterMap_name?, names_eq_eraseDups]

theorem renumbered_eq_self (h : f.Over fun l => l.renumbered reading names = l) :
    f.renumbered reading names = f := by
  induction f with
  | blank => rfl
  | leaf l => rw [renumbered, over_leaf.mp h]
  | unary c x ih => rw [renumbered, ih h]
  | binary c x y ihx ihy =>
    rw [over_binary] at h
    rw [renumbered, ihx h.1, ihy h.2]

/-- A text is read as a formula exactly if, cleared of white space at its ends, it falls into
tokens that derive the formula over the atoms numbered in their order. -/
theorem read_eq_ok_iff {s : String} : read reading s = .ok (f, d) ↔
    ∃ ts, (ofChars (Text.trimChars s.toList).length (Text.trimChars s.toList)).Reads ts .finish ∧
      d = .ofNames reading (Token.names ts) ∧
      Derives (.numbered reading (Token.names ts)) .implication ts f := by
  unfold read
  split
  next h =>
    refine ⟨(by simp), ?_⟩
    rintro ⟨ts, hs, -, hf⟩
    rw [h, ofChars_nil] at hs
    cases hs
    exact absurd rfl hf.ne_nil
  next h => rw [whole_eq_ok_iff]

theorem parse_eq_ok_iff_read {s : String} :
    parse reading s = .ok f ↔ ∃ d, read reading s = .ok (f, d) := by
  unfold parse
  rcases read reading s with e | ⟨g, d⟩ <;> simp [Except.map]

theorem parse_eq_ok_iff {s : String} : parse reading s = .ok f ↔
    ∃ ts, (ofChars (Text.trimChars s.toList).length (Text.trimChars s.toList)).Reads ts .finish ∧
      Derives (.numbered reading (Token.names ts)) .implication ts f := by
  rw [parse_eq_ok_iff_read]
  constructor
  · rintro ⟨d, h⟩
    obtain ⟨ts, hs, -, hf⟩ := read_eq_ok_iff.mp h
    exact ⟨ts, hs, hf⟩
  · rintro ⟨ts, hs, hf⟩
    exact ⟨_, read_eq_ok_iff.mpr ⟨ts, hs, rfl, hf⟩⟩

theorem legible_of_parse {s : String} (h : parse reading s = .ok f) :
    f.Legible ∧ f.withReading reading = f := by
  obtain ⟨ts, hs, hf⟩ := parse_eq_ok_iff.mp h
  have hown := renumbered_eq_self fun l hl => (hf.over_tokens l hl).2
  rw [hf.names_eq] at hown
  refine ⟨⟨hf.wellFormed, fun l hl => ?_⟩, hown⟩
  cases l with
  | truth b => trivial
  | atom a =>
    have ha : .atom a.name ∈ ts := (hf.over_tokens _ hl).1
    rw [← hs.tokens_eq] at ha
    exact Token.nameable_iff.mpr (isName_of_mem_tokens ha)

theorem trimChars_parentheses (w : List Char) :
    Text.trimChars ('(' :: (w ++ [')'])) = '(' :: (w ++ [')']) := by
  have hopen : Text.isBlank '(' = false := by decide
  have hclose : Text.isBlank ')' = false := by decide
  refine Text.trimChars_eq_self (by simpa using hopen) ?_
  rw [← List.cons_append, List.getLast?_concat]
  simpa using hclose

theorem trimChars_text (hf : f.Over Leaf.Nameable) :
    Text.trimChars f.text.toList = f.text.toList := by
  cases f with
  | blank => exact trimChars_parentheses []
  | leaf l =>
    have hl : ∀ c ∈ l.text.toList, Text.isBlank c = false := by
      cases l with
      | atom a => exact (Token.nameable_iff.mp (over_leaf.mp hf)).not_blank
      | truth b => cases b <;> exact List.forall_mem_singleton.mpr (by decide)
    exact Text.trimChars_eq_self (fun c hc => hl c (List.mem_of_mem_head? hc))
      fun c hc => hl c (List.mem_of_mem_getLast? hc)
  | unary c x => simpa [text] using trimChars_parentheses (c.sign.toList ++ x.text.toList)
  | binary c x y =>
    simpa [text] using trimChars_parentheses
      (x.text.toList ++ ' ' :: (c.sign.toList ++ ' ' :: y.text.toList))

/-- What is written is read back. -/
theorem Legible.parse_text (hf : f.Legible) (reading : Nat) :
    parse reading f.text = .ok (f.withReading reading) := by
  rw [parse_eq_ok_iff, trimChars_text hf.nameable]
  have hs := reads_text f.text.toList.length hf.nameable Token.closes_nil
  rw [List.append_nil, ofChars_nil] at hs
  have hwords : Token.names f.words = f.names := by
    rw [(derives_words reading f.names hf.wellFormed).names_eq, names_renumbered]
  refine ⟨f.words, hs, ?_⟩
  rw [hwords]
  exact (derives_words reading f.names hf.wellFormed).weaken .implication

theorem Legible.same_iff (hf : f.Legible) (hg : g.Legible) : f.same g = true ↔ f.text = g.text := by
  refine ⟨text_eq_of_same, fun h => ?_⟩
  have hp := hf.parse_text 0
  rw [h, hg.parse_text 0] at hp
  exact same_of_withReading_eq (Except.ok.inj hp).symm hg.wellFormed

end Formula

end LogicTutor
