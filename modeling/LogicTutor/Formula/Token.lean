import LogicTutor.Text.Blank
import LogicTutor.Text.Letter

/-! Words of the formula language. Each connective has several spellings; a name is a letter
followed by letters, numerals and underscores, and the letter `v` always reads as a disjunction. -/
namespace LogicTutor

inductive Token where
  | atom (name : String)
  | truth (b : Bool)
  | not | and | or | implies | opening | closing
  deriving DecidableEq, Repr, Inhabited

namespace Token

def kind : Token → String
  | .atom _ => "ATOM"
  | .truth true => "TRUE"
  | .truth false => "FALSE"
  | .not => "NOT"
  | .and => "AND"
  | .or => "OR"
  | .implies => "IMPLIES"
  | .opening => "LPAREN"
  | .closing => "RPAREN"

def value : Token → String
  | .atom name => name
  | .truth true => "T"
  | .truth false => "F"
  | .not => "~"
  | .and => "^"
  | .or => "v"
  | .implies => "→"
  | .opening => "("
  | .closing => ")"

/-- How a token is shown in a message; `none` is the end of the text. Names hold nothing that
would need escaping between the quotes. -/
def shown : Option Token → String
  | none => "Token(EOF, None)"
  | some t => "Token(" ++ t.kind ++ ", '" ++ t.value ++ "')"

/-- The kind of a token in a message. -/
def kindShown : Option Token → String
  | none => "EOF"
  | some t => t.kind

/-- Capital form of the letters that can spell a keyword: the ASCII letters, and the two letters
outside ASCII whose capitals are ASCII. -/
def capital (c : Char) : Char :=
  if c = 'ı' then 'I' else if c = 'ſ' then 'S' else c.toUpper

/-- The token that a whole word spells, in any mixture of cases. -/
def keyword? (word : List Char) : Option Token :=
  match String.ofList (word.map capital) with
  | "AND" => some .and
  | "OR" => some .or
  | "NOT" => some .not
  | "IMPLIES" => some .implies
  | "TRUE" | "T" => some (.truth true)
  | "FALSE" | "F" => some (.truth false)
  | _ => none

/-- The characters a name may go on with. -/
def isNameChar (c : Char) : Bool := Text.isWordChar c || c == '_'

/-- The token that starts with the character `c`, and what follows it. -/
def scanAt (c : Char) (rest : List Char) : Option (Token × List Char) :=
  match c, rest with
  | '-', '>' :: r | '=', '>' :: r => some (.implies, r)
  | '→', r => some (.implies, r)
  | '~', r | '!', r | '¬', r => some (.not, r)
  | '^', r | '&', r | '*', r => some (.and, r)
  | 'v', r | '|', r | '+', r => some (.or, r)
  | '(', r => some (.opening, r)
  | ')', r => some (.closing, r)
  | c, r =>
    if Text.isLetter c then
      let word := c :: r.takeWhile Text.isLetter
      match keyword? word with
      | some t => some (t, r.dropWhile Text.isLetter)
      | none => some (.atom (String.ofList (c :: r.takeWhile isNameChar)), r.dropWhile isNameChar)
    else none

theorem scanAt_length {c : Char} {rest r : List Char} {t : Token}
    (h : scanAt c rest = some (t, r)) : r.length ≤ rest.length := by
  unfold scanAt at h
  split at h
  all_goals try (simp only [Option.some.injEq, Prod.mk.injEq] at h; obtain ⟨-, rfl⟩ := h; simp)
  split at h
  · simp only at h
    split at h <;> simp only [Option.some.injEq, Prod.mk.injEq] at h <;> obtain ⟨-, rfl⟩ := h <;>
      exact (List.dropWhile_sublist _).length_le
  · simp at h

end Token

/-- A text read word by word: each token with the position after it, up to the end of the text or
to a character that starts no word. -/
inductive TokenStream where
  | finish
  | stray (c : Char) (position : Nat)
  | token (t : Token) (next : Nat) (rest : TokenStream)
  deriving DecidableEq, Repr

namespace TokenStream

/-- Reads the characters `cs`, the last of a text of `total` characters. -/
def ofChars (total : Nat) (cs : List Char) : TokenStream :=
  match _h : cs.dropWhile Text.isBlank with
  | [] => .finish
  | c :: r =>
    match hs : Token.scanAt c r with
    | none => .stray c (total - (r.length + 1))
    | some (t, rest) => .token t (total - rest.length) (ofChars total rest)
termination_by cs.length
decreasing_by
  have hc : (c :: r).length ≤ cs.length := _h ▸ (List.dropWhile_sublist Text.isBlank).length_le
  have hr := Token.scanAt_length hs
  exact Nat.lt_of_le_of_lt hr hc

def ofString (s : String) : TokenStream := ofChars s.length s.toList

/-- The tokens before the end or the stray character. -/
def tokens : TokenStream → List Token
  | .finish | .stray _ _ => []
  | .token t _ rest => t :: rest.tokens

def size : TokenStream → Nat
  | .finish | .stray _ _ => 0
  | .token _ _ rest => rest.size + 1

end TokenStream

end LogicTutor
