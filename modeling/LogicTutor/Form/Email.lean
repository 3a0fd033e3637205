import LogicTutor.Text.Digit
import LogicTutor.Text.Letter

/-! Which texts are accepted as mail addresses. -/
namespace LogicTutor.Email

/-- The parts of a text between the characters chosen by `p`. -/
def splitBy (p : Char → Bool) : List Char → List (List Char)
  | [] => [[]]
  | c :: rest =>
    match p c, splitBy p rest with
    | true, parts => [] :: parts
    | false, part :: parts => (c :: part) :: parts
    | false, [] => [[c]]

/-- A character of a plain user name. -/
def isAtomChar (c : Char) : Bool :=
  Text.isWordChar c || c = '_' || "-!#$%&'*+/=?^`\x7b\x7d|~".toList.contains c

/-- The codes of line ends. -/
def lineEnds : List Nat := [10, 13]

/-- The codes of what a quoted user name needs a backslash for, or cannot have: blanks, line ends,
the quote and the backslash. -/
def blocked : List Nat := [9, 10, 13, 32, 34, 92]

/-- A character that may stand in a quoted user name by itself. -/
def isQuotedChar (c : Char) : Bool :=
  let n := (Text.smallLatin c).toNat
  1 ≤ n && n ≤ 127 && !(blocked.contains n)

/-- A character that may stand there behind a backslash. -/
def isEscapedChar (c : Char) : Bool :=
  let n := (Text.smallLatin c).toNat
  1 ≤ n && n ≤ 127 && !(lineEnds.contains n)

/-- The rest of a quoted user name, up to its closing quote. -/
def isQuotedTail : List Char → Bool
  | ['"'] => true
  | '\\' :: c :: rest => isEscapedChar c && isQuotedTail rest
  | c :: rest => isQuotedChar c && isQuotedTail rest
  | [] => false

/-- A user name: words joined by points, or a quoted text. -/
def isUser (cs : List Char) : Bool :=
  ((splitBy (· = '.') cs).all fun part => !part.isEmpty && part.all isAtomChar) ||
  match cs with
  | '"' :: rest => isQuotedTail rest
  | _ => false

def isHostChar (c : Char) : Bool := Text.isLatin c || c = '-'

/-- A part of a domain before the last: up to 63 letters, digits and hyphens, with no hyphen at
either end. -/
def isLabel (cs : List Char) : Bool :=
  1 ≤ cs.length && cs.length ≤ 63 && cs.all isHostChar &&
    cs.head?.any (· ≠ '-') && cs.getLast?.any (· ≠ '-')

/-- A number from 0 to 255 in at most three digits. -/
def isOctet (cs : List Char) : Bool :=
  match cs with
  | [a] => Text.isDigit a
  | [a, b] => Text.isDigit a && Text.isDigit b
  | ['2', '5', c] => '0' ≤ c && c ≤ '5'
  | ['2', b, c] => '0' ≤ b && b ≤ '4' && Text.isDigit c
  | [a, b, c] => (a = '0' || a = '1') && Text.isDigit b && Text.isDigit c
  | _ => false

/-- Four numbers in square brackets. -/
def isLiteral (cs : List Char) : Bool :=
  match cs with
  | '[' :: rest =>
    match rest.reverse with
    | ']' :: inner =>
      let parts := splitBy (· = '.') inner.reverse
      parts.length = 4 && parts.all isOctet
    | _ => false
  | _ => false

/-- A name of two or more parts. -/
def isHost (cs : List Char) : Bool :=
  match (splitBy (· = '.') cs).reverse with
  | last :: first :: more =>
    2 ≤ last.length && last.all isHostChar && (first :: more).all isLabel
  | _ => false

/-- The points of all scripts that part a domain. -/
def isDomainPoint (c : Char) : Bool :=
  c = '.' || c = '。' || c = '．' || c = '｡'

/-- A domain with letters beyond ASCII. Each part with such letters has an ASCII form that is a
label of its own; the form is longer than the part by at least five characters. -/
def isInternational (cs : List Char) : Bool :=
  cs.any (127 < ·.toNat) &&
    let label := fun (part : List Char) =>
      if part.all (·.toNat < 128) then part
      else if part.all (fun c => Text.isWordChar c || c = '-') && part.length + 5 ≤ 63 then
        "xn--a".toList
      else []
    isHost (((splitBy isDomainPoint cs).map label).intersperse ['.']).flatten

/-- What may stand behind the last at sign. -/
def isDomain (cs : List Char) : Bool :=
  cs = "localhost".toList || isHost cs || isLiteral cs || isInternational cs

def isValid (s : String) : Bool :=
  match s.toList.reverse.span (· ≠ '@') with
  | (domain, _ :: user) => isUser user.reverse && isDomain domain.reverse
  | _ => false

end LogicTutor.Email
