import LogicTutor.Json.Basic

/-! Writing a value as text: no blanks, and all characters beyond ASCII escaped. -/
namespace LogicTutor.Json

/-- Sixteen bits as four hexadecimal digits. -/
def hex4 (n : Nat) : String :=
  let ds := Nat.toDigits 16 n
  String.ofList (List.replicate (4 - ds.length) '0' ++ ds)

def escapeChar (c : Char) : String :=
  match c with
  | '"' => "\\\""
  | '\\' => "\\\\"
  | '\n' => "\\n"
  | '\r' => "\\r"
  | '\t' => "\\t"
  | '\x08' => "\\b"
  | '\x0c' => "\\f"
  | c =>
    if 0x20 ≤ c.toNat ∧ c.toNat < 0x7f then c.toString
    else if c.toNat = 0x7f then c.toString
    else if c.toNat < 0x10000 then "\\u" ++ hex4 c.toNat
    else
      let n := c.toNat - 0x10000
      "\\u" ++ hex4 (0xd800 + n / 0x400) ++ "\\u" ++ hex4 (0xdc00 + n % 0x400)

def quote (s : String) : String :=
  s.foldl (fun acc c => acc ++ escapeChar c) "\"" ++ "\""

mutual

/-- The text of a value, given how numbers that are no integers are written. -/
def write (real : Float → String) : Json → String
  | .null => "null"
  | .bool true => "true"
  | .bool false => "false"
  | .int n => toString n
  | .real x => real x
  | .str s => quote s
  | .arr items => "[" ++ writeItems real items ++ "]"
  | .obj fields => "\x7b" ++ writeFields real fields ++ "\x7d"

def writeItems (real : Float → String) : List Json → String
  | [] => ""
  | [v] => write real v
  | v :: rest => write real v ++ "," ++ writeItems real rest

def writeFields (real : Float → String) : List (String × Json) → String
  | [] => ""
  | [(k, v)] => quote k ++ ":" ++ write real v
  | (k, v) :: rest => quote k ++ ":" ++ write real v ++ "," ++ writeFields real rest

end

end LogicTutor.Json
