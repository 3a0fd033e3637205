import LogicTutor.Decimal.Scaled
import LogicTutor.Json.Basic

/-! Reading a value from its text. Of two fields of one name the later value counts, in the place
of the earlier. -/
namespace LogicTutor.Json

namespace Reader

/-- What is left of the text after something was read from it. -/
abbrev Rest (cs : List Char) := { r : List Char // r.length < cs.length }

def isSpace (c : Char) : Bool := c == ' ' || c == '\t' || c == '\n' || c == '\r'

def skip : List Char → List Char
  | [] => []
  | c :: r => if isSpace c then skip r else c :: r

theorem skip_length (cs : List Char) : (skip cs).length ≤ cs.length := by
  induction cs with
  | nil => simp [skip]
  | cons c r ih =>
    rw [skip]
    split
    · exact Nat.le_succ_of_le ih
    · exact Nat.le_refl _

def hexDigit? (c : Char) : Option Nat :=
  if c.isDigit then some (c.toNat - '0'.toNat)
  else if 'a' ≤ c ∧ c ≤ 'f' then some (c.toNat - 'a'.toNat + 10)
  else if 'A' ≤ c ∧ c ≤ 'F' then some (c.toNat - 'A'.toNat + 10)
  else none

def hex4? (a b c d : Char) : Option Nat := do
  return (((← hexDigit? a) * 16 + (← hexDigit? b)) * 16 + (← hexDigit? c)) * 16 + (← hexDigit? d)

/-- The character of one 16-bit unit; a unit that is half of a pair has none of its own. -/
def unitChar (n : Nat) : Char := if 0xd800 ≤ n ∧ n < 0xe000 then '�' else Char.ofNat n

/-- The rest of a string after its opening quote, in reverse, and what follows its closing one. -/
def chars (cs : List Char) (acc : List Char) : Option (List Char × { r : List Char // r.length < cs.length }) :=
  match cs with
  | '"' :: r => some (acc, ⟨r, by simp⟩)
  | '\\' :: 'u' :: a :: b :: c :: d :: r =>
    match hex4? a b c d with
    | none => none
    | some hi =>
      match r with
      | '\\' :: 'u' :: e :: f :: g :: h :: r' =>
        match hex4? e f g h with
        | none => none
        | some lo =>
          if 0xd800 ≤ hi ∧ hi < 0xdc00 ∧ 0xdc00 ≤ lo ∧ lo < 0xe000 then
            (chars r' (Char.ofNat (0x10000 + (hi - 0xd800) * 0x400 + (lo - 0xdc00)) :: acc)).map
              fun (s, ⟨t, ht⟩) => (s, ⟨t, by simp only [List.length_cons]; omega⟩)
          else
            (chars ('\\' :: 'u' :: e :: f :: g :: h :: r') (unitChar hi :: acc)).map
              fun (s, ⟨t, ht⟩) => (s, ⟨t, by simp only [List.length_cons] at ht ⊢; omega⟩)
      | r =>
        (chars r (unitChar hi :: acc)).map
          fun (s, ⟨t, ht⟩) => (s, ⟨t, by simp only [List.length_cons]; omega⟩)
  | '\\' :: c :: r =>
    let plain : Option Char := match c with
      | '"' => some '"' | '\\' => some '\\' | '/' => some '/' | 'b' => some '\x08'
      | 'f' => some '\x0c' | 'n' => some '\n' | 'r' => some '\r' | 't' => some '\t' | _ => none
    match plain with
    | none => none
    | some p => (chars r (p :: acc)).map
        fun (s, ⟨t, ht⟩) => (s, ⟨t, by simp only [List.length_cons]; omega⟩)
  | c :: r =>
    if c.toNat < 0x20 ∨ c = '\\' then none
    else (chars r (c :: acc)).map fun (s, ⟨t, ht⟩) => (s, ⟨t, by simp only [List.length_cons]; omega⟩)
  | [] => none
termination_by cs.length

def string (cs : List Char) : Option (String × Rest cs) :=
  (chars cs []).map fun (s, r) => (String.ofList s.reverse, r)

/-- The digits at the front, as a number and a count, and what follows. -/
def digits (cs : List Char) : Nat × Nat × List Char :=
  let ds := cs.takeWhile Char.isDigit
  (ds.foldl (fun n c => n * 10 + (c.toNat - '0'.toNat)) 0, ds.length, cs.drop ds.length)

/-- The number with the digits of `m`, of which `places` stand behind the point, scaled by a power
of ten. -/
def scaled (negative : Bool) (m : Nat) (places : Nat) (e : Int) : Json :=
  let x := Decimal.scaled m (e - places)
  .real (if negative then -x else x)

/-- A number after its sign. -/
def number (negative : Bool) (cs : List Char) : Option (Json × List Char) :=
  let (whole, n, r) := digits cs
  if n = 0 ∨ (1 < n ∧ cs.head? = some '0') then none
  else
    let (frac, places, r1) := match r with
      | '.' :: r' => let (f, k, r'') := digits r'
                     if k = 0 then (0, 0, r) else (f, k, r'')
      | _ => (0, 0, r)
    let exponent : Option (Int × List Char) := match r1 with
      | 'e' :: '-' :: r' | 'E' :: '-' :: r' =>
          let (x, k, r'') := digits r'
          if k = 0 then none else some (-(x : Int), r'')
      | 'e' :: '+' :: r' | 'E' :: '+' :: r' | 'e' :: r' | 'E' :: r' =>
          let (x, k, r'') := digits r'
          if k = 0 then none else some ((x : Int), r'')
      | _ => none
    match exponent with
    | some (e, r2) => some (scaled negative (whole * Nat.pow 10 places + frac) places e, r2)
    | none =>
      if places = 0 then some (.int (if negative then -(whole : Int) else whole), r1)
      else some (scaled negative (whole * Nat.pow 10 places + frac) places 0, r1)

/-- A value that is a word or a number. -/
def scalar (cs : List Char) : Option (Json × List Char) :=
  match cs with
  | 'n' :: 'u' :: 'l' :: 'l' :: r => some (.null, r)
  | 't' :: 'r' :: 'u' :: 'e' :: r => some (.bool true, r)
  | 'f' :: 'a' :: 'l' :: 's' :: 'e' :: r => some (.bool false, r)
  | 'N' :: 'a' :: 'N' :: r => some (.real (0.0 / 0.0), r)
  | 'I' :: 'n' :: 'f' :: 'i' :: 'n' :: 'i' :: 't' :: 'y' :: r => some (.real (1.0 / 0.0), r)
  | '-' :: 'I' :: 'n' :: 'f' :: 'i' :: 'n' :: 'i' :: 't' :: 'y' :: r => some (.real (-1.0 / 0.0), r)
  | '-' :: r => number true r
  | cs => number false cs

mutual

/-- A value at the front of the text. -/
def value (cs : List Char) : Option (Json × Rest cs) :=
  match cs with
  | '"' :: r => (string r).map fun (s, ⟨t, h⟩) => (.str s, ⟨t, by simp only [List.length_cons]; omega⟩)
  | '[' :: r =>
    match hs : skip r with
    | ']' :: t => some (.arr [], ⟨t, by
        have := skip_length r; rw [hs] at this; simp only [List.length_cons] at this ⊢; omega⟩)
    | r' => (items r' []).map fun (xs, ⟨t, h⟩) => (.arr xs, ⟨t, by
        have := skip_length r; rw [hs] at this; simp only [List.length_cons]; omega⟩)
  | '\x7b' :: r =>
    match hs : skip r with
    | '\x7d' :: t => some (.obj [], ⟨t, by
        have := skip_length r; rw [hs] at this; simp only [List.length_cons] at this ⊢; omega⟩)
    | r' => (members r' []).map fun (fs, ⟨t, h⟩) => (.obj fs, ⟨t, by
        have := skip_length r; rw [hs] at this; simp only [List.length_cons]; omega⟩)
  | cs =>
    match scalar cs with
    | none => none
    | some (v, t) => if h : t.length < cs.length then some (v, ⟨t, h⟩) else none
termination_by (cs.length, 0)
decreasing_by
  · have := skip_length r
    rw [hs] at this
    exact Prod.Lex.left _ _ (by simp only [List.length_cons]; omega)
  · have := skip_length r
    rw [hs] at this
    exact Prod.Lex.left _ _ (by simp only [List.length_cons]; omega)

/-- The items of a list after its opening bracket or a comma, added to those in `acc`. -/
def items (cs : List Char) (acc : List Json) : Option (List Json × Rest cs) :=
  match value cs with
  | none => none
  | some (v, ⟨t, h⟩) =>
    match hs : skip t with
    | ']' :: u => some ((v :: acc).reverse, ⟨u, by
        have := skip_length t; rw [hs] at this; simp only [List.length_cons] at this; omega⟩)
    | ',' :: u => (items (skip u) (v :: acc)).map fun (xs, ⟨w, hw⟩) => (xs, ⟨w, by
        have := skip_length t; have := skip_length u; simp_all only [List.length_cons]; omega⟩)
    | _ => none
termination_by (cs.length, 1)
decreasing_by
  · exact Prod.Lex.right _ (by decide)
  · have h1 := skip_length t
    have h2 := skip_length u
    rw [hs] at h1
    simp only [List.length_cons] at h1
    exact Prod.Lex.left _ _ (by omega)

/-- The fields of an object after its opening brace or a comma, added to those in `acc`. -/
def members (cs : List Char) (acc : List (String × Json)) :
    Option (List (String × Json) × Rest cs) :=
  match cs with
  | '"' :: r =>
    match string r with
    | none => none
    | some (key, ⟨t, ht⟩) =>
      match hs : skip t with
      | ':' :: u =>
        match value (skip u) with
        | none => none
        | some (v, ⟨w, hw⟩) =>
          match hs' : skip w with
          | '\x7d' :: x => some (setField key v acc, ⟨x, by
              have := skip_length t; have := skip_length u; have := skip_length w
              simp_all only [List.length_cons]; omega⟩)
          | ',' :: x => (members (skip x) (setField key v acc)).map fun (fs, ⟨y, hy⟩) => (fs, ⟨y, by
              have := skip_length t; have := skip_length u; have := skip_length w
              have := skip_length x
              simp_all only [List.length_cons]; omega⟩)
          | _ => none
      | _ => none
  | _ => none
termination_by (cs.length, 1)
decreasing_by
  · have h1 := skip_length t
    have h2 := skip_length u
    rw [hs] at h1
    simp only [List.length_cons] at h1
    exact Prod.Lex.left _ _ (by simp only [List.length_cons]; omega)
  · have h1 := skip_length t
    have h2 := skip_length u
    have h3 := skip_length w
    have h4 := skip_length x
    rw [hs] at h1
    rw [hs'] at h3
    simp only [List.length_cons] at h1 h3
    exact Prod.Lex.left _ _ (by simp only [List.length_cons]; omega)

end

end Reader

/-- The value that the whole text spells. -/
def parse? (s : String) : Option Json :=
  match Reader.value (Reader.skip s.toList) with
  | some (v, ⟨r, _⟩) => if (Reader.skip r).isEmpty then some v else none
  | none => none

end LogicTutor.Json
