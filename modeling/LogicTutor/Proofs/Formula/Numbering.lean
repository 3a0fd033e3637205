import LogicTutor.Formula.Parser
import LogicTutor.Proofs.Lists

/-! Names that are resolved one after the other. Each gets one atom, which it keeps, and the atoms
are numbered in the order in which the names first come up. -/
namespace LogicTutor

/-- The name that a token reads as. -/
def Token.name? : Token → Option String
  | .atom name => some name
  | _ => none

/-- The names among the tokens, each where it first comes up. -/
def Token.names (ts : List Token) : List String := (ts.filterMap Token.name?).eraseDups

/-- The atom of a reading for a name, numbered by the place of the name among the names. -/
def Atom.numbered (reading : Nat) (names : List String) (name : String) : Atom :=
  ⟨reading, names.idxOf name, name⟩

namespace Glossary

variable {d : Glossary} {n m : String} {own : String → Atom} {ts us : List Token}

theorem find?_resolve (d : Glossary) (n m : String) :
    (d.resolve n).2.find? m = if m = n then some (d.resolve n).1 else d.find? m := by
  unfold resolve
  split
  next a ha =>
    split
    next h => rw [h, ha]
    next => rfl
  next ha =>
    simp only [find?] at ha ⊢
    rw [List.lookup_append, lookup_cons]
    split
    next h => rw [h, ha, Option.none_or]
    next => rw [List.lookup_nil, Option.or_none]

/-- `own` gives every name that is entered the atom of its entry. -/
def Within (d : Glossary) (own : String → Atom) : Prop := ∀ n a, d.find? n = some a → own n = a

/-- Entries are kept when a name is resolved. -/
theorem Within.of_resolve (h : (d.resolve n).2.Within own) : d.Within own := by
  intro m a ha
  by_cases hm : m = n
  · subst hm
    refine h m a ?_
    rw [find?_resolve, if_pos rfl, resolve, ha]
  · exact h m a (by rw [find?_resolve, if_neg hm, ha])

theorem Within.own_eq (h : (d.resolve n).2.Within own) : own n = (d.resolve n).1 :=
  h n _ (by rw [find?_resolve, if_pos rfl])

/-- The glossary once the names among the tokens have been resolved. -/
def after (d : Glossary) (ts : List Token) : Glossary :=
  (ts.filterMap Token.name?).foldl (fun d n => (d.resolve n).2) d

theorem after_append (d : Glossary) (ts us : List Token) :
    d.after (ts ++ us) = (d.after ts).after us := by
  rw [after, List.filterMap_append, List.foldl_append]
  rfl

theorem after_cons (d : Glossary) (t : Token) (ts : List Token) :
    d.after (t :: ts) = (d.after [t]).after ts := after_append d [t] ts

theorem after_of_name?_eq_none {t : Token} (h : t.name? = none) (d : Glossary) :
    d.after [t] = d := by
  rw [after, List.filterMap_cons, h]
  rfl

/-- A connective between two phrases resolves nothing. -/
theorem after_join {t : Token} (h : t.name? = none) (d : Glossary) (ts us : List Token) :
    d.after (ts ++ t :: us) = (d.after ts).after us := by
  rw [after_append, after_cons _ t, after_of_name?_eq_none h]

theorem after_parentheses (d : Glossary) (ts : List Token) :
    d.after (.opening :: (ts ++ [.closing])) = d.after ts := by
  rw [after_cons, after_append, after_of_name?_eq_none rfl, after_of_name?_eq_none rfl]

theorem Within.of_after (h : (d.after ts).Within own) : d.Within own := by
  unfold after at h
  generalize ts.filterMap Token.name? = ns at h
  induction ns generalizing d with
  | nil => exact h
  | cons n ns ih => exact (ih h).of_resolve

/-- The glossary in which each of the names has its atom. -/
def ofNames (reading : Nat) (names : List String) : Glossary :=
  ⟨reading, names.map fun n => (n, .numbered reading names n), names.length⟩

@[simp] theorem names_ofNames (reading : Nat) (names : List String) :
    (ofNames reading names).names = names := by
  simp [Glossary.names, ofNames, Function.comp_def]

theorem find?_ofNames (reading : Nat) (names : List String) (n : String) :
    (ofNames reading names).find? n =
      if n ∈ names then some (.numbered reading names n) else none :=
  lookup_map _ names n

theorem within_ofNames (reading : Nat) (names : List String) :
    (ofNames reading names).Within (.numbered reading names) := by
  intro n a ha
  rw [find?_ofNames] at ha
  split at ha
  next => exact Option.some.inj ha
  next => cases ha

theorem resolve_ofNames (reading : Nat) (names : List String) (n : String) :
    ((ofNames reading names).resolve n).2 =
      if n ∈ names then ofNames reading names else ofNames reading (names ++ [n]) := by
  rw [resolve, find?_ofNames]
  by_cases hn : n ∈ names
  · simp only [hn, ↓reduceIte]
  · have hold : ∀ m ∈ names, Atom.numbered reading (names ++ [n]) m =
        .numbered reading names m := fun m hm => by
      rw [Atom.numbered, List.idxOf_append, if_pos hm, Atom.numbered]
    have hnew : Atom.numbered reading (names ++ [n]) n = ⟨reading, names.length, n⟩ := by
      rw [Atom.numbered, List.idxOf_append, if_neg hn, List.idxOf_cons_self, Nat.zero_add]
    have hentries : (names ++ [n]).map (fun m => (m, Atom.numbered reading (names ++ [n]) m)) =
        names.map (fun m => (m, .numbered reading names m)) ++
          [(n, ⟨reading, names.length, n⟩)] := by
      rw [List.map_append, List.map_singleton, hnew]
      congr 1
      exact List.map_congr_left fun m hm => congrArg (m, ·) (hold m hm)
    simp only [hn, ↓reduceIte, ofNames, hentries, List.length_append, List.length_singleton]

/-- Resolving from the beginning makes an atom for each name where it first comes up. -/
theorem after_empty (reading : Nat) (ts : List Token) :
    (empty reading).after ts = ofNames reading (Token.names ts) := by
  unfold after Token.names
  generalize ts.filterMap Token.name? = ns
  induction ns using List.reverseRecOn with
  | nil => rfl
  | append_singleton ns n ih =>
    rw [List.foldl_append, ih, eraseDups_concat]
    change ((ofNames reading ns.eraseDups).resolve n).2 = _
    rw [resolve_ofNames]
    simp only [List.mem_eraseDups]
    split <;> rfl

end Glossary

end LogicTutor
