import LogicTutor.Proofs.Formula.Grammar

/-! How a text falls into tokens. A name is read whole wherever no character follows that could
go on with it, and every name that is read can be read again. -/
namespace LogicTutor

namespace Text

/-- No code point lies in both tables. -/
def RangeTable.Apart (t u : RangeTable) : Prop :=
  ∀ a ∈ t, ∀ b ∈ u, a.2 < b.1 ∨ b.2 < a.1

instance (t u : RangeTable) : Decidable (t.Apart u) :=
  inferInstanceAs (Decidable (∀ a ∈ t, ∀ b ∈ u, a.2 < b.1 ∨ b.2 < a.1))

theorem RangeTable.Apart.covers_eq_false {t u : RangeTable} (h : t.Apart u) {n : Nat}
    (hn : t.covers n = true) : u.covers n = false := by
  simp only [RangeTable.covers, List.any_eq_true, List.any_eq_false, Bool.and_eq_true,
    decide_eq_true_eq] at hn ⊢
  obtain ⟨a, ha, h1⟩ := hn
  intro b hb h2
  have := h a ha b hb
  omega

theorem letterTable_apart_blankTable : letterTable.Apart blankTable := by decide +kernel

theorem numeralTable_apart_blankTable : numeralTable.Apart blankTable := by decide +kernel

/-- What can be looked up of the ASCII characters one by one. -/
theorem of_ascii {P : Char → Prop} {c : Char} (hc : c.toNat < 128)
    (h : ∀ n < 128, P (Char.ofNat n)) : P c := by
  have hn := h c.toNat hc
  rwa [Char.ofNat_toNat] at hn

theorem not_blank_of_isLetter {c : Char} (h : isLetter c = true) : isBlank c = false := by
  unfold isLetter at h
  split at h
  next hc => exact of_ascii (P := fun c => c.isAlpha = true → isBlank c = false) hc (by decide) h
  next => exact letterTable_apart_blankTable.covers_eq_false h

theorem not_blank_of_isNumeral {c : Char} (h : isNumeral c = true) : isBlank c = false := by
  unfold isNumeral at h
  split at h
  next hc => exact of_ascii (P := fun c => c.isDigit = true → isBlank c = false) hc (by decide) h
  next => exact numeralTable_apart_blankTable.covers_eq_false h

theorem trimChars_eq_self {cs : List Char} (hh : ∀ c ∈ cs.head?, isBlank c = false)
    (hl : ∀ c ∈ cs.getLast?, isBlank c = false) : trimChars cs = cs := by
  have hd : ∀ xs : List Char, (∀ c ∈ xs.head?, isBlank c = false) → xs.dropWhile isBlank = xs := by
    intro xs h
    cases xs with
    | nil => rfl
    | cons x xs => simp [h x rfl]
  rw [trimChars, hd cs hh, hd cs.reverse (by simpa using hl), List.reverse_reverse]

end Text

namespace Token

variable {c : Char} {r rest : List Char} {name : String} {t : Token}

theorem isNameChar_of_isLetter (h : Text.isLetter c = true) : isNameChar c = true := by
  simp [isNameChar, Text.isWordChar, h]

theorem not_blank_of_isNameChar (h : isNameChar c = true) : Text.isBlank c = false := by
  simp only [isNameChar, Text.isWordChar, Bool.or_eq_true, beq_iff_eq] at h
  rcases h with (h | h) | rfl
  · exact Text.not_blank_of_isLetter h
  · exact Text.not_blank_of_isNumeral h
  · decide

theorem keyword?_ne_atom (w : List Char) (name : String) : keyword? w ≠ some (.atom name) := by
  unfold keyword?
  split <;> simp

theorem scanAt_letter (hc : Text.isLetter c = true) (hv : c ≠ 'v') (r : List Char) :
    scanAt c r = match keyword? (c :: r.takeWhile Text.isLetter) with
      | some t => some (t, r.dropWhile Text.isLetter)
      | none =>
        some (.atom (String.ofList (c :: r.takeWhile isNameChar)), r.dropWhile isNameChar) := by
  unfold scanAt
  split
  all_goals first
    | exact absurd rfl hv
    | exact absurd hc (by decide +kernel)
    | exact if_pos hc

/-- The characters of a name: a letter, which is not `v`, and characters that a name may go on
with. The letters at its beginning spell no keyword. -/
def IsName : List Char → Prop
  | [] => False
  | c :: r => Text.isLetter c = true ∧ c ≠ 'v' ∧ keyword? (c :: r.takeWhile Text.isLetter) = none ∧
      ∀ d ∈ r, isNameChar d = true

instance : DecidablePred IsName
  | [] => isFalse id
  | c :: r => inferInstanceAs (Decidable (Text.isLetter c = true ∧ c ≠ 'v' ∧
      keyword? (c :: r.takeWhile Text.isLetter) = none ∧ ∀ d ∈ r, isNameChar d = true))

theorem IsName.not_blank {cs : List Char} (h : IsName cs) : ∀ c ∈ cs, Text.isBlank c = false := by
  cases cs with
  | nil => exact h.elim
  | cons c r =>
    obtain ⟨hc, -, -, hr⟩ := h
    intro d hd
    rcases List.mem_cons.mp hd with rfl | hd
    · exact Text.not_blank_of_isLetter hc
    · exact not_blank_of_isNameChar (hr d hd)

/-- The text goes on with no character that could belong to a name, or is at its end. -/
def Closes (rest : List Char) : Prop := ∀ d ∈ rest.head?, isNameChar d = false

theorem closes_nil : Closes [] := by simp [Closes]

theorem closes_cons (h : isNameChar c = false) (r : List Char) : Closes (c :: r) := by
  simpa [Closes] using h

theorem Closes.takeWhile_eq_nil {p : Char → Bool} (h : Closes rest)
    (hp : ∀ d, p d = true → isNameChar d = true) : rest.takeWhile p = [] := by
  cases rest with
  | nil => rfl
  | cons d ds =>
    have hd : ¬ p d = true := fun hd => by simpa [h d rfl] using hp d hd
    simp [hd]

theorem Closes.takeWhile_isLetter_append (h : Closes rest) (r : List Char) :
    (r ++ rest).takeWhile Text.isLetter = r.takeWhile Text.isLetter := by
  rw [List.takeWhile_append, h.takeWhile_eq_nil fun _ => isNameChar_of_isLetter, List.append_nil]
  split
  next hlen => exact ((List.takeWhile_prefix _).eq_of_length hlen).symm
  next => rfl

theorem closes_dropWhile (r : List Char) : Closes (r.dropWhile isNameChar) := by
  intro d hd
  have h := List.head?_dropWhile_not isNameChar r
  rw [Option.mem_def.mp hd] at h
  simpa using h

theorem dropWhile_of_takeWhile {p : Char → Bool} (h : (r ++ rest).takeWhile p = r) :
    (r ++ rest).dropWhile p = rest := by
  have ha := List.takeWhile_append_dropWhile (p := p) (l := r ++ rest)
  rwa [h, List.append_cancel_left_eq] at ha

theorem scanAt_name (h : IsName (c :: r)) (hr : Closes rest) :
    scanAt c (r ++ rest) = some (.atom (String.ofList (c :: r)), rest) := by
  obtain ⟨hc, hv, hk, hw⟩ := h
  have htn : (r ++ rest).takeWhile isNameChar = r := by
    rw [List.takeWhile_append_of_pos hw, hr.takeWhile_eq_nil fun _ => id, List.append_nil]
  rw [scanAt_letter hc hv, hr.takeWhile_isLetter_append, hk, htn, dropWhile_of_takeWhile htn]

theorem scanAt_keyword (hc : Text.isLetter c = true) (hv : c ≠ 'v')
    (hw : ∀ d ∈ r, Text.isLetter d = true) (hk : keyword? (c :: r) = some t) (hr : Closes rest) :
    scanAt c (r ++ rest) = some (t, rest) := by
  have htl : (r ++ rest).takeWhile Text.isLetter = r := by
    rw [List.takeWhile_append_of_pos hw, hr.takeWhile_eq_nil fun _ => isNameChar_of_isLetter,
      List.append_nil]
  rw [scanAt_letter hc hv, htl, hk, dropWhile_of_takeWhile htl]

theorem isName_of_scanAt (h : scanAt c r = some (.atom name, rest)) :
    ∃ w, name.toList = c :: w ∧ IsName (c :: w) ∧ r = w ++ rest := by
  have hcv : Text.isLetter c = true ∧ c ≠ 'v' := by
    unfold scanAt at h
    split at h
    case h_15 hv _ _ _ _ _ _ =>
      split at h
      next hc => exact ⟨hc, hv⟩
      next => cases h
    all_goals cases h
  obtain ⟨hc, hv⟩ := hcv
  rw [scanAt_letter hc hv] at h
  split at h
  next t ht =>
    cases h
    exact absurd ht (keyword?_ne_atom _ _)
  next hk =>
    cases h
    refine ⟨r.takeWhile isNameChar, by simp, ⟨hc, hv, ?_, List.all_eq_true.mp List.all_takeWhile⟩,
      by simp⟩
    rwa [← (closes_dropWhile r).takeWhile_isLetter_append, List.takeWhile_append_dropWhile]

end Token

namespace TokenStream

open Token

variable {total : Nat} {c : Char} {cs r rest : List Char} {t : Token} {name : String}

/-- The reading of a text, without the proofs that it comes to an end. -/
theorem ofChars_eq (total : Nat) (cs : List Char) : ofChars total cs =
    match cs.dropWhile Text.isBlank with
    | [] => .finish
    | c :: r =>
      match scanAt c r with
      | none => .stray c (total - (r.length + 1))
      | some (t, rest) => .token t (total - rest.length) (ofChars total rest) := by
  rw [ofChars.eq_def]
  generalize cs.dropWhile Text.isBlank = ds
  cases ds with
  | nil => rfl
  | cons c r =>
    simp only
    generalize scanAt c r = o
    cases o <;> rfl

theorem ofChars_nil (total : Nat) : ofChars total [] = .finish := by
  rw [ofChars_eq]
  rfl

theorem ofChars_blank (hc : Text.isBlank c = true) :
    ofChars total (c :: cs) = ofChars total cs := by
  rw [ofChars_eq, ofChars_eq total cs, List.dropWhile_cons, if_pos hc]

theorem ofChars_scan (hc : Text.isBlank c = false) (h : scanAt c r = some (t, rest)) :
    ofChars total (c :: r) = .token t (total - rest.length) (ofChars total rest) := by
  rw [ofChars_eq, List.dropWhile_cons]
  simp only [hc, Bool.false_eq_true, ↓reduceIte, h]

theorem reads_scan (total : Nat) (hc : Text.isBlank c = false) (h : scanAt c r = some (t, rest)) :
    (ofChars total (c :: r)).Reads [t] (ofChars total rest) :=
  ofChars_scan hc h ▸ .cons (.nil _)

theorem reads_name (total : Nat) (h : IsName name.toList) (hr : Closes rest) :
    (ofChars total (name.toList ++ rest)).Reads [.atom name] (ofChars total rest) := by
  cases hn : name.toList with
  | nil => simp [hn, IsName] at h
  | cons c w =>
    rw [hn] at h
    have hs := reads_scan total (Text.not_blank_of_isLetter h.1) (scanAt_name h hr)
    rwa [← hn, String.ofList_toList] at hs

/-- Every name that is read off a text is one. -/
theorem isName_of_mem_tokens (h : .atom name ∈ (ofChars total cs).tokens) :
    IsName name.toList := by
  fun_induction ofChars total cs with
  | case1 => simp [tokens] at h
  | case2 => simp [tokens] at h
  | case3 cs c r hd t rest hs ih =>
    rcases List.mem_cons.mp h with rfl | h
    · obtain ⟨w, hw, hn, -⟩ := isName_of_scanAt hs
      exact hw ▸ hn
    · exact ih h

end TokenStream

/-- A name that is read as one atom. -/
def Token.Nameable (name : String) : Prop := (TokenStream.ofString name).tokens = [.atom name]

theorem Token.nameable_iff {name : String} : Nameable name ↔ IsName name.toList := by
  constructor
  · intro h
    exact TokenStream.isName_of_mem_tokens (h ▸ List.mem_singleton.mpr rfl)
  · intro h
    have hr := TokenStream.reads_name name.length h closes_nil
    rw [List.append_nil, TokenStream.ofChars_nil] at hr
    exact hr.tokens_eq

instance : DecidablePred Token.Nameable := fun _ => decidable_of_iff _ Token.nameable_iff.symm

end LogicTutor
