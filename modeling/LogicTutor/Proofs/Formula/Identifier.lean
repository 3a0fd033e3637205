import LogicTutor.Proofs.Formula.Spelling

/-! Identifiers. A word is looked up among the keywords by the letters at its beginning, while a
name also goes on with digits and underscores. So an identifier is read whole exactly if its
leading letters spell no keyword; otherwise the keyword is read in its place and the reading stops
at the digit or underscore behind it. -/
namespace LogicTutor.Token

/-- The characters of an identifier: an ASCII letter other than `v`, and ASCII letters, digits and
underscores. -/
def IsIdentifier : List Char → Prop
  | [] => False
  | c :: r => c.isAlpha = true ∧ c ≠ 'v' ∧ ∀ d ∈ r, d.isAlphanum = true ∨ d = '_'

instance : DecidablePred IsIdentifier
  | [] => isFalse id
  | c :: r => decidable_of_iff (c.isAlpha = true ∧ c ≠ 'v' ∧
      r.all (fun d => d.isAlphanum || d == '_') = true) (by simp [IsIdentifier])

/-- The characters are those of one of the token's words, in capitals or not. -/
def IsKeyword (w : List Char) (t : Token) : Prop :=
  ∃ k ∈ keywords t, w.map Char.toUpper = k.toList

variable {c d : Char} {r rest w : List Char} {t : Token}

/-! The ASCII letters and digits among all letters and name characters. -/

theorem ascii_of_isAlphanum (h : c.isAlphanum = true) : c.toNat < 128 := by
  have hle : ∀ b : Char, c.val ≤ b.val → b.toNat < 128 → c.toNat < 128 := fun b hb =>
    Nat.lt_of_le_of_lt (UInt32.le_iff_toNat_le.mp hb)
  rcases Bool.or_eq_true_iff.mp h with h | h
  · rcases Bool.or_eq_true_iff.mp h with h | h
    · exact hle 'Z' (of_decide_eq_true h).2 (by decide)
    · exact hle 'z' (of_decide_eq_true (Bool.and_eq_true_iff.mp h).2) (by decide)
  · exact hle '9' (of_decide_eq_true (Bool.and_eq_true_iff.mp h).2) (by decide)

theorem isLetter_eq_isAlpha (h : d.isAlphanum = true ∨ d = '_') :
    Text.isLetter d = d.isAlpha := by
  have hd : d.toNat < 128 := by
    rcases h with h | rfl
    · exact ascii_of_isAlphanum h
    · decide
  unfold Text.isLetter
  rw [if_pos hd]

theorem isNameChar_of_isAlphanum (h : d.isAlphanum = true ∨ d = '_') : isNameChar d = true := by
  rcases h with h | rfl
  · have hd := ascii_of_isAlphanum h
    unfold isNameChar Text.isWordChar Text.isLetter Text.isNumeral
    rw [if_pos hd, if_pos hd]
    simpa [Char.isAlphanum] using Or.inl h
  · decide

theorem IsIdentifier.isAlphanum (h : IsIdentifier (c :: r)) :
    ∀ d ∈ c :: r, d.isAlphanum = true ∨ d = '_' := by
  obtain ⟨hc, -, hr⟩ := h
  intro d hd
  rcases List.mem_cons.mp hd with rfl | hd
  · left
    simp [Char.isAlphanum, hc]
  · exact hr d hd

/-- What is asked of an identifier's characters one by one is asked of ASCII letters only. -/
theorem IsIdentifier.takeWhile_isLetter (h : IsIdentifier (c :: r)) :
    c :: r.takeWhile Text.isLetter = (c :: r).takeWhile Char.isAlpha := by
  have hr : r.takeWhile Text.isLetter = r.takeWhile Char.isAlpha := by
    have hmem : ∀ d ∈ r, Text.isLetter d = d.isAlpha := fun d hd => isLetter_eq_isAlpha (h.2.2 d hd)
    clear h
    induction r with
    | nil => rfl
    | cons d r ih =>
      obtain ⟨hd, hr⟩ := List.forall_mem_cons.mp hmem
      rw [List.takeWhile_cons, List.takeWhile_cons, hd, ih hr]
  rw [hr, List.takeWhile_cons, if_pos h.1]

/-! Keywords by their letters. -/

theorem keyword?_of_isKeyword (h : IsKeyword w t) : keyword? w = some t := by
  obtain ⟨k, hk, hw⟩ := h
  obtain ⟨hupper, -, -, hcapital, hkey⟩ := keyword?_of_mem_keywords hk
  have hmap : w.map capital = w.map Char.toUpper := by
    apply List.map_congr_left
    intro c hc
    have hup : c.toUpper.isUpper = true :=
      List.all_eq_true.mp hupper _ (hw ▸ List.mem_map_of_mem hc)
    exact (capital_eq_toUpper hup).2
  rw [← hkey]
  apply keyword?_congr
  rw [hmap, hw, hcapital]

theorem not_isKeyword (h : keyword? w = none) (t : Token) : ¬ IsKeyword w t := by
  intro hk
  rw [keyword?_of_isKeyword hk] at h
  cases h

theorem mem_keywords_of_keyword? (h : keyword? w = some t) :
    String.ofList (w.map capital) ∈ keywords t := by
  unfold keyword? at h
  split at h
  case h_9 => cases h
  all_goals
    rename_i hw
    cases h
    rw [hw]
    decide

theorem capital_of_isAlpha (h : c.isAlpha = true) : capital c = c.toUpper := by
  have hc : c.toNat < 128 := ascii_of_isAlphanum (by simp [Char.isAlphanum, h])
  exact Text.of_ascii (P := fun c => c.isAlpha = true → capital c = c.toUpper) hc (by decide) h

theorem keyword?_eq_some_iff (hw : ∀ c ∈ w, c.isAlpha = true) :
    keyword? w = some t ↔ IsKeyword w t := by
  constructor
  · intro h
    refine ⟨_, mem_keywords_of_keyword? h, ?_⟩
    rw [String.toList_ofList]
    exact (List.map_congr_left fun c hc => capital_of_isAlpha (hw c hc)).symm
  · exact keyword?_of_isKeyword

theorem keyword?_lead (h : IsIdentifier (c :: r)) :
    keyword? (c :: r.takeWhile Text.isLetter) = some t ↔
      IsKeyword ((c :: r).takeWhile Char.isAlpha) t := by
  rw [h.takeWhile_isLetter]
  exact keyword?_eq_some_iff (List.all_eq_true.mp List.all_takeWhile)

/-! What the reading makes of an identifier. -/

theorem isName_of_isIdentifier (h : IsIdentifier (c :: r))
    (hlead : ∀ t, ¬ IsKeyword ((c :: r).takeWhile Char.isAlpha) t) : IsName (c :: r) := by
  refine ⟨?_, h.2.1, ?_, fun d hd => isNameChar_of_isAlphanum (h.2.2 d hd)⟩
  · rw [isLetter_eq_isAlpha (h.isAlphanum c List.mem_cons_self)]
    exact h.1
  · cases hk : keyword? (c :: r.takeWhile Text.isLetter) with
    | none => rfl
    | some t => exact absurd ((keyword?_lead h).mp hk) (hlead t)

theorem not_isLetter_of_isDigit (hd : d.isDigit = true ∨ d = '_') : Text.isLetter d = false := by
  rcases hd with hd | rfl
  · have hc : d.toNat < 128 := ascii_of_isAlphanum (by simp [Char.isAlphanum, hd])
    exact Text.of_ascii (P := fun d => d.isDigit = true → Text.isLetter d = false) hc (by decide) hd
  · decide

theorem scanAt_eq_none (hd : d.isDigit = true ∨ d = '_') (r : List Char) : scanAt d r = none := by
  unfold scanAt
  split
  all_goals first
    | exact absurd hd (by decide)
    | simp [not_isLetter_of_isDigit hd]

theorem not_blank_of_isDigit (hd : d.isDigit = true ∨ d = '_') : Text.isBlank d = false :=
  not_blank_of_isNameChar (isNameChar_of_isAlphanum (hd.imp_left fun h => by
    simp [Char.isAlphanum, h]))

theorem ofChars_stray (total : Nat) (hd : d.isDigit = true ∨ d = '_') (r : List Char) :
    TokenStream.ofChars total (d :: r) = .stray d (total - (d :: r).length) := by
  rw [TokenStream.ofChars_eq, List.dropWhile_cons]
  simp only [not_blank_of_isDigit hd, Bool.false_eq_true, ↓reduceIte, scanAt_eq_none hd,
    List.length_cons]

/-- The first character of an identifier behind its leading letters. -/
theorem IsIdentifier.dropWhile_isAlpha {more : List Char} (h : IsIdentifier w)
    (hw : w.dropWhile Char.isAlpha = d :: more) : d.isDigit = true ∨ d = '_' := by
  have hnot : d.isAlpha = false := by
    have hhead := List.head?_dropWhile_not Char.isAlpha w
    simpa [hw] using hhead
  cases w with
  | nil => exact h.elim
  | cons c r =>
    have hmem : d ∈ c :: r := (List.dropWhile_sublist _).subset (hw ▸ List.mem_cons_self)
    simpa [Char.isAlphanum, hnot] using h.isAlphanum d hmem

/-- The leading letters of an identifier spell a keyword, and something comes behind them. -/
theorem scanAt_lead {more : List Char} (h : IsIdentifier (c :: r))
    (hk : IsKeyword ((c :: r).takeWhile Char.isAlpha) t)
    (hw : (c :: r).dropWhile Char.isAlpha = d :: more) (rest : List Char) :
    scanAt c (r ++ rest) = some (t, d :: more ++ rest) := by
  have hlead := h.takeWhile_isLetter
  have hkey := (keyword?_lead h).mpr hk
  have hd := not_isLetter_of_isDigit (h.dropWhile_isAlpha hw)
  have hsplit : r = r.takeWhile Text.isLetter ++ d :: more := by
    have hcr := List.takeWhile_append_dropWhile (p := Char.isAlpha) (l := c :: r)
    rw [← hlead, hw, List.cons_append, List.cons.injEq] at hcr
    exact hcr.2.symm
  have htake : (r.takeWhile Text.isLetter ++ (d :: more ++ rest)).takeWhile Text.isLetter =
      r.takeWhile Text.isLetter := by
    rw [List.takeWhile_append_of_pos (List.all_eq_true.mp List.all_takeWhile)]
    simp [hd]
  have hc : Text.isLetter c = true :=
    (isLetter_eq_isAlpha (h.isAlphanum c List.mem_cons_self)).trans h.1
  have happend : r ++ rest = r.takeWhile Text.isLetter ++ (d :: more ++ rest) := by
    rw [← List.append_assoc, ← hsplit]
  rw [scanAt_letter hc h.2.1, happend, htake, hkey, dropWhile_of_takeWhile htake]

/-- An identifier that is no keyword is read whole if its leading letters spell no keyword either.
If they do, that keyword is read, and the reading breaks off at the character behind it. -/
theorem identifiers_read_by_leading_letters (total : Nat) {name : String} {rest : List Char}
    (hid : IsIdentifier name.toList) (hkey : ∀ t, ¬ IsKeyword name.toList t)
    (hrest : Closes rest) :
    ((∀ t, ¬ IsKeyword (name.toList.takeWhile Char.isAlpha) t) →
      TokenStream.ofChars total (name.toList ++ rest) =
        .token (.atom name) (total - rest.length) (TokenStream.ofChars total rest)) ∧
    ∀ t, IsKeyword (name.toList.takeWhile Char.isAlpha) t →
      ∃ d more, name.toList.dropWhile Char.isAlpha = d :: more ∧
        TokenStream.ofChars total (name.toList ++ rest) =
          .token t (total - (d :: more ++ rest).length)
            (.stray d (total - (d :: more ++ rest).length)) := by
  cases hn : name.toList with
  | nil => simp [hn, IsIdentifier] at hid
  | cons c r =>
    rw [hn] at hid hkey
    have hblank : Text.isBlank c = false :=
      not_blank_of_isNameChar (isNameChar_of_isAlphanum (hid.isAlphanum c List.mem_cons_self))
    constructor
    · intro hlead
      have hscan := scanAt_name (isName_of_isIdentifier hid hlead) hrest
      rw [← hn, String.ofList_toList] at hscan
      exact TokenStream.ofChars_scan hblank hscan
    · intro t ht
      cases hw : (c :: r).dropWhile Char.isAlpha with
      | nil =>
        -- The identifier would be nothing but the letters of the keyword.
        have hwhole := List.takeWhile_append_dropWhile (p := Char.isAlpha) (l := c :: r)
        rw [hw, List.append_nil] at hwhole
        rw [hwhole] at ht
        exact absurd ht (hkey t)
      | cons d more =>
        have hstray := ofChars_stray total (hid.dropWhile_isAlpha hw) (more ++ rest)
        refine ⟨d, more, rfl, ?_⟩
        rw [List.cons_append, TokenStream.ofChars_scan hblank (scanAt_lead hid ht hw rest),
          List.cons_append, hstray]

theorem identifiers_read_by_leading_letters_prefixed :
    let name := "Notation_2"
    let cut := "F_x"
    let rest := "→F_x".toList
    IsIdentifier name.toList ∧ (∀ t, ¬ IsKeyword name.toList t) ∧ Closes rest ∧
      TokenStream.ofChars 14 (name.toList ++ rest) =
        .token (.atom name) 10 (TokenStream.ofChars 14 rest) ∧
      IsIdentifier cut.toList ∧ (∀ t, ¬ IsKeyword cut.toList t) ∧
      TokenStream.ofChars 14 (cut.toList ++ []) = .token (.truth false) 12 (.stray '_' 12) := by
  intro name cut rest
  have hname : IsIdentifier name.toList := by decide
  have hcut : IsIdentifier cut.toList := by decide
  have hnokey : ∀ t, ¬ IsKeyword name.toList t := not_isKeyword (by decide)
  have hcutkey : ∀ t, ¬ IsKeyword cut.toList t := not_isKeyword (by decide)
  have hrest : Closes rest := closes_cons (by decide +kernel) _
  have hlead : IsKeyword (cut.toList.takeWhile Char.isAlpha) (.truth false) :=
    ⟨"F", by decide, by decide⟩
  have hread := (identifiers_read_by_leading_letters 14 hname hnokey hrest).1
    (not_isKeyword (by decide))
  obtain ⟨d, more, hw, hbreak⟩ :=
    (identifiers_read_by_leading_letters 14 hcut hcutkey closes_nil).2 _ hlead
  have hcutw : cut.toList.dropWhile Char.isAlpha = ['_', 'x'] := by decide
  rw [hcutw, List.cons.injEq] at hw
  obtain ⟨rfl, rfl⟩ := hw
  exact ⟨hname, hnokey, hrest, hread, hcut, hcutkey, hbreak⟩

/-- The name `T1` falls apart, although it is no keyword. -/
theorem identifier_falls_apart :
    IsIdentifier "T1".toList ∧ (∀ t, ¬ IsKeyword "T1".toList t) ∧ Closes [] ∧
      TokenStream.ofString "T1" = .token (.truth true) 1 (.stray '1' 1) ∧
      TokenStream.ofString "T1" ≠ .token (.atom "T1") 2 .finish := by
  have hread : TokenStream.ofString "T1" = .token (.truth true) 1 (.stray '1' 1) := by
    have hscan : scanAt 'T' ['1'] = some (.truth true, ['1']) := by decide
    have hstray := ofChars_stray 2 (d := '1') (Or.inl (by decide)) []
    change TokenStream.ofChars 2 ['T', '1'] = _
    rw [TokenStream.ofChars_scan (by decide) hscan, hstray]
    rfl
  refine ⟨by decide, not_isKeyword (by decide), closes_nil, hread, ?_⟩
  rw [hread]
  decide

end LogicTutor.Token
