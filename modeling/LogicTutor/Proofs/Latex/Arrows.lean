import LogicTutor.Proofs.Latex.Signs

/-! The double arrow `\Leftrightarrow`. The only rule that writes it finds nothing, and the others
neither write nor break it, so a text has as many of them after the conversion as before. -/
namespace LogicTutor.Latex

variable {cs ds old new w x : List Char} {c y : Char} {r : Rule}

/-- How often the word occurs in the text. The words that are asked for here cannot overlap. -/
def occurrences (w : List Char) : List Char → Nat
  | [] => 0
  | c :: cs => (if w.isPrefixOf (c :: cs) then 1 else 0) + occurrences w cs

theorem occurrences_cons_of_ne (h : y ≠ c) : occurrences (y :: w) (c :: cs) =
    occurrences (y :: w) cs := by
  simp [occurrences, h]

/-- No word begins where its first character is missing. -/
theorem occurrences_append_of_not_mem (hy : y ∉ x) :
    occurrences (y :: w) (x ++ cs) = occurrences (y :: w) cs := by
  induction x with
  | nil => rfl
  | cons c x ih =>
    obtain ⟨hc, hx⟩ := not_or.mp fun h => hy (List.mem_cons.mpr h)
    rw [List.cons_append, occurrences_cons_of_ne hc, ih hx]

theorem prefix_append_cons_iff (hy : y ∉ w) : w <+: x ++ y :: cs ↔ w <+: x := by
  constructor
  · intro h
    rcases List.prefix_or_prefix_of_prefix h (List.prefix_append x (y :: cs)) with hw | hx
    · exact hw
    · obtain ⟨t, rfl⟩ := hx
      have ht := (List.prefix_append_right_inj x).mp h
      rcases List.prefix_cons_iff.mp ht with rfl | ⟨t, rfl, -⟩
      · rw [List.append_nil]
      · exact absurd (by simp) hy
  · exact fun h => h.trans (List.prefix_append x (y :: cs))

/-- No word stretches over a character that is not in it. -/
theorem occurrences_append_cons (hw : w ≠ []) (hy : y ∉ w) (cs ds : List Char) :
    occurrences w (cs ++ y :: ds) = occurrences w cs + occurrences w ds := by
  induction cs with
  | nil =>
    cases w with
    | nil => exact absurd rfl hw
    | cons a w =>
      have hne : a ≠ y := fun h => hy (h ▸ List.mem_cons_self)
      rw [List.nil_append, occurrences_cons_of_ne hne]
      simp [occurrences]
  | cons c cs ih =>
    have hiff : w.isPrefixOf (c :: cs ++ y :: ds) = w.isPrefixOf (c :: cs) := by
      rw [Bool.eq_iff_iff, List.isPrefixOf_iff_prefix, List.isPrefixOf_iff_prefix]
      exact prefix_append_cons_iff hy
    rw [List.cons_append, occurrences, ← List.cons_append, hiff, ih, occurrences]
    omega

/-- The letters of the double arrow. -/
def arrow : List Char := "Leftrightarrow".toList

/-- How many double arrows there are in the text. -/
def arrows (cs : List Char) : Nat := occurrences (command "Leftrightarrow") cs

theorem arrows_append_of_not_mem (hx : '\\' ∉ x) (cs : List Char) : arrows (x ++ cs) = arrows cs :=
  occurrences_append_of_not_mem hx

theorem arrows_append_cons (hy : y ∉ command "Leftrightarrow") (cs ds : List Char) :
    arrows (cs ++ y :: ds) = arrows cs + arrows ds :=
  occurrences_append_cons (List.cons_ne_nil _ _) hy cs ds

theorem arrows_braced (x cs : List Char) : arrows (braced x ++ cs) = arrows x + arrows cs := by
  have hopen := arrows_append_of_not_mem (x := ['\x7b']) (by decide) (x ++ '\x7d' :: cs)
  have hclose := arrows_append_cons (y := '\x7d') (by decide) x cs
  rw [← hclose, ← hopen]
  simp [braced]

/-- A command that begins with another letter than the arrow. -/
theorem arrows_command {s : String} (hs : s.toList.all Char.isAlpha = true)
    (hne : s ≠ "") (hhead : s.toList.head? ≠ some 'L') (cs : List Char) :
    arrows (command s ++ cs) = arrows cs := by
  have hslash : '\\' ∉ s.toList := not_mem_of_class (by decide) (List.all_eq_true.mp hs)
  have hno : ¬ command "Leftrightarrow" <+: command s ++ cs := by
    intro h
    obtain ⟨-, h⟩ := List.cons_prefix_cons.mp h
    cases hsl : s.toList with
    | nil => exact hne (String.toList_eq_nil_iff.mp hsl)
    | cons c cs' =>
      rw [hsl] at h hhead
      have hc : 'L' = c := (List.cons_prefix_cons.mp h).1
      exact hhead (hc ▸ rfl)
  have hhere : (command "Leftrightarrow").isPrefixOf (command s ++ cs) = false := by
    rw [Bool.eq_false_iff]
    exact fun h => hno (List.isPrefixOf_iff_prefix.mp h)
  calc arrows (command s ++ cs)
      = (if (command "Leftrightarrow").isPrefixOf (command s ++ cs) then 1 else 0) +
          arrows (s.toList ++ cs) := rfl
    _ = arrows cs := by
        rw [hhere, arrows_append_of_not_mem hslash]
        simp

/-- The text begins with no end piece of the arrow's letters. -/
def Clear (cs : List Char) : Prop := ∀ v, v <:+ arrow → v ≠ [] → ¬ v <+: cs

theorem clear_cons (hc : c ∉ arrow) (cs : List Char) : Clear (c :: cs) := by
  intro v hv hne h
  cases v with
  | nil => exact hne rfl
  | cons d v =>
    have hd : d = c := (List.cons_prefix_cons.mp h).1
    exact hc (hv.subset (hd ▸ List.mem_cons_self))

/-- What counts for the arrows in a text: how many there are, and with which end pieces of an arrow
it begins. -/
structure SameArrows (cs ds : List Char) : Prop where
  begins : ∀ v, v <:+ arrow → (v <+: cs ↔ v <+: ds)
  count : arrows ds = arrows cs

theorem SameArrows.refl (cs : List Char) : SameArrows cs cs := ⟨fun _ _ => Iff.rfl, rfl⟩

theorem SameArrows.trans {es : List Char} (h : SameArrows cs ds) (h' : SameArrows ds es) :
    SameArrows cs es :=
  ⟨fun v hv => (h.begins v hv).trans (h'.begins v hv), h'.count.trans h.count⟩

theorem SameArrows.of_clear (h : Clear cs) (h' : Clear ds) (hcount : arrows ds = arrows cs) :
    SameArrows cs ds := by
  refine ⟨fun v hv => ?_, hcount⟩
  by_cases hne : v = []
  · subst hne
    simp
  · exact iff_of_false (h v hv hne) (h' v hv hne)

theorem SameArrows.cons (h : SameArrows cs ds) (c : Char) : SameArrows (c :: cs) (c :: ds) := by
  constructor
  · intro v hv
    cases v with
    | nil => simp
    | cons d v =>
      have htail := h.begins v ((List.suffix_cons d v).trans hv)
      rw [List.cons_prefix_cons, List.cons_prefix_cons, htail]
  · have hhere : (command "Leftrightarrow").isPrefixOf (c :: ds) =
        (command "Leftrightarrow").isPrefixOf (c :: cs) := by
      rw [Bool.eq_iff_iff, List.isPrefixOf_iff_prefix, List.isPrefixOf_iff_prefix, command,
        List.cons_prefix_cons, List.cons_prefix_cons]
      exact and_congr_right fun _ => (h.begins arrow List.suffix_rfl).symm
    have hcount := h.count
    simp only [arrows, occurrences, hhere] at hcount ⊢
    omega

/-! What a rule replaces, and the arrows around it and in it. -/

theorem clear_of_class {p : Char → Bool} (hp : arrow.any p = false) (hc : p c = true)
    (cs : List Char) : Clear (c :: cs) := by
  apply clear_cons
  intro hmem
  rw [List.any_eq_true.mpr ⟨c, hmem, hc⟩] at hp
  cases hp

theorem IsOperand.clear (h : IsOperand x) (cs : List Char) : Clear (x ++ cs) := by
  cases h with
  | number hne hdigits =>
    cases x with
    | nil => exact absurd rfl hne
    | cons d ds => exact clear_of_class (by decide) (hdigits d List.mem_cons_self) (ds ++ cs)
  | bracketed body => exact clear_cons (by decide) _

theorem IsOperand.arrows_append (h : IsOperand x) (cs : List Char) :
    arrows (x ++ cs) = arrows x + arrows cs := by
  cases h with
  | number hne hdigits =>
    have hall := arrows_append_of_not_mem (not_mem_of_class (by decide) hdigits)
    have hx := hall []
    rw [List.append_nil] at hx
    rw [hall, hx]
    simp [arrows, occurrences]
  | bracketed body =>
    have hclose : ∀ ds, arrows ('(' :: body ++ [')'] ++ ds) = arrows body + arrows ds := by
      intro ds
      have hopen := arrows_append_of_not_mem (x := ['(']) (by decide) (body ++ ')' :: ds)
      have hbody := arrows_append_cons (y := ')') (by decide) body ds
      rw [← hbody, ← hopen]
      simp
    have hx := hclose []
    rw [List.append_nil] at hx
    rw [hclose, hx]
    simp [arrows, occurrences]

theorem clear_command (s : String) (cs : List Char) : Clear (command s ++ cs) :=
  clear_cons (by decide) (s.toList ++ cs)

namespace Rule

theorem sameArrows_fraction {num den gap gap' : List Char} (hnum : IsOperand num)
    (hden : IsOperand den) (hgap : ∀ c ∈ gap, Text.isBlank c = true)
    (hgap' : ∀ c ∈ gap', Text.isBlank c = true) (hc : arrows ds = arrows cs) :
    SameArrows (num ++ ((gap ++ '/' :: gap') ++ den) ++ cs)
      (command "frac" ++ (braced num ++ braced den) ++ ds) := by
  have hold : arrows (num ++ ((gap ++ '/' :: gap') ++ den) ++ cs) =
      arrows num + (arrows den + arrows cs) := by
    rw [List.append_assoc, hnum.arrows_append, List.append_assoc,
      arrows_append_of_not_mem (not_mem_gaps (by decide) (by decide) hgap hgap'),
      hden.arrows_append]
  have hnew : arrows (command "frac" ++ (braced num ++ braced den) ++ ds) =
      arrows num + (arrows den + arrows ds) := by
    rw [List.append_assoc, arrows_command (by decide) (by decide) (by decide),
      List.append_assoc, arrows_braced, arrows_braced]
  refine .of_clear ?_ ?_ ?_
  · rw [List.append_assoc]
    exact hnum.clear _
  · rw [List.append_assoc]
    exact clear_command _ _
  · rw [hold, hnew, hc]

/-- The letter in front of the power stays, so it may be the last one of an arrow. -/
theorem sameArrows_power {digits : List Char} (hdigits : ∀ d ∈ digits, Text.isDigit d = true)
    (hc : arrows ds = arrows cs) (c : Char) :
    SameArrows (c :: '^' :: (digits ++ cs)) (c :: '^' :: (braced digits ++ ds)) := by
  have hall := arrows_append_of_not_mem (not_mem_of_class (by decide) hdigits)
  have hnone : arrows digits = 0 := by simpa [arrows, occurrences] using hall []
  have hcaret : ∀ es, arrows ('^' :: es) = arrows es :=
    arrows_append_of_not_mem (x := ['^']) (by decide)
  refine .cons (.of_clear (clear_cons (by decide) _) (clear_cons (by decide) _) ?_) c
  rw [hcaret, hcaret, arrows_braced, hall, hnone, hc, Nat.zero_add]

theorem sameArrows_root {body : List Char} (hw : w.map Text.smallLatin = "sqrt(".toList)
    (hc : arrows ds = arrows cs) :
    SameArrows (w ++ (body ++ [')']) ++ cs) (command "sqrt" ++ braced body ++ ds) := by
  have hslash : '\\' ∉ w := not_mem_of_map_smallLatin (by decide) hw (by decide)
  have hold : arrows (w ++ (body ++ [')']) ++ cs) = arrows body + arrows cs := by
    rw [List.append_assoc, arrows_append_of_not_mem hslash, List.append_assoc]
    exact arrows_append_cons (by decide) body cs
  have hnew : arrows (command "sqrt" ++ braced body ++ ds) = arrows body + arrows ds := by
    rw [List.append_assoc, arrows_command (by decide) (by decide) (by decide), arrows_braced]
  refine .of_clear ?_ ?_ ?_
  · cases w with
    | nil => cases hw
    | cons d w =>
      have hd : Text.smallLatin d = 's' := (List.cons.inj hw).1
      have hletters : arrow.any (fun e => Text.smallLatin e = 's') = false := by decide
      exact clear_of_class hletters (decide_eq_true hd) _
  · rw [List.append_assoc]
    exact clear_command _ _
  · rw [hold, hnew, hc]

theorem sameArrows_product {gap gap' : List Char} (hgap : ∀ c ∈ gap, Text.isBlank c = true)
    (hgap' : ∀ c ∈ gap', Text.isBlank c = true) (hc : arrows ds = arrows cs) :
    SameArrows (gap ++ '*' :: gap' ++ cs) (' ' :: command "cdot" ++ [' '] ++ ds) := by
  have hspace : ∀ es, arrows (' ' :: es) = arrows es :=
    arrows_append_of_not_mem (x := [' ']) (by decide)
  have hnew : arrows (' ' :: command "cdot" ++ [' '] ++ ds) = arrows ds := by
    rw [List.append_assoc, List.cons_append, hspace,
      arrows_command (by decide) (by decide) (by decide)]
    exact hspace ds
  refine .of_clear ?_ (clear_cons (by decide) _) ?_
  · cases gap with
    | nil => exact clear_cons (by decide) _
    | cons d gap => exact clear_of_class (by decide) (hgap d List.mem_cons_self) _
  · rw [arrows_append_of_not_mem (not_mem_gaps (by decide) (by decide) hgap hgap'), hnew, hc]

/-- The fixed text that the rule recognises can be taken for no end piece of the arrow's letters,
and what it writes begins with another letter than the arrow. -/
def Spares : Rule → Prop
  | .word w s | .sign w s =>
    (∀ v ∈ arrow.tails, v ≠ [] → ¬ v.map Text.smallLatin <+: w.toList ∧
      ¬ w.toList <+: v.map Text.smallLatin) ∧ s ≠ "" ∧ s.toList.head? ≠ some 'L'
  | _ => True

instance : DecidablePred Spares
  | .word w s | .sign w s => inferInstanceAs (Decidable ((∀ v ∈ arrow.tails, v ≠ [] →
      ¬ v.map Text.smallLatin <+: w.toList ∧ ¬ w.toList <+: v.map Text.smallLatin) ∧ s ≠ "" ∧
      s.toList.head? ≠ some 'L'))
  | .fraction | .power | .root | .product => isTrue trivial

theorem spares_of_mem_dropLast : ∀ r ∈ rules.dropLast, r.Spares := by decide

theorem Spares.clear {w s : String} (h : (sign w s).Spares)
    (hold : old.map Text.smallLatin = w.toList) (cs : List Char) : Clear (old ++ cs) := by
  intro v hv hne hprefix
  obtain ⟨hshort, hlong⟩ := h.1 v ((List.mem_tails v arrow).mpr hv) hne
  rcases List.prefix_or_prefix_of_prefix hprefix (List.prefix_append old cs) with hv | hv
  · exact hshort (hold ▸ hv.map Text.smallLatin)
  · exact hlong (hold ▸ hv.map Text.smallLatin)

theorem Replaces.sameArrows (h : r.Replaces old new) (hr : r.Apt) (hs : r.Spares)
    (hc : arrows ds = arrows cs) : SameArrows (old ++ cs) (new ++ ds) := by
  cases h with
  | fraction hnum hden hgap hgap' => exact sameArrows_fraction hnum hden hgap hgap' hc
  | power _ hdigits => exact sameArrows_power hdigits hc _
  | root hw => exact sameArrows_root hw hc
  | word hold | sign hold =>
    have hslash : '\\' ∉ _ := not_mem_of_map_smallLatin (by decide) hold hr.2.1.1
    refine .of_clear (Spares.clear hs hold cs) (clear_command _ _) ?_
    rw [arrows_append_of_not_mem hslash, arrows_command hr.2.2 hs.2.1 hs.2.2, hc]
  | product hgap hgap' => exact sameArrows_product hgap hgap' hc

theorem Swept.sameArrows (h : r.Swept cs ds) (hr : r.Apt) (hs : r.Spares) : SameArrows cs ds := by
  induction h with
  | nil => exact .refl []
  | @keep prev c cs ds _ _ ih => exact ih.cons c
  | replace h _ ih => exact h.sameArrows hr hs ih.count

end Rule

theorem sameArrows_convertChars (cs : List Char) : SameArrows cs (convertChars cs) := by
  rw [convertChars_eq]
  refine sweepAll_preserves apt_of_mem_dropLast (fun r hr ds es hs hds => ?_) (.refl cs)
  exact hds.trans (hs.sameArrows (apt_of_mem_dropLast r hr) (Rule.spares_of_mem_dropLast r hr))

/-- The conversion leaves none of the signs of two characters, but writes no double arrow, whatever
signs `<=>` there are: the text has as many of them as before. -/
theorem convert_keeps_double_arrows (s : String) :
    occurrences "\\Leftrightarrow".toList (convert s).toList =
      occurrences "\\Leftrightarrow".toList s.toList ∧
    ∀ w ∈ ["<=", ">=", "!=", "->", "<-"], ¬ w.toList <:+: (convert s).toList := by
  have hconvert : (convert s).toList = convertChars s.toList := String.toList_ofList
  rw [hconvert]
  refine ⟨(sameArrows_convertChars s.toList).count, ?_⟩
  rw [convertChars_eq]
  simp only [List.forall_mem_cons, List.not_mem_nil, false_implies, forall_const, and_true]
  exact ⟨not_infix_dropLast (s := "leq") (by decide) rfl (by decide) (by decide) _,
    not_infix_dropLast (s := "geq") (by decide) rfl (by decide) (by decide) _,
    not_infix_dropLast (s := "neq") (by decide) rfl (by decide) (by decide) _,
    not_infix_dropLast (s := "rightarrow") (by decide) rfl (by decide) (by decide) _,
    not_infix_dropLast (s := "leftarrow") (by decide) rfl (by decide) (by decide) _⟩

theorem convert_keeps_double_arrows_chained :
    let s := "a<=>b>=c<->d\\Leftrightarrow e"
    occurrences "\\Leftrightarrow".toList (convert s).toList = 1 ∧
      "<=" ∈ ["<=", ">=", "!=", "->", "<-"] ∧ ¬ "<=".toList <:+: (convert s).toList := by
  intro s
  obtain ⟨hcount, hnone⟩ := convert_keeps_double_arrows s
  have hs : occurrences "\\Leftrightarrow".toList s.toList = 1 := by decide
  have hmem : "<=" ∈ ["<=", ">=", "!=", "->", "<-"] := by decide
  exact ⟨hcount.trans hs, hmem, hnone "<=" hmem⟩

/-- The sign `<=>` is there, but the arrow is not written for it. -/
theorem double_arrow_is_shadowed :
    let s := "p <=> q"
    convert s = "p \\leq> q" ∧ occurrences "<=>".toList s.toList = 1 ∧
      occurrences "\\Leftrightarrow".toList s.toList = 0 ∧
      occurrences "\\Leftrightarrow".toList (convert s).toList ≠
        occurrences "\\Leftrightarrow".toList s.toList + occurrences "<=>".toList s.toList := by
  decide +kernel

end LogicTutor.Latex
