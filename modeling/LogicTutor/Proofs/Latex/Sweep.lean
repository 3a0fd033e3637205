import Mathlib.Data.List.Infix
import LogicTutor.Latex

/-! What a rule makes of a text. The text falls into characters that stay and pieces that are
replaced, and each kind of rule replaces pieces of one shape. -/
namespace LogicTutor

namespace Text

variable {c x : Char}

/-- Only a small letter is the small form of another character. -/
theorem eq_of_smallLatin (hx : x.isLower = false) (h : smallLatin c = x) : c = x := by
  have hlower : ∀ n < 128, (Char.ofNat n).isUpper = true → (Char.ofNat n).toLower.isLower = true :=
    by decide
  unfold smallLatin at h
  split at h
  · subst h
    cases hx
  split at h
  · subst h
    cases hx
  split at h
  · subst h
    cases hx
  by_cases hc : c.isUpper = true
  · have hascii : c.toNat < 128 := by
      have hz : c.toNat ≤ 'Z'.toNat := UInt32.le_iff_toNat_le.mp (of_decide_eq_true hc).2
      exact Nat.lt_of_le_of_lt hz (by decide)
    have hup := hlower c.toNat hascii
    rw [Char.ofNat_toNat, h, hx] at hup
    exact absurd (hup hc) (by decide)
  · have hsame : c.toLower = c := dif_neg fun hr => hc (decide_eq_true hr)
    exact hsame.symm.trans h

theorem eq_of_map_smallLatin {old w : List Char} (hw : w.any Char.isLower = false)
    (h : old.map smallLatin = w) : old = w := by
  induction old generalizing w with
  | nil => exact h
  | cons c old ih =>
    cases w with
    | nil => cases h
    | cons x w =>
      obtain ⟨hc, hold⟩ := List.cons.inj h
      rw [List.any_cons, Bool.or_eq_false_iff] at hw
      rw [eq_of_smallLatin hw.1 hc, ih hw.2 hold]

end Text

namespace Latex

variable {cs ds old new rest w : List Char} {prev : Option Char}

theorem exists_of_after? (h : after? w cs = some rest) :
    ∃ old, cs = old ++ rest ∧ old.map Text.smallLatin = w := by
  induction w generalizing cs with
  | nil =>
    cases h
    exact ⟨[], rfl, rfl⟩
  | cons x w ih =>
    cases cs with
    | nil => cases h
    | cons c cs =>
      simp only [after?] at h
      split at h
      next hc =>
        obtain ⟨old, rfl, hold⟩ := ih h
        exact ⟨c :: old, rfl, by rw [List.map_cons, hc, hold]⟩
      next => cases h

/-- A sign that is no letter stands for itself. -/
theorem eq_of_after? {x : Char} (hx : x.isLower = false) (h : after? [x] cs = some rest) :
    cs = x :: rest := by
  obtain ⟨old, rfl, hold⟩ := exists_of_after? h
  rw [Text.eq_of_map_smallLatin (by simp [hx]) hold]
  rfl

/-- A number or a text in brackets. -/
inductive IsOperand : List Char → Prop where
  | number {ds : List Char} (hne : ds ≠ []) (h : ∀ d ∈ ds, Text.isDigit d = true) : IsOperand ds
  | bracketed (body : List Char) : IsOperand ('(' :: body ++ [')'])

theorem isOperand_of_operand? (h : operand? cs = some (new, rest)) :
    cs = new ++ rest ∧ IsOperand new := by
  have hdigits := List.takeWhile_append_dropWhile (p := Text.isDigit) (l := cs)
  unfold operand? at h
  rw [List.span_eq_takeWhile_dropWhile] at h
  split at h
  next d ds left hspan =>
    obtain ⟨htake, rfl⟩ := Prod.mk.inj hspan
    cases h
    rw [htake] at hdigits
    have hall : ∀ e ∈ d :: ds, Text.isDigit e = true :=
      htake ▸ List.all_eq_true.mp List.all_takeWhile
    exact ⟨hdigits.symm, .number (List.cons_ne_nil d ds) hall⟩
  next inner hspan =>
    obtain ⟨htake, hdrop⟩ := Prod.mk.inj hspan
    rw [htake, hdrop, List.nil_append] at hdigits
    have hinner := List.takeWhile_append_dropWhile (p := fun c => decide (c ≠ ')')) (l := inner)
    rw [List.span_eq_takeWhile_dropWhile] at h
    split at h
    next c body left hbody =>
      obtain ⟨hc, hleft⟩ := Prod.mk.inj hbody
      cases h
      rw [hc, hleft] at hinner
      refine ⟨?_, .bracketed (c :: body)⟩
      rw [← hdigits, ← hinner]
      simp
    next => cases h
  next => cases h

/-- The blanks around a sign. -/
theorem exists_of_dropWhile_isBlank (cs : List Char) :
    ∃ gap, cs = gap ++ cs.dropWhile Text.isBlank ∧ ∀ c ∈ gap, Text.isBlank c = true :=
  ⟨cs.takeWhile Text.isBlank, List.takeWhile_append_dropWhile.symm,
    List.all_eq_true.mp List.all_takeWhile⟩

/-! Characters that a piece of a text cannot have. -/

section NotMem

variable {x : Char}

theorem not_mem_of_class {p : Char → Bool} (hp : p x = false) (h : ∀ c ∈ cs, p c = true) :
    x ∉ cs := by
  intro hx
  have htrue := h x hx
  rw [hp] at htrue
  cases htrue

theorem not_mem_gaps {gap gap' : List Char} {y : Char} (hx : Text.isBlank x = false) (hy : x ≠ y)
    (hgap : ∀ c ∈ gap, Text.isBlank c = true) (hgap' : ∀ c ∈ gap', Text.isBlank c = true) :
    x ∉ gap ++ y :: gap' := by
  simp [not_mem_of_class hx hgap, not_mem_of_class hx hgap', hy]

theorem not_mem_of_map_smallLatin (hx : Text.smallLatin x = x)
    (h : old.map Text.smallLatin = w) (hw : x ∉ w) : x ∉ old := by
  intro hmem
  have hmap := List.mem_map_of_mem (f := Text.smallLatin) hmem
  rw [hx, h] at hmap
  exact hw hmap

theorem not_mem_command {s : String} (hslash : x ≠ '\\') (hx : x.isAlpha = false)
    (hs : s.toList.all Char.isAlpha = true) : x ∉ command s := by
  simp [command, hslash, not_mem_of_class hx (List.all_eq_true.mp hs)]

end NotMem

namespace Rule

/-- The rule puts the second text in place of the first. -/
inductive Replaces : Rule → List Char → List Char → Prop where
  | fraction {num den gap gap' : List Char} (hnum : IsOperand num) (hden : IsOperand den)
      (hgap : ∀ c ∈ gap, Text.isBlank c = true) (hgap' : ∀ c ∈ gap', Text.isBlank c = true) :
      Replaces .fraction (num ++ ((gap ++ '/' :: gap') ++ den))
        (command "frac" ++ (braced num ++ braced den))
  | power {c : Char} {ds : List Char} (hc : Text.isLatin c = true)
      (hds : ∀ d ∈ ds, Text.isDigit d = true) :
      Replaces .power (c :: '^' :: ds) (c :: '^' :: braced ds)
  | root {w body : List Char} (hw : w.map Text.smallLatin = "sqrt(".toList) :
      Replaces .root (w ++ (body ++ [')'])) (command "sqrt" ++ braced body)
  | word {w s : String} {old : List Char} (hold : old.map Text.smallLatin = w.toList) :
      Replaces (.word w s) old (command s)
  | sign {w s : String} {old : List Char} (hold : old.map Text.smallLatin = w.toList) :
      Replaces (.sign w s) old (command s)
  | product {gap gap' : List Char} (hgap : ∀ c ∈ gap, Text.isBlank c = true)
      (hgap' : ∀ c ∈ gap', Text.isBlank c = true) :
      Replaces .product (gap ++ '*' :: gap') (' ' :: command "cdot" ++ [' '])

theorem exists_replaces_of_write? {r : Rule} (h : r.write? prev cs = some (new, rest)) :
    ∃ old, cs = old ++ rest ∧ r.Replaces old new := by
  cases r with
  | fraction =>
    simp only [write?, Option.bind_eq_bind, Option.bind_eq_some_iff, Option.pure_def] at h
    obtain ⟨⟨num, behind⟩, hfirst, past, hslash, ⟨den, left⟩, hsecond, hnew⟩ := h
    cases hnew
    obtain ⟨rfl, hnum⟩ := isOperand_of_operand? hfirst
    obtain ⟨gap, hgap, hblank⟩ := exists_of_dropWhile_isBlank behind
    obtain ⟨gap', hgap', hblank'⟩ := exists_of_dropWhile_isBlank past
    rw [eq_of_after? (by decide) hslash] at hgap
    obtain ⟨hpast, hden⟩ := isOperand_of_operand? hsecond
    rw [hpast] at hgap'
    refine ⟨num ++ ((gap ++ '/' :: gap') ++ den), ?_, ?_⟩
    · rw [hgap, hgap']
      simp
    · have hreplaces := Replaces.fraction hnum hden hblank hblank'
      rwa [← List.append_assoc (command "frac")] at hreplaces
  | power =>
    simp only [write?] at h
    split at h
    next c left =>
      rw [List.span_eq_takeWhile_dropWhile] at h
      split at h
      next d ds left' hc hspan =>
        obtain ⟨htake, rfl⟩ := Prod.mk.inj hspan
        cases h
        have hall : ∀ e ∈ d :: ds, Text.isDigit e = true :=
          htake ▸ List.all_eq_true.mp List.all_takeWhile
        refine ⟨c :: '^' :: d :: ds, ?_, .power hc hall⟩
        rw [← htake]
        simp
      next => cases h
    next => cases h
  | root =>
    simp only [write?, Option.bind_eq_bind, Option.bind_eq_some_iff, Option.pure_def] at h
    obtain ⟨inner, hafter, h⟩ := h
    obtain ⟨w, rfl, hw⟩ := exists_of_after? hafter
    have hinner := List.takeWhile_append_dropWhile (p := fun c => decide (c ≠ ')')) (l := inner)
    rw [List.span_eq_takeWhile_dropWhile] at h
    split at h
    next c body left hbody =>
      obtain ⟨hc, hleft⟩ := Prod.mk.inj hbody
      cases h
      rw [hc, hleft] at hinner
      refine ⟨w ++ (c :: body ++ [')']), ?_, .root hw⟩
      rw [← hinner]
      simp
    next => cases h
  | word w s =>
    simp only [write?, Option.bind_eq_bind, Option.bind_eq_some_iff, Option.pure_def] at h
    obtain ⟨left, hafter, h⟩ := h
    obtain ⟨old, rfl, hold⟩ := exists_of_after? hafter
    split at h
    · cases h
    · cases h
      exact ⟨old, rfl, .word hold⟩
  | sign w s =>
    simp only [write?, Option.bind_eq_bind, Option.bind_eq_some_iff, Option.pure_def] at h
    obtain ⟨left, hafter, h⟩ := h
    obtain ⟨old, rfl, hold⟩ := exists_of_after? hafter
    cases h
    exact ⟨old, rfl, .sign hold⟩
  | product =>
    simp only [write?, Option.bind_eq_bind, Option.bind_eq_some_iff, Option.pure_def] at h
    obtain ⟨past, hstar, h⟩ := h
    cases h
    obtain ⟨gap, hgap, hblank⟩ := exists_of_dropWhile_isBlank cs
    obtain ⟨gap', hgap', hblank'⟩ := exists_of_dropWhile_isBlank past
    rw [eq_of_after? (by decide) hstar] at hgap
    refine ⟨gap ++ '*' :: gap', ?_, .product hblank hblank'⟩
    rw [hgap]
    nth_rewrite 1 [hgap']
    simp

/-- A fixed text that is recognised is not empty and has no backslash or brace; what is written for
it is a backslash with letters. -/
def Apt : Rule → Prop
  | .word w s | .sign w s => w ≠ "" ∧
    ('\\' ∉ w.toList ∧ '\x7b' ∉ w.toList ∧ '\x7d' ∉ w.toList) ∧ s.toList.all Char.isAlpha = true
  | _ => True

instance : DecidablePred Apt
  | .word w s | .sign w s => inferInstanceAs (Decidable (w ≠ "" ∧
      ('\\' ∉ w.toList ∧ '\x7b' ∉ w.toList ∧ '\x7d' ∉ w.toList) ∧
      s.toList.all Char.isAlpha = true))
  | .fraction | .power | .root | .product => isTrue trivial

theorem apt_of_mem_rules : ∀ r ∈ rules, r.Apt := by decide

theorem Replaces.ne_nil {r : Rule} (h : r.Replaces old new) (hr : r.Apt) : old ≠ [] := by
  cases h with
  | fraction => simp
  | power => simp
  | root => simp
  | word hold | sign hold =>
    rintro rfl
    exact hr.1 (String.toList_eq_nil_iff.mp hold.symm)
  | product => simp

/-- A text and what a sweep of the rule makes of it, piece by piece. -/
inductive Swept (r : Rule) : List Char → List Char → Prop where
  | nil : Swept r [] []
  | keep {prev : Option Char} {c : Char} {cs ds : List Char} (h : r.write? prev (c :: cs) = none)
      (hs : Swept r cs ds) : Swept r (c :: cs) (c :: ds)
  | replace {old new cs ds : List Char} (h : r.Replaces old new) (hs : Swept r cs ds) :
      Swept r (old ++ cs) (new ++ ds)

theorem exists_sweep_skip (r : Rule) (skipped rest : List Char) (prev : Option Char) :
    ∃ last, r.sweep skipped.length prev (skipped ++ rest) = r.sweep 0 last rest := by
  induction skipped generalizing prev with
  | nil => exact ⟨prev, rfl⟩
  | cons c skipped ih => exact ih (some c)

theorem swept_sweep {r : Rule} (hr : r.Apt) (prev : Option Char) (cs : List Char) :
    r.Swept cs (r.sweep 0 prev cs) := by
  -- A replaced piece takes more than one character away, so the induction is on the length.
  induction hn : cs.length using Nat.strongRecOn generalizing prev cs with
  | ind n ih =>
    subst hn
    cases cs with
    | nil => exact .nil
    | cons c cs =>
      rw [sweep]
      cases hw : r.write? prev (c :: cs) with
      | none => exact .keep hw (ih cs.length (Nat.lt_succ_self _) _ _ rfl)
      | some piece =>
        obtain ⟨new, rest⟩ := piece
        obtain ⟨old, hold, hreplaces⟩ := exists_replaces_of_write? hw
        cases old with
        | nil => exact absurd rfl (hreplaces.ne_nil hr)
        | cons c' old =>
          rw [List.cons_append, List.cons.injEq] at hold
          obtain ⟨rfl, rfl⟩ := hold
          obtain ⟨last, hlast⟩ := exists_sweep_skip r old rest (some c)
          have hskip : (old ++ rest).length - rest.length = old.length := by simp
          simp only [hskip, hlast]
          have hshort : rest.length < (c :: (old ++ rest)).length := by
            rw [List.length_cons, List.length_append]
            omega
          exact .replace hreplaces (ih rest.length hshort last rest rfl)

end Rule

/-- The text after the sweeps of the rules, one after the other. -/
def sweepAll (rs : List Rule) (cs : List Char) : List Char :=
  rs.foldl (fun cs r => r.sweep 0 none cs) cs

/-- What the sweep of each rule preserves is preserved by them all. -/
theorem sweepAll_preserves {P : List Char → Prop} {rs : List Rule} (hrs : ∀ r ∈ rs, r.Apt)
    (hstep : ∀ r ∈ rs, ∀ cs ds, r.Swept cs ds → P cs → P ds) (hcs : P cs) :
    P (sweepAll rs cs) := by
  apply List.foldlRecOn rs _ hcs
  intro ds hds r hr
  exact hstep r hr ds _ (Rule.swept_sweep (hrs r hr) none ds) hds

end Latex

end LogicTutor
