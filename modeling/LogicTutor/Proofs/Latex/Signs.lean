import LogicTutor.Proofs.Latex.Sweep

/-! Signs of several characters. What the rules write holds no such sign and joins no two
characters to one, so a sign does not come back after the sweep of its rule. For the same reason the
last rule finds nothing: the beginning of `<=>` has been taken for `<=` long before. -/
namespace LogicTutor.Latex

variable {cs ds old new x : List Char} {a b c : Char} {r : Rule}

/-! Two characters side by side. -/

/-- A character that is in no command, is no space and has no other form. -/
def Unwritten (c : Char) : Prop :=
  c ≠ '\\' ∧ c ≠ ' ' ∧ c.isAlpha = false ∧ Text.smallLatin c = c

instance : DecidablePred Unwritten := fun c => inferInstanceAs (Decidable (c ≠ '\\' ∧ c ≠ ' ' ∧
  c.isAlpha = false ∧ Text.smallLatin c = c))

namespace Rule

/-- The rule writes a command, perhaps between spaces, and nothing that it has found. -/
def Terse : Rule → Prop
  | .fraction | .power | .root => False
  | .word _ _ | .sign _ _ | .product => True

instance : DecidablePred Terse
  | .fraction | .power | .root => isFalse id
  | .word _ _ | .sign _ _ | .product => isTrue trivial

theorem Replaces.not_mem (h : r.Replaces old new) (hr : r.Apt) (ht : r.Terse)
    (ha : Unwritten a) : a ∉ new := by
  obtain ⟨hslash, hspace, halpha, -⟩ := ha
  cases h with
  | fraction => exact ht.elim
  | power => exact ht.elim
  | root => exact ht.elim
  | word | sign => exact not_mem_command hslash halpha hr.2.2
  | product =>
    have hcdot : a ∉ command "cdot" := not_mem_command hslash halpha (by decide)
    simp [hspace, hcdot]

theorem Replaces.exists_cons (h : r.Replaces old new) : ∃ c new', new = c :: new' := by
  cases h <;> exact ⟨_, _, rfl⟩

/-- An unwritten character that begins the new text has begun the old one. -/
theorem Swept.head?_eq (h : r.Swept cs ds) (hr : r.Apt) (ht : r.Terse) (hb : Unwritten b)
    (hd : ds.head? = some b) : cs.head? = some b := by
  cases h with
  | nil => exact hd
  | keep => exact hd
  | replace h =>
    have hnot := h.not_mem hr ht hb
    obtain ⟨c, new', rfl⟩ := h.exists_cons
    have hc : c = b := Option.some.inj hd
    exact absurd (hc ▸ List.mem_cons_self) hnot

end Rule

theorem pair_prefix_cons : [a, b] <+: c :: cs ↔ a = c ∧ cs.head? = some b := by
  rw [List.cons_prefix_cons]
  cases cs with
  | nil => simp
  | cons d cs => simp [List.cons_prefix_cons, eq_comm]

theorem pair_infix_append (ha : a ∉ x) (h : [a, b] <:+: x ++ cs) : [a, b] <:+: cs := by
  induction x with
  | nil => exact h
  | cons c x ih =>
    obtain ⟨hc, hx⟩ := not_or.mp (fun hmem => ha (List.mem_cons.mpr hmem))
    rcases List.infix_cons_iff.mp h with h | h
    · exact absurd (pair_prefix_cons.mp h).1 hc
    · exact ih hx h

namespace Rule

/-- No sweep brings two unwritten characters together. -/
theorem Swept.pair (h : r.Swept cs ds) (hr : r.Apt) (ht : r.Terse) (ha : Unwritten a)
    (hb : Unwritten b) (hd : [a, b] <:+: ds) : [a, b] <:+: cs := by
  induction h with
  | nil => exact hd
  | @keep prev c cs ds _ hs ih =>
    rw [List.infix_cons_iff, pair_prefix_cons] at hd ⊢
    rcases hd with ⟨hac, hd⟩ | hd
    · exact Or.inl ⟨hac, hs.head?_eq hr ht hb hd⟩
    · exact Or.inr (ih hd)
  | @replace old new cs ds h _ ih =>
    have hcs := ih (pair_infix_append (h.not_mem hr ht ha) hd)
    exact hcs.trans (List.suffix_append old cs).isInfix

/-- The sweep for a sign of two characters leaves none. -/
theorem Swept.no_pair {w s : String} (h : (sign w s).Swept cs ds) (hr : (sign w s).Apt)
    (hw : w.toList = [a, b]) (ha : Unwritten a) (hb : Unwritten b) : ¬ [a, b] <:+: ds := by
  intro hd
  induction h with
  | nil => simp at hd
  | @keep prev c cs ds hwrite hs ih =>
    rw [List.infix_cons_iff, pair_prefix_cons] at hd
    rcases hd with ⟨rfl, hd⟩ | hd
    · -- The sign stood here before the sweep, so it would have been replaced.
      have hcs := hs.head?_eq hr trivial hb hd
      cases cs with
      | nil => cases hcs
      | cons d cs =>
        obtain rfl : d = b := Option.some.inj hcs
        simp [write?, hw, after?, ha.2.2.2, hb.2.2.2] at hwrite
    · exact ih hd
  | replace h _ ih => exact ih (pair_infix_append (h.not_mem hr trivial ha) hd)

/-- A sign that does not stand in the text leaves it as it is. -/
theorem Swept.eq_self {w s : String} (h : (sign w s).Swept cs ds)
    (hw : w.toList.any Char.isLower = false) (hno : ¬ w.toList <:+: cs) : ds = cs := by
  induction h with
  | nil => rfl
  | @keep prev c cs ds _ _ ih =>
    rw [ih fun hcs => hno (List.infix_cons_iff.mpr (Or.inr hcs))]
  | @replace old new cs ds h _ _ =>
    cases h with
    | sign hold =>
      rw [Text.eq_of_map_smallLatin hw hold] at hno
      exact absurd (List.prefix_append _ cs).isInfix hno

end Rule

/-- After the sweeps of rules that write only commands, no sign of two characters is left that one
of them is for. -/
theorem not_infix_sweepAll {rs : List Rule} {w s : String} (hrs : ∀ r ∈ rs, r.Apt)
    (hterse : ∀ r ∈ rs, r.Terse) (hmem : .sign w s ∈ rs) (hw : w.toList = [a, b])
    (ha : Unwritten a) (hb : Unwritten b) (cs : List Char) : ¬ [a, b] <:+: sweepAll rs cs := by
  induction rs generalizing cs with
  | nil => cases hmem
  | cons r rs ih =>
    obtain ⟨hr, hapts⟩ := List.forall_mem_cons.mp hrs
    have hterses := (List.forall_mem_cons.mp hterse).2
    rcases List.mem_cons.mp hmem with rfl | hmem
    · have hno := (Rule.swept_sweep hr none cs).no_pair hr hw ha hb
      have hstep : ∀ r ∈ rs, ∀ cs ds, r.Swept cs ds → ¬ [a, b] <:+: cs → ¬ [a, b] <:+: ds :=
        fun r hr cs ds hs hcs hds => hcs (hs.pair (hapts r hr) (hterses r hr) ha hb hds)
      exact sweepAll_preserves hapts hstep hno
    · exact ih hapts hterses hmem _

theorem sweepAll_append (rs rs' : List Rule) (cs : List Char) :
    sweepAll (rs ++ rs') cs = sweepAll rs' (sweepAll rs cs) :=
  List.foldl_append

theorem apt_of_mem_dropLast (r : Rule) (hr : r ∈ rules.dropLast) : r.Apt :=
  Rule.apt_of_mem_rules r (List.mem_of_mem_dropLast hr)

/-- The first three rules write what they have found; the others do not. -/
theorem terse_of_mem_drop : ∀ r ∈ rules.dropLast.drop 3, r.Terse := by decide

theorem not_infix_dropLast {w s : String} (hmem : .sign w s ∈ rules.dropLast.drop 3)
    (hw : w.toList = [a, b]) (ha : Unwritten a) (hb : Unwritten b) (cs : List Char) :
    ¬ w.toList <:+: sweepAll rules.dropLast cs := by
  rw [hw, ← List.take_append_drop 3 rules.dropLast, sweepAll_append]
  exact not_infix_sweepAll (fun r hr => apt_of_mem_dropLast r (List.mem_of_mem_drop hr))
    terse_of_mem_drop hmem hw ha hb _

theorem rules_eq : rules = rules.dropLast ++ [.sign "<=>" "Leftrightarrow"] := by decide

/-- The last rule finds nothing: the first two characters of its sign are one of their own. -/
theorem convertChars_eq (cs : List Char) : convertChars cs = sweepAll rules.dropLast cs := by
  have hapt : (Rule.sign "<=>" "Leftrightarrow").Apt := by decide
  have hlast : convertChars cs =
      sweepAll [.sign "<=>" "Leftrightarrow"] (sweepAll rules.dropLast cs) := by
    rw [← sweepAll_append, ← rules_eq]
    rfl
  rw [hlast]
  apply (Rule.swept_sweep hapt none _).eq_self (by decide)
  intro hinfix
  have hno : ¬ "<=".toList <:+: sweepAll rules.dropLast cs :=
    not_infix_dropLast (s := "leq") (by decide) rfl (by decide) (by decide) cs
  exact hno ((List.prefix_append "<=".toList ['>']).isInfix.trans hinfix)

end LogicTutor.Latex
