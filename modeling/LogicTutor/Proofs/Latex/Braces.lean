import LogicTutor.Proofs.Latex.Sweep

/-! Balanced braces. A rule that writes braces puts a pair of them around a piece of the text, and
no rule takes a brace away. So a text is nowhere less deep in braces after a rule than it was before
it, and in the end as deep as before. -/
namespace LogicTutor.Latex

variable {cs ds es old new w : List Char} {c : Char}

/-- How many more braces the text opens than it closes. -/
def depth (cs : List Char) : Int := (cs.count '\x7b' : Int) - cs.count '\x7d'

/-- No brace is closed before it is opened, and all are closed in the end. -/
structure Balanced (cs : List Char) : Prop where
  nonneg : ∀ p, p <+: cs → 0 ≤ depth p
  closed : depth cs = 0

theorem balanced_iff :
    Balanced cs ↔ (∀ p ∈ cs.inits, 0 ≤ depth p) ∧ depth cs = 0 := by
  simp only [List.mem_inits]
  exact ⟨fun h => ⟨h.nonneg, h.closed⟩, fun h => ⟨h.1, h.2⟩⟩

instance : DecidablePred Balanced := fun _ => decidable_of_iff _ balanced_iff.symm

theorem depth_append (cs ds : List Char) : depth (cs ++ ds) = depth cs + depth ds := by
  simp only [depth, List.count_append]
  omega

/-- There is no brace in the text. -/
def Free (cs : List Char) : Prop := '\x7b' ∉ cs ∧ '\x7d' ∉ cs

instance : DecidablePred Free := fun cs => inferInstanceAs (Decidable ('\x7b' ∉ cs ∧ '\x7d' ∉ cs))

theorem Free.depth_eq (h : Free cs) : depth cs = 0 := by
  rw [depth, List.count_eq_zero_of_not_mem h.1, List.count_eq_zero_of_not_mem h.2]
  rfl

theorem free_gaps {gap gap' : List Char} (hc : Free [c]) (hgap : ∀ c ∈ gap, Text.isBlank c = true)
    (hgap' : ∀ c ∈ gap', Text.isBlank c = true) : Free (gap ++ c :: gap') :=
  ⟨not_mem_gaps (by decide) (fun h => hc.1 (List.mem_singleton.mpr h)) hgap hgap',
    not_mem_gaps (by decide) (fun h => hc.2 (List.mem_singleton.mpr h)) hgap hgap'⟩

theorem free_of_map_smallLatin (h : old.map Text.smallLatin = w) (hw : Free w) : Free old :=
  ⟨not_mem_of_map_smallLatin (by decide) h hw.1, not_mem_of_map_smallLatin (by decide) h hw.2⟩

theorem free_command {s : String} (hs : s.toList.all Char.isAlpha = true) : Free (command s) :=
  ⟨not_mem_command (by decide) (by decide) hs, not_mem_command (by decide) (by decide) hs⟩

/-- Wherever the second text is cut off, the first one can be cut off where it is no deeper; both
end at the same depth. -/
structure Deepens (old new : List Char) : Prop where
  depth_eq : depth new = depth old
  above : ∀ q, q <+: new → ∃ p, p <+: old ∧ depth p ≤ depth q

theorem Deepens.refl (cs : List Char) : Deepens cs cs :=
  ⟨rfl, fun q hq => ⟨q, hq, Int.le_refl _⟩⟩

theorem Deepens.trans (h : Deepens cs ds) (h' : Deepens ds es) : Deepens cs es := by
  refine ⟨h'.depth_eq.trans h.depth_eq, fun q hq => ?_⟩
  obtain ⟨p, hp, hle⟩ := h'.above q hq
  obtain ⟨o, ho, hle'⟩ := h.above p hp
  exact ⟨o, ho, Int.le_trans hle' hle⟩

theorem Deepens.append (h : Deepens old new) (h' : Deepens cs ds) :
    Deepens (old ++ cs) (new ++ ds) := by
  constructor
  · rw [depth_append, depth_append, h.depth_eq, h'.depth_eq]
  · intro q hq
    rcases List.prefix_or_prefix_of_prefix hq (List.prefix_append new ds) with hq' | hq'
    · obtain ⟨p, hp, hle⟩ := h.above q hq'
      exact ⟨p, hp.trans (List.prefix_append old cs), hle⟩
    · obtain ⟨t, rfl⟩ := hq'
      obtain ⟨p, hp, hle⟩ := h'.above t ((List.prefix_append_right_inj new).mp hq)
      refine ⟨old ++ p, (List.prefix_append_right_inj old).mpr hp, ?_⟩
      rw [depth_append, depth_append, h.depth_eq]
      omega

theorem deepens_of_free (h : Free old) (h' : Free new) : Deepens old new := by
  refine ⟨h'.depth_eq.trans h.depth_eq.symm, fun q hq => ⟨[], List.nil_prefix, ?_⟩⟩
  have hq : Free q := ⟨fun hmem => h'.1 (hq.subset hmem), fun hmem => h'.2 (hq.subset hmem)⟩
  rw [hq.depth_eq]
  decide

theorem deepens_braced (cs : List Char) : Deepens cs (braced cs) := by
  have hdepth : ∀ p, depth ('\x7b' :: p) = depth p + 1 := by
    intro p
    simp only [depth, List.count_cons]
    simp
    omega
  have hwhole : depth (braced cs) = depth cs := by
    rw [braced, List.cons_append, hdepth, depth_append]
    have : depth ['\x7d'] = -1 := by decide
    omega
  refine ⟨hwhole, fun q hq => ?_⟩
  rcases List.prefix_concat_iff.mp hq with rfl | hq
  · exact ⟨cs, List.prefix_rfl, Int.le_of_eq hwhole.symm⟩
  · rcases List.prefix_cons_iff.mp hq with rfl | ⟨p, rfl, hp⟩
    · exact ⟨[], List.nil_prefix, Int.le_refl _⟩
    · refine ⟨p, hp, ?_⟩
      rw [hdepth]
      omega

theorem Rule.Replaces.deepens {r : Rule} (h : r.Replaces old new) (hr : r.Apt) :
    Deepens old new := by
  cases h with
  | @fraction num den gap gap' _ _ hgap hgap' =>
    have hcommand : Deepens [] (command "frac") :=
      deepens_of_free (by decide) (free_command (by decide))
    have hslash : Deepens (gap ++ '/' :: gap') [] :=
      deepens_of_free (free_gaps (by decide) hgap hgap') (by decide)
    exact hcommand.append ((deepens_braced num).append (hslash.append (deepens_braced den)))
  | @power c ds => exact (Deepens.refl [c, '^']).append (deepens_braced ds)
  | @root w body hw =>
    have hcommand : Deepens w (command "sqrt") :=
      deepens_of_free (free_of_map_smallLatin hw (by decide)) (free_command (by decide))
    have hbracket : Deepens [')'] [] := deepens_of_free (by decide) (by decide)
    have hbody := (deepens_braced body).append hbracket
    rw [List.append_nil] at hbody
    exact hcommand.append hbody
  | word hold | sign hold =>
    exact deepens_of_free (free_of_map_smallLatin hold hr.2.1.2) (free_command hr.2.2)
  | product hgap hgap' => exact deepens_of_free (free_gaps (by decide) hgap hgap') (by decide)

theorem Rule.Swept.deepens {r : Rule} (h : r.Swept cs ds) (hr : r.Apt) : Deepens cs ds := by
  induction h with
  | nil => exact .refl []
  | @keep prev c cs ds _ _ ih => exact (Deepens.refl [c]).append ih
  | replace h _ ih => exact (h.deepens hr).append ih

theorem Balanced.deepens (h : Balanced cs) (hd : Deepens cs ds) : Balanced ds := by
  refine ⟨fun q hq => ?_, hd.depth_eq.trans h.closed⟩
  obtain ⟨p, hp, hle⟩ := hd.above q hq
  exact Int.le_trans (h.nonneg p hp) hle

/-- The conversion keeps braces balanced. -/
theorem convert_balanced {s : String} (h : Balanced s.toList) : Balanced (convert s).toList := by
  have hdeepens : Deepens s.toList (sweepAll rules s.toList) :=
    sweepAll_preserves Rule.apt_of_mem_rules
      (fun r hr cs ds hs hcs => hcs.trans (hs.deepens (Rule.apt_of_mem_rules r hr)))
      (.refl s.toList)
  rw [convert, String.toList_ofList]
  exact h.deepens hdeepens

/-- Braces that close in another piece of the text than they open in. -/
theorem convert_balanced_across :
    let s := "sqrt(\x7b)/sqrt(\x7d) (\x7b1)/(2\x7d)"
    Balanced s.toList ∧ Balanced (convert s).toList ∧
      convert s = "\\sqrt\x7b\x7b\x7d/\\sqrt\x7b\x7d\x7d \\frac\x7b(\x7b1)\x7d\x7b(2\x7d)\x7d" := by
  intro s
  have hs : Balanced s.toList := by decide
  exact ⟨hs, convert_balanced hs, by decide +kernel⟩

end LogicTutor.Latex
