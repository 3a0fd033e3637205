import LogicTutor.Proofs.Campus.Effect

/-! What actions do to the areas, the subareas and the questions of a campus, told once with what
was checked before. What is told here and in the effects on the register is all that happens. -/
namespace LogicTutor

open Campus

/-- The classes, the students with their enrollments, and the contents are those of `c`. So are the
records and the source of identifiers, of which none is given back. -/
structure Campus.SameRegister (c c' : Campus) : Prop where
  classes : c'.classes = c.classes
  students : c'.students = c.students
  enrollments : c'.enrollments = c.enrollments
  contents : c'.contents = c.contents
  records : c'.records = c.records
  ids : c'.ids = c.ids
  drawn : c.drawn ≤ c'.drawn

/-- The areas, the subareas and the questions are those of `c`. -/
structure Campus.SameSyllabus (c c' : Campus) : Prop where
  areas : c'.areas = c.areas
  subareas : c'.subareas = c.subareas
  questions : c'.questions = c.questions

/-- The question is in an area that there is, and in a subarea of it, if any is named. -/
structure Campus.Files (c : Campus) (q : Question) : Prop where
  area : ∃ a ∈ c.areas, a.id = q.areaId
  subarea : ∀ id, q.subareaId = some id → id ≠ "" →
    ∃ s ∈ c.subareas, s.id = id ∧ s.areaId = q.areaId

/-- The campus after all subareas of an area were removed. -/
def Campus.emptied (c : Campus) (area : Id) (now : Instant) : Campus :=
  (Areas.subareas c area).foldl (fun c s => c.eraseSubarea s.id now) c

namespace Action

/-- What an action does to the areas, the subareas and the questions of a campus. -/
inductive Arranges (c : Campus) (now : Instant) : Action → Campus → Prop
  | madeArea {d : Areas.Draft} {a : Area} (hfresh : ∀ b ∈ c.areas, b.id ≠ a.id) :
      Arranges c now (.createArea d) { c.spend 1 with areas := c.areas ++ [a] }
  | changedArea {id : Id} {d : Areas.Change} {a : Area} (ha : a ∈ c.areas) (hid : a.id = id) :
      Arranges c now (.updateArea id d)
        { c with areas := replaced Area.id (d.apply now a) c.areas }
  | erasedArea {id : Id} (hfree : ∀ q ∈ c.questions, q.areaId ≠ id)
      (hempty : ∀ s ∈ (c.emptied id now).subareas, s.areaId ≠ id) :
      Arranges c now (.deleteArea id)
        { c.emptied id now with areas := without Area.id id (c.emptied id now).areas }
  | madeSubarea {area : Id} {d : Subareas.Draft} {s : Subarea}
      (hfresh : ∀ t ∈ c.subareas, t.id ≠ s.id) (hnamed : s.id ≠ "")
      (harea : ∃ a ∈ c.areas, a.id = s.areaId) :
      Arranges c now (.createSubarea area d) { c.spend 1 with subareas := c.subareas ++ [s] }
  | changedSubarea {id : Id} {d : Subareas.Change} {s : Subarea} (hs : s ∈ c.subareas)
      (hid : s.id = id) : Arranges c now (.updateSubarea id d)
        { c with subareas := replaced Subarea.id (d.apply now s) c.subareas }
  | erasedSubarea {id : Id} (hfree : ∀ q ∈ c.questions, q.subareaId ≠ some id) :
      Arranges c now (.deleteSubarea id)
        { c with subareas := without Subarea.id id c.subareas }
  | madeQuestion {creator : Option Id} {d : Questions.Draft} {q : Question}
      (hfresh : ∀ r ∈ c.questions, r.id ≠ q.id) (hfiled : c.Files q) :
      Arranges c now (.createQuestion creator d)
        { c.spend 1 with questions := c.questions ++ [q] }
  | changedQuestion {id : Id} {d : Questions.Change} {q : Question} (hq : q ∈ c.questions)
      (hid : q.id = id) (harea : ∀ area, d.areaId = some area → ∃ a ∈ c.areas, a.id = area)
      (hsubarea : ∀ s, d.subareaId = some (some s) →
        ∃ t ∈ c.subareas, t.id = s ∧ t.areaId = d.areaId.getD q.areaId) :
      Arranges c now (.updateQuestion id d)
        { c with questions := replaced Question.id (d.apply now q) c.questions }
  | erasedQuestion {id : Id} :
      Arranges c now (.deleteQuestion id) { c with questions := without Question.id id c.questions }

end Action

open LogicTutor.Action (Arranges)

variable {c : Campus} {now : Instant} {id : Id}

theorem Campus.area?_eq_some {a : Area} (h : c.area? id = some a) : a ∈ c.areas ∧ a.id = id :=
  mem_of_find?_id h

theorem Campus.subarea?_eq_some {s : Subarea} (h : c.subarea? id = some s) :
    s ∈ c.subareas ∧ s.id = id :=
  mem_of_find?_id h

theorem Campus.question?_eq_some {q : Question} (h : c.question? id = some q) :
    q ∈ c.questions ∧ q.id = id :=
  mem_of_find?_id h

namespace Areas

theorem create_brings (c : Campus) (now : Instant) (d : Draft) :
    (create c now d).Brings c 1 fun _ => Arranges c now (.createArea d) := by
  unfold create
  split
  · exact .refused c _
  · refine .attempt fun a c' h => ?_
    obtain ⟨name, -, h⟩ := exists_of_bind_eq_ok h
    obtain ⟨c'', hadd, h⟩ := exists_of_bind_eq_ok h
    obtain ⟨rfl, rfl⟩ := Prod.mk.inj (Except.ok.inj h)
    obtain ⟨hfresh, rfl⟩ := eq_of_insertRow hadd
    exact .madeArea hfresh

theorem update_brings (c : Campus) (now : Instant) (id : Id) (d : Change) :
    (update c now id d).Brings c 0 fun _ => Arranges c now (.updateArea id d) := by
  unfold update
  split
  · exact .refused c _
  next a ha =>
    obtain ⟨ha, hid⟩ := area?_eq_some ha
    split
    · exact .refused c _
    · refine .attempt_map fun c' h => ?_
      obtain rfl := eq_of_updateRow h
      exact .changedArea ha hid

theorem delete_brings (c : Campus) (now : Instant) (id : Id) :
    (delete c now id).Brings c 0 fun _ => Arranges c now (.deleteArea id) := by
  unfold delete
  split
  · exact .refused c _
  next a ha =>
    obtain ⟨-, rfl⟩ := area?_eq_some ha
    dsimp only
    split
    · exact .refused c _
    next hnone =>
      have hfree : ∀ q ∈ c.questions, q.areaId ≠ a.id := by
        simpa [questions] using hnone
      refine .attempt_map fun c' h => ?_
      obtain ⟨hclear, rfl⟩ := clear_eq_ok.mp h
      simp only [Bool.or_eq_false_iff, List.any_eq_false, decide_eq_true_eq] at hclear
      exact .erasedArea hfree hclear.1

end Areas

namespace Subareas

theorem create_brings (c : Campus) (now : Instant) (area : Id) (d : Draft) :
    (create c now area d).Brings c 1 fun _ => Arranges c now (.createSubarea area d) := by
  unfold create
  split
  · exact .refused c _
  next a ha =>
    split
    · exact .refused c _
    · refine .attempt fun s c' h => ?_
      obtain ⟨name, -, h⟩ := exists_of_bind_eq_ok h
      obtain ⟨c'', hadd, h⟩ := exists_of_bind_eq_ok h
      obtain ⟨rfl, rfl⟩ := Prod.mk.inj (Except.ok.inj h)
      obtain ⟨hfresh, rfl⟩ := eq_of_insertRow hadd
      exact .madeSubarea hfresh (c.ids.ne_empty _) ⟨a, (area?_eq_some ha).1, rfl⟩

theorem update_brings (c : Campus) (now : Instant) (id : Id) (d : Change) :
    (update c now id d).Brings c 0 fun _ => Arranges c now (.updateSubarea id d) := by
  unfold update
  split
  · exact .refused c _
  next s hs =>
    obtain ⟨hs, hid⟩ := subarea?_eq_some hs
    split
    · exact .refused c _
    · refine .attempt_map fun c' h => ?_
      obtain rfl := eq_of_updateRow h
      exact .changedSubarea hs hid

/-- A subarea that no question is in can be removed without touching the questions. -/
theorem eraseSubarea_eq (hfree : ∀ q ∈ c.questions, q.subareaId ≠ some id) :
    c.eraseSubarea id now = { c with subareas := without Subarea.id id c.subareas } := by
  have hquestions : c.questions.map (fun q =>
      if q.subareaId = some id then { q with subareaId := none, updatedAt := now } else q) =
      c.questions := by
    rw [List.map_congr_left fun q hq => if_neg (hfree q hq), List.map_id']
  unfold eraseSubarea
  rw [hquestions]

theorem delete_brings (c : Campus) (now : Instant) (id : Id) :
    (delete c now id).Brings c 0 fun _ => Arranges c now (.deleteSubarea id) := by
  unfold delete
  split
  · exact .refused c _
  next s hs =>
    obtain ⟨-, rfl⟩ := subarea?_eq_some hs
    dsimp only
    split
    · exact .refused c _
    next hnone =>
      have hfree : ∀ q ∈ c.questions, q.subareaId ≠ some s.id := by
        simpa [questions] using hnone
      refine .done ?_
      rw [eraseSubarea_eq hfree]
      exact .erasedSubarea hfree

end Subareas

namespace Questions

theorem exists_of_hasSubarea {s area : Id} (h : hasSubarea c s area = true) :
    ∃ t ∈ c.subareas, t.id = s ∧ t.areaId = area := by
  simpa [hasSubarea] using h

theorem create_brings (c : Campus) (now : Instant) (creator : Option Id) (d : Draft) :
    (create c now creator d).Brings c 1 fun _ => Arranges c now (.createQuestion creator d) := by
  unfold create
  split
  · exact .refused c _
  next a ha =>
    obtain ⟨area, -, ha⟩ := Option.bind_eq_some_iff.mp ha
    split
    · exact .refused c _
    next hsubarea =>
      refine .attempt fun q c' h => ?_
      obtain ⟨title, -, h⟩ := exists_of_bind_eq_ok h
      obtain ⟨content, -, h⟩ := exists_of_bind_eq_ok h
      obtain ⟨maker, -, h⟩ := exists_of_bind_eq_ok h
      obtain ⟨c'', hadd, h⟩ := exists_of_bind_eq_ok h
      obtain ⟨hq, rfl⟩ := Prod.mk.inj (Except.ok.inj h)
      have harea : q.areaId = a.id := hq ▸ rfl
      have hplace : q.subareaId = d.subareaId := hq ▸ rfl
      rw [hq] at hadd
      obtain ⟨hfresh, rfl⟩ := eq_of_insertRow hadd
      refine .madeQuestion hfresh ⟨⟨a, (area?_eq_some ha).1, harea.symm⟩, fun s hs hne => ?_⟩
      rw [harea]
      rw [← hplace, hs] at hsubarea
      exact exists_of_hasSubarea (by simpa [hne] using hsubarea)

theorem update_brings (c : Campus) (now : Instant) (id : Id) (d : Change) :
    (update c now id d).Brings c 0 fun _ => Arranges c now (.updateQuestion id d) := by
  unfold update
  split
  · exact .refused c _
  next q hq =>
    obtain ⟨hq, hid⟩ := question?_eq_some hq
    split
    · exact .refused c _
    next harea =>
      split
      · exact .refused c _
      next hsubarea =>
        refine .done (.changedQuestion hq hid ?_ ?_)
        · intro area hd
          rw [hd] at harea
          obtain ⟨a, ha⟩ : ∃ a, c.area? area = some a := by
            simpa [Option.isNone_iff_eq_none, Option.eq_none_iff_forall_ne_some] using harea
          exact ⟨a, area?_eq_some ha⟩
        · intro s hd
          rw [hd] at hsubarea
          exact exists_of_hasSubarea (by simpa using hsubarea)

theorem delete_brings (c : Campus) (now : Instant) (id : Id) :
    (delete c id).Brings c 0 fun _ => Arranges c now (.deleteQuestion id) := by
  unfold delete
  split
  · exact .refused c _
  next q hq =>
    obtain ⟨-, rfl⟩ := question?_eq_some hq
    refine .attempt_map fun c' h => ?_
    obtain ⟨-, rfl⟩ := clear_eq_ok.mp h
    exact .erasedQuestion

end Questions

namespace Campus

variable {c' c'' : Campus}

theorem SameRegister.trans (h : c.SameRegister c') (h' : c'.SameRegister c'') :
    c.SameRegister c'' where
  classes := h'.classes.trans h.classes
  students := h'.students.trans h.students
  enrollments := h'.enrollments.trans h.enrollments
  contents := h'.contents.trans h.contents
  records := h'.records.trans h.records
  ids := h'.ids.trans h.ids
  drawn := Nat.le_trans h.drawn h'.drawn

theorem sameRegister_spend (c : Campus) (n : Nat) : c.SameRegister (c.spend n) :=
  ⟨rfl, rfl, rfl, rfl, rfl, rfl, Nat.le_add_right _ n⟩

theorem sameSyllabus_spend (c : Campus) (n : Nat) : c.SameSyllabus (c.spend n) := ⟨rfl, rfl, rfl⟩

theorem sameRegister_emptied (c : Campus) (area : Id) (now : Instant) :
    c.SameRegister (c.emptied area now) :=
  List.foldlRecOn _ _ (sameRegister_spend c 0) fun _ hc _ _ =>
    hc.trans ⟨rfl, rfl, rfl, rfl, rfl, rfl, Nat.le_refl _⟩

end Campus

theorem Setup.Step.sameRegister {c' : Campus} (h : Step c c') : c.SameRegister c' := by
  cases h <;> exact ⟨rfl, rfl, rfl, rfl, rfl, rfl, Nat.le_add_right _ 1⟩

namespace Action

variable {a : Action} {c' : Campus}

theorem Effect.sameSyllabus {told : Option ClassRow} (h : Effect c now a told c') :
    c.SameSyllabus c' := by
  cases h <;> exact ⟨rfl, rfl, rfl⟩

theorem Arranges.sameRegister (h : Arranges c now a c') : c.SameRegister c' := by
  cases h with
  | madeArea | madeSubarea | madeQuestion =>
    exact ⟨rfl, rfl, rfl, rfl, rfl, rfl, Nat.le_add_right _ 1⟩
  | changedArea | changedSubarea | erasedSubarea | changedQuestion | erasedQuestion =>
    exact ⟨rfl, rfl, rfl, rfl, rfl, rfl, Nat.le_refl _⟩
  | @erasedArea id =>
    exact (sameRegister_emptied c id now).trans ⟨rfl, rfl, rfl, rfl, rfl, rfl, Nat.le_refl _⟩

theorem arranges_of_brings {α : Type} {d : Deed α} {n : Nat}
    (h : d.Brings c n fun _ => Arranges c now a) (hd : (a.perform c now).campus = d.campus) :
    Arranges c now a (a.perform c now).campus ∨ ∃ n, (a.perform c now).campus = c.spend n := by
  rw [hd]
  exact h.campus_cases.imp_left fun ⟨_, harranges⟩ => harranges

/-- An action that writes the areas, the subareas or the questions does what is told, or only draws
identifiers. -/
theorem arranges_of_writesSyllabus (c : Campus) (now : Instant) (ha : a.WritesSyllabus) :
    Arranges c now a (a.perform c now).campus ∨ ∃ n, (a.perform c now).campus = c.spend n := by
  cases a with
  | createArea d => exact arranges_of_brings (Areas.create_brings c now d) rfl
  | updateArea id d => exact arranges_of_brings (Areas.update_brings c now id d) rfl
  | deleteArea id => exact arranges_of_brings (Areas.delete_brings c now id) rfl
  | createSubarea area d => exact arranges_of_brings (Subareas.create_brings c now area d) rfl
  | updateSubarea id d => exact arranges_of_brings (Subareas.update_brings c now id d) rfl
  | deleteSubarea id => exact arranges_of_brings (Subareas.delete_brings c now id) rfl
  | createQuestion creator d =>
    exact arranges_of_brings (Questions.create_brings c now creator d) rfl
  | updateQuestion id d => exact arranges_of_brings (Questions.update_brings c now id d) rfl
  | deleteQuestion id => exact arranges_of_brings (Questions.delete_brings c now id) rfl
  | _ => exact ha.elim

/-- What an action can come to: something is told of it, or it only draws identifiers, or it writes
nothing but answers. -/
theorem perform_cases (c : Campus) (now : Instant) (a : Action) :
    (∃ told, Effect c now a told (a.perform c now).campus) ∨
      Arranges c now a (a.perform c now).campus ∨
      (∃ n, (a.perform c now).campus = c.spend n) ∨ c.OnlyAnswers (a.perform c now).campus := by
  by_cases hregister : a.WritesRegister
  · obtain heffect | hspent := effect_of_writesRegister c now hregister
    · exact .inl heffect
    · exact .inr (.inr (.inl hspent))
  by_cases hsyllabus : a.WritesSyllabus
  · obtain harranges | hspent := arranges_of_writesSyllabus c now hsyllabus
    · exact .inr (.inl harranges)
    · exact .inr (.inr (.inl hspent))
  · exact .inr (.inr (.inr (answers_perform c now hregister hsyllabus)))

/-- Nothing happens to the classes, the students and the contents but what is told. -/
theorem effect_perform (c : Campus) (now : Instant) (a : Action) :
    (∃ told, Effect c now a told (a.perform c now).campus) ∨
      c.SameRegister (a.perform c now).campus := by
  obtain heffect | harranges | ⟨n, hspent⟩ | ⟨answers, h⟩ := perform_cases c now a
  · exact .inl heffect
  · exact .inr harranges.sameRegister
  · exact .inr (hspent ▸ sameRegister_spend c n)
  · exact .inr (h ▸ ⟨rfl, rfl, rfl, rfl, rfl, rfl, Nat.le_refl _⟩)

/-- Nothing happens to the areas, the subareas and the questions but what is told. -/
theorem arranges_perform (c : Campus) (now : Instant) (a : Action) :
    Arranges c now a (a.perform c now).campus ∨ c.SameSyllabus (a.perform c now).campus := by
  obtain ⟨told, heffect⟩ | harranges | ⟨n, hspent⟩ | ⟨answers, h⟩ := perform_cases c now a
  · exact .inr heffect.sameSyllabus
  · exact .inl harranges
  · exact .inr (hspent ▸ sameSyllabus_spend c n)
  · exact .inr (h ▸ ⟨rfl, rfl, rfl⟩)

end Action

end LogicTutor
