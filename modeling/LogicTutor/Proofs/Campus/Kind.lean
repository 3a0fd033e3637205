import LogicTutor.Proofs.Campus.Register

/-! The tables whose rows requests change. The rows of each are told apart by their identifiers, so
a changed row takes the place of one row, and all others stay as they are. -/
namespace LogicTutor

open Campus

/-- The kinds of rows that can be changed by a request. -/
inductive Kind where
  | group | student | content | area | subarea | question
  deriving DecidableEq, Repr

namespace Kind

abbrev Row : Kind → Type
  | group => ClassGroup
  | student => Student
  | content => Content
  | area => Area
  | subarea => Subarea
  | question => Question

def id : (k : Kind) → k.Row → Id
  | group => ClassGroup.id
  | student => Student.id
  | content => Content.id
  | area => Area.id
  | subarea => Subarea.id
  | question => Question.id

def rows (c : Campus) : (k : Kind) → List k.Row
  | group => c.classes
  | student => c.students
  | content => c.contents
  | area => c.areas
  | subarea => c.subareas
  | question => c.questions

/-- The campus with another table of the kind. -/
def put (c : Campus) : (k : Kind) → List k.Row → Campus
  | group, rows => { c with classes := rows }
  | student, rows => { c with students := rows }
  | content, rows => { c with contents := rows }
  | area, rows => { c with areas := rows }
  | subarea, rows => { c with subareas := rows }
  | question, rows => { c with questions := rows }

/-- One row of the kind becomes another, as `P` has it, and nothing else changes. -/
def Changes (k : Kind) (id : Id) (P : k.Row → k.Row → Prop) (c c' : Campus) : Prop :=
  ∃ before row after row', k.rows c = before ++ row :: after ∧ k.id row = id ∧ P row row' ∧
    c' = k.put c (before ++ row' :: after)

end Kind

namespace Campus

variable {c c' : Campus} {now : Instant}

/-- Among rows with different identifiers, a changed row takes the place of one. -/
theorem replaced_eq_append {α : Type} {id : α → Id} {rows : List α} {row row' : α}
    (hids : (rows.map id).Nodup) (hrow : row ∈ rows) (hid : id row' = id row) :
    ∃ before after, rows = before ++ row :: after ∧
      replaced id row' rows = before ++ row' :: after := by
  obtain ⟨before, after, rfl⟩ := List.append_of_mem hrow
  refine ⟨before, after, rfl, ?_⟩
  have hothers : ∀ r ∈ before ++ after, id r ≠ id row' := by
    rw [List.map_append, List.map_cons, List.nodup_middle, ← List.map_append,
      List.nodup_cons] at hids
    intro r hr heq
    exact hids.1 (hid ▸ heq ▸ List.mem_map_of_mem hr)
  have hsame (l : List α) (hl : ∀ r ∈ l, id r ≠ id row') : replaced id row' l = l := by
    unfold replaced substitute
    rw [List.map_congr_left fun r hr => if_neg (hl r hr), List.map_id']
  obtain ⟨hbefore, hafter⟩ := List.forall_mem_append.mp hothers
  calc replaced id row' (before ++ row :: after)
      = replaced id row' before ++ row' :: replaced id row' after := by
        simp [replaced, substitute, hid]
    _ = before ++ row' :: after := by rw [hsame before hbefore, hsame after hafter]

/-- Areas, subareas and questions are told apart by their identifiers. -/
structure Keyed (c : Campus) : Prop where
  areas : (c.areas.map Area.id).Nodup
  subareas : (c.subareas.map Subarea.id).Nodup
  questions : (c.questions.map Question.id).Nodup

theorem Keyed.of_same (h : c.Keyed) (hsame : c.SameSyllabus c') : c'.Keyed :=
  ⟨hsame.areas ▸ h.areas, hsame.subareas ▸ h.subareas, hsame.questions ▸ h.questions⟩

theorem Keyed.eraseSubarea (h : c.Keyed) (id : Id) (now : Instant) :
    (c.eraseSubarea id now).Keyed where
  areas := h.areas
  subareas := nodup_without h.subareas
  questions := by
    have hids : (c.eraseSubarea id now).questions.map Question.id =
        c.questions.map Question.id := by
      unfold Campus.eraseSubarea
      rw [List.map_map]
      refine List.map_congr_left fun q _ => ?_
      dsimp only [Function.comp_apply]
      split <;> rfl
    rw [hids]
    exact h.questions

theorem Keyed.emptied (h : c.Keyed) (area : Id) (now : Instant) : (c.emptied area now).Keyed :=
  List.foldlRecOn _ _ h fun _ hc s _ => hc.eraseSubarea s.id now

end Campus

theorem Action.Arranges.keyed {c c' : Campus} {now : Instant} {a : Action}
    (harranges : Arranges c now a c') (h : c.Keyed) : c'.Keyed := by
  cases harranges with
  | madeArea hfresh => exact ⟨nodup_append h.areas hfresh, h.subareas, h.questions⟩
  | changedArea => exact ⟨nodup_replaced h.areas, h.subareas, h.questions⟩
  | @erasedArea id =>
    have hemptied := h.emptied id now
    exact ⟨nodup_without hemptied.areas, hemptied.subareas, hemptied.questions⟩
  | madeSubarea hfresh => exact ⟨h.areas, nodup_append h.subareas hfresh, h.questions⟩
  | changedSubarea => exact ⟨h.areas, nodup_replaced h.subareas, h.questions⟩
  | erasedSubarea => exact ⟨h.areas, nodup_without h.subareas, h.questions⟩
  | madeQuestion hfresh => exact ⟨h.areas, h.subareas, nodup_append h.questions hfresh⟩
  | changedQuestion => exact ⟨h.areas, h.subareas, nodup_replaced h.questions⟩
  | erasedQuestion => exact ⟨h.areas, h.subareas, nodup_without h.questions⟩

theorem Setup.Step.keyed {c c' : Campus} (hstep : Step c c') (h : c.Keyed) : c'.Keyed := by
  cases hstep with
  | admin => exact ⟨h.areas, h.subareas, h.questions⟩
  | area hfresh => exact ⟨nodup_append h.areas hfresh, h.subareas, h.questions⟩
  | subarea hfresh => exact ⟨h.areas, nodup_append h.subareas hfresh, h.questions⟩

namespace Campus

variable {allowed : Campus → Instant → Action → Prop} {c : Campus}

theorem Arises.keyed (h : c.Arises allowed) : c.Keyed := by
  refine h.invariant (fun _ => ?_) (fun _ _ h hstep => hstep.keyed h) fun c now a h _ => ?_
  · exact ⟨List.nodup_nil, List.nodup_nil, List.nodup_nil⟩
  · obtain harranges | hsame := Action.arranges_perform c now a
    · exact harranges.keyed h
    · exact h.of_same hsame

theorem Arises.nodup_ids (h : c.Arises allowed) (k : Kind) : ((k.rows c).map k.id).Nodup := by
  cases k with
  | group => exact h.registered.classIds
  | student => exact h.registered.studentIds
  | content => exact h.orderly.ids
  | area => exact h.keyed.areas
  | subarea => exact h.keyed.subareas
  | question => exact h.keyed.questions

end Campus

theorem Kind.changes_replaced {k : Kind} {c : Campus} {id : Id} {P : k.Row → k.Row → Prop}
    {row row' : k.Row} (hids : ((k.rows c).map k.id).Nodup) (hrow : row ∈ k.rows c)
    (hid : k.id row = id) (hsame : k.id row' = k.id row) (hP : P row row') :
    k.Changes id P c (k.put c (replaced k.id row' (k.rows c))) := by
  obtain ⟨before, after, hrows, hreplaced⟩ := replaced_eq_append hids hrow hsame
  exact ⟨before, row, after, row', hrows, hid, hP, by rw [hreplaced]⟩

end LogicTutor
