import LogicTutor.Proofs.Campus.Register

/-! What is done for one administrator stays with that administrator: an action on classes, students
or contents tells of no rows but those of who asks, and whatever belongs to anybody else is the same
after it. -/
namespace LogicTutor

open Campus

/-- The classes of an administrator, with all that is in them. -/
structure Estate where
  classes : List ClassGroup
  students : List Student
  enrollments : List Enrollment
  contents : List Content

namespace Campus

def estate (c : Campus) (admin : Id) : Estate where
  classes := c.classes.filter fun g => g.adminId = admin
  students := c.students.filter fun s => c.owns admin s.classId
  enrollments := c.enrollments.filter fun e => c.owns admin e.classId
  contents := c.contents.filter fun n => c.owns admin n.classId

/-- The row belongs to the administrator. -/
def Holds (c : Campus) (admin : Id) : ClassRow → Prop
  | .group g => g ∈ (c.estate admin).classes
  | .student s => s ∈ (c.estate admin).students
  | .content n => n ∈ (c.estate admin).contents

/-- Students, enrollments and contents belong to one administrator each. -/
structure Divided (c : Campus) : Prop where
  students : ∀ s ∈ c.students, ∃! admin, s ∈ (c.estate admin).students
  enrollments : ∀ e ∈ c.enrollments, ∃! admin, e ∈ (c.estate admin).enrollments
  contents : ∀ n ∈ c.contents, ∃! admin, n ∈ (c.estate admin).contents

end Campus

namespace ClassRow

/-- The value tells the row, in one of the ways there are. -/
def ShownBy (c : Campus) (v : Json) : ClassRow → Prop
  | group g => v = .obj (View.classFields g) ∨ v = View.classDetail c g
  | student s => v = .obj (View.newStudent c s) ∨ v = View.student c s
  | content n => v = View.contentDetail n

/-- Asks for the row. -/
def ask (admin : Id) : ClassRow → Action
  | group g => .getClass admin g.id
  | student s => .getStudent admin s.id
  | content n => .getContent admin n.id

end ClassRow

/-- The value tells nothing but rows of the administrator. -/
inductive Campus.TellsOf (c : Campus) (admin : Id) : Json → Prop
  | nothing : TellsOf c admin .null
  | row {r : ClassRow} {v : Json} (hr : c.Holds admin r) (hv : r.ShownBy c v) : TellsOf c admin v
  | rows {vs : List Json} (h : ∀ v ∈ vs, ∃ r, c.Holds admin r ∧ r.ShownBy c v) :
      TellsOf c admin (.arr vs)

variable {c c' : Campus} {admin other id : Id} {now : Instant} {a : Action}
  {told : Option ClassRow} {g : ClassGroup} {s : Student} {e : Enrollment} {n : Content}

namespace Campus

theorem mem_classes_estate :
    g ∈ (c.estate admin).classes ↔ g ∈ c.classes ∧ g.adminId = admin := by
  simp [estate]

theorem mem_students_estate :
    s ∈ (c.estate admin).students ↔ s ∈ c.students ∧ c.owns admin s.classId = true := by
  simp [estate]

theorem mem_enrollments_estate :
    e ∈ (c.estate admin).enrollments ↔ e ∈ c.enrollments ∧ c.owns admin e.classId = true := by
  simp [estate]

theorem mem_contents_estate :
    n ∈ (c.estate admin).contents ↔ n ∈ c.contents ∧ c.owns admin n.classId = true := by
  simp [estate]

theorem existsUnique_owner (hids : (c.classes.map ClassGroup.id).Nodup)
    (h : ∃ admin, c.owns admin id = true) : ∃! admin, c.owns admin id = true := by
  obtain ⟨admin, howner⟩ := h
  exact ⟨admin, howner, fun other hother => owner_unique hids hother howner⟩

theorem Registered.divided (h : c.Registered) : c.Divided where
  students s hs := by
    simp only [mem_students_estate, hs, true_and]
    exact existsUnique_owner h.classIds (h.owner_of_student hs)
  enrollments e he := by
    obtain ⟨s, hs, hid⟩ := List.mem_map.mp (h.known e he)
    obtain ⟨f, hf⟩ := h.placed s hs
    obtain ⟨admin, howner, -⟩ := hf.owner
    obtain rfl := hf.eq_of_mem he hid.symm
    simp only [mem_enrollments_estate, he, true_and]
    exact existsUnique_owner h.classIds ⟨admin, howner⟩
  contents n hn := by
    simp only [mem_contents_estate, hn, true_and]
    exact existsUnique_owner h.classIds (h.kept n hn)

/-- Estates are the same if the classes are, and the rows in them. -/
theorem estate_eq (howns : c'.owns other = c.owns other)
    (hclasses : c'.classes.filter (fun g => g.adminId = other) =
      c.classes.filter fun g => g.adminId = other)
    (hstudents : c'.students.filter (fun s => c.owns other s.classId) =
      c.students.filter fun s => c.owns other s.classId)
    (henrollments : c'.enrollments.filter (fun e => c.owns other e.classId) =
      c.enrollments.filter fun e => c.owns other e.classId)
    (hcontents : c'.contents.filter (fun n => c.owns other n.classId) =
      c.contents.filter fun n => c.owns other n.classId) :
    c'.estate other = c.estate other := by
  unfold estate
  rw [howns, hclasses, hstudents, henrollments, hcontents]

/-- Content in a folder is of the same class as the folder. -/
theorem classId_of_parent (hc : Contents.Orderly c.contents) {k : Content} (hk : k ∈ c.contents)
    (hn : n ∈ c.contents) (hparent : k.parentId = some n.id) : k.classId = n.classId := by
  obtain (htop | htop) | ⟨m, hm, -⟩ := hc.parent k hk
  · cases hparent.symm.trans htop
  · exact absurd (Option.some.inj (hparent.symm.trans htop)) (hc.named n hn)
  · have hid : m.id = n.id := Option.some.inj (hm.parent.symm.trans hparent)
    rw [← hm.sameClass, Contents.eq_of_id_eq hc.ids hm.mem hn hid]

end Campus

/-- What an action for one administrator does, it does to no other. -/
theorem Action.Effect.estate_eq (heffect : Effect c now a told c') (h : c.Registered)
    (hc : Contents.Orderly c.contents) (ha : a.admin? = some admin) (hne : other ≠ admin) :
    c'.estate other = c.estate other := by
  -- a class of the administrator is none of anybody else's
  have foreign {id : Id} (howner : c.owns admin id = true) : c.owns other id = false :=
    owns_eq_false h.classIds howner hne
  cases heffect with
  | gotClass | gotStudent | gotContent => rfl
  | @madeClass _ _ g howner _ =>
    cases ha
    have hadmin : g.adminId ≠ other := fun heq => hne (heq.symm.trans howner)
    refine Campus.estate_eq ?_ (filter_append_singleton (decide_eq_false hadmin)) rfl rfl rfl
    funext id
    rw [Bool.eq_iff_iff, owns_of_made rfl]
    simp [hadmin]
  | @changedClass _ _ _ g g' hg _ howner happly =>
    cases ha
    obtain ⟨hkey, hadmin⟩ := Classes.Change.keeps_of_apply happly
    have hother : g.adminId ≠ other := fun heq => hne (heq.symm.trans howner)
    refine Campus.estate_eq ?_ (filter_replaced ?_ ?_) rfl rfl rfl
    · funext id
      rw [Bool.eq_iff_iff, owns_of_changed h.classIds hg hkey hadmin rfl]
    · exact decide_eq_false (hadmin ▸ hother)
    · intro r hr hid
      rw [eq_of_key_eq h.classIds hr hg (hid.trans hkey)]
      exact decide_eq_false hother
  | @erasedClass _ id g _ hg hid howner _ _ _ =>
    cases ha
    refine Campus.estate_eq ?_ (filter_without ?_) rfl rfl rfl
    · funext key
      rw [Bool.eq_iff_iff, owns_of_erased rfl, and_iff_left_iff_imp]
      rintro hother rfl
      have hown : c.owns admin key = true := owns_iff.mpr ⟨g, hg, hid, howner⟩
      exact Bool.false_ne_true ((foreign hown).symm.trans hother)
    · intro r hr hkey
      rw [eq_of_key_eq h.classIds hr hg (hkey.trans hid.symm)]
      exact decide_eq_false fun heq => hne (heq.symm.trans howner)
  | @madeStudent _ _ g s e hjoins howner =>
    cases ha
    have hown : c.owns admin g.id = true := owns_iff.mpr ⟨g, hjoins.group, rfl, howner⟩
    refine Campus.estate_eq rfl rfl (filter_append_singleton ?_) (filter_append_singleton ?_) rfl
    · rw [hjoins.classId]
      exact foreign hown
    · rw [hjoins.place]
      exact foreign hown
  | signedUp => cases ha
  | @changedStudent _ _ _ s s' hs _ howner howner' happly =>
    cases ha
    refine Campus.estate_eq rfl rfl (filter_replaced (foreign howner') ?_) rfl rfl
    intro r hr hid
    rw [eq_of_key_eq h.studentIds hr hs (hid.trans (Students.Change.id_of_apply happly))]
    exact foreign howner
  | touchedStudent hnone => cases hnone.symm.trans ha
  | @erasedStudent _ id s _ hs hid howner =>
    cases ha
    refine Campus.estate_eq rfl rfl (filter_without ?_) ?_ rfl
    · intro r hr hkey
      rw [eq_of_key_eq h.studentIds hr hs (hkey.trans hid.symm)]
      exact foreign howner
    · -- the enrollments that go are in a class of the administrator, like the student
      show (without Enrollment.studentId id c.enrollments).filter _ = _
      refine filter_without fun f hf hkey => ?_
      obtain ⟨e, he⟩ := h.placed s hs
      obtain ⟨owner, hplace, hclass⟩ := he.owner
      rw [he.eq_of_mem hf (hkey.trans hid.symm)]
      rw [owner_unique h.classIds hclass howner] at hplace
      exact foreign hplace
  | madeContent _ howner =>
    cases ha
    exact Campus.estate_eq rfl rfl rfl rfl (filter_append_singleton (foreign howner))
  | @changedContent _ _ _ n n' hn _ howner happly =>
    cases ha
    obtain ⟨hkey, hclass⟩ := Contents.Change.keeps_of_apply happly
    refine Campus.estate_eq rfl rfl rfl rfl (filter_replaced ?_ ?_)
    · rw [hclass]
      exact foreign howner
    · intro r hr hid
      rw [eq_of_key_eq hc.ids hr hn (hid.trans hkey)]
      exact foreign howner
  | @erasedContent _ id n _ hn hid howner =>
    cases ha
    subst hid
    refine Campus.estate_eq rfl rfl rfl rfl ?_
    have hchild (k : Content) (hk : k ∈ without Content.id n.id c.contents) :
        Contents.detached n.id now k = k ∨ c.owns other k.classId = false ∧
          c.owns other (Contents.detached n.id now k).classId = false := by
      unfold Contents.detached
      split
      next hparent =>
        have hclass := classId_of_parent hc (mem_without.mp hk).1 hn hparent
        have hother : c.owns other k.classId = false := by
          rw [hclass]
          exact foreign howner
        exact .inr ⟨hother, hother⟩
      next => exact .inl rfl
    calc ((without Content.id n.id c.contents).map (Contents.detached n.id now)).filter
          (fun k => c.owns other k.classId)
        = (without Content.id n.id c.contents).filter fun k => c.owns other k.classId :=
          filter_map_eq hchild
      _ = c.contents.filter fun k => c.owns other k.classId := by
          refine filter_without fun r hr hkey => ?_
          rw [eq_of_key_eq hc.ids hr hn hkey]
          exact foreign howner

/-- The row that an action for an administrator is about belongs to the administrator after it. -/
theorem Action.Effect.holds {r : ClassRow} (heffect : Effect c now a (some r) c')
    (ha : a.admin? = some admin) : c'.Holds admin r := by
  cases heffect with
  | gotClass hg _ howner =>
    cases ha
    exact mem_classes_estate.mpr ⟨hg, howner⟩
  | madeClass howner =>
    cases ha
    exact mem_classes_estate.mpr ⟨List.mem_append_right _ (List.mem_singleton.mpr rfl), howner⟩
  | changedClass hg _ howner happly =>
    cases ha
    obtain ⟨hkey, hadmin⟩ := Classes.Change.keeps_of_apply happly
    exact mem_classes_estate.mpr ⟨mem_replaced_self hg hkey, hadmin.trans howner⟩
  | gotStudent hs _ howner =>
    cases ha
    exact mem_students_estate.mpr ⟨hs, howner⟩
  | @madeStudent _ _ g s e hjoins howner =>
    cases ha
    refine mem_students_estate.mpr ⟨List.mem_append_right _ (List.mem_singleton.mpr rfl), ?_⟩
    exact owns_iff.mpr ⟨g, hjoins.group, hjoins.classId.symm, howner⟩
  | changedStudent hs _ _ howner' happly =>
    cases ha
    exact mem_students_estate.mpr
      ⟨mem_replaced_self hs (Students.Change.id_of_apply happly), howner'⟩
  | gotContent hn _ howner =>
    cases ha
    exact mem_contents_estate.mpr ⟨hn, howner⟩
  | madeContent _ howner =>
    cases ha
    exact mem_contents_estate.mpr ⟨List.mem_append_right _ (List.mem_singleton.mpr rfl), howner⟩
  | changedContent hn _ howner happly =>
    cases ha
    obtain ⟨hkey, hclass⟩ := Contents.Change.keeps_of_apply happly
    refine mem_contents_estate.mpr ⟨mem_replaced_self hn hkey, ?_⟩
    rw [hclass]
    exact howner

/-! What is told. -/

/-- What is told of a deed that succeeds is told of the value that it comes to. -/
theorem Deed.Brings.exists_of_map {α : Type} {P : α → Campus → Prop} {d : Deed α} {m : Nat}
    {f : α → Json} {v : Json} {message : Option String} (h : d.Brings c m P)
    (hv : (d.map f).result = .ok (.success v message)) : ∃ r, f r = v ∧ P r d.campus := by
  obtain ⟨r, m, hr, hP⟩ | ⟨hfail, -⟩ := h
  · refine ⟨r, ?_, hP⟩
    unfold Deed.map at hv
    rw [hr] at hv
    cases hv
    rfl
  · exact absurd (succeeds_map.mp ⟨v, message, hv⟩) hfail

theorem tellsOf_of_brings {α : Type} {row : α → ClassRow} {d : Deed α} {m : Nat} {f : α → Json}
    {v : Json} {message : Option String} (ha : a.admin? = some admin)
    (hv : (a.perform c now).result = .ok (.success v message))
    (h : d.Brings c m fun r => Action.Effect c now a (some (row r)))
    (hd : a.perform c now = d.map f) (hshown : ∀ r, (row r).ShownBy d.campus (f r)) :
    (a.perform c now).campus.TellsOf admin v := by
  rw [hd] at hv ⊢
  obtain ⟨r, rfl, heffect⟩ := h.exists_of_map hv
  exact .row (heffect.holds ha) (hshown r)

theorem tellsOf_of_silent {d : Deed Unit} {v : Json} {message : Option String}
    (hv : d.silent.result = .ok (.success v message)) : d.campus.TellsOf admin v := by
  obtain ⟨result, c⟩ := d
  match result with
  | .ok (.success _ _) =>
    cases hv
    exact .nothing
  | .ok (.failure _) => cases hv
  | .error _ => cases hv

/-- A list of rows of the administrator tells nothing else. -/
theorem tellsOf_list {α : Type} (row : α → ClassRow) {f : α → Json} {rs : List α}
    (h : ∀ r ∈ rs, c.Holds admin (row r) ∧ (row r).ShownBy c (f r)) :
    c.TellsOf admin (View.list f rs) := by
  refine .rows fun v hv => ?_
  obtain ⟨r, hr, rfl⟩ := List.mem_map.mp hv
  exact ⟨row r, h r hr⟩

theorem Action.tellsOf_perform {v : Json} {message : Option String} (ha : a.admin? = some admin)
    (hv : (a.perform c now).result = .ok (.success v message)) :
    (a.perform c now).campus.TellsOf admin v := by
  cases a with
  | listClasses owner active search =>
    cases ha
    cases hv
    refine tellsOf_list .group fun g hg => ⟨?_, .inr rfl⟩
    rw [Classes.list, List.mem_mergeSort] at hg
    simp only [List.mem_filter, Bool.and_eq_true, decide_eq_true_eq] at hg
    exact mem_classes_estate.mpr ⟨hg.1, hg.2.1.1⟩
  | listStudents owner classId active search =>
    cases ha
    cases hv
    refine tellsOf_list .student fun s hs => ⟨?_, .inr rfl⟩
    rw [Students.list, List.mem_mergeSort] at hs
    simp only [List.mem_filter, Bool.and_eq_true] at hs
    exact mem_students_estate.mpr ⟨hs.1, hs.2.1.1.1⟩
  | listContents owner f =>
    cases ha
    cases hv
    refine tellsOf_list .content fun n hn => ⟨?_, rfl⟩
    rw [Contents.list, List.mem_mergeSort] at hn
    simp only [List.mem_filter, Bool.and_eq_true] at hn
    exact mem_contents_estate.mpr ⟨hn.1, hn.2.1⟩
  | getClass owner id =>
    exact tellsOf_of_brings ha hv (Classes.get_brings c owner id now) rfl fun g => .inr rfl
  | createClass owner d =>
    exact tellsOf_of_brings ha hv (Classes.create_brings c owner now d) rfl fun g => .inl rfl
  | updateClass owner id d =>
    exact tellsOf_of_brings ha hv (Classes.update_brings c owner id now d) rfl fun g => .inl rfl
  | getStudent owner id =>
    exact tellsOf_of_brings ha hv (Students.get_brings c owner id now) rfl fun s => .inr rfl
  | createStudent owner d =>
    exact tellsOf_of_brings ha hv (Students.create_brings c owner now d) rfl fun s => .inl rfl
  | updateStudent owner id d =>
    exact tellsOf_of_brings ha hv (Students.update_brings c owner id now d) rfl fun s => .inr rfl
  | getContent owner id =>
    exact tellsOf_of_brings ha hv (Contents.get_brings c owner id now) rfl fun n => rfl
  | createContent owner d =>
    exact tellsOf_of_brings ha hv (Contents.create_brings c owner now d) rfl fun n => rfl
  | updateContent owner id d =>
    exact tellsOf_of_brings ha hv (Contents.update_brings c owner now id d) rfl fun n => rfl
  | deleteClass | deleteStudent | deleteContent => exact tellsOf_of_silent hv
  | _ => cases ha

/-- Who asks for a row that is theirs is told of it. -/
theorem ClassRow.perform_ask (h : c.Registered) (hc : Contents.Orderly c.contents) {r : ClassRow}
    (hr : c.Holds admin r) : ∃ v, r.ShownBy c v ∧ (r.ask admin).perform c now = .answered c v := by
  cases r with
  | group g =>
    obtain ⟨hg, rfl⟩ := mem_classes_estate.mp hr
    refine ⟨View.classDetail c g, .inr rfl, ?_⟩
    simp only [ask, Action.perform, Classes.get, h.ownClass?_eq hg]
    rfl
  | student s =>
    obtain ⟨hs, howner⟩ := mem_students_estate.mp hr
    refine ⟨View.student c s, .inr rfl, ?_⟩
    simp only [ask, Action.perform, Students.get, h.ownStudent?_eq hs howner]
    rfl
  | content n =>
    obtain ⟨hn, howner⟩ := mem_contents_estate.mp hr
    have hfound : Contents.own? c admin n.id = some n := by
      refine find?_eq_some hc.ids hn (by simp [howner]) fun k hk => ?_
      simp only [Bool.and_eq_true, decide_eq_true_eq] at hk
      exact hk.1
    refine ⟨View.contentDetail n, rfl, ?_⟩
    simp only [ask, Action.perform, Contents.get, hfound]
    rfl

namespace Action

theorem estate_perform (h : c.Registered) (hc : Contents.Orderly c.contents)
    (ha : a.admin? = some admin) (hne : other ≠ admin) :
    (a.perform c now).campus.estate other = c.estate other := by
  obtain ⟨told, heffect⟩ | hsame := effect_perform c now a
  · exact heffect.estate_eq h hc ha hne
  · have howns : (a.perform c now).campus.owns other = c.owns other := by
      unfold owns
      rw [hsame.classes]
    unfold estate
    rw [howns, hsame.classes, hsame.students, hsame.enrollments, hsame.contents]

/-- On every campus, an action on classes, students or contents that is done for an administrator
tells nothing but rows of that administrator, and leaves as it was what belongs to any other. Each
row but a class is somebody's and nobody else's, and who asks for one of their own is told of
it. -/
theorem administrators_are_apart (c : Campus) (hc : c.Arises fun _ _ _ => True) (now : Instant)
    (a : Action) (admin : Id) (ha : a.admin? = some admin) :
    (∀ v message, (a.perform c now).result = .ok (.success v message) →
      (a.perform c now).campus.TellsOf admin v) ∧
    (∀ other, other ≠ admin → (a.perform c now).campus.estate other = c.estate other) ∧
    c.Divided ∧
    ∀ r, c.Holds admin r → ∃ v, r.ShownBy c v ∧ (r.ask admin).perform c now = .answered c v := by
  have h := hc.registered
  refine ⟨fun v message => tellsOf_perform ha, fun other hne => ?_, h.divided, fun r hr => ?_⟩
  · exact estate_perform h hc.orderly ha hne
  · exact r.perform_ask h hc.orderly hr

/-- A class of each of two administrators, with a student in each. -/
def neighbours : Campus := (Campus.empty .counting).run 0
  [.createClass "a" ⟨some "Turma", none, some "T1", .obj []⟩,
   .createClass "b" ⟨some "Turma", none, some "T2", .obj []⟩,
   .signUp ⟨some "Aluno", some "a@x.org", some "1", some "1", none, some "T1"⟩,
   .signUp ⟨some "Aluna", some "b@x.org", some "1", some "1", none, some "T2"⟩]

/-- One of them removes a student, and the other keeps all. -/
theorem administrators_are_apart_neighbours :
    (neighbours.estate "a").students.length = 1 ∧ (neighbours.estate "b").students.length = 1 ∧
    (((deleteStudent "b" (idOf 5)).perform neighbours 0).campus.estate "b").students.length = 0 ∧
    ((deleteStudent "b" (idOf 5)).perform neighbours 0).campus.estate "a" =
      neighbours.estate "a" := by
  refine ⟨rfl, rfl, rfl, ?_⟩
  have hc : neighbours.Arises fun _ _ _ => True := .run (.empty _) fun _ _ => trivial
  obtain ⟨-, hothers, -⟩ :=
    administrators_are_apart neighbours hc 0 (deleteStudent "b" (idOf 5)) "b" rfl
  exact hothers "a" (by decide)

end Action

end LogicTutor
