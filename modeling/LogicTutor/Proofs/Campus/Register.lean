import LogicTutor.Proofs.Campus.Forest

/-! What holds of the classes, the students and the contents of every campus. Whose class somebody
or something is in is never in doubt, and each student has one enrollment, in a class of the same
administrator as the student's own class. -/
namespace LogicTutor

open Campus

namespace Campus

variable {c c' : Campus} {admin other id : Id} {g g' : ClassGroup} {s s' t : Student}
  {e : Enrollment} {n n' : Content}

/-! Whose class it is, when classes are made, changed and removed. -/

theorem owner_unique (hids : (c.classes.map ClassGroup.id).Nodup) (h : c.owns admin id = true)
    (h' : c.owns other id = true) : admin = other := by
  obtain ⟨g, hg, hid, rfl⟩ := owns_iff.mp h
  obtain ⟨g', hg', hid', rfl⟩ := owns_iff.mp h'
  rw [eq_of_key_eq hids hg hg' (hid.trans hid'.symm)]

theorem owns_eq_false (hids : (c.classes.map ClassGroup.id).Nodup) (h : c.owns admin id = true)
    (hne : other ≠ admin) : c.owns other id = false := by
  cases hother : c.owns other id with
  | false => rfl
  | true => exact absurd (owner_unique hids hother h) hne

theorem owns_of_made (hc : c'.classes = c.classes ++ [g]) :
    c'.owns admin id = true ↔ c.owns admin id = true ∨ g.id = id ∧ g.adminId = admin := by
  simp [owns, hc]

theorem owns_of_changed (hids : (c.classes.map ClassGroup.id).Nodup) (hg : g ∈ c.classes)
    (hid : g'.id = g.id) (hadmin : g'.adminId = g.adminId)
    (hc : c'.classes = replaced ClassGroup.id g' c.classes) :
    c'.owns admin id = true ↔ c.owns admin id = true := by
  rw [owns_iff, owns_iff, hc]
  constructor
  · rintro ⟨h, hh, hkey, howner⟩
    rcases mem_replaced hh with rfl | ⟨hh, -⟩
    · exact ⟨g, hg, hid.symm.trans hkey, hadmin.symm.trans howner⟩
    · exact ⟨h, hh, hkey, howner⟩
  · rintro ⟨h, hh, hkey, howner⟩
    by_cases hsame : h.id = g'.id
    · obtain rfl := eq_of_key_eq hids hh hg (hsame.trans hid)
      exact ⟨g', mem_replaced_self hg hid, hid.trans hkey, hadmin.trans howner⟩
    · exact ⟨h, List.mem_map.mpr ⟨h, hh, if_neg hsame⟩, hkey, howner⟩

theorem owns_of_erased {key : Id} (hc : c'.classes = without ClassGroup.id key c.classes) :
    c'.owns admin id = true ↔ c.owns admin id = true ∧ id ≠ key := by
  rw [owns_iff, owns_iff, hc]
  constructor
  · rintro ⟨g, hg, rfl, howner⟩
    obtain ⟨hg, hne⟩ := mem_without.mp hg
    exact ⟨⟨g, hg, rfl, howner⟩, hne⟩
  · rintro ⟨⟨g, hg, rfl, howner⟩, hne⟩
    exact ⟨g, mem_without.mpr ⟨hg, hne⟩, rfl, howner⟩

/-- All enrollments of a student. -/
def enrollmentsOf (c : Campus) (student : Id) : List Enrollment :=
  c.enrollments.filter fun e => e.studentId = student

/-- The student has one enrollment, an active one in a class of the administrator in whose class
the student is. -/
structure Placed (c : Campus) (s : Student) (e : Enrollment) : Prop where
  only : c.enrollmentsOf s.id = [e]
  active : e.status = .active
  owner : ∃ admin, c.owns admin e.classId = true ∧ c.owns admin s.classId = true

theorem mem_enrollmentsOf {student : Id} :
    e ∈ c.enrollmentsOf student ↔ e ∈ c.enrollments ∧ e.studentId = student := by
  simp [enrollmentsOf]

theorem Placed.mem (h : c.Placed s e) : e ∈ c.enrollments ∧ e.studentId = s.id := by
  rw [← mem_enrollmentsOf, h.only]
  exact List.mem_singleton.mpr rfl

theorem Placed.eq_of_mem {f : Enrollment} (h : c.Placed s e) (hf : f ∈ c.enrollments)
    (hs : f.studentId = s.id) : f = e := by
  have hmem := mem_enrollmentsOf.mpr ⟨hf, hs⟩
  rw [h.only] at hmem
  exact List.mem_singleton.mp hmem

/-- Classes and students are told apart by identifiers, every student is placed, and what is in a
class is in one that somebody has. -/
structure Registered (c : Campus) : Prop where
  classIds : (c.classes.map ClassGroup.id).Nodup
  studentIds : (c.students.map Student.id).Nodup
  placed : ∀ s ∈ c.students, ∃ e, c.Placed s e
  known : ∀ e ∈ c.enrollments, e.studentId ∈ c.students.map Student.id
  kept : ∀ n ∈ c.contents, ∃ admin, c.owns admin n.classId = true

/-- There is somebody or something in the class. -/
def Occupied (c : Campus) (id : Id) : Prop :=
  (∃ s ∈ c.students, s.classId = id) ∨ (∃ e ∈ c.enrollments, e.classId = id) ∨
    ∃ n ∈ c.contents, n.classId = id

namespace Registered

variable (h : c.Registered)
include h

theorem owner_of_student (hs : s ∈ c.students) : ∃ admin, c.owns admin s.classId = true := by
  obtain ⟨e, he⟩ := h.placed s hs
  obtain ⟨admin, -, howner⟩ := he.owner
  exact ⟨admin, howner⟩

theorem ownClass?_eq (hg : g ∈ c.classes) : c.ownClass? g.adminId g.id = some g := by
  refine find?_eq_some h.classIds hg (by simp) fun k hk => ?_
  simp only [Bool.and_eq_true, decide_eq_true_eq] at hk
  exact hk.1

theorem ownStudent?_eq (hs : s ∈ c.students) (howner : c.owns admin s.classId = true) :
    Students.own? c admin s.id = some s := by
  refine find?_eq_some h.studentIds hs (by simp [howner]) fun t ht => ?_
  simp only [Bool.and_eq_true, decide_eq_true_eq] at ht
  exact ht.1

/-- Other classes will do, if they are told apart and nobody loses one that is occupied. -/
theorem of_classes (hstudents : c'.students = c.students)
    (henrollments : c'.enrollments = c.enrollments) (hcontents : c'.contents = c.contents)
    (hids : (c'.classes.map ClassGroup.id).Nodup)
    (howns : ∀ admin id, c.Occupied id → c.owns admin id = true → c'.owns admin id = true) :
    c'.Registered where
  classIds := hids
  studentIds := hstudents ▸ h.studentIds
  placed s hs := by
    rw [hstudents] at hs
    obtain ⟨e, he⟩ := h.placed s hs
    obtain ⟨admin, howner, howner'⟩ := he.owner
    have honly : c'.enrollmentsOf s.id = [e] := by
      unfold enrollmentsOf
      rw [henrollments]
      exact he.only
    refine ⟨e, honly, he.active, admin, ?_, ?_⟩
    · exact howns admin e.classId (.inr (.inl ⟨e, he.mem.1, rfl⟩)) howner
    · exact howns admin s.classId (.inl ⟨s, hs, rfl⟩) howner'
  known e he := by
    rw [hstudents]
    exact h.known e (henrollments ▸ he)
  kept n hn := by
    rw [hcontents] at hn
    obtain ⟨admin, howner⟩ := h.kept n hn
    exact ⟨admin, howns admin n.classId (.inr (.inr ⟨n, hn, rfl⟩)) howner⟩

/-- The same classes, students and enrollments with other contents. -/
theorem of_contents (hclasses : c'.classes = c.classes) (hstudents : c'.students = c.students)
    (henrollments : c'.enrollments = c.enrollments)
    (hkept : ∀ n ∈ c'.contents, ∃ admin, c.owns admin n.classId = true) : c'.Registered := by
  have howns (admin id : Id) : c'.owns admin id = c.owns admin id := by
    unfold owns
    rw [hclasses]
  refine ⟨hclasses ▸ h.classIds, hstudents ▸ h.studentIds, ?_, ?_, ?_⟩
  · intro s hs
    rw [hstudents] at hs
    obtain ⟨e, he⟩ := h.placed s hs
    have honly : c'.enrollmentsOf s.id = [e] := by
      unfold enrollmentsOf
      rw [henrollments]
      exact he.only
    refine ⟨e, honly, he.active, ?_⟩
    simpa only [howns] using he.owner
  · intro e he
    rw [hstudents]
    exact h.known e (henrollments ▸ he)
  · intro n hn
    simpa only [howns] using hkept n hn

/-- A student who joins a class is placed there, and those who were there stay where they are. -/
theorem joined (hjoins : c.Joins g s e) : (c.joined s e).Registered where
  classIds := h.classIds
  studentIds := nodup_append h.studentIds hjoins.fresh
  placed t ht := by
    rcases List.mem_append.mp ht with ht | ht
    · obtain ⟨f, hf⟩ := h.placed t ht
      refine ⟨f, ?_, hf.active, hf.owner⟩
      have hne : e.studentId ≠ t.id := by
        rw [hjoins.student]
        exact fun hid => hjoins.fresh t ht hid.symm
      rw [← hf.only]
      exact filter_append_singleton (decide_eq_false hne)
    · obtain rfl := List.mem_singleton.mp ht
      refine ⟨e, ?_, hjoins.active, g.adminId, ?_⟩
      · have hnone : c.enrollments.filter (fun f => f.studentId = t.id) = [] := by
          rw [List.filter_eq_nil_iff]
          intro f hf hid
          obtain ⟨r, hr, hrid⟩ := List.mem_map.mp (h.known f hf)
          exact hjoins.fresh r hr (hrid.trans (of_decide_eq_true hid))
        show (c.enrollments ++ [e]).filter _ = [e]
        simp [List.filter_append, hnone, hjoins.student]
      · rw [hjoins.place, hjoins.classId]
        have howner : c.owns g.adminId g.id = true := owns_iff.mpr ⟨g, hjoins.group, rfl, rfl⟩
        exact ⟨howner, howner⟩
  known f hf := by
    show f.studentId ∈ (c.students ++ [s]).map Student.id
    rw [List.map_append, List.mem_append]
    rcases List.mem_append.mp hf with hf | hf
    · exact .inl (h.known f hf)
    · rw [List.mem_singleton.mp hf, hjoins.student]
      exact .inr (List.mem_singleton.mpr rfl)
  kept := h.kept

/-- A student who is changed, and perhaps moved between the classes of an administrator, stays
placed. -/
theorem changedStudent (hs : s ∈ c.students) (hid : s'.id = s.id)
    (howner : ∃ admin, c.owns admin s.classId = true ∧ c.owns admin s'.classId = true) :
    { c with students := replaced Student.id s' c.students }.Registered where
  classIds := h.classIds
  studentIds := nodup_replaced h.studentIds
  placed t ht := by
    rcases mem_replaced ht with rfl | ⟨ht, -⟩
    · obtain ⟨e, he⟩ := h.placed s hs
      refine ⟨e, ?_, he.active, ?_⟩
      · show c.enrollmentsOf t.id = [e]
        rw [hid]
        exact he.only
      · obtain ⟨admin, howner, howner'⟩ := howner
        obtain ⟨other, hother, hother'⟩ := he.owner
        obtain rfl := owner_unique h.classIds howner hother'
        exact ⟨admin, hother, howner'⟩
    · obtain ⟨e, he⟩ := h.placed t ht
      exact ⟨e, he.only, he.active, he.owner⟩
  known e he := by
    show e.studentId ∈ (replaced Student.id s' c.students).map Student.id
    rw [map_id_replaced]
    exact h.known e he
  kept := h.kept

theorem erasedStudent (records : List Record) (id : Id) : { c with
      students := without Student.id id c.students
      enrollments := c.enrollments.filter fun e => e.studentId ≠ id
      records := records }.Registered where
  classIds := h.classIds
  studentIds := nodup_without h.studentIds
  placed s hs := by
    obtain ⟨hs, hne⟩ := mem_without.mp hs
    obtain ⟨e, he⟩ := h.placed s hs
    refine ⟨e, ?_, he.active, he.owner⟩
    rw [← he.only]
    show (without Enrollment.studentId id c.enrollments).filter _ = _
    refine filter_without fun f _ hf => ?_
    exact decide_eq_false fun hfs => hne (hfs.symm.trans hf)
  known e he := by
    change e ∈ without Enrollment.studentId id c.enrollments at he
    obtain ⟨he, hne⟩ := mem_without.mp he
    obtain ⟨s, hs, hid⟩ := List.mem_map.mp (h.known e he)
    rw [← hid] at hne ⊢
    exact List.mem_map_of_mem (mem_without.mpr ⟨hs, hne⟩)
  kept := h.kept

end Registered

theorem registered_empty (ids : Ids) : (Campus.empty ids).Registered := by
  constructor <;> simp [Campus.empty]

end Campus

/-- Whatever is done, the classes, the students and the contents stay in order. -/
theorem Action.Effect.registered {c c' : Campus} {now : Instant} {a : Action}
    {told : Option ClassRow} (heffect : Effect c now a told c') (h : c.Registered) :
    c'.Registered := by
  cases heffect with
  | gotClass | gotStudent | gotContent => exact h
  | madeClass _ hfresh =>
    refine h.of_classes rfl rfl rfl (nodup_append h.classIds hfresh) fun admin id _ howner => ?_
    exact (owns_of_made rfl).mpr (.inl howner)
  | @changedClass _ _ _ g g' hg _ _ happly =>
    obtain ⟨hkey, hadmin⟩ := Classes.Change.keeps_of_apply happly
    refine h.of_classes rfl rfl rfl (nodup_replaced h.classIds) fun admin id _ howner => ?_
    exact (owns_of_changed h.classIds hg hkey hadmin rfl).mpr howner
  | @erasedClass _ id _ _ _ _ _ hstudents henrollments hcontents =>
    refine h.of_classes rfl rfl rfl (nodup_without h.classIds) fun admin id hfull howner => ?_
    refine (owns_of_erased rfl).mpr ⟨howner, ?_⟩
    rcases hfull with ⟨s, hs, rfl⟩ | ⟨e, he, rfl⟩ | ⟨n, hn, rfl⟩
    · exact hstudents s hs
    · exact henrollments e he
    · exact hcontents n hn
  | madeStudent hjoins | signedUp hjoins => exact h.joined hjoins
  | @changedStudent admin _ _ s s' hs _ howner howner' happly =>
    exact h.changedStudent hs (Students.Change.id_of_apply happly) ⟨admin, howner, howner'⟩
  | @touchedStudent _ s s' _ hs hid hclass =>
    obtain ⟨admin, howner⟩ := h.owner_of_student hs
    exact h.changedStudent hs hid ⟨admin, howner, hclass ▸ howner⟩
  | erasedStudent => exact h.erasedStudent _ _
  | @madeContent admin _ n _ howner =>
    refine h.of_contents rfl rfl rfl fun k hk => ?_
    rcases List.mem_append.mp hk with hk | hk
    · exact h.kept k hk
    · rw [List.mem_singleton.mp hk]
      exact ⟨admin, howner⟩
  | @changedContent admin _ _ n n' hn _ howner happly =>
    refine h.of_contents rfl rfl rfl fun k hk => ?_
    rcases mem_replaced hk with rfl | ⟨hk, -⟩
    · rw [(Contents.Change.keeps_of_apply happly).2]
      exact ⟨admin, howner⟩
    · exact h.kept k hk
  | @erasedContent _ id =>
    refine h.of_contents rfl rfl rfl fun k hk => ?_
    obtain ⟨r, hr, rfl⟩ := List.mem_map.mp hk
    rw [(Contents.faithful_detached id now _).classId r hr]
    exact h.kept r (mem_without.mp hr).1

namespace Campus

variable {c c' : Campus} {allowed : Campus → Instant → Action → Prop}

theorem Registered.of_same (h : c.Registered) (hsame : c.SameRegister c') : c'.Registered := by
  refine h.of_contents hsame.classes hsame.students hsame.enrollments fun n hn => ?_
  exact h.kept n (hsame.contents ▸ hn)

theorem Registered.perform (h : c.Registered) (now : Instant) (a : Action) :
    (a.perform c now).campus.Registered := by
  obtain ⟨told, heffect⟩ | hsame := Action.effect_perform c now a
  · exact heffect.registered h
  · exact h.of_same hsame

theorem Arises.registered (h : Arises allowed c) : c.Registered :=
  h.invariant registered_empty (fun _ _ h hstep => h.of_same hstep.sameRegister)
    fun _ now a h _ => h.perform now a

end Campus

end LogicTutor
