import LogicTutor.Proofs.Campus.Register

/-! Whether students are enrolled in the class that they are in. Joining and leaving keep the two in
step; a student who is moved to another class stays enrolled in the old one, and that is what counts
when contents are listed. -/
namespace LogicTutor

open Campus

namespace Campus

/-- The student has an active enrollment in the class. -/
def EnrolledIn (c : Campus) (student classId : Id) : Prop :=
  ∃ e ∈ c.enrollments, e.studentId = student ∧ e.classId = classId ∧ e.status = .active

/-- Students are enrolled in the class that they are in, and in no other. -/
def Agrees (c : Campus) : Prop :=
  ∀ s ∈ c.students, ∀ classId, c.EnrolledIn s.id classId ↔ s.classId = classId

/-- No enrollment of a student is in another class than the student. -/
def Matched (c : Campus) : Prop :=
  ∀ s ∈ c.students, ∀ e ∈ c.enrollments, e.studentId = s.id → e.classId = s.classId

variable {c c' : Campus} {s s' : Student} {e : Enrollment} {classId : Id}

theorem Placed.enrolledIn_iff (h : c.Placed s e) :
    c.EnrolledIn s.id classId ↔ e.classId = classId := by
  constructor
  · rintro ⟨f, hf, hs, rfl, -⟩
    rw [h.eq_of_mem hf hs]
  · intro hclass
    exact ⟨e, h.mem.1, h.mem.2, hclass, h.active⟩

/-- As every student has one enrollment, nothing more is needed for the two to agree. -/
theorem Registered.agrees_iff (h : c.Registered) : c.Agrees ↔ c.Matched := by
  constructor
  · intro hagrees s hs e he hid
    obtain ⟨f, hf⟩ := h.placed s hs
    obtain rfl := hf.eq_of_mem he hid
    exact ((hagrees s hs e.classId).mp (hf.enrolledIn_iff.mpr rfl)).symm
  · intro hmatched s hs classId
    obtain ⟨e, he⟩ := h.placed s hs
    rw [he.enrolledIn_iff, hmatched s hs e he.mem.1 he.mem.2]

/-- What a student is shown of a class depends on the one enrollment. -/
theorem Placed.isEnrolled (h : c.Placed s e) :
    Lessons.isEnrolled c s.id classId = .ok (decide (e.classId = classId)) := by
  have hactive : Lessons.active c s.id = [e] := by
    have hsplit : Lessons.active c s.id =
        (c.enrollmentsOf s.id).filter fun e => e.status = .active := by
      simp only [Lessons.active, enrollmentsOf, List.filter_filter, Bool.and_comm]
    rw [hsplit, h.only]
    simp [h.active]
  unfold Lessons.isEnrolled
  rw [hactive]
  by_cases hclass : e.classId = classId <;> simp [hclass]

/-- Contents are listed for students who are enrolled in the class, and for no others. -/
theorem Placed.list_eq (h : c.Placed s e) (parent : Option Id) :
    (c.EnrolledIn s.id classId → Lessons.list c s.id classId parent =
      .answered c (Lessons.shownIn c classId (parent.filter (!·.isEmpty)))) ∧
    (¬ c.EnrolledIn s.id classId →
      Lessons.list c s.id classId parent = .refused c Lessons.notEnrolled) := by
  unfold Lessons.list Lessons.whenEnrolled
  rw [h.enrolledIn_iff, h.isEnrolled]
  constructor
  · intro hclass
    rw [decide_eq_true hclass]
  · intro hclass
    rw [decide_eq_false hclass]

/-- Whoever joins a class is enrolled in it. -/
theorem Matched.joined {g : ClassGroup} (hm : c.Matched) (h : c.Registered)
    (hjoins : c.Joins g s e) : (c.joined s e).Matched := by
  intro t ht f hf hid
  rcases List.mem_append.mp ht with ht | ht <;> rcases List.mem_append.mp hf with hf | hf
  · exact hm t ht f hf hid
  · -- the enrollment is that of the new student
    rw [List.mem_singleton.mp hf, hjoins.student] at hid
    exact absurd hid.symm (hjoins.fresh t ht)
  · -- and an old one is not
    rw [List.mem_singleton.mp ht] at hid
    obtain ⟨r, hr, hrid⟩ := List.mem_map.mp (h.known f hf)
    exact absurd (hrid.trans hid) (hjoins.fresh r hr)
  · rw [List.mem_singleton.mp ht, List.mem_singleton.mp hf, hjoins.place, hjoins.classId]

/-- A student who is changed is still enrolled in the old class, so the class must stay. -/
theorem Matched.changed_iff (hm : c.Matched) (h : c.Registered) (hs : s ∈ c.students)
    (hid : s'.id = s.id) :
    { c with students := replaced Student.id s' c.students }.Matched ↔ s'.classId = s.classId := by
  constructor
  · intro hm'
    obtain ⟨e, he⟩ := h.placed s hs
    have hnew : e.classId = s'.classId :=
      hm' s' (mem_replaced_self hs hid) e he.mem.1 (he.mem.2.trans hid.symm)
    rw [← hnew]
    exact hm s hs e he.mem.1 he.mem.2
  · intro hclass t ht e he hte
    rcases mem_replaced ht with rfl | ⟨ht, -⟩
    · rw [hclass]
      exact hm s hs e he (hte.trans hid)
    · exact hm t ht e he hte

end Campus

namespace Action

variable {c c' : Campus} {now : Instant} {a : Action} {told : Option ClassRow}

/-- The action moves a student to another class. -/
def Transfers (c : Campus) (now : Instant) (a : Action) : Prop :=
  ∃ admin id d s classId, a = .updateStudent admin id d ∧ Students.own? c admin id = some s ∧
    d.classId = some (some classId) ∧ classId ≠ s.classId ∧ (a.perform c now).Succeeds

/-- Nothing else that is done to classes, students or contents parts enrollment and class. -/
theorem Effect.matched (heffect : Effect c now a told c') (h : c.Registered) (hm : c.Matched)
    (ha : ∀ admin id d, a ≠ .updateStudent admin id d) : c'.Matched := by
  cases heffect with
  | gotClass | gotStudent | gotContent => exact hm
  | madeClass | changedClass | erasedClass => exact hm
  | madeContent | changedContent | erasedContent => exact hm
  | madeStudent hjoins | signedUp hjoins => exact hm.joined h hjoins
  | changedStudent => exact absurd rfl (ha _ _ _)
  | touchedStudent _ hs hid hclass => exact (hm.changed_iff h hs hid).mpr hclass
  | erasedStudent =>
    intro s hs e he hid
    exact hm s (mem_without.mp hs).1 e (List.mem_filter.mp he).1 hid

/-- Changing a student parts the two if the student comes into another class by it. -/
theorem matched_updateStudent_iff (h : c.Registered) (hm : c.Matched) (admin id : Id)
    (d : Students.Change) :
    ((updateStudent admin id d).perform c now).campus.Matched ↔
      ¬ (updateStudent admin id d).Transfers c now := by
  have hcampus : ((updateStudent admin id d).perform c now).campus =
      (Students.update c admin id d).campus := rfl
  have hsucceeds : ((updateStudent admin id d).perform c now).Succeeds ↔
      (Students.update c admin id d).Succeeds := Deed.succeeds_map
  rw [hcampus]
  obtain ⟨s', message, hresult, heffect⟩ | ⟨hfail, n, -, hsame⟩ :=
    Students.update_brings c admin id now d
  · generalize (Students.update c admin id d).campus = c' at heffect ⊢
    cases heffect with
    | @changedStudent _ _ _ s _ hs hid howner _ happly =>
      subst hid
      rw [hm.changed_iff h hs (Students.Change.id_of_apply happly)]
      have hfound := h.ownStudent?_eq hs howner
      obtain ⟨_, _, classId, -, -, hclass, rfl⟩ := Students.Change.apply_eq_ok happly
      constructor
      · rintro hkept ⟨_, _, _, t, place, ha, ht, hd, hne, -⟩
        cases ha
        obtain rfl := Option.some.inj (hfound.symm.trans ht)
        rw [hd] at hclass
        obtain rfl := Option.some.inj hclass
        exact hne hkept
      · intro hstays
        by_contra hmoved
        refine hstays ⟨admin, s.id, d, s, classId, rfl, hfound, ?_, hmoved, ?_⟩
        · match hd : d.classId with
          | none =>
            rw [hd] at hclass
            exact absurd (Option.some.inj hclass).symm hmoved
          | some place =>
            rw [hd] at hclass
            exact congrArg some hclass
        · exact hsucceeds.mpr ⟨_, message, hresult⟩
  · rw [hsame]
    refine iff_of_true hm ?_
    rintro ⟨_, _, _, _, _, -, -, -, -, hs⟩
    exact hfail (hsucceeds.mp hs)

/-- Enrollment and class agree after an action if they did before, unless it moves a student to
another class. -/
theorem agrees_perform_iff (h : c.Registered) (hagrees : c.Agrees) :
    (a.perform c now).campus.Agrees ↔ ¬ a.Transfers c now := by
  have hm : c.Matched := h.agrees_iff.mp hagrees
  rw [(h.perform now a).agrees_iff]
  by_cases ha : ∃ admin id d, a = .updateStudent admin id d
  · obtain ⟨admin, id, d, rfl⟩ := ha
    exact matched_updateStudent_iff h hm admin id d
  · have hother : ∀ admin id d, a ≠ .updateStudent admin id d := by
      intro admin id d hupdate
      exact ha ⟨admin, id, d, hupdate⟩
    refine iff_of_true ?_ ?_
    · obtain ⟨told, heffect⟩ | hsame := effect_perform c now a
      · exact heffect.matched h hm hother
      · unfold Matched
        rw [hsame.students, hsame.enrollments]
        exact hm
    · rintro ⟨admin, id, d, _, _, hupdate, -⟩
      exact hother admin id d hupdate

end Action

namespace Campus

theorem agrees_empty (ids : Ids) : (Campus.empty ids).Agrees := by
  simp [Agrees, Campus.empty]

/-- On every campus each student has one enrollment, which is active and in a class of the
administrator whose class the student is in, and contents are listed for the student in the class
of that enrollment and in no other. That this is the student's own class outlasts everything but
moving a student to another class; where nobody was ever moved, it is so for all. -/
theorem enrollment_matches_class (c : Campus) (hc : c.Arises fun _ _ _ => True) :
    (∀ s ∈ c.students, ∃ e, c.Placed s e) ∧
    (∀ s ∈ c.students, ∀ classId parent,
      (c.EnrolledIn s.id classId → Lessons.list c s.id classId parent =
        .answered c (Lessons.shownIn c classId (parent.filter (!·.isEmpty)))) ∧
      (¬ c.EnrolledIn s.id classId →
        Lessons.list c s.id classId parent = .refused c Lessons.notEnrolled)) ∧
    (c.Agrees → ∀ now a, (Action.perform c now a).campus.Agrees ↔ ¬ a.Transfers c now) ∧
    (c.Arises (fun c now a => ¬ a.Transfers c now) → c.Agrees) := by
  have h := hc.registered
  refine ⟨h.placed, ?_, fun hagrees now a => Action.agrees_perform_iff h hagrees, ?_⟩
  · intro s hs classId parent
    obtain ⟨e, he⟩ := h.placed s hs
    exact he.list_eq parent
  · intro hc
    have hboth : c.Registered ∧ c.Agrees := by
      refine hc.invariant (P := fun c => c.Registered ∧ c.Agrees) ?_ ?_ ?_
      · exact fun ids => ⟨registered_empty ids, agrees_empty ids⟩
      · rintro c c' ⟨h, hagrees⟩ hstep
        have hsame := hstep.sameRegister
        have h' := h.of_same hsame
        refine ⟨h', h'.agrees_iff.mpr ?_⟩
        unfold Matched
        rw [hsame.students, hsame.enrollments]
        exact h.agrees_iff.mp hagrees
      · rintro c now a ⟨h, hagrees⟩ ha
        exact ⟨h.perform now a, (Action.agrees_perform_iff h hagrees).mpr ha⟩
    exact hboth.2

/-- Two classes of one administrator, and a student in the first. -/
def enrolled : Campus := (Campus.empty .counting).run 0
  [.createClass "a" ⟨some "Turma A", none, some "T1", .obj []⟩,
   .createClass "a" ⟨some "Turma B", none, some "T2", .obj []⟩,
   .createStudent "a" ⟨some "Aluna", some "b@x.org", some "segredo", none, some (idOf 1)⟩]

/-- Moves the student to the second class. -/
def moveStudent : Action :=
  .updateStudent "a" (idOf 3) ⟨none, none, none, none, some (some (idOf 2)), none⟩

/-- The student is enrolled in the class until moved to the other. -/
theorem enrollment_matches_class_until_moved :
    enrolled.Agrees ∧ ¬ (moveStudent.perform enrolled 0).campus.Agrees := by
  obtain ⟨-, -, hstep, hagrees⟩ :=
    enrollment_matches_class enrolled (.run (.empty _) fun _ _ => trivial)
  have henrolled : enrolled.Agrees := by
    refine hagrees (.perform (.perform (.perform (.empty _) ?_) ?_) ?_)
    all_goals
      rintro ⟨_, _, _, _, _, h, -⟩
      cases h
  refine ⟨henrolled, fun h => (hstep henrolled 0 moveStudent).mp h ?_⟩
  exact ⟨"a", idOf 3, _, _, idOf 2, rfl, rfl, rfl, by decide, _, _, rfl⟩

/-- The campus after that. -/
def moved : Campus := enrolled.run 0 [moveStudent]

/-- A student who was moved is in the second class, but is shown the contents of the first, and is
refused those of the second. -/
theorem enrollment_stays_behind :
    moved.Arises (fun _ _ a => a.WritesRegister ∧ ¬ a.WritesContents) ∧
    moved.students.map (fun s => (s.id, s.classId)) = [(idOf 3, idOf 2)] ∧
    ¬ moved.Agrees ∧
    (Lessons.list moved (idOf 3) (idOf 1) none).Succeeds ∧
    (Lessons.list moved (idOf 3) (idOf 2) none).result = .ok (.failure Lessons.notEnrolled) := by
  refine ⟨?_, rfl, fun hagrees => ?_, ⟨_, _, rfl⟩, rfl⟩
  · refine .run (.run (.empty _) ?_) ?_
    · simp [Action.WritesRegister, Action.ManagesClasses, Action.WritesContents]
    · simp [moveStudent, Action.WritesRegister, Action.WritesContents]
  · have hin : moved.EnrolledIn (idOf 3) (idOf 1) := ⟨_, List.mem_singleton.mpr rfl, rfl, rfl, rfl⟩
    have hclass := (hagrees _ (List.mem_singleton.mpr rfl) (idOf 1)).mp hin
    exact absurd hclass (by decide)

end Campus

end LogicTutor
