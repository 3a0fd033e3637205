import LogicTutor.Proofs.Campus.Setup
import LogicTutor.Proofs.Campus.Tree

/-! What actions do to the classes, the students and the contents of a campus. Each change is told
once, with the row that the action is about and with what was checked before it. -/
namespace LogicTutor

open Campus

namespace Campus

variable {c : Campus} {admin id : Id} {g : ClassGroup}

theorem owns_iff : c.owns admin id = true ↔ ∃ g ∈ c.classes, g.id = id ∧ g.adminId = admin := by
  simp [owns]

theorem ownClass?_eq_some (h : c.ownClass? admin id = some g) :
    g ∈ c.classes ∧ g.id = id ∧ g.adminId = admin := by
  obtain ⟨hg, hid, howner⟩ := mem_of_find?_id_and h
  exact ⟨hg, hid, of_decide_eq_true howner⟩

end Campus

/-! What a change makes of a row. -/

theorem Campus.present_eq_ok {α : Type} {o : Option α} {a : α} :
    present o = .ok a ↔ o = some a := by
  cases o <;> simp [present]

theorem Classes.Change.apply_eq_ok {d : Change} {g g' : ClassGroup} (h : d.apply g = .ok g') :
    ∃ name code, d.name.getD (some g.name) = some name ∧
      d.accessCode.getD (some g.accessCode) = some code ∧
      g' = { g with
        name := name, description := d.description.getD g.description, accessCode := code,
        active := d.active.getD g.active, configs := d.configs.getD g.configs } := by
  obtain ⟨name, hname, h⟩ := exists_of_bind_eq_ok h
  obtain ⟨code, hcode, h⟩ := exists_of_bind_eq_ok h
  exact ⟨name, code, present_eq_ok.mp hname, present_eq_ok.mp hcode, (Except.ok.inj h).symm⟩

theorem Students.Change.apply_eq_ok {d : Change} {s s' : Student} (h : d.apply s = .ok s') :
    ∃ name email classId, d.name.getD (some s.name) = some name ∧
      d.email.getD (some s.email) = some email ∧ d.classId.getD (some s.classId) = some classId ∧
      s' = { s with
        name := name, email := email, password := d.password.getD s.password,
        registration := d.registration.getD s.registration, classId := classId,
        active := d.active.getD s.active } := by
  unfold apply at h
  -- what is done with the password, whether it is the old one or a new one
  replace h : (do
      let name ← present (d.name.getD (some s.name))
      let email ← present (d.email.getD (some s.email))
      let classId ← present (d.classId.getD (some s.classId))
      return { s with
        name := name, email := email, password := d.password.getD s.password,
        registration := d.registration.getD s.registration, classId := classId,
        active := d.active.getD s.active }) = Except.ok s' := by
    split at h
    next hnone =>
      rw [hnone]
      exact h
    next p hp =>
      rw [hp]
      exact h
    next => cases h
  obtain ⟨name, hname, h⟩ := exists_of_bind_eq_ok h
  obtain ⟨email, hemail, h⟩ := exists_of_bind_eq_ok h
  obtain ⟨classId, hclass, h⟩ := exists_of_bind_eq_ok h
  exact ⟨name, email, classId, present_eq_ok.mp hname, present_eq_ok.mp hemail,
    present_eq_ok.mp hclass, (Except.ok.inj h).symm⟩

theorem Contents.Change.apply_eq_ok {d : Change} {now : Instant} {n n' : Content}
    (h : d.apply now n = .ok n') : ∃ title, d.title.getD (some n.title) = some title ∧
      n' = { n with
        title := title, description := d.description.getD n.description,
        parentId := d.parentId.getD n.parentId, order := d.order.getD n.order,
        visibility := d.visibility.getD n.visibility, notes := d.notes.getD n.notes,
        updatedAt := now, material := d.applyMaterial n.material } := by
  obtain ⟨title, htitle, h⟩ := exists_of_bind_eq_ok h
  exact ⟨title, present_eq_ok.mp htitle, (Except.ok.inj h).symm⟩

/-! What no change touches. -/

theorem Classes.Change.keeps_of_apply {d : Change} {g g' : ClassGroup} (h : d.apply g = .ok g') :
    g'.id = g.id ∧ g'.adminId = g.adminId := by
  obtain ⟨name, code, -, -, rfl⟩ := apply_eq_ok h
  exact ⟨rfl, rfl⟩

theorem Students.Change.id_of_apply {d : Change} {s s' : Student} (h : d.apply s = .ok s') :
    s'.id = s.id := by
  obtain ⟨name, email, classId, -, -, -, rfl⟩ := apply_eq_ok h
  rfl

theorem Contents.Change.keeps_of_apply {d : Change} {now : Instant} {n n' : Content}
    (h : d.apply now n = .ok n') : n'.id = n.id ∧ n'.classId = n.classId := by
  obtain ⟨title, -, rfl⟩ := apply_eq_ok h
  exact ⟨rfl, rfl⟩

/-- What stands in a class: the class itself, a student, or a content. -/
inductive ClassRow where
  | group (g : ClassGroup)
  | student (s : Student)
  | content (n : Content)

/-- The student `s` is new in the class `g`, with the active enrollment `e`. -/
structure Campus.Joins (c : Campus) (g : ClassGroup) (s : Student) (e : Enrollment) : Prop where
  group : g ∈ c.classes
  fresh : ∀ t ∈ c.students, t.id ≠ s.id
  classId : s.classId = g.id
  student : e.studentId = s.id
  place : e.classId = g.id
  active : e.status = .active
  id : s.id = c.ids.nth (c.drawn + 1)
  clear : ∀ t ∈ c.students, t.clashes s = false
  enrollmentId : e.id = c.ids.nth (c.drawn + 2)

/-- The campus with one more student and enrollment. -/
def Campus.joined (c : Campus) (s : Student) (e : Enrollment) : Campus :=
  { c.spend 2 with students := c.students ++ [s], enrollments := c.enrollments ++ [e] }

namespace Contents

variable {c : Campus} {n : Content}

theorem exists_liesIn {p : Id} (hn : n.parentId = some p) (h : hasFolder c p n.classId = true) :
    ∃ m, LiesIn c.contents n m ∧ m.id = p := by
  obtain ⟨m, hm, h⟩ := List.any_eq_true.mp h
  simp only [Bool.and_eq_true, decide_eq_true_eq] at h
  obtain ⟨⟨rfl, hclass⟩, hfolder⟩ := h
  exact ⟨m, ⟨hm, hfolder, hclass, hn⟩, rfl⟩

/-- `n` is what can be made of a draft. -/
structure Creates (c : Campus) (d : Draft) (n : Content) : Prop where
  fresh : ∀ k ∈ c.contents, k.id ≠ n.id
  id : n.id = c.nextId
  parent : n.parentId = d.parentId
  folder : ∀ p, n.parentId = some p → p ≠ "" → ∃ m, LiesIn c.contents n m

/-- A folder that `n'` is to be moved into is another folder of its class. -/
def Moves (c : Campus) (d : Change) (n n' : Content) : Prop :=
  ∀ p, d.parentId = some (some p) → p ≠ n.id ∧ ∃ m, LiesIn c.contents n' m ∧ m.id = p

end Contents

namespace Action

/-- The administrator for whom an action on classes, students or contents is done. -/
def admin? : Action → Option Id
  | listClasses admin _ _ | getClass admin _ | createClass admin _ | updateClass admin _ _
  | deleteClass admin _ => some admin
  | listStudents admin _ _ _ | getStudent admin _ | createStudent admin _ | updateStudent admin _ _
  | deleteStudent admin _ => some admin
  | listContents admin _ | getContent admin _ | createContent admin _ | updateContent admin _ _
  | deleteContent admin _ => some admin
  | _ => none

/-- What an action does to the classes, the students and the contents of a campus, and which row it
is about. -/
inductive Effect (c : Campus) (now : Instant) : Action → Option ClassRow → Campus → Prop
  | gotClass {admin id : Id} {g : ClassGroup} (hg : g ∈ c.classes) (hid : g.id = id)
      (howner : g.adminId = admin) : Effect c now (.getClass admin id) (some (.group g)) c
  | madeClass {admin : Id} {d : Classes.Draft} {g : ClassGroup} (howner : g.adminId = admin)
      (hfresh : ∀ h ∈ c.classes, h.id ≠ g.id) (hid : g.id = c.nextId)
      (hclear : ∀ h ∈ c.classes, h.clashes g = false) :
      Effect c now (.createClass admin d) (some (.group g))
        { c.spend 1 with classes := c.classes ++ [g] }
  | changedClass {admin id : Id} {d : Classes.Change} {g g' : ClassGroup} (hg : g ∈ c.classes)
      (hid : g.id = id) (howner : g.adminId = admin) (happly : d.apply g = .ok g')
      (hclear : ∀ h ∈ c.classes, h.id ≠ g'.id → h.clashes g' = false) :
      Effect c now (.updateClass admin id d) (some (.group g'))
        { c with classes := replaced ClassGroup.id g' c.classes }
  | erasedClass {admin id : Id} {g : ClassGroup} {records : List Record} (hg : g ∈ c.classes)
      (hid : g.id = id) (howner : g.adminId = admin) (hstudents : ∀ s ∈ c.students, s.classId ≠ id)
      (henrollments : ∀ e ∈ c.enrollments, e.classId ≠ id)
      (hcontents : ∀ n ∈ c.contents, n.classId ≠ id)
      (hrecords : records.length = c.records.length) :
      Effect c now (.deleteClass admin id) none
        { c with classes := without ClassGroup.id id c.classes, records := records }
  | gotStudent {admin id : Id} {s : Student} (hs : s ∈ c.students) (hid : s.id = id)
      (howner : c.owns admin s.classId = true) :
      Effect c now (.getStudent admin id) (some (.student s)) c
  | madeStudent {admin : Id} {d : Students.Draft} {g : ClassGroup} {s : Student} {e : Enrollment}
      (hjoins : c.Joins g s e) (howner : g.adminId = admin) :
      Effect c now (.createStudent admin d) (some (.student s)) (c.joined s e)
  | signedUp {d : Accounts.SignUp} {g : ClassGroup} {s : Student} {e : Enrollment}
      (hjoins : c.Joins g s e) : Effect c now (.signUp d) none (c.joined s e)
  | changedStudent {admin id : Id} {d : Students.Change} {s s' : Student} (hs : s ∈ c.students)
      (hid : s.id = id) (howner : c.owns admin s.classId = true)
      (howner' : c.owns admin s'.classId = true) (happly : d.apply s = .ok s')
      (hclear : ∀ t ∈ c.students, t.id ≠ s'.id → t.clashes s' = false) :
      Effect c now (.updateStudent admin id d) (some (.student s'))
        { c with students := replaced Student.id s' c.students }
  /-- A student signs in, or changes the account. -/
  | touchedStudent {a : Action} {s s' : Student} (ha : a.admin? = none) (hs : s ∈ c.students)
      (hid : s'.id = s.id) (hclass : s'.classId = s.classId)
      (hclear : ∀ t ∈ c.students, t.id ≠ s'.id → t.clashes s' = false) :
      Effect c now a none { c with students := replaced Student.id s' c.students }
  | erasedStudent {admin id : Id} {s : Student} {records : List Record} (hs : s ∈ c.students)
      (hid : s.id = id) (howner : c.owns admin s.classId = true)
      (hrecords : records.length = c.records.length) :
      Effect c now (.deleteStudent admin id) none { c with
        students := without Student.id id c.students
        enrollments := c.enrollments.filter fun e => e.studentId ≠ id
        records := records }
  | gotContent {admin id : Id} {n : Content} (hn : n ∈ c.contents) (hid : n.id = id)
      (howner : c.owns admin n.classId = true) :
      Effect c now (.getContent admin id) (some (.content n)) c
  | madeContent {admin : Id} {d : Contents.Draft} {n : Content} (hn : Contents.Creates c d n)
      (howner : c.owns admin n.classId = true) :
      Effect c now (.createContent admin d) (some (.content n))
        { c.spend 1 with contents := c.contents ++ [n] }
  | changedContent {admin id : Id} {d : Contents.Change} {n n' : Content} (hn : n ∈ c.contents)
      (hid : n.id = id) (howner : c.owns admin n.classId = true) (happly : d.apply now n = .ok n')
      (hmoves : Contents.Moves c d n n') : Effect c now (.updateContent admin id d)
        (some (.content n'))
        { c with contents := replaced Content.id n' c.contents }
  | erasedContent {admin id : Id} {n : Content} {records : List Record} (hn : n ∈ c.contents)
      (hid : n.id = id) (howner : c.owns admin n.classId = true)
      (hrecords : records.length = c.records.length) :
      Effect c now (.deleteContent admin id) none { c with
        contents := (without Content.id id c.contents).map (Contents.detached id now)
        records := records }

end Action

open LogicTutor.Action (Effect)

variable {c : Campus} {admin id : Id} {now : Instant}

namespace Classes

theorem get_brings (c : Campus) (admin id : Id) (now : Instant) :
    (get c admin id).Brings c 0 fun g => Effect c now (.getClass admin id) (some (.group g)) := by
  refine .found fun g hg => ?_
  obtain ⟨hg, hid, howner⟩ := ownClass?_eq_some hg
  exact .gotClass hg hid howner

theorem create_brings (c : Campus) (admin : Id) (now : Instant) (d : Draft) :
    (create c admin now d).Brings c 1 fun g =>
      Effect c now (.createClass admin d) (some (.group g)) := by
  unfold create
  split
  · exact .refused c _
  · refine .attempt fun g c' h => ?_
    obtain ⟨name, -, h⟩ := exists_of_bind_eq_ok h
    obtain ⟨code, -, h⟩ := exists_of_bind_eq_ok h
    obtain ⟨c'', hadd, h⟩ := exists_of_bind_eq_ok h
    obtain ⟨rfl, rfl⟩ := Prod.mk.inj (Except.ok.inj h)
    have hclear := clear_of_insertRow hadd
    obtain ⟨hfresh, rfl⟩ := eq_of_insertRow hadd
    exact .madeClass rfl hfresh rfl hclear

theorem update_brings (c : Campus) (admin id : Id) (now : Instant) (d : Change) :
    (update c admin id d).Brings c 0 fun g =>
      Effect c now (.updateClass admin id d) (some (.group g)) := by
  unfold update
  split
  · exact .refused c _
  next g hg =>
    obtain ⟨hg, hid, howner⟩ := ownClass?_eq_some hg
    split
    · exact .refused c _
    · refine .attempt fun g' c' h => ?_
      obtain ⟨g'', happly, h⟩ := exists_of_bind_eq_ok h
      obtain ⟨c'', hsave, h⟩ := exists_of_bind_eq_ok h
      obtain ⟨rfl, rfl⟩ := Prod.mk.inj (Except.ok.inj h)
      have hclear := clear_of_updateRow hsave
      obtain rfl := eq_of_updateRow hsave
      exact .changedClass hg hid howner happly hclear

theorem delete_brings (c : Campus) (admin id : Id) (now : Instant) :
    (delete c admin id).Brings c 0 fun _ => Effect c now (.deleteClass admin id) none := by
  unfold delete
  split
  · exact .refused c _
  next g hg =>
    obtain ⟨hmem, rfl, howner⟩ := ownClass?_eq_some hg
    split
    · refine .attempt_map fun c' h => ?_
      obtain ⟨hfree, rfl⟩ := clear_eq_ok.mp h
      simp only [Bool.or_eq_false_iff, List.any_eq_false, decide_eq_true_eq] at hfree
      obtain ⟨⟨⟨hstudents, henrollments⟩, hcontents⟩, -⟩ := hfree
      exact .erasedClass hmem rfl howner hstudents henrollments hcontents (List.length_map _)
    · exact .refused c _

end Classes

namespace Accounts

/-- Somebody who can be enrolled joins the class. -/
theorem joins_of_enroll {name email registration : Option String} {password : String}
    {g : ClassGroup} {s : Student} {c' : Campus} (hg : g ∈ c.classes)
    (h : enroll c now name email password registration g.id = .ok (s, c')) :
    ∃ e, c.Joins g s e ∧ c' = c.joined s e := by
  unfold enroll at h
  dsimp only at h
  split at h
  · cases h
  next s₁ c₁ hs =>
    obtain ⟨name, -, hs⟩ := exists_of_bind_eq_ok hs
    obtain ⟨email, -, hs⟩ := exists_of_bind_eq_ok hs
    obtain ⟨c₂, hadd, hs⟩ := exists_of_bind_eq_ok hs
    obtain ⟨hs₁, rfl⟩ := Prod.mk.inj (Except.ok.inj hs)
    rw [hs₁] at hadd
    have hclass : s₁.classId = g.id := hs₁ ▸ rfl
    have hid : s₁.id = c.ids.nth (c.drawn + 1) := hs₁ ▸ rfl
    have hclear := clear_of_insertRow hadd
    obtain ⟨hfresh, rfl⟩ := eq_of_insertRow hadd
    split at h
    · cases h
    next c₃ he =>
      obtain ⟨rfl, rfl⟩ := Prod.mk.inj (Except.ok.inj h)
      obtain ⟨-, rfl⟩ := eq_of_insertRow he
      refine ⟨⟨c.ids.nth (c.drawn + 2), s₁.id, g.id, now, .active⟩, ?_, rfl⟩
      exact ⟨hg, hfresh, hclass, rfl, rfl, rfl, hid, hclear, rfl⟩

/-- Somebody who cannot be enrolled leaves nothing behind. -/
theorem spend_of_enroll {name email registration : Option String} {password : String}
    {classId : Id} {f : Failure} {c' : Campus}
    (h : enroll c now name email password registration classId = .error (f, c')) :
    ∃ n ≤ 2, c' = c.spend n := by
  unfold enroll at h
  dsimp only at h
  split at h
  · cases h
    exact ⟨1, by decide, rfl⟩
  · split at h
    · cases h
      exact ⟨2, by decide, rfl⟩
    · cases h

theorem signUp_brings (c : Campus) (now : Instant) (d : SignUp) :
    (signUp c now d).Brings c 2 fun _ => Effect c now (.signUp d) none := by
  unfold signUp
  split
  · exact .refused c _
  split
  · exact .refused c _
  split
  · exact .refused c _
  next g hg =>
    split
    · exact .broken c (Nat.zero_le _) _
    next password _ =>
      split
      next s c' h =>
        obtain ⟨e, hjoins, rfl⟩ := joins_of_enroll (List.mem_of_find?_eq_some hg) h
        exact .done (.signedUp hjoins)
      next f c' h =>
        obtain ⟨n, hn, rfl⟩ := spend_of_enroll h
        exact .broken c hn f

/-- A student who is found can be changed in all but identifier and class. -/
theorem touch_brings {α : Type} {r : α} {a : Action} {s s' : Student} {message : String}
    (ha : a.admin? = none) (hs : s ∈ c.students) (hid : s'.id = s.id)
    (hclass : s'.classId = s.classId) :
    (Deed.attempt c message ((c.saveStudent s').map fun c => (r, c))).Brings c 0 fun _ =>
      Effect c now a none := by
  refine .attempt_map fun c' h => ?_
  have hclear := clear_of_updateRow h
  obtain rfl := eq_of_updateRow h
  exact .touchedStudent ha hs hid hclass hclear

theorem signIn_brings (c : Campus) (now : Instant) (email password : Option String) :
    (signIn c now email password).Brings c 0 fun _ =>
      Effect c now (.signIn email password) none := by
  unfold signIn
  split
  · exact .refused c _
  · exact .broken c (Nat.zero_le _) _
  next s p hs =>
    split
    · exact .refused c _
    split
    · exact .refused c _
    · exact touch_brings rfl (List.mem_of_find?_eq_some hs) rfl rfl

theorem changeProfile_brings (c : Campus) (now : Instant) (student : Id)
    (name email : Option String) : (changeProfile c student name email).Brings c 0 fun _ =>
      Effect c now (.changeProfile student name email) none := by
  unfold changeProfile
  split
  · exact .refused c _
  next s hs =>
    split
    · exact .refused c _
    · exact touch_brings rfl (List.mem_of_find?_eq_some hs) rfl rfl

theorem changePassword_brings (c : Campus) (now : Instant) (student : Id)
    (current new repeated : Option String) :
    (changePassword c student current new repeated).Brings c 0 fun _ =>
      Effect c now (.changePassword student current new repeated) none := by
  unfold changePassword
  split
  · exact .refused c _
  split
  · exact .refused c _
  · exact .broken c (Nat.zero_le _) _
  next s current hs _ =>
    split
    · exact .refused c _
    split
    · exact .broken c (Nat.zero_le _) _
    · exact touch_brings rfl (List.mem_of_find?_eq_some hs) rfl rfl

end Accounts

namespace Students

variable {s s' : Student}

theorem own?_eq_some (h : own? c admin id = some s) :
    s ∈ c.students ∧ s.id = id ∧ c.owns admin s.classId = true := mem_of_find?_id_and h

theorem get_brings (c : Campus) (admin id : Id) (now : Instant) :
    (get c admin id).Brings c 0 fun s =>
      Effect c now (.getStudent admin id) (some (.student s)) := by
  refine .found fun s hs => ?_
  obtain ⟨hs, hid, howner⟩ := own?_eq_some hs
  exact .gotStudent hs hid howner

theorem create_brings (c : Campus) (admin : Id) (now : Instant) (d : Draft) :
    (create c admin now d).Brings c 2 fun s =>
      Effect c now (.createStudent admin d) (some (.student s)) := by
  unfold create
  split
  · exact .refused c _
  next g hg =>
    obtain ⟨classId, -, hg⟩ := Option.bind_eq_some_iff.mp hg
    obtain ⟨hg, -, howner⟩ := ownClass?_eq_some hg
    split
    · exact .refused c _
    split
    · exact .refused c _
    split
    · exact .broken c (Nat.zero_le _) _
    · split
      next s c' h =>
        obtain ⟨e, hjoins, rfl⟩ := Accounts.joins_of_enroll hg h
        exact .done (.madeStudent hjoins howner)
      next f c' h =>
        obtain ⟨n, hn, rfl⟩ := Accounts.spend_of_enroll h
        exact .broken c hn f

/-- A student who is moved comes into a class of the same administrator. -/
theorem owns_of_apply {d : Change} (howner : c.owns admin s.classId = true)
    (hclass : ¬ d.classId.any (fun g => (g.bind (c.ownClass? admin)).isNone) = true)
    (h : d.apply s = .ok s') : c.owns admin s'.classId = true := by
  obtain ⟨name, email, classId, -, -, hplace, rfl⟩ := Change.apply_eq_ok h
  match hd : d.classId with
  | none =>
    rw [hd] at hplace
    obtain rfl := Option.some.inj hplace
    exact howner
  | some g =>
    rw [hd] at hplace hclass
    obtain rfl : g = some classId := hplace
    obtain ⟨g, hg⟩ : ∃ g, c.ownClass? admin classId = some g := by
      simpa [Option.isNone_iff_eq_none, Option.eq_none_iff_forall_ne_some] using hclass
    exact owns_iff.mpr ⟨g, ownClass?_eq_some hg⟩

theorem update_brings (c : Campus) (admin id : Id) (now : Instant) (d : Change) :
    (update c admin id d).Brings c 0 fun s =>
      Effect c now (.updateStudent admin id d) (some (.student s)) := by
  unfold update
  split
  · exact .refused c _
  next s hs =>
    obtain ⟨hs, hid, howner⟩ := own?_eq_some hs
    split
    · exact .refused c _
    split
    · exact .refused c _
    next hclass =>
      refine .attempt fun s' c' h => ?_
      obtain ⟨s'', happly, h⟩ := exists_of_bind_eq_ok h
      obtain ⟨c'', hsave, h⟩ := exists_of_bind_eq_ok h
      obtain ⟨rfl, rfl⟩ := Prod.mk.inj (Except.ok.inj h)
      have hclear := clear_of_updateRow hsave
      obtain rfl := eq_of_updateRow hsave
      exact .changedStudent hs hid howner (owns_of_apply howner hclass happly) happly hclear

theorem delete_brings (c : Campus) (admin id : Id) (now : Instant) :
    (delete c admin id).Brings c 0 fun _ => Effect c now (.deleteStudent admin id) none := by
  unfold delete
  split
  · exact .refused c _
  next s hs =>
    obtain ⟨hmem, rfl, howner⟩ := own?_eq_some hs
    refine .attempt_map fun c' h => ?_
    obtain ⟨-, rfl⟩ := clear_eq_ok.mp h
    exact .erasedStudent hmem rfl howner (List.length_map _)

end Students

namespace Contents

variable {n : Content}

theorem own?_eq_some (h : own? c admin id = some n) :
    n ∈ c.contents ∧ n.id = id ∧ c.owns admin n.classId = true := mem_of_find?_id_and h

theorem get_brings (c : Campus) (admin id : Id) (now : Instant) :
    (get c admin id).Brings c 0 fun n =>
      Effect c now (.getContent admin id) (some (.content n)) := by
  refine .found fun n hn => ?_
  obtain ⟨hn, hid, howner⟩ := own?_eq_some hn
  exact .gotContent hn hid howner

theorem create_brings (c : Campus) (admin : Id) (now : Instant) (d : Draft) :
    (create c admin now d).Brings c 1 fun n =>
      Effect c now (.createContent admin d) (some (.content n)) := by
  unfold create
  split
  · exact .refused c _
  next g hg =>
    obtain ⟨classId, -, hg⟩ := Option.bind_eq_some_iff.mp hg
    obtain ⟨hg, -, howner⟩ := ownClass?_eq_some hg
    split
    · exact .refused c _
    next hfolder =>
      split
      · exact .refused c _
      · refine .attempt fun n c' h => ?_
        obtain ⟨title, -, h⟩ := exists_of_bind_eq_ok h
        obtain ⟨c'', hadd, h⟩ := exists_of_bind_eq_ok h
        obtain ⟨hn, rfl⟩ := Prod.mk.inj (Except.ok.inj h)
        rw [hn] at hadd
        have hclass : n.classId = g.id := hn ▸ rfl
        obtain ⟨hfresh, rfl⟩ := eq_of_insertRow hadd
        refine .madeContent ⟨hfresh, hn ▸ rfl, hn ▸ rfl, fun p hp hne => ?_⟩
          (owns_iff.mpr ⟨g, hg, hclass.symm, howner⟩)
        have hdraft : d.parentId = some p := by rw [← hp, ← hn]
        have hhas : hasFolder c p n.classId = true := by
          simpa [hdraft, hne, hclass] using hfolder
        obtain ⟨m, hm, -⟩ := exists_liesIn hp hhas
        exact ⟨m, hm⟩

theorem update_brings (c : Campus) (admin : Id) (now : Instant) (id : Id) (d : Change) :
    (update c admin now id d).Brings c 0 fun n =>
      Effect c now (.updateContent admin id d) (some (.content n)) := by
  unfold update
  split
  · exact .refused c _
  next n hn =>
    obtain ⟨hn, hid, howner⟩ := own?_eq_some hn
    dsimp only
    split
    · exact .refused c _
    next hfolder =>
      split
      · exact .refused c _
      next hown =>
        refine .attempt fun n' c' h => ?_
        obtain ⟨n'', happly, h⟩ := exists_of_bind_eq_ok h
        obtain ⟨rfl, rfl⟩ := Prod.mk.inj (Except.ok.inj h)
        refine .changedContent hn hid howner happly fun p hp => ⟨?_, ?_⟩
        · rintro rfl
          exact hown (by rw [hp, hid]; rfl)
        · obtain ⟨title, -, hn''⟩ := Change.apply_eq_ok happly
          have hhas : hasFolder c p n.classId = true := by simpa [hp] using hfolder
          have hclass : n''.classId = n.classId := hn'' ▸ rfl
          have hparent : n''.parentId = some p := by rw [hn'', hp]; rfl
          exact exists_liesIn hparent (hclass ▸ hhas)

theorem delete_brings (c : Campus) (admin : Id) (now : Instant) (id : Id) :
    (delete c admin now id).Brings c 0 fun _ => Effect c now (.deleteContent admin id) none := by
  unfold delete
  split
  · exact .refused c _
  next n hn =>
    obtain ⟨hmem, rfl, howner⟩ := own?_eq_some hn
    split
    · exact .refused c _
    · refine .attempt_map fun c' h => ?_
      obtain ⟨-, rfl⟩ := clear_eq_ok.mp h
      exact .erasedContent hmem rfl howner (List.length_map _)

end Contents

namespace Action

theorem effect_of_brings {α : Type} {d : Deed α} {n : Nat} {a : Action}
    {told : α → Option ClassRow} (h : d.Brings c n fun r => Effect c now a (told r))
    (hd : (a.perform c now).campus = d.campus) :
    (∃ told, Effect c now a told (a.perform c now).campus) ∨
      ∃ n, (a.perform c now).campus = c.spend n := by
  rw [hd]
  exact h.campus_cases.imp_left fun ⟨r, heffect⟩ => ⟨told r, heffect⟩

/-- An action that writes the tables of the classes, of the students or of the contents does what is
told, or only draws identifiers. -/
theorem effect_of_writesRegister (c : Campus) (now : Instant) {a : Action}
    (ha : a.WritesRegister) : (∃ told, Effect c now a told (a.perform c now).campus) ∨
      ∃ n, (a.perform c now).campus = c.spend n := by
  cases a with
  | createClass admin d => exact effect_of_brings (Classes.create_brings c admin now d) rfl
  | updateClass admin id d => exact effect_of_brings (Classes.update_brings c admin id now d) rfl
  | deleteClass admin id => exact effect_of_brings (Classes.delete_brings c admin id now) rfl
  | createStudent admin d => exact effect_of_brings (Students.create_brings c admin now d) rfl
  | updateStudent admin id d =>
    exact effect_of_brings (Students.update_brings c admin id now d) rfl
  | deleteStudent admin id => exact effect_of_brings (Students.delete_brings c admin id now) rfl
  | createContent admin d => exact effect_of_brings (Contents.create_brings c admin now d) rfl
  | updateContent admin id d =>
    exact effect_of_brings (Contents.update_brings c admin now id d) rfl
  | deleteContent admin id => exact effect_of_brings (Contents.delete_brings c admin now id) rfl
  | signUp d => exact effect_of_brings (Accounts.signUp_brings c now d) rfl
  | signIn email password =>
    exact effect_of_brings (Accounts.signIn_brings c now email password) rfl
  | changeProfile student name email =>
    exact effect_of_brings (Accounts.changeProfile_brings c now student name email) rfl
  | changePassword student current new repeated =>
    exact effect_of_brings (Accounts.changePassword_brings c now student current new repeated) rfl
  | _ => exact ha.elim

end Action

end LogicTutor
