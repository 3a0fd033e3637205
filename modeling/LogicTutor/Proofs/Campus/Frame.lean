import LogicTutor.Campus.Action
import LogicTutor.Proofs.Computation

/-! What a deed can come to, and which actions write which tables. A campus keeps a register of
classes, students and contents, and a syllabus of areas with their questions; an action on neither
writes the answers at most. -/
namespace LogicTutor

namespace Campus

section

variable {α : Type} {id : α → Id} {clashes : α → α → Bool} {row : α} {rows rows' : List α}

theorem clear_eq_ok {clash : Bool} {a b : α} : clear clash a = .ok b ↔ clash = false ∧ a = b := by
  cases clash <;> simp [clear]

theorem insertRow_eq_ok : insertRow id clashes row rows = .ok rows' ↔
    (∀ r ∈ rows, id r ≠ id row ∧ clashes r row = false) ∧ rows ++ [row] = rows' := by
  rw [insertRow, clear_eq_ok, List.any_eq_false]
  simp only [Bool.or_eq_true, decide_eq_true_eq, not_or, Bool.not_eq_true]

variable {F : List α → Campus} {c : Campus}

/-- A campus with a new row in one of its tables. -/
theorem eq_of_insertRow (h : (do return F (← insertRow id clashes row rows)) = .ok c) :
    (∀ r ∈ rows, id r ≠ id row) ∧ c = F (rows ++ [row]) := by
  obtain ⟨rows', hrows, h⟩ := exists_of_bind_eq_ok h
  obtain ⟨hfresh, rfl⟩ := insertRow_eq_ok.mp hrows
  exact ⟨fun r hr => (hfresh r hr).1, (Except.ok.inj h).symm⟩

theorem clear_of_insertRow (h : (do return F (← insertRow id clashes row rows)) = .ok c) :
    ∀ r ∈ rows, clashes r row = false := by
  obtain ⟨rows', hrows, -⟩ := exists_of_bind_eq_ok h
  obtain ⟨hfresh, -⟩ := insertRow_eq_ok.mp hrows
  exact fun r hr => (hfresh r hr).2

/-- A campus with a row changed in one of its tables. -/
theorem eq_of_updateRow (h : (do return F (← updateRow id clashes row rows)) = .ok c) :
    c = F (replaced id row rows) := by
  obtain ⟨rows', hrows, h⟩ := exists_of_bind_eq_ok h
  obtain ⟨-, rfl⟩ := clear_eq_ok.mp hrows
  exact (Except.ok.inj h).symm

theorem clear_of_updateRow (h : (do return F (← updateRow id clashes row rows)) = .ok c) :
    ∀ r ∈ rows, id r ≠ id row → clashes r row = false := by
  obtain ⟨rows', hrows, -⟩ := exists_of_bind_eq_ok h
  obtain ⟨hclear, -⟩ := clear_eq_ok.mp hrows
  simpa using hclear

end

/-- Only the answers to questions were written. -/
def OnlyAnswers (c c' : Campus) : Prop := ∃ answers, c' = { c with answers := answers }

end Campus

open Campus

variable {α : Type} {c c' : Campus} {student : Id}

namespace Deed

/-- The action was done and came to a value. -/
def Succeeds (d : Deed α) : Prop := ∃ a message, d.result = .ok (.success a message)

theorem succeeds_map {β : Type} {f : α → β} {d : Deed α} : (d.map f).Succeeds ↔ d.Succeeds := by
  obtain ⟨result, c⟩ := d
  match result with
  | .ok (.success a message) => exact ⟨fun _ => ⟨a, message, rfl⟩, fun _ => ⟨f a, message, rfl⟩⟩
  | .ok (.failure p) => exact ⟨nofun, nofun⟩
  | .error e => exact ⟨nofun, nofun⟩

@[simp] theorem campus_found (p : Problem) (o : Option α) : (found c p o).campus = c := by
  cases o <;> rfl

variable {n m : Nat} {P : α → Campus → Prop} {message : String}

/-- The deed succeeds, with a value and a campus as `P` has them, or it changes nothing but how many
identifiers were drawn, by `n` at most. -/
def Brings (c : Campus) (n : Nat) (P : α → Campus → Prop) (d : Deed α) : Prop :=
  (∃ a message, d.result = .ok (.success a message) ∧ P a d.campus) ∨
    ¬ d.Succeeds ∧ ∃ m ≤ n, d.campus = c.spend m

namespace Brings

theorem refused (c : Campus) (p : Problem) : (Deed.refused (α := α) c p).Brings c n P :=
  .inr ⟨nofun, 0, Nat.zero_le n, rfl⟩

theorem broken (c : Campus) (hm : m ≤ n) (f : Failure) :
    (Deed.broken (α := α) (c.spend m) f).Brings c n P := .inr ⟨nofun, m, hm, rfl⟩

theorem done {a : α} (h : P a c') : (Deed.done c' a message).Brings c n P :=
  .inl ⟨a, some message, rfl, h⟩

theorem found {p : Problem} {o : Option α} (h : ∀ a, o = some a → P a c) :
    (Deed.found c p o).Brings c n P := by
  cases o with
  | none => exact .refused c p
  | some a => exact .inl ⟨a, none, rfl, h a rfl⟩

theorem attempt {x : Except Failure (α × Campus)} (h : ∀ a c', x = .ok (a, c') → P a c') :
    (Deed.attempt (c.spend n) message x).Brings c n P := by
  match x with
  | .ok (a, c') => exact .done (h a c' rfl)
  | .error f => exact .broken c (Nat.le_refl n) f

theorem attempt_map {a : α} {x : Except Failure Campus} (h : ∀ c', x = .ok c' → P a c') :
    (Deed.attempt c message (x.map fun c => (a, c))).Brings c 0 P := by
  match x with
  | .ok c' => exact .done (h c' rfl)
  | .error f => exact .broken c (Nat.le_refl 0) f

theorem campus_cases {d : Deed α} (h : d.Brings c n P) :
    (∃ a, P a d.campus) ∨ ∃ m, d.campus = c.spend m := by
  obtain ⟨a, message, -, h⟩ | ⟨-, m, -, h⟩ := h
  · exact .inl ⟨a, h⟩
  · exact .inr ⟨m, h⟩

end Brings

end Deed

namespace Campus.OnlyAnswers

theorem refl (c : Campus) : c.OnlyAnswers c := ⟨_, rfl⟩

theorem reviewAnswer (c : Campus) (now : Instant) (reviewer : Option Id) (id : Id)
    (r : Answers.Review) : c.OnlyAnswers (Answers.review c now reviewer id r).campus := by
  unfold Answers.review
  split
  · exact refl c
  · exact ⟨_, rfl⟩

theorem deleteAnswer (c : Campus) (id : Id) : c.OnlyAnswers (Answers.delete c id).campus := by
  unfold Answers.delete
  split
  · exact refl c
  · exact ⟨_, rfl⟩

theorem submitAnswer (c : Campus) (student id : Id) (content latex : Option String) :
    c.OnlyAnswers (Exercises.submit c student id content latex).campus := by
  unfold Exercises.submit
  split
  · exact refl c
  split
  · exact refl c
  split
  · exact refl c
  split
  · exact refl c
  · exact ⟨_, rfl⟩

end Campus.OnlyAnswers

/-! Actions that only ask. -/

theorem Accounts.campus_adminSignIn (c : Campus) (email password : Option String) :
    (Accounts.adminSignIn c email password).campus = c := by
  unfold Accounts.adminSignIn
  split
  · rfl
  · rfl
  split
  · rfl
  split <;> rfl

theorem Subareas.campus_list (c : Campus) (areaId : Id) (all : Bool) :
    (Subareas.list c areaId all).campus = c := by
  unfold Subareas.list
  split <;> rfl

theorem Answers.campus_get (c : Campus) (id : Id) : (Answers.get c id).campus = c := by
  unfold Answers.get
  split <;> rfl

namespace Lessons

theorem campus_courses (c : Campus) (student : Id) : (courses c student).campus = c := by
  unfold courses
  dsimp only
  split <;> rfl

theorem campus_whenEnrolled {classId : Id} {p : Problem} {d : Deed α} (h : d.campus = c) :
    (whenEnrolled c student classId p d).campus = c := by
  unfold whenEnrolled
  split
  · rfl
  · rfl
  · exact h

theorem campus_list (c : Campus) (student classId : Id) (parent : Option Id) :
    (list c student classId parent).campus = c := campus_whenEnrolled rfl

theorem campus_get (c : Campus) (student id : Id) : (get c student id).campus = c := by
  unfold get
  split
  · rfl
  · refine campus_whenEnrolled ?_
    split <;> rfl

theorem campus_way (c : Campus) (student id : Id) : (way c student id).campus = c := by
  unfold way
  split
  · rfl
  · refine campus_whenEnrolled ?_
    split <;> rfl

end Lessons

namespace Exercises

theorem campus_list (c : Campus) (student : Option Id) (f : Questions.Filter) :
    (list c student f).campus = c := by
  unfold list
  dsimp only
  split <;> rfl

theorem campus_get (c : Campus) (student : Option Id) (id : Id) :
    (get c student id).campus = c := by
  unfold get
  split
  · rfl
  split <;> rfl

end Exercises

namespace Action

/-- The action is one of an administrator on the contents of a class. -/
def WritesContents : Action → Prop
  | createContent _ _ | updateContent _ _ _ | deleteContent _ _ => True
  | _ => False

/-- The action changes the classes of an administrator or their contents. -/
def ManagesClasses : Action → Prop
  | createClass _ _ | updateClass _ _ _ | deleteClass _ _ => True
  | a => a.WritesContents

/-- The action writes the tables of the classes, of the students or of the contents. -/
def WritesRegister : Action → Prop
  | createStudent _ _ | updateStudent _ _ _ | deleteStudent _ _ => True
  | signIn _ _ | signUp _ | changeProfile _ _ _ | changePassword _ _ _ _ => True
  | a => a.ManagesClasses

/-- The action writes the areas, the subareas or the questions. -/
def WritesSyllabus : Action → Prop
  | createArea _ | updateArea _ _ | deleteArea _ => True
  | createSubarea _ _ | updateSubarea _ _ | deleteSubarea _ => True
  | createQuestion _ _ | updateQuestion _ _ | deleteQuestion _ => True
  | _ => False

/-- An action on anything else writes the answers and nothing more. -/
theorem answers_perform (c : Campus) (now : Instant) {a : Action} (ha : ¬ a.WritesRegister)
    (ha' : ¬ a.WritesSyllabus) : c.OnlyAnswers (a.perform c now).campus := by
  have same {c' : Campus} (h : c' = c) : c.OnlyAnswers c' := h ▸ .refl c
  cases a with
  | adminSignIn email password => exact same (Accounts.campus_adminSignIn c email password)
  | listClasses | listStudents | listContents | listAreas | listQuestions | convertQuestion
  | listAnswers | tallyAnswers | listApproved | chooseArea | chooseSubarea => exact same rfl
  | getClass admin id => exact same (Deed.campus_found Classes.notFound (c.ownClass? admin id))
  | getStudent admin id =>
    exact same (Deed.campus_found Students.notFound (Students.own? c admin id))
  | getContent admin id =>
    exact same (Deed.campus_found Contents.notFound (Contents.own? c admin id))
  | getArea id => exact same (Deed.campus_found Areas.notFound (c.area? id))
  | getSubarea id => exact same (Deed.campus_found Subareas.notFound (c.subarea? id))
  | getQuestion id => exact same (Deed.campus_found Questions.notFound (c.question? id))
  | getProfile student => exact same (Deed.campus_found Accounts.noStudent (c.student? student))
  | listSubareas areaId all => exact same (Subareas.campus_list c areaId all)
  | getAnswer id => exact same (Answers.campus_get c id)
  | listCourses student => exact same (Lessons.campus_courses c student)
  | listLessons student classId parent => exact same (Lessons.campus_list c student classId parent)
  | getLesson student id => exact same (Lessons.campus_get c student id)
  | getWay student id => exact same (Lessons.campus_way c student id)
  | listExercises student f => exact same (Exercises.campus_list c student f)
  | getExercise student id => exact same (Exercises.campus_get c student id)
  | convertAnswer text =>
    refine same ?_
    unfold perform
    dsimp only
    split <;> rfl
  | reviewAnswer reviewer id r => exact .reviewAnswer c now reviewer id r
  | deleteAnswer id => exact .deleteAnswer c id
  | submitAnswer student id content latex => exact .submitAnswer c student id content latex
  | createArea | updateArea | deleteArea => exact absurd trivial ha'
  | createSubarea | updateSubarea | deleteSubarea => exact absurd trivial ha'
  | createQuestion | updateQuestion | deleteQuestion => exact absurd trivial ha'
  | _ => exact absurd trivial ha

end Action

/-- The campus after some actions, all at one time. -/
def Campus.run (c : Campus) (now : Instant) (as : List Action) : Campus :=
  as.foldl (fun c a => (a.perform c now).campus) c

end LogicTutor
