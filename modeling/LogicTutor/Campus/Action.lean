import LogicTutor.Campus.Contents
import LogicTutor.Campus.Students
import LogicTutor.Campus.View

/-! Everything that can be done on a campus, as one type of actions, and what each of them comes
to. -/
namespace LogicTutor

inductive Action where
  | adminSignIn (email password : Option String)
  | listClasses (admin : Id) (active : Option Bool) (search : Option String)
  | getClass (admin id : Id)
  | createClass (admin : Id) (draft : Classes.Draft)
  | updateClass (admin id : Id) (change : Classes.Change)
  | deleteClass (admin id : Id)
  | listStudents (admin : Id) (classId : Option Id) (active : Option Bool) (search : Option String)
  | getStudent (admin id : Id)
  | createStudent (admin : Id) (draft : Students.Draft)
  | updateStudent (admin id : Id) (change : Students.Change)
  | deleteStudent (admin id : Id)
  | listContents (admin : Id) (filter : Contents.Filter)
  | getContent (admin id : Id)
  | createContent (admin : Id) (draft : Contents.Draft)
  | updateContent (admin id : Id) (change : Contents.Change)
  | deleteContent (admin id : Id)
  | listAreas (all : Bool)
  | getArea (id : Id)
  | createArea (draft : Areas.Draft)
  | updateArea (id : Id) (change : Areas.Change)
  | deleteArea (id : Id)
  | listSubareas (areaId : Id) (all : Bool)
  | getSubarea (id : Id)
  | createSubarea (areaId : Id) (draft : Subareas.Draft)
  | updateSubarea (id : Id) (change : Subareas.Change)
  | deleteSubarea (id : Id)
  | listQuestions (filter : Questions.Filter)
  | getQuestion (id : Id)
  | createQuestion (creator : Option Id) (draft : Questions.Draft)
  | updateQuestion (id : Id) (change : Questions.Change)
  | deleteQuestion (id : Id)
  | convertQuestion (text : Option String)
  | listAnswers
  | getAnswer (id : Id)
  | reviewAnswer (reviewer : Option Id) (id : Id) (review : Answers.Review)
  | deleteAnswer (id : Id)
  | tallyAnswers (questionId : Id)
  | signIn (email password : Option String)
  | signUp (told : Accounts.SignUp)
  | listCourses (student : Id)
  | listLessons (student classId : Id) (parent : Option Id)
  | getLesson (student id : Id)
  | getWay (student id : Id)
  | getProfile (student : Id)
  | changeProfile (student : Id) (name email : Option String)
  | changePassword (student : Id) (current new repeated : Option String)
  | listExercises (student : Option Id) (filter : Questions.Filter)
  | getExercise (student : Option Id) (id : Id)
  | submitAnswer (student id : Id) (content latex : Option String)
  | listApproved
  | chooseArea
  | chooseSubarea (areaId : Id)
  | convertAnswer (text : Option String)
  deriving Repr

namespace Deed

variable {α : Type}

/-- The deed told by a view of what it is about; the view sees the campus after it. -/
def viewed (view : Campus → α → Json) (d : Deed α) : Deed Json := d.map (view d.campus)

/-- A deed of which there is nothing to tell. -/
def silent (d : Deed Unit) : Deed Json := d.map fun _ => .null

end Deed

/-- Does an action at the time `now`. -/
def Action.perform (c : Campus) (now : Instant) : Action → Deed Json
  | adminSignIn email password => (Accounts.adminSignIn c email password).map (View.adminLogin now)
  | listClasses admin active search =>
    .answered c (View.list (View.classDetail c) (Classes.list c admin active search))
  | getClass admin id => (Classes.get c admin id).viewed View.classDetail
  | createClass admin d => (Classes.create c admin now d).map fun g => .obj (View.classFields g)
  | updateClass admin id d => (Classes.update c admin id d).map fun g => .obj (View.classFields g)
  | deleteClass admin id => (Classes.delete c admin id).silent
  | listStudents admin classId active search =>
    .answered c (View.list (View.student c) (Students.list c admin classId active search))
  | getStudent admin id => (Students.get c admin id).viewed View.student
  | createStudent admin d =>
    (Students.create c admin now d).viewed fun c s => .obj (View.newStudent c s)
  | updateStudent admin id d => (Students.update c admin id d).viewed View.student
  | deleteStudent admin id => (Students.delete c admin id).silent
  | listContents admin f => .answered c (View.list View.contentDetail (Contents.list c admin f))
  | getContent admin id => (Contents.get c admin id).map View.contentDetail
  | createContent admin d => (Contents.create c admin now d).map View.contentDetail
  | updateContent admin id d => (Contents.update c admin now id d).map View.contentDetail
  | deleteContent admin id => (Contents.delete c admin now id).silent
  | listAreas all => .answered c (View.list (View.area c) (Areas.list c all))
  | getArea id => (Areas.get c id).viewed View.area
  | createArea d => (Areas.create c now d).viewed View.area
  | updateArea id d => (Areas.update c now id d).viewed View.area
  | deleteArea id => (Areas.delete c now id).silent
  | listSubareas areaId all =>
    (Subareas.list c areaId all).viewed fun c => View.list (View.subarea c)
  | getSubarea id => (Subareas.get c id).viewed View.subarea
  | createSubarea areaId d => (Subareas.create c now areaId d).viewed View.subarea
  | updateSubarea id d => (Subareas.update c now id d).viewed View.subarea
  | deleteSubarea id => (Subareas.delete c now id).silent
  | listQuestions f => .answered c (View.list (View.question c) (Questions.list c f))
  | getQuestion id => (Questions.get c id).viewed View.question
  | createQuestion creator d => (Questions.create c now creator d).viewed View.question
  | updateQuestion id d => (Questions.update c now id d).viewed View.question
  | deleteQuestion id => (Questions.delete c id).silent
  | convertQuestion text => .answered c (.ofOption (text.map Latex.convert))
  | listAnswers => (Answers.list c).silent
  | getAnswer id => (Answers.get c id).silent
  | reviewAnswer reviewer id r => (Answers.review c now reviewer id r).silent
  | deleteAnswer id => (Answers.delete c id).silent
  | tallyAnswers questionId => .answered c (View.tally (Answers.tally c questionId))
  | signIn email password =>
    (Accounts.signIn c now email password).map (View.studentLogin now)
  | signUp d => (Accounts.signUp c now d).map (View.studentLogin now)
  | listCourses student => (Lessons.courses c student).map (View.list fun x => View.course x.1 x.2)
  | listLessons student classId parent =>
    (Lessons.list c student classId parent).map (View.list View.content)
  | getLesson student id => (Lessons.get c student id).map View.content
  | getWay student id => (Lessons.way c student id).map (View.list View.crumb)
  | getProfile student => (Accounts.profile c student).map View.profile
  | changeProfile student name email =>
    (Accounts.changeProfile c student name email).map View.account
  | changePassword student current new repeated =>
    (Accounts.changePassword c student current new repeated).silent
  | listExercises student f =>
    (Exercises.list c student f).viewed fun c => View.list (View.exercise c student)
  | getExercise student id => (Exercises.get c student id).viewed fun c => View.exercise c student
  | submitAnswer student id content latex => (Exercises.submit c student id content latex).silent
  | listApproved => (Exercises.approvedAnswers c).silent
  | chooseArea => .answered c (View.list View.areaChoice (Exercises.areas c))
  | chooseSubarea areaId => .answered c (View.list View.subareaChoice (Exercises.subareas c areaId))
  | convertAnswer text =>
    match Exercises.convert text with
    | .ok t => .answered c (.ofOption t)
    | .error f => .broken c f

end LogicTutor
