import LogicTutor.Proofs.Campus.Register

/-! The constraints on classes and students, and what becomes of actions that could break them. On
every campus the rows that are kept do not clash, and identifiers that are drawn are new; so an
action breaks off at a constraint only where its own checks let a clash pass. -/
namespace LogicTutor

open Campus

namespace Campus

/-! Tables of rows that do not clash. -/

section

variable {α : Type} {id : α → Id} {clashes : α → α → Bool} {row r : α} {rows rows' : List α}

/-- Rows with different identifiers do not clash. -/
def Apart (id : α → Id) (clashes : α → α → Bool) (rows : List α) : Prop :=
  ∀ r ∈ rows, ∀ s ∈ rows, id r ≠ id s → clashes r s = false

theorem Apart.subset (h : Apart id clashes rows) (hsub : rows' ⊆ rows) :
    Apart id clashes rows' := by
  intro r hr s hs
  exact h r (hsub hr) s (hsub hs)

theorem Apart.append (h : Apart id clashes rows) (hcomm : ∀ r s, clashes r s = clashes s r)
    (hclear : ∀ r ∈ rows, clashes r row = false) : Apart id clashes (rows ++ [row]) := by
  intro r hr s hs hne
  rcases List.mem_append.mp hr with hr | hr <;> rcases List.mem_append.mp hs with hs | hs
  · exact h r hr s hs hne
  · rw [List.mem_singleton.mp hs]
    exact hclear r hr
  · rw [List.mem_singleton.mp hr, hcomm]
    exact hclear s hs
  · rw [List.mem_singleton.mp hr, List.mem_singleton.mp hs] at hne
    exact absurd rfl hne

theorem Apart.replaced (h : Apart id clashes rows) (hcomm : ∀ r s, clashes r s = clashes s r)
    (hclear : ∀ r ∈ rows, id r ≠ id row → clashes r row = false) :
    Apart id clashes (replaced id row rows) := by
  intro r hr s hs hne
  obtain heq | ⟨hr, hrow⟩ := mem_replaced hr <;> obtain heq' | ⟨hs, hrow'⟩ := mem_replaced hs
  · rw [heq, heq'] at hne
    exact absurd rfl hne
  · rw [heq, hcomm]
    exact hclear s hs hrow'
  · rw [heq']
    exact hclear r hr hrow
  · exact h r hr s hs hne

/-! Whether a row can be kept beside the others. -/

variable {F : List α → Campus}

theorem insert_of_clear (hfresh : ∀ r ∈ rows, id r ≠ id row)
    (hclear : ∀ r ∈ rows, clashes r row = false) :
    (do return F (← insertRow id clashes row rows)) = Except.ok (F (rows ++ [row])) := by
  have hrows := insertRow_eq_ok.mpr ⟨fun r hr => ⟨hfresh r hr, hclear r hr⟩, rfl⟩
  rw [hrows]
  rfl

theorem insert_of_clash (hr : r ∈ rows) (hclash : clashes r row = true) :
    (do return F (← insertRow id clashes row rows)) = Except.error .constraint := by
  have hany : (rows.any fun r => id r = id row || clashes r row) = true :=
    List.any_eq_true.mpr ⟨r, hr, by simp [hclash]⟩
  unfold insertRow clear
  rw [hany]
  rfl

theorem update_of_clear (hclear : ∀ r ∈ rows, id r ≠ id row → clashes r row = false) :
    (do return F (← updateRow id clashes row rows)) =
      Except.ok (F (Campus.replaced id row rows)) := by
  have hrows : updateRow id clashes row rows = .ok (Campus.replaced id row rows) := by
    refine clear_eq_ok.mpr ⟨?_, rfl⟩
    simpa using hclear
  rw [hrows]
  rfl

theorem update_of_clash (hr : r ∈ rows) (hne : id r ≠ id row) (hclash : clashes r row = true) :
    (do return F (← updateRow id clashes row rows)) = Except.error .constraint := by
  have hany : (rows.any fun r => id r ≠ id row && clashes r row) = true :=
    List.any_eq_true.mpr ⟨r, hr, by simp [hne, hclash]⟩
  unfold updateRow clear
  rw [hany]
  rfl

end

/-! Identifiers that were drawn. -/

/-- The identifiers are among the first `n` of the source. -/
def Numbered (source : Ids) (n : Nat) (ids : List Id) : Prop :=
  ∀ key ∈ ids, ∃ k ≤ n, key = source.nth k

section

variable {source : Ids} {n m : Nat} {ids ids' : List Id}

theorem Numbered.mono (h : Numbered source n ids) (hle : n ≤ m) (hsub : ids' ⊆ ids) :
    Numbered source m ids' := by
  intro key hkey
  obtain ⟨k, hk, heq⟩ := h key (hsub hkey)
  exact ⟨k, by omega, heq⟩

theorem Numbered.append (h : Numbered source n ids) (hle : n ≤ m) :
    Numbered source m (ids ++ [source.nth m]) := by
  intro key hkey
  rcases List.mem_append.mp hkey with hkey | hkey
  · exact h.mono hle (List.Subset.refl ids) key hkey
  · exact ⟨m, Nat.le_refl m, List.mem_singleton.mp hkey⟩

/-- What is drawn later is new. -/
theorem Numbered.ne_of_lt {α : Type} {id : α → Id} {rows : List α} {r : α}
    (h : Numbered source n (rows.map id)) (hlt : n < m) (hr : r ∈ rows) :
    id r ≠ source.nth m := by
  obtain ⟨k, hk, heq⟩ := h (id r) (List.mem_map_of_mem hr)
  rw [heq]
  intro hsame
  have : k = m := source.injective k m hsame
  omega

end

end Campus

theorem ClassGroup.clashes_comm (g h : ClassGroup) : g.clashes h = h.clashes g := by
  unfold clashes
  exact decide_eq_decide.mpr eq_comm

theorem Student.clashes_iff {s t : Student} :
    s.clashes t = true ↔
      s.email = t.email ∨ ∃ r, s.registration = some r ∧ t.registration = some r := by
  simp only [clashes, Bool.or_eq_true, Bool.and_eq_true, decide_eq_true_eq,
    Option.isSome_iff_exists]
  refine or_congr_right ⟨?_, ?_⟩
  · rintro ⟨⟨r, hr⟩, hsame⟩
    exact ⟨r, hr, hsame ▸ hr⟩
  · rintro ⟨r, hs, ht⟩
    exact ⟨⟨r, hs⟩, hs.trans ht.symm⟩

theorem Student.clashes_symm {s t : Student} (h : s.clashes t = true) : t.clashes s = true := by
  rw [clashes_iff] at h ⊢
  rcases h with h | ⟨r, hs, ht⟩
  · exact .inl h.symm
  · exact .inr ⟨r, ht, hs⟩

theorem Student.clashes_comm (s t : Student) : s.clashes t = t.clashes s :=
  Bool.eq_iff_iff.mpr ⟨clashes_symm, clashes_symm⟩

namespace Campus

variable {c c' : Campus}

/-- What a campus keeps of classes and students meets the constraints, the identifiers in use were
drawn before, and there are no records that hold on to anything. -/
structure Kept (c : Campus) : Prop where
  classes : Apart ClassGroup.id ClassGroup.clashes c.classes
  students : Apart Student.id Student.clashes c.students
  classIds : Numbered c.ids c.drawn (c.classes.map ClassGroup.id)
  studentIds : Numbered c.ids c.drawn (c.students.map Student.id)
  enrollmentIds : Numbered c.ids c.drawn (c.enrollments.map Enrollment.id)
  records : c.records = []

theorem kept_empty (ids : Ids) : (Campus.empty ids).Kept := by
  constructor <;> simp [Campus.empty, Apart, Numbered]

namespace Kept

variable (h : c.Kept)
include h

/-- Nothing is lost by what is done to contents and elsewhere, as long as no identifier is given
back. -/
theorem of_same (hclasses : c'.classes = c.classes) (hstudents : c'.students = c.students)
    (henrollments : c'.enrollments = c.enrollments) (hrecords : c'.records = c.records)
    (hids : c'.ids = c.ids) (hdrawn : c.drawn ≤ c'.drawn) : c'.Kept where
  classes := hclasses ▸ h.classes
  students := hstudents ▸ h.students
  classIds := by
    rw [hclasses, hids]
    exact h.classIds.mono hdrawn (List.Subset.refl _)
  studentIds := by
    rw [hstudents, hids]
    exact h.studentIds.mono hdrawn (List.Subset.refl _)
  enrollmentIds := by
    rw [henrollments, hids]
    exact h.enrollmentIds.mono hdrawn (List.Subset.refl _)
  records := hrecords.trans h.records

theorem of_sameRegister (hsame : c.SameRegister c') : c'.Kept :=
  h.of_same hsame.classes hsame.students hsame.enrollments hsame.records hsame.ids hsame.drawn

theorem class_ne_nextId : ∀ g ∈ c.classes, g.id ≠ c.nextId := by
  intro g hg
  exact h.classIds.ne_of_lt (Nat.lt_succ_self c.drawn) hg

theorem student_ne_nextId : ∀ s ∈ c.students, s.id ≠ c.nextId := by
  intro s hs
  exact h.studentIds.ne_of_lt (Nat.lt_succ_self c.drawn) hs

theorem joined {g : ClassGroup} {s : Student} {e : Enrollment} (hjoins : c.Joins g s e) :
    (c.joined s e).Kept where
  classes := h.classes
  students := h.students.append Student.clashes_comm hjoins.clear
  classIds := h.classIds.mono (Nat.le_add_right _ 2) (List.Subset.refl _)
  studentIds := by
    show Numbered c.ids (c.drawn + 2) ((c.students ++ [s]).map Student.id)
    rw [List.map_append, List.map_singleton, hjoins.id]
    exact (h.studentIds.append (Nat.le_add_right _ 1)).mono (by omega) (List.Subset.refl _)
  enrollmentIds := by
    show Numbered c.ids (c.drawn + 2) ((c.enrollments ++ [e]).map Enrollment.id)
    rw [List.map_append, List.map_singleton, hjoins.enrollmentId]
    exact h.enrollmentIds.append (Nat.le_add_right _ 2)
  records := h.records

theorem changedStudent {s : Student}
    (hclear : ∀ t ∈ c.students, t.id ≠ s.id → t.clashes s = false) :
    { c with students := replaced Student.id s c.students }.Kept where
  classes := h.classes
  students := h.students.replaced Student.clashes_comm hclear
  classIds := h.classIds
  studentIds := by
    rw [map_id_replaced]
    exact h.studentIds
  enrollmentIds := h.enrollmentIds
  records := h.records

/-- A student who is changed clashes with others only by what is new. -/
theorem clear_of_changed {s s' : Student} (hs : s ∈ c.students)
    (hemail : s'.email ≠ s.email → ∀ t ∈ c.students, t.id ≠ s.id → t.email ≠ s'.email)
    (hregistration : s'.registration ≠ s.registration → ∀ t ∈ c.students, t.id ≠ s.id →
      ∀ r, t.registration = some r → s'.registration ≠ some r) :
    ∀ t ∈ c.students, t.id ≠ s.id → t.clashes s' = false := by
  intro t ht hne
  have hold := h.students t ht s hs hne
  rw [← Bool.not_eq_true, Student.clashes_iff, not_or] at hold ⊢
  refine ⟨fun heq => ?_, ?_⟩
  · by_cases hsame : s'.email = s.email
    · exact hold.1 (heq.trans hsame)
    · exact hemail hsame t ht hne heq
  · rintro ⟨r, htr, hr⟩
    by_cases hsame : s'.registration = s.registration
    · exact hold.2 ⟨r, htr, hsame ▸ hr⟩
    · exact hregistration hsame t ht hne r htr hr

end Kept

end Campus

theorem Action.Effect.kept {c c' : Campus} {now : Instant} {a : Action} {told : Option ClassRow}
    (heffect : Effect c now a told c') (h : c.Kept) : c'.Kept := by
  have hempty {records : List Record} (hlen : records.length = c.records.length) :
      records = [] := by
    rw [h.records] at hlen
    exact List.eq_nil_of_length_eq_zero hlen
  cases heffect with
  | gotClass | gotStudent | gotContent => exact h
  | madeContent => exact h.of_same rfl rfl rfl rfl rfl (Nat.le_add_right _ 1)
  | changedContent => exact h.of_same rfl rfl rfl rfl rfl (Nat.le_refl _)
  | erasedContent _ _ _ hrecords =>
    exact h.of_same rfl rfl rfl ((hempty hrecords).trans h.records.symm) rfl (Nat.le_refl _)
  | @madeClass _ _ g _ _ hid hclear =>
    refine ⟨h.classes.append ClassGroup.clashes_comm hclear, h.students, ?_,
      h.studentIds.mono (Nat.le_add_right _ 1) (List.Subset.refl _),
      h.enrollmentIds.mono (Nat.le_add_right _ 1) (List.Subset.refl _), h.records⟩
    show Numbered c.ids (c.drawn + 1) ((c.classes ++ [g]).map ClassGroup.id)
    rw [List.map_append, List.map_singleton, hid]
    exact h.classIds.append (Nat.le_add_right _ 1)
  | changedClass _ _ _ _ hclear =>
    refine ⟨h.classes.replaced ClassGroup.clashes_comm hclear, h.students, ?_, h.studentIds,
      h.enrollmentIds, h.records⟩
    rw [map_id_replaced]
    exact h.classIds
  | erasedClass _ _ _ _ _ _ hrecords =>
    exact ⟨h.classes.subset (List.filter_subset_self _), h.students,
      h.classIds.mono (Nat.le_refl _) (List.map_subset _ (List.filter_subset_self _)), h.studentIds,
      h.enrollmentIds, hempty hrecords⟩
  | madeStudent hjoins | signedUp hjoins => exact h.joined hjoins
  | changedStudent _ _ _ _ _ hclear => exact h.changedStudent hclear
  | touchedStudent _ _ _ _ hclear => exact h.changedStudent hclear
  | erasedStudent _ _ _ hrecords =>
    exact ⟨h.classes, h.students.subset (List.filter_subset_self _), h.classIds,
      h.studentIds.mono (Nat.le_refl _) (List.map_subset _ (List.filter_subset_self _)),
      h.enrollmentIds.mono (Nat.le_refl _) (List.map_subset _ (List.filter_subset_self _)),
      hempty hrecords⟩

namespace Campus

variable {c : Campus}

theorem Kept.perform (h : c.Kept) (now : Instant) (a : Action) : (a.perform c now).campus.Kept := by
  obtain ⟨told, heffect⟩ | hsame := Action.effect_perform c now a
  · exact heffect.kept h
  · exact h.of_sameRegister hsame

theorem Arises.kept {allowed : Campus → Instant → Action → Prop} (h : c.Arises allowed) :
    c.Kept :=
  h.invariant kept_empty (fun _ _ h hstep => h.of_sameRegister hstep.sameRegister)
    fun _ now a h _ => h.perform now a

end Campus

theorem Campus.exists_present {α : Type} {o : Option (Option α)} (h : o ≠ some none) (a : α) :
    ∃ b, present (o.getD (some a)) = .ok b := by
  match o with
  | none => exact ⟨a, rfl⟩
  | some (some b) => exact ⟨b, rfl⟩
  | some none => exact absurd rfl h

theorem Campus.not_owns_of_ownClass? {c : Campus} {admin id : Id}
    (h : c.ownClass? admin id = none) : ¬ c.owns admin id = true := by
  intro howns
  obtain ⟨g, hg, rfl, howner⟩ := owns_iff.mp howns
  have hother := List.find?_eq_none.mp h g hg
  simp [howner] at hother

/-- The registration number is that of a student. -/
def Campus.Registers (c : Campus) (r : String) : Prop := ∃ t ∈ c.students, t.registration = some r

namespace Action

/-- The action writes a class or a student, and looks beforehand whether it can. -/
def ChecksFirst : Action → Prop
  | createClass _ _ | updateClass _ _ _ | deleteClass _ _ => True
  | createStudent _ _ | updateStudent _ _ _ | signUp _ | changeProfile _ _ _ => True
  | _ => False

/-- No value that must be there is missing. -/
def Filled : Action → Prop
  | createClass _ d => d.name ≠ none ∧ d.accessCode ≠ none
  | updateClass _ _ d => d.name ≠ some none ∧ d.accessCode ≠ some none
  | createStudent _ d => d.name ≠ none ∧ d.email ≠ none ∧ d.password ≠ none
  | updateStudent _ _ d => d.name ≠ some none ∧ d.email ≠ some none ∧ d.password ≠ some none
  | signUp d => d.name ≠ none ∧ d.email ≠ none ∧ d.password ≠ none
  | _ => True

/-- The action passes its own checks, and yet what it would write breaks a constraint: a
registration number is taken, or something other than a student is in a class that is to be
removed. -/
def Slips (c : Campus) : Action → Prop
  | signUp d => d.password = d.repeated ∧ (∀ s ∈ c.students, some s.email ≠ d.email) ∧
      (∃ g ∈ c.classes, some g.accessCode = d.accessCode ∧ g.active = some true) ∧
      ∃ r, d.registration = some r ∧ c.Registers r
  | createStudent admin d => (∃ id, d.classId = some id ∧ c.owns admin id = true) ∧
      (∀ s ∈ c.students, some s.email ≠ d.email) ∧ d.registration = some "" ∧ c.Registers ""
  | updateStudent admin id d => ∃ s, Students.own? c admin id = some s ∧
      (∀ email, d.email = some (some email) → email ≠ s.email →
        ∀ t ∈ c.students, t.email ≠ email) ∧
      (∀ place, d.classId = some place → ∃ g, place = some g ∧ c.owns admin g = true) ∧
      ∃ r, d.registration = some (some r) ∧
        ∃ t ∈ c.students, t.id ≠ s.id ∧ t.registration = some r
  | deleteClass admin id => c.owns admin id = true ∧ (∀ s ∈ c.students, s.classId ≠ id) ∧
      ((∃ e ∈ c.enrollments, e.classId = id) ∨ ∃ n ∈ c.contents, n.classId = id)
  | _ => False

end Action

namespace Deed

variable {α β : Type} {c c' : Campus} {slips : Prop}

/-- The deed breaks off at a constraint, with the loss of an identifier at most, if it slips; and if
it does not, it comes to an answer. -/
structure Settles (c : Campus) (slips : Prop) (d : Deed α) : Prop where
  breaks : slips → ∃ n ≤ 1, d = ⟨.error .constraint, c.spend n⟩
  returns : ¬ slips → ∃ o, d.result = .ok o

namespace Settles

theorem refused {p : Problem} (h : ¬ slips) : (Deed.refused (α := α) c p).Settles c slips :=
  ⟨fun hs => absurd hs h, fun _ => ⟨_, rfl⟩⟩

theorem done {a : α} {message : String} (h : ¬ slips) :
    (Deed.done c' a message).Settles c slips :=
  ⟨fun hs => absurd hs h, fun _ => ⟨_, rfl⟩⟩

theorem broken {n : Nat} (hn : n ≤ 1) (h : slips) :
    (Deed.broken (α := α) (c.spend n) .constraint).Settles c slips :=
  ⟨fun _ => ⟨n, hn, rfl⟩, fun hno => absurd h hno⟩

theorem map {f : α → β} {d : Deed α} (h : d.Settles c slips) : (d.map f).Settles c slips := by
  constructor
  · intro hs
    obtain ⟨n, hn, rfl⟩ := h.breaks hs
    exact ⟨n, hn, rfl⟩
  · intro hno
    obtain ⟨o, ho⟩ := h.returns hno
    exact ⟨o.map f, by simp [Deed.map, ho, Except.map]⟩

end Settles

end Deed

namespace Accounts

variable {c : Campus} {now : Instant} {name email password : String} {registration : Option String}
  {classId : Id}

theorem exists_addEnrollment (c : Campus)
    (h : Numbered c.ids c.drawn (c.enrollments.map Enrollment.id)) (student classId : Id)
    (now : Instant) :
    ∃ c', c.addEnrollment ⟨c.nextId, student, classId, now, .active⟩ = .ok c' := by
  have hfresh : ∀ e ∈ c.enrollments, e.id ≠ c.nextId := by
    intro e he
    exact h.ne_of_lt (Nat.lt_succ_self c.drawn) he
  exact ⟨_, insert_of_clear hfresh fun _ _ => rfl⟩

/-- Somebody with a new mail address and no registration number that is taken can be enrolled. -/
theorem enroll_of_free (now : Instant) (name password : String) (classId : Id) (h : c.Kept)
    (hemail : ∀ t ∈ c.students, t.email ≠ email)
    (hfree : ∀ r, registration = some r → ¬ c.Registers r) :
    ∃ s c', enroll c now (some name) (some email) password registration classId = .ok (s, c') := by
  obtain ⟨s, hs⟩ : ∃ s : Student, s = ⟨c.nextId, name, email, some password, registration, now,
    none, some true, classId⟩ := ⟨_, rfl⟩
  have hfresh : ∀ t ∈ c.students, t.id ≠ s.id := by
    rw [hs]
    exact h.student_ne_nextId
  have hclear : ∀ t ∈ c.students, t.clashes s = false := by
    intro t ht
    rw [← Bool.not_eq_true, Student.clashes_iff, hs]
    rintro (heq | ⟨r, hr, hnew⟩)
    · exact hemail t ht heq
    · exact hfree r hnew ⟨t, ht, hr⟩
  have hstudent : c.addStudent s = .ok { c with students := c.students ++ [s] } :=
    insert_of_clear hfresh hclear
  have hnumbered : Numbered c.ids (c.drawn + 1) (c.enrollments.map Enrollment.id) :=
    h.enrollmentIds.mono (Nat.le_add_right _ 1) (List.Subset.refl _)
  obtain ⟨c', henrollment⟩ := exists_addEnrollment
    ({ c with students := c.students ++ [s] }.spend 1) hnumbered s.id classId now
  refine ⟨s, c'.spend 1, ?_⟩
  unfold enroll
  simp only [present, ok_bind, ← hs, hstudent]
  dsimp only [pure, Except.pure]
  rw [henrollment]

theorem enroll_of_taken {r : String} (hr : registration = some r) (h : c.Registers r) :
    enroll c now (some name) (some email) password registration classId =
      .error (.constraint, c.spend 1) := by
  obtain ⟨t, ht, htr⟩ := h
  obtain ⟨s, hs⟩ : ∃ s : Student, s = ⟨c.nextId, name, email, some password, registration, now,
    none, some true, classId⟩ := ⟨_, rfl⟩
  have hclash : t.clashes s = true := by
    rw [Student.clashes_iff, hs]
    exact .inr ⟨r, htr, hr⟩
  have hstudent : c.addStudent s = .error .constraint := insert_of_clash ht hclash
  unfold enroll
  simp only [present, ok_bind, ← hs, hstudent]
  rfl

/-- Whether somebody with a new mail address is enrolled depends on the registration number. -/
theorem enroll_settles {slips : Prop} {message : String} (h : c.Kept)
    (hemail : ∀ t ∈ c.students, t.email ≠ email)
    (hslips : slips ↔ ∃ r, registration = some r ∧ c.Registers r) :
    Deed.Settles c slips
      (match enroll c now (some name) (some email) password registration classId with
        | .ok (s, c') => .done c' s message
        | .error (f, c') => .broken c' f) := by
  by_cases htaken : ∃ r, registration = some r ∧ c.Registers r
  · obtain ⟨r, hr, hregisters⟩ := htaken
    rw [enroll_of_taken hr hregisters]
    exact .broken (Nat.le_refl 1) (hslips.mpr ⟨r, hr, hregisters⟩)
  · have hfree : ∀ r, registration = some r → ¬ c.Registers r := by
      intro r hr hregisters
      exact htaken ⟨r, hr, hregisters⟩
    obtain ⟨s, c', henroll⟩ := enroll_of_free now name password classId h hemail hfree
    rw [henroll]
    exact .done fun hs => htaken (hslips.mp hs)

theorem signUp_settles (h : c.Kept) {d : SignUp} (hd : (Action.signUp d).Filled) :
    (signUp c now d).Settles c ((Action.signUp d).Slips c) := by
  obtain ⟨hname, hemail, hpassword⟩ := hd
  obtain ⟨name, hname⟩ := Option.ne_none_iff_exists'.mp hname
  obtain ⟨email, hemail⟩ := Option.ne_none_iff_exists'.mp hemail
  unfold signUp
  split
  next hdiffer => exact .refused fun hs => hdiffer hs.1
  next hagree =>
    split
    next htaken =>
      refine .refused fun hs => ?_
      obtain ⟨s, hmem, hsame⟩ := List.any_eq_true.mp htaken
      exact hs.2.1 s hmem (of_decide_eq_true hsame)
    next hnew =>
      have hnew : ∀ s ∈ c.students, some s.email ≠ d.email := by simpa using hnew
      split
      next hnone =>
        refine .refused fun hs => ?_
        obtain ⟨g, hg, hcode, hactive⟩ := hs.2.2.1
        have hother := List.find?_eq_none.mp hnone g hg
        simp [hcode, hactive] at hother
      next g hg =>
        have hfound := List.find?_some hg
        rw [Bool.and_eq_true, decide_eq_true_eq, decide_eq_true_eq] at hfound
        split
        next hnone => exact absurd hnone hpassword
        next password _ =>
          rw [hname, hemail]
          refine enroll_settles h ?_ ⟨fun hs => hs.2.2.2, fun htaken => ?_⟩
          · intro s hs heq
            exact hnew s hs (by rw [hemail, heq])
          · exact ⟨not_not.mp hagree, hnew, ⟨g, List.mem_of_find?_eq_some hg, hfound⟩, htaken⟩

/-- A profile can be changed whenever the check of the mail address finds nothing. -/
theorem changeProfile_settles (h : c.Kept) (student : Id) (name email : Option String) :
    (changeProfile c student name email).Settles c
      ((Action.changeProfile student name email).Slips c) := by
  unfold changeProfile
  split
  · exact .refused not_false
  next s hfound =>
    obtain ⟨hs, rfl⟩ := mem_of_find?_id hfound
    split
    · exact .refused not_false
    next hfree =>
      obtain ⟨s', hs'⟩ : ∃ s' : Student,
        s' = { s with name := name.getD s.name, email := email.getD s.email } := ⟨_, rfl⟩
      have hid : s'.id = s.id := by rw [hs']
      have hclear : ∀ t ∈ c.students, t.id ≠ s'.id → t.clashes s' = false := by
        rw [hid]
        refine h.clear_of_changed hs (fun hnew t ht hne heq => ?_) fun hnew => ?_
        · cases email with
          | none => exact hnew (by rw [hs']; rfl)
          | some e =>
            have he : s'.email = e := by rw [hs']; rfl
            rw [he] at hnew heq
            refine hfree ?_
            simp only [Option.any_some, Bool.and_eq_true, decide_eq_true_eq, List.any_eq_true]
            exact ⟨hnew, t, ht, heq, hne⟩
        · exact absurd (by rw [hs']) hnew
      have hsave : c.saveStudent s' =
          .ok { c with students := replaced Student.id s' c.students } := update_of_clear hclear
      dsimp only
      rw [← hs', hsave]
      exact .done not_false

end Accounts

namespace Students

variable {c : Campus} {admin id : Id} {now : Instant} {s : Student}

theorem create_settles (h : c.Kept) {d : Draft} (hd : (Action.createStudent admin d).Filled) :
    (create c admin now d).Settles c ((Action.createStudent admin d).Slips c) := by
  obtain ⟨hname, hemail, hpassword⟩ := hd
  obtain ⟨name, hname⟩ := Option.ne_none_iff_exists'.mp hname
  obtain ⟨email, hemail⟩ := Option.ne_none_iff_exists'.mp hemail
  unfold create
  split
  next hnone =>
    refine .refused fun hs => ?_
    obtain ⟨id, hid, howns⟩ := hs.1
    rw [hid, Option.bind_some] at hnone
    exact not_owns_of_ownClass? hnone howns
  next g hg =>
    obtain ⟨id, hid, hg⟩ := Option.bind_eq_some_iff.mp hg
    have howns : c.owns admin id = true := owns_iff.mpr ⟨g, ownClass?_eq_some hg⟩
    split
    next htaken =>
      refine .refused fun hs => ?_
      obtain ⟨s, hmem, hsame⟩ := List.any_eq_true.mp htaken
      exact hs.2.1 s hmem (of_decide_eq_true hsame)
    next hnew =>
      have hnew : ∀ s ∈ c.students, some s.email ≠ d.email := by simpa using hnew
      split
      next hregistered =>
        refine .refused fun hs => ?_
        rw [hs.2.2.1] at hregistered
        simp at hregistered
      next hunregistered =>
        split
        next hnone => exact absurd hnone hpassword
        next password _ =>
          rw [hname, hemail]
          refine Accounts.enroll_settles h ?_ ⟨fun hs => ?_, ?_⟩
          · intro s hs heq
            exact hnew s hs (by rw [hemail, heq])
          · exact ⟨"", hs.2.2.1, hs.2.2.2⟩
          · rintro ⟨r, hr, hregisters⟩
            -- only an empty number is let through
            have hempty : r = "" := by
              by_contra hne
              obtain ⟨t, ht, htr⟩ := hregisters
              refine hunregistered ?_
              rw [hr]
              simp only [Option.any_some, Bool.and_eq_true, List.any_eq_true, decide_eq_true_eq]
              exact ⟨by simpa using hne, t, ht, htr⟩
            subst hempty
            exact ⟨⟨id, hid, howns⟩, hnew, hr, hregisters⟩

/-- A change that empties nothing that must be there can be made. -/
theorem Change.exists_apply {d : Change} (hname : d.name ≠ some none) (hemail : d.email ≠ some none)
    (hpassword : d.password ≠ some none) (hclass : d.classId ≠ some none) (s : Student) :
    ∃ s', d.apply s = .ok s' := by
  obtain ⟨name, hname⟩ := exists_present hname s.name
  obtain ⟨email, hemail⟩ := exists_present hemail s.email
  obtain ⟨classId, hclass⟩ := exists_present hclass s.classId
  unfold apply
  rw [hname, hemail, hclass]
  match hp : d.password with
  | none => exact ⟨_, rfl⟩
  | some (some p) => exact ⟨_, rfl⟩
  | some none => exact absurd hp hpassword

/-- What the check of the mail address finds. -/
theorem email_taken_iff {d : Change} : (d.email.any fun e => e ≠ some s.email &&
      c.students.any fun t => some t.email = e) = true ↔
    ∃ email, d.email = some (some email) ∧ email ≠ s.email ∧ ∃ t ∈ c.students, t.email = email := by
  match hd : d.email with
  | none => simp
  | some none => simp
  | some (some email) =>
    simp only [Option.any_some, Bool.and_eq_true, decide_eq_true_eq, List.any_eq_true, ne_eq,
      Option.some.injEq]
    constructor
    · rintro ⟨hne, t, ht, heq⟩
      exact ⟨email, rfl, hne, t, ht, heq⟩
    · rintro ⟨_, rfl, hne, t, ht, heq⟩
      exact ⟨hne, t, ht, heq⟩

/-- What the check of the class finds. -/
theorem class_missing_iff {d : Change} :
    (d.classId.any fun g => (g.bind (c.ownClass? admin)).isNone) = true ↔
      ∃ place, d.classId = some place ∧ ∀ g, place = some g → ¬ c.owns admin g = true := by
  match hd : d.classId with
  | none => simp
  | some none => simp
  | some (some g) => simp [ownClass?, owns]

/-- A change that names no mail address and no registration number of another student clashes with
nobody. -/
theorem Change.clear_of_apply {d : Change} {s' : Student} (h : c.Kept) (hs : s ∈ c.students)
    (happly : d.apply s = .ok s')
    (hemail : ¬ ∃ email, d.email = some (some email) ∧ email ≠ s.email ∧
      ∃ t ∈ c.students, t.email = email)
    (hregistration : ¬ ∃ r, d.registration = some (some r) ∧
      ∃ t ∈ c.students, t.id ≠ s.id ∧ t.registration = some r) :
    ∀ t ∈ c.students, t.id ≠ s'.id → t.clashes s' = false := by
  rw [id_of_apply happly]
  obtain ⟨name, email, classId, -, he, -, rfl⟩ := apply_eq_ok happly
  refine h.clear_of_changed hs ?_ ?_
  · intro hnew t ht hne heq
    refine hemail ⟨email, ?_, hnew, t, ht, heq⟩
    match hd : d.email with
    | none =>
      rw [hd] at he
      exact absurd (Option.some.inj he).symm hnew
    | some e =>
      rw [hd] at he
      exact congrArg some he
  · intro hnew t ht hne r htr hr
    refine hregistration ⟨r, ?_, t, ht, hne, htr⟩
    match hd : d.registration with
    | none =>
      rw [hd] at hnew
      exact absurd rfl hnew
    | some e =>
      rw [hd] at hr
      exact congrArg some hr

theorem update_settles (h : c.Kept) {d : Change} (hd : (Action.updateStudent admin id d).Filled) :
    (update c admin id d).Settles c ((Action.updateStudent admin id d).Slips c) := by
  obtain ⟨hname, hemail, hpassword⟩ := hd
  unfold update
  split
  next hnone =>
    refine .refused ?_
    rintro ⟨s, hs, -⟩
    cases hnone.symm.trans hs
  next s hown =>
    split
    next htaken =>
      refine .refused ?_
      rintro ⟨s', hs', hfree, -⟩
      obtain rfl := Option.some.inj (hown.symm.trans hs')
      obtain ⟨email, he, hne, t, ht, heq⟩ := email_taken_iff.mp htaken
      exact hfree email he hne t ht heq
    next hfree =>
      split
      next hmissing =>
        refine .refused ?_
        rintro ⟨_, -, -, hplace, -⟩
        obtain ⟨place, hd, hnone⟩ := class_missing_iff.mp hmissing
        obtain ⟨g, hg, howns⟩ := hplace place hd
        exact hnone g hg howns
      next hplace =>
        rw [email_taken_iff] at hfree
        rw [class_missing_iff] at hplace
        have hclass : d.classId ≠ some none := fun hnone => hplace ⟨none, hnone, nofun⟩
        obtain ⟨s', happly⟩ := Change.exists_apply hname hemail hpassword hclass s
        rw [happly, ok_bind]
        by_cases htaken : ∃ r, d.registration = some (some r) ∧
            ∃ t ∈ c.students, t.id ≠ s.id ∧ t.registration = some r
        · obtain ⟨r, hr, t, ht, hne, htr⟩ := htaken
          have hclash : t.clashes s' = true := by
            obtain ⟨_, _, _, -, -, -, rfl⟩ := Change.apply_eq_ok happly
            exact Student.clashes_iff.mpr (.inr ⟨r, htr, by rw [hr]; rfl⟩)
          have hid : t.id ≠ s'.id := Change.id_of_apply happly ▸ hne
          have hsave : c.saveStudent s' = .error .constraint := update_of_clash ht hid hclash
          rw [hsave]
          refine .broken (Nat.zero_le 1) ⟨s, hown, ?_, ?_, r, hr, t, ht, hne, htr⟩
          · intro email he hnew u hu heq
            exact hfree ⟨email, he, hnew, u, hu, heq⟩
          · intro place hd
            by_contra hno
            exact hplace ⟨place, hd, fun g hg howns => hno ⟨g, hg, howns⟩⟩
        · have hsave : c.saveStudent s' =
              .ok { c with students := replaced Student.id s' c.students } :=
            update_of_clear (Change.clear_of_apply h (own?_eq_some hown).1 happly hfree htaken)
          rw [hsave]
          refine .done ?_
          rintro ⟨s₁, hs₁, -, -, hslip⟩
          obtain rfl := Option.some.inj (hown.symm.trans hs₁)
          exact htaken hslip

end Students

namespace Classes

variable {c : Campus} {admin id : Id} {now : Instant}

/-- A class can be made whenever the check of the access code finds nothing. -/
theorem create_settles (h : c.Kept) {d : Draft} (hd : (Action.createClass admin d).Filled) :
    (create c admin now d).Settles c ((Action.createClass admin d).Slips c) := by
  obtain ⟨hname, hcode⟩ := hd
  obtain ⟨name, hname⟩ := Option.ne_none_iff_exists'.mp hname
  obtain ⟨code, hcode⟩ := Option.ne_none_iff_exists'.mp hcode
  unfold create
  split
  · exact .refused not_false
  next hfree =>
    obtain ⟨g, hg⟩ : ∃ g : ClassGroup,
      g = ⟨c.nextId, name, d.description, code, admin, now, some true, d.configs⟩ := ⟨_, rfl⟩
    have hfresh : ∀ k ∈ (c.spend 1).classes, k.id ≠ g.id := by
      rw [hg]
      exact h.class_ne_nextId
    have hclear : ∀ k ∈ (c.spend 1).classes, k.clashes g = false := by
      intro k hk
      refine decide_eq_false fun heq => hfree ?_
      rw [hcode]
      refine List.any_eq_true.mpr ⟨k, hk, decide_eq_true ?_⟩
      rw [heq, hg]
    have hadd : (c.spend 1).addClass g = .ok { c.spend 1 with classes := c.classes ++ [g] } :=
      insert_of_clear hfresh hclear
    rw [hname, hcode]
    simp only [present, ok_bind, ← hg, hadd]
    exact .done not_false

theorem Change.exists_apply {d : Change} (hname : d.name ≠ some none)
    (hcode : d.accessCode ≠ some none) (g : ClassGroup) : ∃ g', d.apply g = .ok g' := by
  obtain ⟨name, hname⟩ := exists_present hname g.name
  obtain ⟨code, hcode⟩ := exists_present hcode g.accessCode
  unfold apply
  rw [hname, hcode]
  exact ⟨_, rfl⟩

/-- A class can be changed whenever the check of the access code finds nothing. -/
theorem update_settles (h : c.Kept) {d : Change} (hd : (Action.updateClass admin id d).Filled) :
    (update c admin id d).Settles c ((Action.updateClass admin id d).Slips c) := by
  obtain ⟨hname, hcode⟩ := hd
  unfold update
  split
  · exact .refused not_false
  next g hown =>
    have hg := (ownClass?_eq_some hown).1
    split
    · exact .refused not_false
    next hfree =>
      obtain ⟨g', happly⟩ := Change.exists_apply hname hcode g
      have hclear : ∀ k ∈ c.classes, k.id ≠ g'.id → k.clashes g' = false := by
        rw [(Change.keeps_of_apply happly).1]
        obtain ⟨_, code, -, hnew, rfl⟩ := Change.apply_eq_ok happly
        intro k hk hne
        refine decide_eq_false fun heq => ?_
        match hd : d.accessCode with
        | none =>
          rw [hd] at hnew
          obtain rfl := Option.some.inj hnew
          exact of_decide_eq_false (h.classes k hk g hg hne) heq
        | some e =>
          rw [hd] at hnew hfree
          obtain rfl : e = some code := hnew
          by_cases hsame : code = g.accessCode
          · subst hsame
            exact of_decide_eq_false (h.classes k hk g hg hne) heq
          · refine hfree ?_
            simp only [Option.any_some, Bool.and_eq_true, decide_eq_true_eq, List.any_eq_true]
            exact ⟨by simpa using hsame, k, hk, congrArg some heq⟩
      have hsave : c.saveClass g' =
          .ok { c with classes := replaced ClassGroup.id g' c.classes } := update_of_clear hclear
      rw [happly, ok_bind, hsave]
      exact .done not_false

theorem members_isEmpty_iff : (members c id).isEmpty = true ↔ ∀ s ∈ c.students, s.classId ≠ id := by
  simp [members]

/-- A class that no student is in can be removed if no enrollment and no content is in it either. -/
theorem delete_settles (h : c.Kept) :
    (delete c admin id).Settles c ((Action.deleteClass admin id).Slips c) := by
  unfold delete
  split
  next hnone => exact .refused fun hs => not_owns_of_ownClass? hnone hs.1
  next g hown =>
    obtain ⟨hg, rfl, howner⟩ := ownClass?_eq_some hown
    split
    next hempty =>
      have hstudents := members_isEmpty_iff.mp hempty
      have howns : c.owns admin g.id = true := owns_iff.mpr ⟨g, hg, rfl, howner⟩
      by_cases hslip : (∃ e ∈ c.enrollments, e.classId = g.id) ∨ ∃ n ∈ c.contents, n.classId = g.id
      · have herase : c.eraseClass g.id = .error .constraint := by
          unfold eraseClass clear
          rw [if_pos]
          simp only [Bool.or_eq_true, List.any_eq_true, decide_eq_true_eq]
          exact .inl (hslip.elim (fun he => .inl (.inr he)) .inr)
        rw [herase]
        exact .broken (Nat.zero_le 1) ⟨howns, hstudents, hslip⟩
      · rw [not_or] at hslip
        have herase : ∃ c', c.eraseClass g.id = .ok c' := by
          refine ⟨_, clear_eq_ok.mpr ⟨?_, rfl⟩⟩
          rw [h.records]
          simp only [Bool.or_eq_false_iff, List.any_eq_false, decide_eq_true_eq, List.any_nil]
          exact ⟨⟨⟨hstudents, fun e he heq => hslip.1 ⟨e, he, heq⟩⟩,
            fun n hn heq => hslip.2 ⟨n, hn, heq⟩⟩, trivial⟩
        obtain ⟨c', herase⟩ := herase
        rw [herase]
        exact .done fun hs => hs.2.2.elim hslip.1 hslip.2
    next hmembers => exact .refused fun hs => hmembers (members_isEmpty_iff.mpr hs.2.1)

end Classes

/-- An action that checks first breaks a constraint only if it slips, as long as nothing is
missing. -/
theorem Action.settles_perform {c : Campus} (h : c.Kept) (now : Instant) {a : Action}
    (ha : a.ChecksFirst) (hfilled : a.Filled) : (a.perform c now).Settles c (a.Slips c) := by
  cases a with
  | createClass admin d => exact (Classes.create_settles h hfilled).map
  | updateClass admin id d => exact (Classes.update_settles h hfilled).map
  | deleteClass admin id => exact (Classes.delete_settles h).map
  | createStudent admin d => exact (Students.create_settles h hfilled).map
  | updateStudent admin id d => exact (Students.update_settles h hfilled).map
  | signUp d => exact (Accounts.signUp_settles h hfilled).map
  | changeProfile student name email =>
    exact (Accounts.changeProfile_settles h student name email).map
  | _ => exact ha.elim

end LogicTutor
