import LogicTutor.Proofs.Campus.Membership

/-! What students get to see of the contents. They are told only of those in a class in which they
are enrolled, and the same holds of all folders on the way to these. Hidden contents are neither
listed nor given out, but they do stand on the ways, be it the way to themselves or to what lies in
them, and are named as the parents of what is listed. -/
namespace LogicTutor

open Campus Contents Relation

/-- The student who asks for contents. -/
def Action.reader? : Action → Option Id
  | listLessons student _ _ | getLesson student _ | getWay student _ => some student
  | _ => none

theorem Deed.exists_of_map {α β : Type} {f : α → β} {d : Deed α} {v : β} {message : Option String}
    (h : (d.map f).result = .ok (.success v message)) :
    ∃ a, d.result = .ok (.success a message) ∧ f a = v := by
  obtain ⟨result, c⟩ := d
  match result with
  | .ok (.success a m) =>
    cases h
    exact ⟨a, rfl, rfl⟩
  | .ok (.failure p) => cases h
  | .error e => cases h

theorem Deed.result_map {α β : Type} {f : α → β} {d : Deed α} {a : α} {message : Option String}
    (h : d.result = .ok (.success a message)) :
    (d.map f).result = .ok (.success (f a) message) := by
  obtain ⟨result, c⟩ := d
  obtain rfl : result = .ok (.success a message) := h
  rfl

namespace Lessons

variable {c : Campus} {student classId id : Id} {parent : Option Id} {n m k : Content}
  {ns below : List Content} {fuel : Nat} {message : Option String}

/-- The value tells of these contents: of one or several of them with all that students may know,
or of the steps on a way. -/
inductive Tells : Json → List Content → Prop
  | content (n : Content) : Tells (View.content n) [n]
  | contents (ns : List Content) : Tells (View.list View.content ns) ns
  | steps (ns : List Content) : Tells (View.list View.crumb ns) ns

/-! Whether a student may see the contents of a class. -/

theorem active_eq_nil (hc : c.Registered) (h : student ∉ c.students.map Student.id) :
    active c student = [] := by
  refine List.filter_eq_nil_iff.mpr fun e he hactive => h ?_
  simp only [Bool.and_eq_true, decide_eq_true_eq] at hactive
  rw [← hactive.1]
  exact hc.known e he

/-- Nobody has two enrollments, so it is always clear who is enrolled. -/
theorem isEnrolled_eq (hc : c.Registered) : (c.EnrolledIn student classId →
      isEnrolled c student classId = .ok true) ∧
    (¬ c.EnrolledIn student classId → isEnrolled c student classId = .ok false) := by
  by_cases hs : student ∈ c.students.map Student.id
  · obtain ⟨s, hmem, rfl⟩ := List.mem_map.mp hs
    obtain ⟨e, he⟩ := hc.placed s hmem
    rw [he.enrolledIn_iff, he.isEnrolled]
    constructor
    · intro hclass
      rw [decide_eq_true hclass]
    · intro hclass
      rw [decide_eq_false hclass]
  · constructor
    · rintro ⟨e, he, rfl, -⟩
      exact absurd (hc.known e he) hs
    · intro _
      unfold isEnrolled
      rw [active_eq_nil hc hs]
      rfl

section

variable {α : Type} {problem : Problem} {next : Deed α}

theorem whenEnrolled_of_enrolledIn (hc : c.Registered) (h : c.EnrolledIn student classId) :
    whenEnrolled c student classId problem next = next := by
  unfold whenEnrolled
  rw [(isEnrolled_eq hc).1 h]

theorem whenEnrolled_of_not_enrolledIn (hc : c.Registered) (h : ¬ c.EnrolledIn student classId) :
    whenEnrolled c student classId problem next = .refused c problem := by
  unfold whenEnrolled
  rw [(isEnrolled_eq hc).2 h]

/-- What is done for a student is done for one who is enrolled. -/
theorem whenEnrolled_success_iff (hc : c.Registered) {a : α} :
    (whenEnrolled c student classId problem next).result = .ok (.success a message) ↔
      c.EnrolledIn student classId ∧ next.result = .ok (.success a message) := by
  by_cases h : c.EnrolledIn student classId
  · simp [whenEnrolled_of_enrolledIn hc h, h]
  · simp [whenEnrolled_of_not_enrolledIn hc h, h, Deed.refused]

end

/-! The ways up. -/

/-- The parent of `n` refers to `m`. -/
def Refers (c : Campus) (n m : Content) : Prop := n.parentId.bind c.content? = some m

/-- Parents refer to folders of the same class, and to nothing else. -/
theorem refers_iff (hc : Orderly c.contents) (hn : n ∈ c.contents) :
    Refers c n m ↔ LiesIn c.contents n m := by
  unfold Refers
  constructor
  · intro h
    obtain ⟨p, hp, hm⟩ := Option.bind_eq_some_iff.mp h
    obtain ⟨hmem, rfl⟩ := mem_of_find?_id hm
    obtain (htop | htop) | ⟨k, hk, -⟩ := hc.parent n hn
    · cases hp.symm.trans htop
    · exact absurd (Option.some.inj (hp.symm.trans htop)) (hc.named m hmem)
    · have hid : m.id = k.id := Option.some.inj (hp.symm.trans hk.parent)
      rwa [eq_of_id_eq hc.ids hmem hk.mem hid]
  · intro h
    rw [h.parent, Option.bind_some, content?_eq_some hc h.mem]

/-- Whatever one comes to is kept, and is in the class from which one set out. -/
theorem mem_of_reaches (hn : n ∈ c.contents) (h : ReflTransGen (LiesIn c.contents) n k) :
    k ∈ c.contents ∧ k.classId = n.classId := by
  induction h with
  | refl => exact ⟨hn, rfl⟩
  | tail _ hlast ih => exact ⟨hlast.mem, hlast.sameClass.trans ih.2⟩

theorem reaches_of_refers (hc : Orderly c.contents) (hn : n ∈ c.contents)
    (h : ReflTransGen (Refers c) n k) : ReflTransGen (LiesIn c.contents) n k := by
  induction h with
  | refl => exact .refl
  | tail _ hlast ih => exact ih.tail ((refers_iff hc (mem_of_reaches hn ih).1).mp hlast)

/-- A way that is found leads by everything that one comes to by going up, and by nothing else. -/
theorem mem_wayTo (hc : Orderly c.contents) (hn : n ∈ c.contents)
    (h : wayTo c fuel n below = some ns) :
    k ∈ ns ↔ k ∈ below ∨ ReflTransGen (LiesIn c.contents) n k := by
  induction fuel generalizing n below with
  | zero => cases h
  | succ fuel ih =>
    obtain htop | ⟨m, hm, -⟩ := hc.parent n hn
    · rw [wayTo_top htop] at h
      have hstay : ReflTransGen (LiesIn c.contents) n k ↔ k = n := by
        constructor
        · intro hk
          obtain rfl | ⟨m, hm, -⟩ := hk.cases_head
          · rfl
          · exact absurd hm (hc.stops n m htop)
        · rintro rfl
          exact .refl
      rw [← Option.some.inj h, hstay, List.mem_cons, or_comm]
    · rw [wayTo_up hc hm] at h
      have hgo : ReflTransGen (LiesIn c.contents) n k ↔
          k = n ∨ ReflTransGen (LiesIn c.contents) m k := by
        constructor
        · intro hk
          obtain rfl | ⟨m', hm', hk⟩ := hk.cases_head
          · exact .inl rfl
          · rw [hm.unique hc.ids hm']
            exact .inr hk
        · rintro (rfl | hk)
          · exact .refl
          · exact .head hm hk
      rw [ih hm.mem h, hgo, List.mem_cons, or_assoc, or_left_comm]

/-! What each request brings, if it succeeds. -/

theorem list_success_iff (hc : c.Registered) :
    (list c student classId parent).result = .ok (.success ns message) ↔
      c.EnrolledIn student classId ∧ message = none ∧
        ns = shownIn c classId (parent.filter (!·.isEmpty)) := by
  unfold list
  rw [whenEnrolled_success_iff hc]
  simp [Deed.answered, and_comm, eq_comm]

theorem mem_shownIn : n ∈ shownIn c classId parent ↔
    n ∈ c.contents ∧ n.classId = classId ∧ n.visibility ≠ .hidden ∧ n.parentId = parent := by
  simp [shownIn, and_assoc]

theorem get_success_iff (hc : c.Registered) :
    (get c student id).result = .ok (.success n message) ↔
      c.content? id = some n ∧ c.EnrolledIn student n.classId ∧ n.visibility ≠ .hidden ∧
        message = none := by
  unfold get
  cases hid : c.content? id with
  | none => simp [Deed.refused]
  | some k =>
    rw [whenEnrolled_success_iff hc, Option.some.injEq]
    by_cases hhidden : k.visibility = .hidden
    · rw [if_pos hhidden]
      constructor
      · rintro ⟨-, h⟩
        cases h
      · rintro ⟨rfl, -, hshown, -⟩
        exact absurd hhidden hshown
    · rw [if_neg hhidden]
      constructor
      · rintro ⟨henrolled, h⟩
        cases h
        exact ⟨rfl, henrolled, hhidden, rfl⟩
      · rintro ⟨rfl, henrolled, -, rfl⟩
        exact ⟨henrolled, rfl⟩

theorem way_success_iff (hc : c.Registered) :
    (way c student id).result = .ok (.success ns message) ↔
      ∃ n, c.content? id = some n ∧ c.EnrolledIn student n.classId ∧
        wayTo c (c.contents.length + 1) n [] = some ns ∧ message = none := by
  unfold way
  cases hid : c.content? id with
  | none => simp [Deed.refused]
  | some n =>
    simp only [whenEnrolled_success_iff hc, Option.some.injEq]
    constructor
    · rintro ⟨henrolled, h⟩
      split at h
      next ns' hway =>
        cases h
        exact ⟨n, rfl, henrolled, hway, rfl⟩
      next => cases h
    · rintro ⟨_, rfl, henrolled, hway, rfl⟩
      rw [hway]
      exact ⟨henrolled, rfl⟩

/-- What a student is told is of contents in classes in which the student is enrolled. -/
theorem tells_of_perform {a : Action} {now : Instant} {v : Json} (hc : c.Registered)
    (ho : Orderly c.contents) (ha : a.reader? = some student)
    (h : (a.perform c now).result = .ok (.success v message)) :
    ∃ ns, Tells v ns ∧ ∀ n ∈ ns, n ∈ c.contents ∧ c.EnrolledIn student n.classId := by
  cases a with
  | listLessons s classId parent =>
    obtain rfl := Option.some.inj ha
    obtain ⟨ns, hlist, rfl⟩ := Deed.exists_of_map h
    obtain ⟨henrolled, -, rfl⟩ := (list_success_iff hc).mp hlist
    refine ⟨_, .contents _, fun n hn => ?_⟩
    obtain ⟨hmem, rfl, -⟩ := mem_shownIn.mp hn
    exact ⟨hmem, henrolled⟩
  | getLesson s id =>
    obtain rfl := Option.some.inj ha
    obtain ⟨n, hget, rfl⟩ := Deed.exists_of_map h
    obtain ⟨hid, henrolled, -⟩ := (get_success_iff hc).mp hget
    refine ⟨[n], .content n, fun k hk => ?_⟩
    rw [List.mem_singleton.mp hk]
    exact ⟨(mem_of_find?_id hid).1, henrolled⟩
  | getWay s id =>
    obtain rfl := Option.some.inj ha
    obtain ⟨ns, hway, rfl⟩ := Deed.exists_of_map h
    obtain ⟨n, hid, henrolled, hway, -⟩ := (way_success_iff hc).mp hway
    have hn := (mem_of_find?_id hid).1
    refine ⟨ns, .steps ns, fun k hk => ?_⟩
    obtain hnil | hreach := (mem_wayTo ho hn hway).mp hk
    · cases hnil
    · obtain ⟨hk, hclass⟩ := mem_of_reaches hn hreach
      exact ⟨hk, hclass ▸ henrolled⟩
  | _ => cases ha

/-- The way to a content that is kept is told to those who are enrolled in its class, if it ends. -/
theorem exists_way (hc : c.Registered) (ho : Orderly c.contents) (hn : n ∈ c.contents)
    (henrolled : c.EnrolledIn student n.classId) (hends : Ends AtTop c.contents n) :
    ∃ ns, (way c student n.id).result = .ok (.success ns none) ∧ n ∈ ns := by
  cases hway : wayTo c (c.contents.length + 1) n [] with
  | none => exact absurd hends ((wayTo_eq_none_iff ho hn).mp hway)
  | some ns =>
    refine ⟨ns, ?_, (mem_wayTo ho hn hway).mpr (.inr .refl)⟩
    exact (way_success_iff hc).mpr ⟨n, content?_eq_some ho hn, henrolled, hway, rfl⟩

/-- The parent that is told of a content is the folder in which it lies. -/
theorem reference_eq_iff (hc : Orderly c.contents) (hn : n ∈ c.contents) (hk : k ∈ c.contents) :
    View.reference n.parentId = .str k.id ↔ LiesIn c.contents n k := by
  constructor
  · intro h
    refine (refers_iff hc hn).mp ?_
    unfold Refers
    cases hp : n.parentId with
    | none =>
      rw [hp] at h
      cases h
    | some p =>
      have hpk : p = k.id := by
        rw [hp, View.reference, Option.filter_some] at h
        split at h
        next => exact Json.str.inj h
        next => cases h
      rw [hpk, Option.bind_some, content?_eq_some hc hk]
  · intro h
    simp [View.reference, h.parent, Option.filter_some, hc.named k hk, Json.ofOption]

/-- Whatever is on a way that ends has itself a way that ends. -/
theorem ends_of_reaches (hc : Orderly c.contents) (h : ReflTransGen (LiesIn c.contents) n k)
    (hends : Ends AtTop c.contents n) : Ends AtTop c.contents k := by
  induction h with
  | refl => exact hends
  | @tail m k _ hlast ih =>
    cases ih with
    | top htop => exact absurd hlast (hc.stops m k htop)
    | up hm hm' => exact hlast.unique hc.ids hm ▸ hm'

/-- A content stands on some way that a student is told if the student is enrolled in its class and
its own way ends, and not otherwise. -/
theorem exists_way_iff (hc : c.Registered) (ho : Orderly c.contents) (hk : k ∈ c.contents) :
    (∃ id ns message, (way c student id).result = .ok (.success ns message) ∧ k ∈ ns) ↔
      c.EnrolledIn student k.classId ∧ Ends AtTop c.contents k := by
  constructor
  · rintro ⟨id, ns, message, hway, hkn⟩
    obtain ⟨n, hid, henrolled, hway, -⟩ := (way_success_iff hc).mp hway
    have hn : n ∈ c.contents := (mem_of_find?_id hid).1
    obtain hnil | hreach := (mem_wayTo ho hn hway).mp hkn
    · cases hnil
    · rw [(mem_of_reaches hn hreach).2]
      exact ⟨henrolled, ends_of_reaches ho hreach (ends_of_wayTo ho hn hway)⟩
  · rintro ⟨henrolled, hends⟩
    obtain ⟨ns, hway, hkn⟩ := exists_way hc ho hk henrolled hends
    exact ⟨k.id, ns, none, hway, hkn⟩

end Lessons

namespace Campus

open Lessons

/-- Students are told only of contents in classes in which they are enrolled. When the way to a
content is looked for, all that is come by on the way up is in such a class, also if the way does
not end. And those who are enrolled are given whatever is not hidden. -/
theorem lessons_stay_in_class (c : Campus) (hc : c.Arises fun _ _ _ => True) (now : Instant)
    (student : Id) :
    (∀ a v message, a.reader? = some student →
      (Action.perform c now a).result = .ok (.success v message) →
      ∃ ns, Tells v ns ∧ ∀ n ∈ ns, n ∈ c.contents ∧ c.EnrolledIn student n.classId) ∧
    (∀ id n, c.content? id = some n → (way c student id).result ≠ .ok (.failure denied) →
      ∀ k, ReflTransGen (Refers c) n k → k ∈ c.contents ∧ c.EnrolledIn student k.classId) ∧
    (∀ n ∈ c.contents, c.EnrolledIn student n.classId → n.visibility ≠ .hidden →
      ((Action.getLesson student n.id).perform c now).result =
        .ok (.success (View.content n) none)) := by
  have h := hc.registered
  have ho := hc.orderly
  refine ⟨fun a v message ha hv => tells_of_perform h ho ha hv, ?_, ?_⟩
  · intro id n hn hasked k hk
    have hmem := (mem_of_find?_id hn).1
    obtain ⟨hkmem, hclass⟩ := mem_of_reaches hmem (reaches_of_refers ho hmem hk)
    refine ⟨hkmem, ?_⟩
    rw [hclass]
    by_contra hnot
    refine hasked ?_
    unfold way
    rw [hn]
    simp only [whenEnrolled_of_not_enrolledIn h hnot]
    rfl
  · intro n hn henrolled hshown
    have hget : (Lessons.get c student n.id).result = .ok (.success n none) :=
      (get_success_iff h).mpr ⟨content?_eq_some ho hn, henrolled, hshown, rfl⟩
    exact Deed.result_map hget

/-- The class with a folder in a folder, and a student. -/
def attended : Campus := nested.run 0
  [.signUp ⟨some "Ana", some "ana@x.org", some "1", some "1", none, some "T1"⟩]

/-- The student is told the way to the inner folder, and both folders are in the student's class. -/
theorem lessons_stay_in_class_nested :
    ((Action.getWay (idOf 4) inner.id).perform attended 0).result =
      .ok (.success (View.list View.crumb [outer, inner]) none) ∧
    ∃ ns, Tells (View.list View.crumb [outer, inner]) ns ∧
      ∀ n ∈ ns, n ∈ attended.contents ∧ attended.EnrolledIn (idOf 4) n.classId := by
  have hc : attended.Arises fun _ _ _ => True :=
    .run (.run (.empty _) fun _ _ => trivial) fun _ _ => trivial
  refine ⟨rfl, ?_⟩
  exact (lessons_stay_in_class attended hc 0 (idOf 4)).1 (.getWay (idOf 4) inner.id) _ none rfl rfl

/-- Of what is listed and what is given out, nothing is hidden. But a way leads by all folders in
which a content lies, whether hidden or not, so that the identifier, the title and the kind of each
content whose way ends are told to everybody who is enrolled in its class. And the parent that is
told of a content is the folder in which it lies, whether hidden or not. -/
theorem hidden_contents_stand_on_ways (c : Campus) (hc : c.Arises fun _ _ _ => True)
    (student : Id) :
    (∀ classId parent ns message,
      (Lessons.list c student classId parent).result = .ok (.success ns message) →
      ∀ n, n ∈ ns ↔ n ∈ c.contents ∧ n.classId = classId ∧ n.visibility ≠ .hidden ∧
        n.parentId = parent.filter (!·.isEmpty)) ∧
    (∀ id n message, (Lessons.get c student id).result = .ok (.success n message) →
      n ∈ c.contents ∧ n.id = id ∧ n.visibility ≠ .hidden) ∧
    (∀ id ns message, (way c student id).result = .ok (.success ns message) →
      ∃ n, c.content? id = some n ∧ ∀ k, k ∈ ns ↔ ReflTransGen (LiesIn c.contents) n k) ∧
    (∀ k ∈ c.contents,
      (∃ id ns message, (way c student id).result = .ok (.success ns message) ∧ k ∈ ns) ↔
        c.EnrolledIn student k.classId ∧ Ends AtTop c.contents k) ∧
    (∀ n ∈ c.contents, ∀ k ∈ c.contents,
      View.reference n.parentId = .str k.id ↔ LiesIn c.contents n k) := by
  have h := hc.registered
  have ho := hc.orderly
  refine ⟨?_, ?_, ?_, fun k hk => exists_way_iff h ho hk,
    fun n hn k hk => reference_eq_iff ho hn hk⟩
  · intro classId parent ns message hlist n
    obtain ⟨-, -, rfl⟩ := (list_success_iff h).mp hlist
    exact mem_shownIn
  · intro id n message hget
    obtain ⟨hid, -, hshown, -⟩ := (get_success_iff h).mp hget
    obtain ⟨hn, hid⟩ := mem_of_find?_id hid
    exact ⟨hn, hid, hshown⟩
  · intro id ns message hway
    obtain ⟨n, hid, -, hway, -⟩ := (way_success_iff h).mp hway
    refine ⟨n, hid, fun k => ?_⟩
    rw [mem_wayTo ho (mem_of_find?_id hid).1 hway]
    simp

/-- A hidden folder in a class, something shown in it, and a student. -/
def veiled : Campus := (Campus.empty .counting).run 0
  [course,
   .createContent "a"
    ⟨some "pasta", some "Gabarito", none, some (idOf 1), none, 0, .hidden, .obj [], []⟩,
   mkFolder (some (idOf 2)),
   .signUp ⟨some "Ana", some "ana@x.org", some "1", some "1", none, some "T1"⟩]

/-- The hidden folder. -/
def answerKey : Content := { outer with title := "Gabarito", visibility := .hidden }

theorem contents_veiled : veiled.contents = [answerKey, inner] := rfl

/-- The hidden folder is on a way that the student is told. -/
theorem hidden_contents_stand_on_ways_veiled :
    answerKey.visibility = .hidden ∧
    ∃ id ns message, (way veiled (idOf 4) id).result = .ok (.success ns message) ∧
      answerKey ∈ ns := by
  have hc : veiled.Arises fun _ _ _ => True := .run (.empty _) fun _ _ => trivial
  obtain ⟨-, -, -, hways, -⟩ := hidden_contents_stand_on_ways veiled hc (idOf 4)
  refine ⟨rfl, (hways answerKey ?_).mpr ⟨?_, .top (.inl rfl)⟩⟩
  · rw [contents_veiled]
    exact List.mem_cons_self
  · exact ⟨_, List.mem_singleton.mpr rfl, rfl, rfl, rfl⟩

/-- The student is refused the hidden folder, and is not shown it in the class. Still the way to it
tells of it, the way to what lies in it does, and so does the parent of that. -/
theorem hidden_folder_is_told :
    veiled.Arises (fun _ _ _ => True) ∧
    ((Action.getLesson (idOf 4) answerKey.id).perform veiled 0).result =
      .ok (.failure Lessons.hidden) ∧
    ((Action.listLessons (idOf 4) (idOf 1) none).perform veiled 0).result =
      .ok (.success (.arr []) none) ∧
    ((Action.getWay (idOf 4) answerKey.id).perform veiled 0).result =
      .ok (.success (.arr [View.crumb answerKey]) none) ∧
    ((Action.getWay (idOf 4) inner.id).perform veiled 0).result =
      .ok (.success (.arr [View.crumb answerKey, View.crumb inner]) none) ∧
    ((Action.getLesson (idOf 4) inner.id).perform veiled 0).result =
      .ok (.success (View.content inner) none) ∧
    (View.contentFields inner).lookup "parent_id" = some (.str answerKey.id) := by
  have hnone : shownIn veiled (idOf 1) none = [] := by
    refine List.eq_nil_iff_forall_not_mem.mpr fun n hn => ?_
    obtain ⟨hmem, -, hshown, htop⟩ := mem_shownIn.mp hn
    rw [contents_veiled, List.mem_pair] at hmem
    obtain rfl | rfl := hmem
    · exact hshown rfl
    · cases htop
  refine ⟨.run (.empty _) fun _ _ => trivial, rfl, ?_, rfl, rfl, rfl, rfl⟩
  show Except.ok (Outcome.success (View.list View.content (shownIn veiled (idOf 1) none)) none) = _
  rw [hnone]
  rfl

end Campus

end LogicTutor
