import Mathlib
import LogicTutor.Proofs.Campus.Syllabus
import LogicTutor.Proofs.Form.Loading
import LogicTutor.Proofs.Web.Reach

/-! Where questions are filed: always in an area that there is, and in none but a subarea of it. A
change that names another area without naming the subarea could part the two; the form of such a
request fills in the subarea, so none can be asked for. -/
namespace LogicTutor

open Campus

namespace Campus

/-- Questions are filed in areas that there are and subareas of these, and subareas are in areas
that there are. The subareas are told apart by identifiers that are not empty. -/
structure Classified (c : Campus) : Prop where
  questions : ∀ q ∈ c.questions, c.Files q
  subareas : ∀ s ∈ c.subareas, ∃ a ∈ c.areas, a.id = s.areaId
  subareaIds : (c.subareas.map Subarea.id).Nodup
  named : ∀ s ∈ c.subareas, s.id ≠ ""

variable {c c' : Campus} {now : Instant} {id : Id} {q : Question}

/-- A question stays filed as long as its area and its subarea are there. -/
theorem Files.mono (h : c.Files q)
    (hareas : ∀ id, (∃ a ∈ c.areas, a.id = id) → ∃ a ∈ c'.areas, a.id = id)
    (hsubareas : ∀ s ∈ c.subareas, ∃ t ∈ c'.subareas, t.id = s.id ∧ t.areaId = s.areaId) :
    c'.Files q where
  area := hareas q.areaId h.area
  subarea id hid hne := by
    obtain ⟨s, hs, rfl, harea⟩ := h.subarea id hid hne
    obtain ⟨t, ht, htid, htarea⟩ := hsubareas s hs
    exact ⟨t, ht, htid, htarea.trans harea⟩

/-- A question that is in a subarea is in the area of the subarea. -/
theorem Classified.areaId_eq (h : c.Classified) {s : Subarea} (hq : q ∈ c.questions)
    (hs : s ∈ c.subareas) (hin : q.subareaId = some s.id) : s.areaId = q.areaId := by
  obtain ⟨t, ht, hid, harea⟩ := (h.questions q hq).subarea s.id hin (h.named s hs)
  rw [← harea, eq_of_key_eq h.subareaIds ht hs hid]

/-- Subareas without questions can be removed one after the other without touching the
questions. -/
theorem foldl_eraseSubarea_eq (subareas : List Subarea) (c : Campus)
    (hfree : ∀ q ∈ c.questions, ∀ s ∈ subareas, q.subareaId ≠ some s.id) :
    subareas.foldl (fun c s => c.eraseSubarea s.id now) c =
      { c with subareas := c.subareas.filter fun t => subareas.all fun s => t.id ≠ s.id } := by
  induction subareas generalizing c with
  | nil => simp
  | cons s subareas ih =>
    have hs : ∀ q ∈ c.questions, q.subareaId ≠ some s.id := by
      intro q hq
      exact hfree q hq s List.mem_cons_self
    rw [List.foldl_cons, Subareas.eraseSubarea_eq hs, ih]
    · simp only [without, List.filter_filter, List.all_cons, Bool.and_comm]
    · intro q hq t ht
      exact hfree q hq t (List.mem_cons_of_mem s ht)

/-- Emptying an area that no question is in removes its subareas and does nothing else. -/
theorem Classified.emptied_eq (h : c.Classified) (hfree : ∀ q ∈ c.questions, q.areaId ≠ id) :
    c.emptied id now = { c with subareas := c.subareas.filter fun s => s.areaId ≠ id } := by
  have hmem (s : Subarea) : s ∈ Areas.subareas c id ↔ s ∈ c.subareas ∧ s.areaId = id := by
    simp [Areas.subareas]
  unfold emptied
  rw [foldl_eraseSubarea_eq]
  · have hsame : c.subareas.filter (fun t => (Areas.subareas c id).all fun s => t.id ≠ s.id) =
        c.subareas.filter fun s => s.areaId ≠ id := by
      refine List.filter_congr fun t ht => ?_
      rw [Bool.eq_iff_iff, List.all_eq_true]
      simp only [decide_eq_true_eq]
      constructor
      · intro hall harea
        exact hall t ((hmem t).mpr ⟨ht, harea⟩) rfl
      · intro harea s hs hid
        obtain ⟨hs, hsarea⟩ := (hmem s).mp hs
        rw [eq_of_key_eq h.subareaIds ht hs hid] at harea
        exact harea hsarea
    rw [hsame]
  · intro q hq s hs hin
    obtain ⟨hs, hsarea⟩ := (hmem s).mp hs
    exact hfree q hq ((h.areaId_eq hq hs hin).symm.trans hsarea)

theorem classified_empty (ids : Ids) : (Campus.empty ids).Classified := by
  constructor <;> simp [Campus.empty]

theorem Classified.of_same (h : c.Classified) (hsame : c.SameSyllabus c') : c'.Classified where
  questions q hq := by
    refine (h.questions q (hsame.questions ▸ hq)).mono ?_ ?_
    · rw [hsame.areas]
      exact fun _ ha => ha
    · rw [hsame.subareas]
      exact fun s hs => ⟨s, hs, rfl, rfl⟩
  subareas := by
    rw [hsame.subareas, hsame.areas]
    exact h.subareas
  subareaIds := hsame.subareas ▸ h.subareaIds
  named := hsame.subareas ▸ h.named

/-! Areas and subareas that are made. -/

theorem Classified.madeArea (h : c.Classified) (a : Area) :
    { c.spend 1 with areas := c.areas ++ [a] }.Classified := by
  have hareas (id : Id) : (∃ b ∈ c.areas, b.id = id) → ∃ b ∈ c.areas ++ [a], b.id = id := by
    rintro ⟨b, hb, hid⟩
    exact ⟨b, List.mem_append_left _ hb, hid⟩
  refine ⟨fun q hq => ?_, fun s hs => hareas _ (h.subareas s hs), h.subareaIds, h.named⟩
  exact (h.questions q hq).mono hareas fun s hs => ⟨s, hs, rfl, rfl⟩

theorem Classified.madeSubarea (h : c.Classified) {s : Subarea}
    (hfresh : ∀ t ∈ c.subareas, t.id ≠ s.id) (hnamed : s.id ≠ "")
    (harea : ∃ a ∈ c.areas, a.id = s.areaId) :
    { c.spend 1 with subareas := c.subareas ++ [s] }.Classified where
  questions q hq := by
    refine (h.questions q hq).mono (fun _ ha => ha) fun t ht => ?_
    exact ⟨t, List.mem_append_left _ ht, rfl, rfl⟩
  subareas t ht := by
    rcases List.mem_append.mp ht with ht | ht
    · exact h.subareas t ht
    · rw [List.mem_singleton.mp ht]
      exact harea
  subareaIds := nodup_append h.subareaIds hfresh
  named t ht := by
    rcases List.mem_append.mp ht with ht | ht
    · exact h.named t ht
    · rw [List.mem_singleton.mp ht]
      exact hnamed

/-! Areas and subareas that are changed or removed, and other questions. -/

theorem Classified.changedArea (h : c.Classified) (a : Area) :
    { c with areas := replaced Area.id a c.areas }.Classified := by
  refine ⟨fun q hq => ?_, fun s hs => exists_mem_replaced (h.subareas s hs), h.subareaIds,
    h.named⟩
  exact (h.questions q hq).mono (fun _ => exists_mem_replaced) fun s hs => ⟨s, hs, rfl, rfl⟩

theorem Classified.changedSubarea (h : c.Classified) {s s' : Subarea} (hs : s ∈ c.subareas)
    (hid : s'.id = s.id) (harea : s'.areaId = s.areaId) :
    { c with subareas := replaced Subarea.id s' c.subareas }.Classified where
  questions q hq := by
    refine (h.questions q hq).mono (fun _ ha => ha) fun t ht => ?_
    by_cases hts : t.id = s'.id
    · rw [eq_of_key_eq h.subareaIds ht hs (hts.trans hid)]
      exact ⟨s', mem_replaced_self hs hid, hid, harea⟩
    · exact ⟨t, List.mem_map.mpr ⟨t, ht, if_neg hts⟩, rfl, rfl⟩
  subareas t ht := by
    rcases mem_replaced ht with rfl | ⟨ht, -⟩
    · rw [harea]
      exact h.subareas s hs
    · exact h.subareas t ht
  subareaIds := nodup_replaced h.subareaIds
  named t ht := by
    rcases mem_replaced ht with rfl | ⟨ht, -⟩
    · rw [hid]
      exact h.named s hs
    · exact h.named t ht

theorem Classified.erasedSubarea (h : c.Classified)
    (hfree : ∀ q ∈ c.questions, q.subareaId ≠ some id) :
    { c with subareas := without Subarea.id id c.subareas }.Classified where
  questions q hq := by
    refine ⟨(h.questions q hq).area, fun key hkey hne => ?_⟩
    obtain ⟨s, hs, rfl, harea⟩ := (h.questions q hq).subarea key hkey hne
    refine ⟨s, mem_without.mpr ⟨hs, fun hid => ?_⟩, rfl, harea⟩
    exact hfree q hq (hid ▸ hkey)
  subareas s hs := h.subareas s (mem_without.mp hs).1
  subareaIds := nodup_without h.subareaIds
  named s hs := h.named s (mem_without.mp hs).1

/-- An area that no question is in can be removed with its subareas. -/
theorem Classified.erasedArea (h : c.Classified) (hfree : ∀ q ∈ c.questions, q.areaId ≠ id) :
    { c with
      subareas := c.subareas.filter fun s => s.areaId ≠ id
      areas := without Area.id id c.areas }.Classified := by
  have hareas (key : Id) (hne : key ≠ id) :
      (∃ b ∈ c.areas, b.id = key) → ∃ b ∈ without Area.id id c.areas, b.id = key := by
    rintro ⟨b, hb, rfl⟩
    exact ⟨b, mem_without.mpr ⟨hb, hne⟩, rfl⟩
  have hkept (s : Subarea) : s ∈ c.subareas.filter (fun s => s.areaId ≠ id) ↔
      s ∈ c.subareas ∧ s.areaId ≠ id := by
    simp
  refine ⟨fun q hq => ⟨?_, fun key hkey hne => ?_⟩, fun s hs => ?_, ?_, fun s hs => ?_⟩
  · exact hareas q.areaId (hfree q hq) (h.questions q hq).area
  · obtain ⟨s, hs, hid, harea⟩ := (h.questions q hq).subarea key hkey hne
    exact ⟨s, (hkept s).mpr ⟨hs, harea ▸ hfree q hq⟩, hid, harea⟩
  · obtain ⟨hs, hne⟩ := (hkept s).mp hs
    exact hareas s.areaId hne (h.subareas s hs)
  · exact h.subareaIds.sublist (List.filter_sublist.map _)
  · exact h.named s ((hkept s).mp hs).1

/-- An area that there is and that no question is in is removed, with its subareas. -/
theorem Classified.delete_eq (h : c.Classified) (now : Instant) (harea : ∃ a ∈ c.areas, a.id = id)
    (hfree : ∀ q ∈ c.questions, q.areaId ≠ id) :
    (Areas.delete c now id).campus = { c with
      subareas := c.subareas.filter fun s => s.areaId ≠ id
      areas := without Area.id id c.areas } := by
  obtain ⟨a, ha⟩ : ∃ a, c.area? id = some a := by
    refine Option.isSome_iff_exists.mp (List.find?_isSome.mpr ?_)
    simpa using harea
  obtain ⟨-, rfl⟩ := area?_eq_some ha
  have hnone : Areas.questions c a.id = [] := by
    simpa [Areas.questions] using hfree
  have hclear : (c.emptied a.id now).eraseArea a.id = .ok { c with
      subareas := c.subareas.filter fun s => s.areaId ≠ a.id
      areas := without Area.id a.id c.areas } := by
    rw [h.emptied_eq hfree]
    refine clear_eq_ok.mpr ⟨?_, rfl⟩
    simpa using hfree
  unfold Areas.delete
  simp only [ha, hnone, List.length_nil, Nat.lt_irrefl, if_false]
  change (Deed.attempt c _ (((c.emptied a.id now).eraseArea a.id).map _)).campus = _
  rw [hclear]
  rfl

theorem Classified.of_questions (h : c.Classified) {questions : List Question} {drawn : Nat}
    (hfiled : ∀ q ∈ questions, c.Files q) :
    { c with questions := questions, drawn := drawn }.Classified :=
  ⟨fun q hq => ⟨(hfiled q hq).area, (hfiled q hq).subarea⟩, h.subareas, h.subareaIds, h.named⟩

end Campus

namespace Action

variable {c c' : Campus} {now : Instant} {a : Action}

/-- The action names another area for a question and leaves its subarea unnamed. -/
def Misfiles (a : Action) : Prop :=
  ∃ id d, a = .updateQuestion id d ∧ d.areaId ≠ none ∧ d.subareaId = none

/-- A changed question is filed, unless only its area was named. -/
theorem files_apply (now : Instant) {d : Questions.Change} {q : Question} (hq : c.Files q)
    (harea : ∀ area, d.areaId = some area → ∃ a ∈ c.areas, a.id = area)
    (hsubarea : ∀ s, d.subareaId = some (some s) →
      ∃ t ∈ c.subareas, t.id = s ∧ t.areaId = d.areaId.getD q.areaId)
    (hd : d.areaId ≠ none → d.subareaId ≠ none) : c.Files (d.apply now q) where
  area := by
    show ∃ a ∈ c.areas, a.id = d.areaId.getD q.areaId
    cases h : d.areaId with
    | none => exact hq.area
    | some area => exact harea area h
  subarea id hid hne := by
    change d.subareaId.getD q.subareaId = some id at hid
    show ∃ s ∈ c.subareas, s.id = id ∧ s.areaId = d.areaId.getD q.areaId
    match h : d.subareaId with
    | none =>
      have hnone : d.areaId = none := by
        by_contra hsome
        exact hd hsome h
      rw [h] at hid
      rw [hnone]
      exact hq.subarea id hid hne
    | some none =>
      rw [h] at hid
      cases hid
    | some (some s) =>
      rw [h] at hid
      obtain rfl := Option.some.inj hid
      exact hsubarea s h

/-- Whatever is done to areas, subareas and questions, they stay classified, unless a question is
misfiled. -/
theorem Arranges.classified (harranges : Arranges c now a c') (h : c.Classified)
    (ha : ¬ a.Misfiles) : c'.Classified := by
  cases harranges with
  | madeArea => exact h.madeArea _
  | changedArea => exact h.changedArea _
  | erasedArea hfree =>
    rw [h.emptied_eq hfree]
    exact h.erasedArea hfree
  | madeSubarea hfresh hnamed harea => exact h.madeSubarea hfresh hnamed harea
  | changedSubarea hs => exact h.changedSubarea hs rfl rfl
  | erasedSubarea hfree => exact h.erasedSubarea hfree
  | madeQuestion _ hfiled =>
    refine h.of_questions fun r hr => ?_
    rcases List.mem_append.mp hr with hr | hr
    · exact h.questions r hr
    · rw [List.mem_singleton.mp hr]
      exact hfiled
  | @changedQuestion id d q hq _ harea hsubarea =>
    refine h.of_questions fun r hr => ?_
    rcases mem_replaced hr with rfl | ⟨hr, -⟩
    · refine files_apply now (h.questions q hq) harea hsubarea fun hnamed hnone => ?_
      exact ha ⟨id, d, rfl, hnamed, hnone⟩
    · exact h.questions r hr
  | erasedQuestion => exact h.of_questions fun r hr => h.questions r (mem_without.mp hr).1

theorem classified_perform (h : c.Classified) (ha : ¬ a.Misfiles) :
    (a.perform c now).campus.Classified := by
  obtain harranges | hsame := arranges_perform c now a
  · exact harranges.classified h ha
  · exact h.of_same hsame

end Action

theorem Setup.Step.classified {c c' : Campus} (hstep : Step c c') (h : c.Classified) :
    c'.Classified := by
  cases hstep with
  | admin a => exact h.of_same ⟨rfl, rfl, rfl⟩
  | area => exact h.madeArea _
  | subarea hfresh hnamed harea => exact h.madeSubarea hfresh hnamed harea

namespace Web

/-- No question can be misfiled by a request, as the form for changing questions always comes with
a subarea. -/
theorem Asked.not_misfiles {a : Action} (h : Asked a) : ¬ a.Misfiles := by
  rintro ⟨id, d, rfl, -, hnone⟩
  obtain ⟨route, hroute, r, x, style, hform, haction⟩ := h
  obtain ⟨hendpoint, hd⟩ : route.endpoint = .questionUpdate ∧
      d = Questions.Change.ofFields x.fields := by
    cases he : route.endpoint <;> rw [he] at haction <;> cases haction
    exact ⟨rfl, rfl⟩
  have hchange : route.endpoint.changeForm? = some Form.questionChange := by rw [hendpoint]; rfl
  rw [form_of_changeForm? hroute hchange] at hform
  obtain ⟨given, -, hload⟩ := load_of_readForm hform
  have hfield := Form.load_field (f := Form.nullable "math_subarea_id" .text [])
    (by decide) (Form.loadFields_of_load hload) (by simp [Form.questionChange])
  -- whether the request named it or not, there is a value for the subarea
  obtain ⟨v, hv⟩ := Field.exists_of_load_filled rfl hfield
  change Json.field? x.fields "math_subarea_id" = some v at hv
  simp [hd, Questions.Change.ofFields, Fields.namedText?, hv] at hnone

theorem classified_of_arises {c : Campus} (h : c.Arises fun _ _ a => Asked a) : c.Classified :=
  h.invariant classified_empty (fun _ _ h hstep => hstep.classified h)
    fun _ _ _ h ha => Action.classified_perform h ha.not_misfiles

/-- On every campus that requests and setting up can lead to, questions are classified. Removing an
area leaves all questions as they are, and every subarea that one of them is in; where no question
is in the area, it is removed with its subareas. And whatever is requested next, the campus is again
such a one. -/
theorem questions_stay_classified (c : Campus) (hc : c.Arises fun _ _ a => Asked a) :
    c.Classified ∧
    (∀ now id, (Areas.delete c now id).campus.questions = c.questions ∧
      (∀ q ∈ c.questions, ∀ s ∈ c.subareas, q.subareaId = some s.id →
        s ∈ (Areas.delete c now id).campus.subareas) ∧
      ((∃ a ∈ c.areas, a.id = id) → (∀ q ∈ c.questions, q.areaId ≠ id) →
        (Areas.delete c now id).campus = { c with
          subareas := c.subareas.filter fun s => s.areaId ≠ id
          areas := without Area.id id c.areas })) ∧
    ∀ (app : App) now r, app.campus = c →
      (app.handle now r).2.campus.Arises fun _ _ a => Asked a := by
  have h := classified_of_arises hc
  refine ⟨h, fun now id => ?_, fun app now r happ => ?_⟩
  · rw [← and_assoc]
    refine ⟨?_, fun harea hfree => h.delete_eq now harea hfree⟩
    obtain ⟨_, message, -, harranges⟩ | ⟨-, n, -, hsame⟩ := Areas.delete_brings c now id
    · generalize (Areas.delete c now id).campus = c' at harranges ⊢
      cases harranges with
      | erasedArea hfree =>
        rw [h.emptied_eq hfree]
        refine ⟨rfl, fun q hq s hs hin => ?_⟩
        have harea : s.areaId ≠ id := by
          rw [h.areaId_eq hq hs hin]
          exact hfree q hq
        exact List.mem_filter.mpr ⟨hs, decide_eq_true harea⟩
    · rw [hsame]
      exact ⟨rfl, fun q hq s hs hin => hs⟩
  · subst happ
    exact App.arises_handle hc now r

/-- What is asked for with a body that the form accepts can be asked for. -/
theorem asked_of_load (e : Endpoint) (caller : Caller) (params : List String) (given : Fields)
    {fs : Fields} {route : Route} {form : Form} {a : Action} {style : Style}
    (hroute : (routes.find? fun r => r.endpoint = e) = some route)
    (hform : route.form = some (.body, form)) (hload : Form.load form false (.obj given) = .ok fs)
    (haction : route.endpoint.action? ⟨caller, params, fs⟩ = some (a, style)) : Asked a := by
  refine ⟨route, List.mem_of_find?_eq_some hroute, ⟨"POST", "", none, .json (.obj given), [], none⟩,
    ⟨caller, params, fs⟩, style, ?_, haction⟩
  rw [hform]
  simp [readForm, Body.value?, hload]

/-- An area with two subareas, and a question in one of them. -/
def sorting : List Action :=
  [.createArea ⟨some "Algebra", none, none, none, 0⟩,
   .createSubarea (idOf 1) ⟨some "Linear", none, 0⟩,
   .createSubarea (idOf 1) ⟨some "Conjuntos", none, 0⟩,
   .createQuestion (some "") ⟨some (idOf 1), some (idOf 2), some "Soma", some "1 + 1", none, none,
     none, none, none, .medium, .arr []⟩]

theorem asked_of_mem_sorting : ∀ a ∈ sorting, Asked a := by
  intro a ha
  simp only [sorting, List.mem_cons, List.not_mem_nil, or_false] at ha
  rcases ha with rfl | rfl | rfl | rfl
  · exact asked_of_load .areaCreate .nobody [] [("name", .str "Algebra")] rfl rfl (by cbv) rfl
  · exact asked_of_load .subareaCreate .nobody [idOf 1] [("name", .str "Linear")] rfl rfl
      (by cbv) rfl
  · exact asked_of_load .subareaCreate .nobody [idOf 1] [("name", .str "Conjuntos")] rfl rfl
      (by cbv) rfl
  · exact asked_of_load .questionCreate .nobody []
      [("math_area_id", .str (idOf 1)), ("math_subarea_id", .str (idOf 2)), ("title", .str "Soma"),
       ("content", .str "1 + 1")] rfl rfl (by cbv) rfl

/-- The question stays in its subarea, and the area cannot be removed. -/
theorem questions_stay_classified_sorted :
    ((Campus.empty .counting).run 0 sorting).questions.map Question.subareaId = [some (idOf 2)] ∧
    ((Campus.empty .counting).run 0 sorting).Classified ∧
    (Areas.delete ((Campus.empty .counting).run 0 sorting) 0 (idOf 1)).campus.questions =
      ((Campus.empty .counting).run 0 sorting).questions := by
  have hc : ((Campus.empty .counting).run 0 sorting).Arises fun _ _ a => Asked a :=
    .run (.empty _) asked_of_mem_sorting
  obtain ⟨hclassified, hdelete, -⟩ := questions_stay_classified _ hc
  exact ⟨rfl, hclassified, (hdelete 0 (idOf 1)).1⟩

end Web

end LogicTutor
