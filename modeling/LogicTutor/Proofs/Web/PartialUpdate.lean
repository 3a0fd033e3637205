import Mathlib
import LogicTutor.Proofs.Campus.Cells
import LogicTutor.Proofs.Web.Reach

/-! Requests that change a row by naming some of its cells. The others are kept, with one exception:
the forms for areas, subareas and questions fill in a null for what is not named, and some columns
take that null for a wish to be emptied. -/
namespace LogicTutor

open Campus Web

namespace Kind

/-- Where rows of the kind are changed. -/
def endpoint : Kind → Endpoint
  | group => .classUpdate
  | student => .studentUpdate
  | content => .contentUpdate
  | area => .areaUpdate
  | subarea => .subareaUpdate
  | question => .questionUpdate

/-- What requests to change a row of the kind may name. -/
def form : Kind → Form
  | group => Form.classChange
  | student => Form.studentChange
  | content => Form.contentChange
  | area => Form.areaChange
  | subarea => Form.subareaChange
  | question => Form.questionChange

variable {k : Kind} {given fs : Fields} {row row' : k.Row}

/-- The row after a change by the fields `fs`, which a form made of the request `given`. -/
structure Updated (k : Kind) (given fs : Fields) (row row' : k.Row) : Prop where
  kept : ∀ key ∉ given.map Prod.fst, key ∉ k.lost →
    ¬ Cell.Derived (· ∈ given.map Prod.fst) key →
    Json.field? (k.cells row') key = Json.field? (k.cells row) key
  lost : ∀ key ∉ given.map Prod.fst, key ∈ k.lost → Json.field? (k.cells row') key = some .null
  written : ∀ key v, fs.value? key = some v → v ≠ .str "" →
    Json.field? (k.cells row) key ≠ none → Json.field? (k.cells row') key = some v

theorem loads_of_load (h : Form.load k.form false (.obj given) = .ok fs) :
    k.form.Loads given fs := by
  have hform : ∀ f ∈ k.form, f.IsFree := by
    cases k <;> simp [form, Form.classChange, Form.studentChange, Form.contentChange,
      Form.folderFields, Form.areaChange, Form.subareaChange, Form.questionChange,
      Form.questionTexts, Field.IsFree, Form.optional, Form.nullable]
  have hnames : (k.form.map Field.name).Nodup := by
    cases k <;> decide
  exact Form.loads_of_load hform hnames h

/-- A column that can be emptied is none that is made anew. -/
theorem not_derived_of_mem_lost {key : String} {named : String → Prop} (hkey : key ∈ k.lost) :
    ¬ Cell.Derived named key := by
  have hlost : ∀ key ∈ k.lost, key ≠ "updated_at" ∧ ¬ "_latex".toList <:+ key.toList := by
    cases k <;> decide
  obtain ⟨hne, hsuffix⟩ := hlost key hkey
  rintro (heq | ⟨text, -, heq⟩)
  · exact hne heq
  · apply hsuffix
    rw [heq, String.toList_append]
    exact List.suffix_append _ _

theorem field?_ne_none_of_mem_lost {key : String} (hkey : key ∈ k.lost) :
    Json.field? (k.cells row) key ≠ none := by
  have hcells : ∀ key ∈ k.lost, key ∈ (k.cells row).map Prod.fst := by
    cases k <;> simp [lost, cells, Area.cells, Subarea.cells, Question.cells]
  rw [Ne, Json.field?_eq_none_iff, not_not]
  exact hcells key hkey

theorem updated_of_follows (h : k.form.Loads given fs)
    (hfollows : List.Forall₂ (Cell.Follows fs k.lost) (k.cells row) (k.cells row')) :
    k.Updated given fs row row' := by
  have hcell := Cell.field?_of_follows hfollows
  refine ⟨fun key hkey hlost hderived => ?_, fun key hkey hlost => ?_, fun key v hv hne hrow => ?_⟩
  · obtain ⟨hold, hnew⟩ | ⟨v, w, hold, hnew, hcell⟩ := hcell key
    · rw [hold, hnew]
    · have hkept : w = v := by
        refine (hcell.kept (h.unnamed key hkey) fun hd => hderived ?_).trans (if_neg hlost)
        -- a text that has a value was named
        exact hd.imp_right fun ⟨text, htext, heq⟩ =>
          ⟨text, by_contra fun hmem => htext (h.unnamed text hmem), heq⟩
      rw [hold, hnew, hkept]
  · obtain ⟨hold, -⟩ | ⟨v, w, -, hnew, hcell⟩ := hcell key
    · exact absurd hold (field?_ne_none_of_mem_lost hlost)
    · have hkept := hcell.kept (h.unnamed key hkey) (not_derived_of_mem_lost hlost)
      rw [hnew]
      exact congrArg some (hkept.trans (if_pos hlost))
  · obtain ⟨hold, -⟩ | ⟨_, w, -, hnew, hcell⟩ := hcell key
    · exact absurd hold hrow
    · rw [hnew]
      exact congrArg some (hcell.written v hv hne)

end Kind

namespace Web

variable {app : App} {now : Instant} {given fs : Fields}

/-- A row of the kind is changed, as `P` has it, and a response tells so; or there is no response,
and nothing is changed. -/
def App.Updates (app : App) (k : Kind) (id : Id) (P : k.Row → k.Row → Prop)
    (told : Except Breakdown Response × App) : Prop :=
  (∃ response, told.1 = .ok response) ∧
      (∃ c, told.2 = { app with campus := c } ∧ k.Changes id P app.campus c) ∨
    (∃ e, told.1 = .error e) ∧ told.2 = app

theorem act_updates {α : Type} {d : Deed α} {view : α → Json} {action : Action} {k : Kind} {id : Id}
    {P : k.Row → k.Row → Prop} {Q : α → Campus → Prop}
    (hd : action.perform app.campus now = d.map view) (h : d.Brings app.campus 0 Q)
    (hQ : ∀ a c, Q a c → k.Changes id P app.campus c) :
    app.Updates k id P (app.act now action .plain) := by
  unfold App.Updates App.act
  rw [hd]
  obtain ⟨a, message, hresult, hcampus⟩ | ⟨hfails, n, hn, hcampus⟩ := h
  · refine .inl ⟨?_, d.campus, rfl, hQ a d.campus hcampus⟩
    simp only [Deed.map, hresult]
    exact ⟨_, rfl⟩
  · obtain rfl := Nat.le_zero.mp hn
    refine .inr ⟨?_, ?_⟩
    · -- a problem that the action met cannot be told in this way, and breaks the request off
      simp only [Deed.map]
      match hresult : d.result with
      | .ok (.success a message) => exact absurd ⟨a, message, hresult⟩ hfails
      | .ok (.failure p) => exact ⟨_, rfl⟩
      | .error f => exact ⟨_, rfl⟩
    · show { app with campus := d.campus } = app
      rw [hcampus]
      rfl

/-- Each kind of row is changed as its cells tell. -/
theorem answer_updates (k : Kind) (hc : app.campus.Arises fun _ _ _ => True)
    (catalogue : Option Json) (x : Call) (h : k.form.Loads given x.fields) :
    app.Updates k x.id (k.Updated given x.fields) (app.answer now catalogue k.endpoint x) := by
  have hids := hc.nodup_ids k
  cases k with
  | group =>
    apply act_updates rfl (Classes.update_brings app.campus x.caller.key x.id now _)
    intro g c heffect
    cases heffect with
    | changedClass hg hid _ happly =>
      have hfollows := Classes.follows_of_apply h happly
      exact Kind.changes_replaced hids hg hid (Classes.Change.keeps_of_apply happly).1
        (Kind.updated_of_follows h hfollows)
  | student =>
    apply act_updates rfl (Students.update_brings app.campus x.caller.key x.id now _)
    intro s c heffect
    cases heffect with
    | changedStudent hs hid _ _ happly =>
      have hfollows := Students.follows_of_apply h happly
      exact Kind.changes_replaced hids hs hid (Students.Change.id_of_apply happly)
        (Kind.updated_of_follows h hfollows)
  | content =>
    apply act_updates rfl (Contents.update_brings app.campus x.caller.key now x.id _)
    intro n c heffect
    cases heffect with
    | changedContent hn hid _ happly =>
      have hfollows := Contents.follows_of_apply h happly
      exact Kind.changes_replaced hids hn hid (Contents.Change.keeps_of_apply happly).1
        (Kind.updated_of_follows h hfollows)
  | area =>
    apply act_updates rfl (Areas.update_brings app.campus now x.id _)
    intro _ c harranges
    cases harranges with
    | @changedArea _ _ a ha hid =>
      have hfollows := Areas.follows_apply h now a
      exact Kind.changes_replaced hids ha hid rfl (Kind.updated_of_follows h hfollows)
  | subarea =>
    apply act_updates rfl (Subareas.update_brings app.campus now x.id _)
    intro _ c harranges
    cases harranges with
    | @changedSubarea _ _ s hs hid =>
      have hfollows := Subareas.follows_apply h now s
      exact Kind.changes_replaced hids hs hid rfl (Kind.updated_of_follows h hfollows)
  | question =>
    apply act_updates rfl (Questions.update_brings app.campus now x.id _)
    intro _ c harranges
    cases harranges with
    | @changedQuestion _ _ q hq hid =>
      have hfollows := Questions.follows_apply h now q
      exact Kind.changes_replaced hids hq hid rfl (Kind.updated_of_follows h hfollows)

/-- On every campus, a request to change a row that its form accepts either fails and changes
nothing, or changes one row, by what it names. All other rows stay as they are, and so do all cells
of the row that the request does not name, but for the time of the change, the LaTeX forms of texts
that it names, and the columns that are emptied when they are not named. A row is nothing but its
cells. -/
theorem update_keeps_unnamed_cells (k : Kind) (app : App)
    (hc : app.campus.Arises fun _ _ _ => True) (now : Instant) (r : Request) (route : Route)
    (hroute : route ∈ routes) (hk : route.endpoint = k.endpoint) (x : Call)
    (hform : readForm r route.form = .ok x.fields) :
    Function.Injective k.cells ∧ ∃ given, r.body.value? = some (.obj given) ∧
      app.Updates k x.id (k.Updated given x.fields)
        (app.answer now r.catalogue route.endpoint x) := by
  refine ⟨k.cells_injective, ?_⟩
  have hchange : route.endpoint.changeForm? = some k.form := by
    rw [hk]
    cases k <;> rfl
  rw [form_of_changeForm? hroute hchange] at hform
  obtain ⟨given, hgiven, hload⟩ := load_of_readForm hform
  rw [hk]
  exact ⟨given, hgiven, answer_updates k hc r.catalogue x (Kind.loads_of_load hload)⟩

/-- An area, a subarea of it, and a question in there. -/
def described : Campus := (Campus.empty .counting).run 0
  [.createArea ⟨some "Algebra", some "Estruturas", some "calc", some "#fff", 3⟩,
   .createSubarea (idOf 1) ⟨some "Linear", some "Matrizes", 0⟩,
   .createQuestion (some "") ⟨some (idOf 1), some (idOf 2), some "Soma", some "1 + 1", none,
     some "2", none, some "conta", none, .medium, .arr []⟩]

def describedApp : App := ⟨described, .start (.ofSeed 0) none none, false⟩

/-- A request with a body and nothing else to it. -/
def asking (given : Fields) : Request := ⟨"PUT", "", none, .json (.obj given), [], none⟩

theorem readForm_asking {form : Form} (h : Form.load form false (.obj given) = .ok fs) :
    readForm (asking given) (some (.body, form)) = .ok fs := by
  simp [readForm, asking, Body.value?, h]

/-- What the form makes of a request to take an area out of use. -/
def retiring : Fields :=
  [("name", .null), ("description", .null), ("icon", .null), ("color", .null), ("order", .null),
   ("active", .bool false)]

theorem load_retiring :
    Form.load Form.areaChange false (.obj [("active", .bool false)]) = .ok retiring := by
  cbv

/-- An area is taken out of use, and its name is not touched. -/
theorem update_keeps_unnamed_cells_retiring :
    (describedApp.answer 1 none .areaUpdate ⟨.nobody, [idOf 1], retiring⟩).2.campus.areas.map
      (fun a => (a.name, a.active)) = [("Algebra", some false)] ∧
    Kind.area.Changes (idOf 1) (Kind.area.Updated [("active", .bool false)] retiring) described
      (describedApp.answer 1 none .areaUpdate ⟨.nobody, [idOf 1], retiring⟩).2.campus := by
  refine ⟨rfl, ?_⟩
  obtain ⟨route, hfind⟩ : ∃ route, routes.find? (fun r => r.endpoint = .areaUpdate) = some route :=
    ⟨_, rfl⟩
  have hroute := List.mem_of_find?_eq_some hfind
  have hk : route.endpoint = .areaUpdate := of_decide_eq_true (List.find?_some hfind :)
  have hform : route.form = some (.body, Form.areaChange) :=
    form_of_changeForm? hroute (by rw [hk]; rfl)
  have hread : readForm (asking [("active", .bool false)]) route.form = .ok retiring := by
    rw [hform]
    exact readForm_asking load_retiring
  obtain ⟨-, given, hgiven, hupdates⟩ := update_keeps_unnamed_cells .area describedApp
    (.run (.empty _) fun _ _ => trivial) 1 (asking [("active", .bool false)]) route hroute hk
    ⟨.nobody, [idOf 1], retiring⟩ hread
  obtain rfl : [("active", .bool false)] = given := Json.obj.inj (Option.some.inj hgiven)
  rw [hk] at hupdates
  obtain ⟨-, c, hc, hchanges⟩ | ⟨⟨e, he⟩, -⟩ := hupdates
  · have hcampus : (describedApp.answer 1 none .areaUpdate
        ⟨.nobody, [idOf 1], retiring⟩).2.campus = c := congrArg App.campus hc
    rw [hcampus]
    exact hchanges
  · cases he

/-- What a request does not name is lost: description, icon and color of an area that is taken out
of use, the description of a subarea that is moved to another place, and subarea, answer and
explanation of a question that gets another title. -/
theorem unnamed_cells_are_lost :
    (∃ fs, Form.load Form.areaChange false (.obj [("active", .bool false)]) = .ok fs ∧
      described.areas.map (fun a => (a.description, a.icon, a.color)) =
        [(some "Estruturas", some "calc", some "#fff")] ∧
      (describedApp.answer 1 none .areaUpdate ⟨.nobody, [idOf 1], fs⟩).2.campus.areas.map
        (fun a => (a.description, a.icon, a.color)) = [(none, none, none)]) ∧
    (∃ fs, Form.load Form.subareaChange false (.obj [("order", .int 2)]) = .ok fs ∧
      described.subareas.map Subarea.description = [some "Matrizes"] ∧
      (describedApp.answer 1 none .subareaUpdate ⟨.nobody, [idOf 2], fs⟩).2.campus.subareas.map
        Subarea.description = [none]) ∧
    ∃ fs, Form.load Form.questionChange false (.obj [("title", .str "Adicao")]) = .ok fs ∧
      described.questions.map (fun q => (q.subareaId, q.answer, q.explanation)) =
        [(some (idOf 2), some "2", some "conta")] ∧
      (describedApp.answer 1 none .questionUpdate ⟨.nobody, [idOf 3], fs⟩).2.campus.questions.map
        (fun q => (q.subareaId, q.answer, q.explanation)) = [(none, none, none)] := by
  refine ⟨?_, ?_, ?_⟩
  · exact ⟨retiring, load_retiring, rfl, rfl⟩
  · exact ⟨_, by cbv, rfl, rfl⟩
  · exact ⟨_, by cbv, rfl, rfl⟩

end Web

end LogicTutor
