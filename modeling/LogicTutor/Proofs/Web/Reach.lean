import LogicTutor.Proofs.Campus.Setup
import LogicTutor.Web.App

/-! The campuses that the web application comes to: each request does one action at most, which is
one that can be asked for at an address, with fields that its form accepts. -/
namespace LogicTutor.Web

/-- The action can be asked for: at an address, by fields that the form there accepts. -/
def Asked (a : Action) : Prop :=
  ∃ route ∈ routes, ∃ (r : Request) (x : Call) (style : Style),
    readForm r route.form = .ok x.fields ∧ route.endpoint.action? x = some (a, style)

variable {r : Request} {now : Instant} {route : Route}

theorem mem_routes_of_target {method path : String} {params : List String}
    (h : target method path = .found route params) : route ∈ routes := by
  unfold target at h
  dsimp only at h
  split at h
  next route' params' hfind =>
    cases h
    have hmem := List.mem_of_find?_eq_some hfind
    obtain ⟨s, hs, hparams⟩ := List.mem_filterMap.mp hmem
    obtain ⟨ps, -, heq⟩ := Option.map_eq_some_iff.mp hparams
    obtain ⟨rfl, -⟩ := Prod.mk.inj heq
    exact hs
  next => grind

/-- Who is let through has the fields that the form accepts. -/
theorem readForm_of_letThrough {caller : Caller} {fields : Fields}
    (h : letThrough r now route = .ok (.ok (caller, fields))) :
    readForm r route.form = .ok fields := by
  unfold letThrough at h
  dsimp only at h
  cases hform : readForm r route.form with
  | ok fs =>
    rw [hform] at h
    cases hcheck : route.guard.check r.auth now with
    | error e =>
      rw [hcheck] at h
      cases h
    | ok checked =>
      rw [hcheck] at h
      cases checked with
      | error d => cases h
      | ok caller' =>
        cases h
        rfl
  | error response =>
    rw [hform] at h
    dsimp only at h
    split at h
    · cases hcheck : route.guard.check r.auth now with
      | error e =>
        rw [hcheck] at h
        cases h
      | ok checked =>
        rw [hcheck] at h
        cases checked <;> cases h
    · cases h

/-- The form of the requests that change a row of a kind. -/
def Endpoint.changeForm? : Endpoint → Option Form
  | classUpdate => some Form.classChange
  | studentUpdate => some Form.studentChange
  | contentUpdate => some Form.contentChange
  | areaUpdate => some Form.areaChange
  | subareaUpdate => some Form.subareaChange
  | questionUpdate => some Form.questionChange
  | _ => none

theorem form_of_changeForm? {form : Form} (hroute : route ∈ routes)
    (h : route.endpoint.changeForm? = some form) : route.form = some (.body, form) := by
  have hall : ∀ route ∈ routes, ∀ form, route.endpoint.changeForm? = some form →
      route.form = some (.body, form) := by
    simp [routes, kept, Web.route, Endpoint.changeForm?]
  exact hall route hroute form h

/-- A body that a form accepts is an object. -/
theorem load_of_readForm {form : Form} {fs : Fields}
    (h : readForm r (some (.body, form)) = .ok fs) :
    ∃ given, r.body.value? = some (.obj given) ∧ Form.load form false (.obj given) = .ok fs := by
  unfold readForm at h
  cases hvalue : r.body.value? with
  | none =>
    rw [hvalue] at h
    cases h
  | some v =>
    rw [hvalue] at h
    have hload : Form.load form false v = .ok fs := by
      cases hv : Form.load form false v with
      | ok xs =>
        simp [hv] at h
        rw [h]
      | error complaint => simp [hv] at h
    cases v with
    | obj given => exact ⟨given, rfl, hload⟩
    | _ => cases hload

namespace App

variable {a : App}

theorem campus_answer (a : App) (now : Instant) (catalogue : Option Json) (e : Endpoint)
    (x : Call) : (a.answer now catalogue e x).2.campus = a.campus ∨
      ∃ action style, e.action? x = some (action, style) ∧
        (a.answer now catalogue e x).2.campus = (action.perform a.campus now).campus := by
  unfold answer
  split
  next action style h => exact .inr ⟨action, style, h, rfl⟩
  next =>
    refine .inl ?_
    split
    · rfl
    · rfl
    · unfold judge
      dsimp only
      split <;> rfl
    · rfl
    · rfl
    · rfl

/-- A request leaves the campus as it is, or does an action that can be asked for. -/
theorem campus_handle (a : App) (now : Instant) (r : Request) :
    (a.handle now r).2.campus = a.campus ∨ ∃ action, Asked action ∧
      (a.handle now r).2.campus = (action.perform a.campus now).campus := by
  unfold handle
  split
  · exact .inl rfl
  · exact .inl rfl
  · exact .inl rfl
  next route params htarget =>
    split
    · exact .inl rfl
    · exact .inl rfl
    next caller fields hlet =>
      obtain h | ⟨action, style, haction, h⟩ :=
        campus_answer a now r.catalogue route.endpoint ⟨caller, params, fields⟩
      · exact .inl h
      · refine .inr ⟨action, ?_, h⟩
        exact ⟨route, mem_routes_of_target htarget, r, _, style, readForm_of_letThrough hlet,
          haction⟩

/-- Whatever is requested, the campus is one that comes about by what can be asked for. -/
theorem arises_handle (h : a.campus.Arises fun _ _ action => Asked action) (now : Instant)
    (r : Request) : (a.handle now r).2.campus.Arises fun _ _ action => Asked action := by
  obtain hsame | ⟨action, hasked, haction⟩ := campus_handle a now r
  · rw [hsame]
    exact h
  · rw [haction]
    exact .perform h hasked

end App

end LogicTutor.Web
