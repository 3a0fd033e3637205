import LogicTutor.Proofs.Campus.Constraints
import LogicTutor.Proofs.Web.Classification

/-! Requests that write a class or a student. Their forms see to it that nothing is missing that
must be there; so they come to an answer, unless the checks that are made let a clash pass. -/
namespace LogicTutor

open Campus

namespace Field

variable {f : Field} {given : Option Json}

/-- The field takes a text and no null. The text must be given if it is `required`, and may be left
out if it is not. -/
def isText (required : Bool) (f : Field) : Bool :=
  match f.shape, f.presence with
  | .text, .required | .email, .required => required
  | .text, .optional | .email, .optional => !required
  | _, _ => false

theorem shape_of_isText {required : Bool} (h : f.isText required = true) :
    (f.shape = .text ∨ f.shape = .email) ∧
      f.presence = if required then .required else .optional := by
  unfold isText at h
  split at h
  next hs hp => exact ⟨.inl hs, by rw [hp, h]; rfl⟩
  next hs hp => exact ⟨.inr hs, by rw [hp, h]; rfl⟩
  next hs hp => exact ⟨.inl hs, by rw [hp, Bool.not_eq_eq_eq_not.mp h]; rfl⟩
  next hs hp => exact ⟨.inr hs, by rw [hp, Bool.not_eq_eq_eq_not.mp h]; rfl⟩
  next => cases h

/-- What is loaded into a field for texts is a text, unless null is allowed. -/
theorem exists_text_of_load {v : Json} (hshape : f.shape = .text ∨ f.shape = .email)
    (hpresence : f.presence = .required ∨ f.presence = .optional)
    (h : f.load given = .ok (some v)) : ∃ s, v = .str s := by
  unfold load at h
  split at h
  next => rcases hpresence with hp | hp <;> rw [hp] at h <;> cases h
  next =>
    have hnull : f.allowsNull = false := by
      rcases hpresence with hp | hp <;> simp [allowsNull, hp]
    rw [hnull] at h
    cases h
  next =>
    obtain ⟨x, hread, h⟩ := exists_of_bind_eq_ok h
    have hfits := Shape.fits_of_read hread
    split at h
    next =>
      obtain rfl := Option.some.inj (Except.ok.inj h)
      rcases hshape with hs | hs <;> rw [hs] at hfits <;> exact hfits
    next => cases h

theorem exists_of_load_required {o : Option Json} (hpresence : f.presence = .required)
    (h : f.load given = .ok o) : ∃ v, o = some v := by
  unfold load at h
  split at h
  next =>
    rw [hpresence] at h
    cases h
  next =>
    split at h
    · exact ⟨_, (Except.ok.inj h).symm⟩
    · cases h
  next =>
    obtain ⟨x, -, h⟩ := exists_of_bind_eq_ok h
    split at h
    · exact ⟨x, (Except.ok.inj h).symm⟩
    · cases h

end Field

namespace Form

variable {form : Form} {given fs : Fields}

/-- What is loaded under the name of a field for texts is loaded by such a field. -/
theorem exists_load_of_isText {required : Bool} {key : String}
    (h : load form false (.obj given) = .ok fs) (hnames : (form.map Field.name).Nodup)
    (hkey : key ∈ (form.filter (Field.isText required)).map Field.name) :
    ∃ f : Field, (f.shape = .text ∨ f.shape = .email) ∧
      f.presence = (if required then .required else .optional) ∧
      f.load (Json.field? given key) = .ok (Json.field? fs key) := by
  obtain ⟨f, hf, rfl⟩ := List.mem_map.mp hkey
  obtain ⟨hmem, htext⟩ := List.mem_filter.mp hf
  obtain ⟨hshape, hpresence⟩ := Field.shape_of_isText htext
  exact ⟨f, hshape, hpresence, load_field hnames (loadFields_of_load h) hmem⟩

/-- A text that must be given is there. -/
theorem text?_ne_none (key : String) (h : load form false (.obj given) = .ok fs)
    (hnames : (form.map Field.name).Nodup)
    (hkey : key ∈ (form.filter (Field.isText true)).map Field.name) : fs.text? key ≠ none := by
  obtain ⟨f, hshape, hrequired, hload⟩ := exists_load_of_isText h hnames hkey
  obtain ⟨v, hv⟩ := Field.exists_of_load_required hrequired hload
  rw [hv] at hload
  obtain ⟨s, rfl⟩ := Field.exists_text_of_load hshape (.inl hrequired) hload
  simp [Fields.text?, hv, Json.str?]

/-- A text that may be left out is not null. -/
theorem namedText?_ne_null (key : String) (h : load form false (.obj given) = .ok fs)
    (hnames : (form.map Field.name).Nodup)
    (hkey : key ∈ (form.filter (Field.isText false)).map Field.name) :
    fs.namedText? key ≠ some none := by
  obtain ⟨f, hshape, hoptional, hload⟩ := exists_load_of_isText h hnames hkey
  cases hv : Json.field? fs key with
  | none => simp [Fields.namedText?, hv]
  | some v =>
    rw [hv] at hload
    obtain ⟨s, rfl⟩ := Field.exists_text_of_load hshape (.inr hoptional) hload
    simp [Fields.namedText?, hv, Json.str?]

end Form

namespace Web

/-- The form of the requests that make a class or a student. -/
def Endpoint.entryForm? : Endpoint → Option Form
  | classCreate => some Form.newClass
  | studentCreate => some Form.newStudent
  | signUp => some Form.signUp
  | _ => none

theorem form_of_entryForm? {route : Route} {form : Form} (hroute : route ∈ routes)
    (h : route.endpoint.entryForm? = some form) : route.form = some (.body, form) := by
  have hall : ∀ route ∈ routes, ∀ form, route.endpoint.entryForm? = some form →
      route.form = some (.body, form) := by
    simp [routes, kept, Web.route, Endpoint.entryForm?]
  exact hall route hroute form h

/-- Requests bring everything that must be there. -/
theorem Asked.filled {a : Action} (h : Asked a) : a.Filled := by
  obtain ⟨route, hroute, r, x, style, hform, haction⟩ := h
  have hload (form : Form) (hbody : route.form = some (.body, form)) :
      ∃ given, Form.load form false (.obj given) = .ok x.fields := by
    rw [hbody] at hform
    obtain ⟨given, -, hload⟩ := load_of_readForm hform
    exact ⟨given, hload⟩
  cases he : route.endpoint with
  | classCreate =>
    obtain ⟨given, hload⟩ := hload Form.newClass (form_of_entryForm? hroute (he ▸ rfl))
    rw [he] at haction
    cases haction
    have htext (key : String) := Form.text?_ne_none key hload (by decide)
    exact ⟨htext "name" (by decide), htext "access_code" (by decide)⟩
  | classUpdate =>
    obtain ⟨given, hload⟩ := hload Form.classChange (form_of_changeForm? hroute (he ▸ rfl))
    rw [he] at haction
    cases haction
    have htext (key : String) := Form.namedText?_ne_null key hload (by decide)
    exact ⟨htext "name" (by decide), htext "access_code" (by decide)⟩
  | studentCreate =>
    obtain ⟨given, hload⟩ := hload Form.newStudent (form_of_entryForm? hroute (he ▸ rfl))
    rw [he] at haction
    cases haction
    have htext (key : String) := Form.text?_ne_none key hload (by decide)
    exact ⟨htext "name" (by decide), htext "email" (by decide), htext "password" (by decide)⟩
  | studentUpdate =>
    obtain ⟨given, hload⟩ := hload Form.studentChange (form_of_changeForm? hroute (he ▸ rfl))
    rw [he] at haction
    cases haction
    have htext (key : String) := Form.namedText?_ne_null key hload (by decide)
    exact ⟨htext "name" (by decide), htext "email" (by decide), htext "password" (by decide)⟩
  | signUp =>
    obtain ⟨given, hload⟩ := hload Form.signUp (form_of_entryForm? hroute (he ▸ rfl))
    rw [he] at haction
    cases haction
    have htext (key : String) := Form.text?_ne_none key hload (by decide)
    exact ⟨htext "name" (by decide), htext "email" (by decide), htext "password" (by decide)⟩
  | _ =>
    rw [he] at haction
    cases haction <;> trivial

/-- On every campus, a request that writes a class or a student and checks first breaks a constraint
if it slips, and then changes nothing but the number of identifiers drawn; if it does not slip, it
comes to an answer. So making and changing classes and changing a profile never break one, but
signing up, making and changing students and removing classes can. -/
theorem constraints_break_by_slips (c : Campus) (hc : c.Arises fun _ _ _ => True) (now : Instant)
    (a : Action) (hasked : Asked a) (ha : a.ChecksFirst) :
    (a.Slips c → ∃ n ≤ 1, a.perform c now = ⟨.error .constraint, c.spend n⟩) ∧
    (¬ a.Slips c → ∃ o, (a.perform c now).result = .ok o) := by
  have hsettles := Action.settles_perform hc.kept now ha hasked.filled
  exact ⟨hsettles.breaks, hsettles.returns⟩

/-- Somebody who keeps classes. -/
def keeper : Caller := ⟨.str "a", .null, .null⟩

/-- Two classes, and a student in each. One has a registration number and was moved from the first
class to the second, the other has an empty one. -/
def enrolling : List Action :=
  [.createClass "a" ⟨some "Turma A", some "", some "AAAA", .obj []⟩,
   .createClass "a" ⟨some "Turma B", some "", some "BBBB", .obj []⟩,
   .signUp ⟨some "Ana", some "ana@x.org", some "segredo", some "segredo", some "7", some "AAAA"⟩,
   .createStudent "a" ⟨some "Bia", some "bia@x.org", some "segredo", some "", some (idOf 2)⟩,
   .updateStudent "a" (idOf 3) ⟨none, none, none, none, some (some (idOf 2)), none⟩]

def roll : Campus := (Campus.empty .counting).run 0 enrolling

/-- Makes a student with a registration number in the first class. -/
def enter (registration : String) : Action :=
  .createStudent "a"
    ⟨some "Caio", some "caio@x.org", some "segredo", some registration, some (idOf 1)⟩

/-- A number that another student has, an empty one that is not the first, and a class that only an
enrollment is left in. -/
def slipping : List Action :=
  [.signUp ⟨some "Caio", some "caio@x.org", some "segredo", some "segredo", some "7", some "AAAA"⟩,
   enter "",
   .updateStudent "a" (idOf 5) ⟨none, none, none, some (some "7"), none, none⟩,
   .deleteClass "a" (idOf 1)]

theorem asked_of_mem_enrolling : ∀ a ∈ enrolling, Asked a := by
  intro a ha
  simp only [enrolling, List.mem_cons, List.not_mem_nil, or_false] at ha
  rcases ha with rfl | rfl | rfl | rfl | rfl
  · exact asked_of_load .classCreate keeper []
      [("name", .str "Turma A"), ("access_code", .str "AAAA")] rfl rfl (by cbv) rfl
  · exact asked_of_load .classCreate keeper []
      [("name", .str "Turma B"), ("access_code", .str "BBBB")] rfl rfl (by cbv) rfl
  · exact asked_of_load .signUp .nobody []
      [("name", .str "Ana"), ("email", .str "ana@x.org"), ("password", .str "segredo"),
       ("confirm_password", .str "segredo"), ("registration_number", .str "7"),
       ("access_code", .str "AAAA")] rfl rfl (by cbv) rfl
  · exact asked_of_load .studentCreate keeper []
      [("name", .str "Bia"), ("email", .str "bia@x.org"), ("password", .str "segredo"),
       ("registration_number", .str ""), ("class_group_id", .str (idOf 2))] rfl rfl (by cbv) rfl
  · exact asked_of_load .studentUpdate keeper [idOf 3] [("class_group_id", .str (idOf 2))] rfl rfl
      (by cbv) rfl

theorem asked_enter (registration : String) : Asked (enter registration) :=
  asked_of_load .studentCreate keeper []
    [("name", .str "Caio"), ("email", .str "caio@x.org"), ("password", .str "segredo"),
     ("registration_number", .str registration), ("class_group_id", .str (idOf 1))] rfl rfl (by cbv)
    rfl

/-- A student with a new registration number is made, and one with the empty number is not, as
another has it. -/
theorem constraints_break_by_slips_enter :
    (∃ o, ((enter "8").perform roll 0).result = .ok o) ∧
    ∃ n ≤ 1, (enter "").perform roll 0 = ⟨.error .constraint, roll.spend n⟩ := by
  have hc : roll.Arises fun _ _ _ => True := .run (.empty _) fun _ _ => trivial
  have hemails : roll.students.map Student.email = ["ana@x.org", "bia@x.org"] := rfl
  have hregistrations : roll.students.map Student.registration = [some "7", some ""] := rfl
  obtain ⟨-, hreturns⟩ := constraints_break_by_slips roll hc 0 (enter "8") (asked_enter "8") trivial
  obtain ⟨hbreaks, -⟩ := constraints_break_by_slips roll hc 0 (enter "") (asked_enter "") trivial
  refine ⟨hreturns ?_, hbreaks ⟨⟨idOf 1, rfl, rfl⟩, ?_, rfl, ?_⟩⟩
  · rintro ⟨-, -, hempty, -⟩
    exact absurd hempty (by decide)
  · intro s hs heq
    have hmem := List.mem_map_of_mem (f := Student.email) hs
    rw [hemails, Option.some.inj heq] at hmem
    exact absurd hmem (by decide)
  · refine List.mem_map.mp ?_
    rw [hregistrations]
    decide

/-- All of these pass the checks that are made, and break a constraint. -/
theorem checks_let_clashes_pass :
    roll.Arises (fun _ _ a => Asked a) ∧
    ∀ a ∈ slipping, Asked a ∧ a.ChecksFirst ∧ (a.perform roll 0).result = .error .constraint := by
  refine ⟨.run (.empty _) asked_of_mem_enrolling, ?_⟩
  intro a ha
  simp only [slipping, List.mem_cons, List.not_mem_nil, or_false] at ha
  rcases ha with rfl | rfl | rfl | rfl
  · refine ⟨?_, trivial, rfl⟩
    exact asked_of_load .signUp .nobody []
      [("name", .str "Caio"), ("email", .str "caio@x.org"), ("password", .str "segredo"),
       ("confirm_password", .str "segredo"), ("registration_number", .str "7"),
       ("access_code", .str "AAAA")] rfl rfl (by cbv) rfl
  · exact ⟨asked_enter "", trivial, rfl⟩
  · refine ⟨?_, trivial, rfl⟩
    exact asked_of_load .studentUpdate keeper [idOf 5] [("registration_number", .str "7")] rfl rfl
      (by cbv) rfl
  · refine ⟨?_, trivial, rfl⟩
    exact ⟨route "DELETE" "/api/admin/class-groups/*" .classDelete .admin none,
      by simp [routes, kept], ⟨"DELETE", "", none, .json .null, [], none⟩,
      ⟨keeper, [idOf 1], []⟩, .message, rfl, rfl⟩

end Web

end LogicTutor
