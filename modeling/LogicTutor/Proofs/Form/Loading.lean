import LogicTutor.Campus.Fields
import LogicTutor.Form.Admin
import LogicTutor.Proofs.Computation
import Mathlib.Data.List.Nodup

/-! What a form makes of a request that it accepts: the value of each of its fields is that of the
request, read by the shape of the field, or what stands in when the field is not given. -/
namespace LogicTutor

namespace Json

variable {fs : List (String × Json)} {k key : String} {v : Json}

theorem field?_cons : field? ((k, v) :: fs) key = if k = key then some v else field? fs key := by
  unfold field?
  rw [List.find?_cons]
  by_cases h : k = key <;> simp [h]

theorem field?_eq_none_iff : field? fs key = none ↔ key ∉ fs.map Prod.fst := by
  induction fs with
  | nil => simp [field?]
  | cons f fs ih =>
    obtain ⟨k, v⟩ := f
    rw [field?_cons, List.map_cons, List.mem_cons, not_or, ← ih]
    by_cases h : k = key
    · simp [h]
    · simp [h, Ne.symm h]

end Json

/-- The values that a shape reads are of one kind. -/
def Shape.Fits : Shape → Json → Prop
  | text, v | email, v | date, v | moment, v => ∃ s, v = .str s
  | whole, v => ∃ n, v = .int n
  | number, v => ∃ x, v = .real x
  | flag, v => ∃ b, v = .bool b
  | mapping, v | record _, v => ∃ fs, v = .obj fs
  | list _, v => ∃ vs, v = .arr vs
  | any, _ => True

theorem exists_of_orComplain {α : Type} {m : String} {o : Option α} {f : α → Json} {x : Json}
    (h : (orComplain m o).map f = .ok x) : ∃ a, x = f a := by
  cases o with
  | none => cases h
  | some a => exact ⟨a, (Except.ok.inj h).symm⟩

theorem exists_of_readWhole {v x : Json} (h : readWhole v = .ok x) : ∃ n, x = .int n := by
  unfold readWhole at h
  split at h
  · exact ⟨_, (Except.ok.inj h).symm⟩
  · split at h
    · exact ⟨_, (Except.ok.inj h).symm⟩
    · cases h
  · split at h
    · exact ⟨_, (Except.ok.inj h).symm⟩
    · cases h
  · cases h

theorem exists_of_finite {x : Float} {v : Json} (h : finite x = .ok v) : ∃ y, v = .real y := by
  unfold finite at h
  split at h
  · exact ⟨x, (Except.ok.inj h).symm⟩
  · cases h

theorem exists_of_readNumber {v x : Json} (h : readNumber v = .ok x) : ∃ y, x = .real y := by
  unfold readNumber at h
  split at h
  · dsimp only at h
    split at h
    · exact ⟨_, (Except.ok.inj h).symm⟩
    · cases h
  · exact exists_of_finite h
  · split at h
    · exact exists_of_finite h
    · cases h
  · cases h

theorem Shape.fits_of_read {shape : Shape} {v x : Json} (h : shape.read v = .ok x) :
    shape.Fits x := by
  unfold Shape.read at h
  split at h
  · exact ⟨_, (Except.ok.inj h).symm⟩
  · cases h
  · split at h
    · exact ⟨_, (Except.ok.inj h).symm⟩
    · cases h
  · cases h
  · exact exists_of_readWhole h
  · exact exists_of_readNumber h
  · exact exists_of_orComplain h
  · exact ⟨_, (Except.ok.inj h).symm⟩
  · cases h
  · obtain ⟨d, rfl⟩ := exists_of_orComplain h
    exact ⟨_, rfl⟩
  · cases h
  · exact exists_of_orComplain h
  · cases h
  · trivial
  · split at h
    · exact ⟨_, (Except.ok.inj h).symm⟩
    · cases h
  · cases h
  · split at h
    split at h
    · exact ⟨_, (Except.ok.inj h).symm⟩
    · cases h
  · cases h

/-- What is read from a value that is not null is not null. -/
theorem Shape.ne_null_of_read {shape : Shape} {v x : Json} (hv : v ≠ .null)
    (h : shape.read v = .ok x) : x ≠ .null := by
  rintro rfl
  have hfits := fits_of_read h
  cases shape with
  | any =>
    unfold Shape.read at h
    exact hv (Except.ok.inj h)
  | _ =>
    obtain ⟨_, heq⟩ := hfits
    cases heq

namespace Field

variable {f : Field} {fs : Fields} {given : Option Json}

/-- What a form can make of a field that need not be given: nothing, null, or a value that was read
and follows the rules. -/
inductive Holds (f : Field) (fs : Fields) : Prop
  | absent (hfield : Json.field? fs f.name = none) (hpresence : f.presence = .optional)
  | null (hfield : Json.field? fs f.name = some .null) (hpresence : f.presence = .filled .null)
  | value {v : Json} (hfield : Json.field? fs f.name = some v) (hnull : v ≠ .null)
      (hfits : f.shape.Fits v) (hrules : ∀ r ∈ f.rules, r.holds v = true)

/-- The field need not be given, and nothing else than null stands in for it. -/
def IsFree (f : Field) : Prop := f.presence = .optional ∨ f.presence = .filled .null

theorem holds_of_load (hf : f.IsFree) (h : f.load given = .ok (Json.field? fs f.name)) :
    f.Holds fs := by
  unfold load at h
  split at h
  next =>
    rcases hf with hf | hf
    · rw [hf] at h
      exact .absent (Except.ok.inj h).symm hf
    · rw [hf] at h
      exact .null (Except.ok.inj h).symm hf
  next =>
    split at h
    next hnull =>
      have hfilled : f.presence = .filled .null := by
        rcases hf with hf | hf
        · simp [allowsNull, hf] at hnull
        · exact hf
      exact .null (Except.ok.inj h).symm hfilled
    next => cases h
  next v hv =>
    obtain ⟨x, hread, h⟩ := exists_of_bind_eq_ok h
    split at h
    next hrules =>
      refine .value (Except.ok.inj h).symm (Shape.ne_null_of_read hv hread)
        (Shape.fits_of_read hread) fun r hr => ?_
      by_contra hbroken
      have hmem : r ∈ f.rules.filter fun r => !r.holds x :=
        List.mem_filter.mpr ⟨hr, by simpa using hbroken⟩
      rw [hrules] at hmem
      cases hmem
    next => cases h

/-- A field that is not given has no value. -/
theorem value?_of_load_none (hf : f.IsFree) (h : f.load none = .ok (Json.field? fs f.name)) :
    fs.value? f.name = none := by
  rcases hf with hf | hf
  · simp only [load, hf] at h
    simp [Fields.value?, ← Except.ok.inj h]
  · simp only [load, hf] at h
    simp [Fields.value?, ← Except.ok.inj h, Json.isNull]

/-- A field that is filled when it is not given always has a value. -/
theorem exists_of_load_filled {v : Json} {o : Option Json} (hf : f.presence = .filled v)
    (h : f.load given = .ok o) : ∃ x, o = some x := by
  unfold load at h
  split at h
  next =>
    rw [hf] at h
    exact ⟨v, (Except.ok.inj h).symm⟩
  next =>
    split at h
    · exact ⟨.null, (Except.ok.inj h).symm⟩
    · cases h
  next =>
    obtain ⟨x, -, h⟩ := exists_of_bind_eq_ok h
    split at h
    · exact ⟨x, (Except.ok.inj h).symm⟩
    · cases h

end Field

namespace Form

variable {form : Form} {f : Field} {given fs : List (String × Json)} {key : String}

/-- The fields before and after the first one of a form, if nothing is wrong with any. -/
theorem loadFields_cons (h : loadFields given (f :: form) = (fs, [])) :
    ∃ xs, loadFields given form = (xs, []) ∧
      (f.load (Json.field? given f.name) = .ok none ∧ fs = xs ∨
        ∃ x, f.load (Json.field? given f.name) = .ok (some x) ∧ fs = (f.name, x) :: xs) := by
  unfold loadFields at h
  split at h
  next xs cs hrest =>
    split at h
    next hload =>
      obtain ⟨rfl, rfl⟩ := Prod.mk.inj h
      exact ⟨xs, hrest, .inl ⟨hload, rfl⟩⟩
    next x hload =>
      obtain ⟨rfl, rfl⟩ := Prod.mk.inj h
      exact ⟨xs, hrest, .inr ⟨x, hload, rfl⟩⟩
    next => cases (Prod.mk.inj h).2

theorem field?_of_not_mem (h : loadFields given form = (fs, []))
    (hkey : key ∉ form.map Field.name) : Json.field? fs key = none := by
  induction form generalizing fs with
  | nil =>
    obtain rfl := (Prod.mk.inj h).1
    rfl
  | cons f form ih =>
    rw [List.map_cons, List.mem_cons, not_or] at hkey
    obtain ⟨xs, hrest, ⟨-, rfl⟩ | ⟨x, -, rfl⟩⟩ := loadFields_cons h
    · exact ih hrest hkey.2
    · rw [Json.field?_cons, if_neg (Ne.symm hkey.1)]
      exact ih hrest hkey.2

/-- Each field is loaded by itself, from what is given under its name. -/
theorem load_field (hnames : (form.map Field.name).Nodup) (h : loadFields given form = (fs, []))
    (hf : f ∈ form) : f.load (Json.field? given f.name) = .ok (Json.field? fs f.name) := by
  induction form generalizing fs with
  | nil => cases hf
  | cons e form ih =>
    obtain ⟨hfresh, hnames⟩ := List.nodup_cons.mp hnames
    obtain ⟨xs, hrest, hload⟩ := loadFields_cons h
    rcases List.mem_cons.mp hf with rfl | hf
    · obtain ⟨hload, rfl⟩ | ⟨x, hload, rfl⟩ := hload
      · rw [hload, field?_of_not_mem hrest hfresh]
      · rw [hload, Json.field?_cons, if_pos rfl]
    · have hne : e.name ≠ f.name := by
        intro heq
        exact hfresh (heq ▸ List.mem_map_of_mem hf)
      obtain ⟨-, rfl⟩ | ⟨x, -, rfl⟩ := hload
      · exact ih hnames hrest hf
      · rw [Json.field?_cons, if_neg hne]
        exact ih hnames hrest hf

theorem loadFields_of_load {lenient : Bool} (h : load form lenient (.obj given) = .ok fs) :
    loadFields given form = (fs, []) := by
  unfold load at h
  dsimp only at h
  split at h
  next hnone =>
    have hcomplaints := (List.append_eq_nil_iff.mp hnone).1
    rw [← Except.ok.inj h, ← hcomplaints]
  next => cases h

/-- What a form of fields that need not be given makes of a request. -/
structure Loads (form : Form) (given fs : Fields) : Prop where
  fields : ∀ f ∈ form, f.Holds fs
  others : ∀ key ∉ form.map Field.name, Json.field? fs key = none
  unnamed : ∀ key ∉ given.map Prod.fst, fs.value? key = none

theorem loads_of_load (hform : ∀ f ∈ form, f.IsFree) (hnames : (form.map Field.name).Nodup)
    (h : load form false (.obj given) = .ok fs) : form.Loads given fs := by
  have hfields := loadFields_of_load h
  have hothers (key : String) (hkey : key ∉ form.map Field.name) : Json.field? fs key = none :=
    field?_of_not_mem hfields hkey
  refine ⟨fun f hf => ?_, hothers, fun key hkey => ?_⟩
  · exact Field.holds_of_load (hform f hf) (load_field hnames hfields hf)
  · by_cases hmem : key ∈ form.map Field.name
    · obtain ⟨f, hf, rfl⟩ := List.mem_map.mp hmem
      have hload := load_field hnames hfields hf
      rw [Json.field?_eq_none_iff.mpr hkey] at hload
      exact Field.value?_of_load_none (hform f hf) hload
    · simp [Fields.value?, hothers key hmem]

end Form

end LogicTutor
