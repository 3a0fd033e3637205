import LogicTutor.Campus.View
import LogicTutor.Proofs.Campus.Kind
import LogicTutor.Proofs.Form.Loading

/-! Rows as lists of cells, each under the name that requests have for it, and what a change by the
fields of a request makes of each cell: a value that is given is written; a cell for which none is
given is kept, or lost, if its column is one that is emptied then. -/
namespace LogicTutor

open Campus

/-! The cells of each kind of row. -/

def ClassGroup.cells (g : ClassGroup) : Fields :=
  [("id", .str g.id), ("name", .str g.name), ("description", .ofOption g.description),
   ("access_code", .str g.accessCode), ("admin_id", .str g.adminId),
   ("created_at", .int g.createdAt), ("active", View.flag g.active), ("configs", g.configs)]

def Student.cells (s : Student) : Fields :=
  [("id", .str s.id), ("name", .str s.name), ("email", .str s.email),
   ("password", .ofOption s.password), ("registration_number", .ofOption s.registration),
   ("created_at", .int s.createdAt), ("last_access", View.whole s.lastAccess),
   ("active", View.flag s.active), ("class_group_id", .str s.classId)]

def Material.cells : Material → Fields
  | folder color icon upload =>
    [("color", .ofOption color), ("icon", .ofOption icon), ("allow_upload", View.flag upload)]
  | file driveId url fileName mime size version uploaded hash =>
    [("drive_file_id", .str driveId), ("drive_url", .str url), ("original_name", .str fileName),
     ("mime_type", .str mime), ("size", .int size), ("version", .int version),
     ("upload_date", .int uploaded), ("file_hash", .ofOption hash)]
  | video videoId url duration thumbnail channel published =>
    [("youtube_id", .str videoId), ("full_url", .str url), ("duration", View.whole duration),
     ("thumbnail_url", .ofOption thumbnail), ("channel", .ofOption channel),
     ("published_at", .ofOption published)]

def Content.cells (n : Content) : Fields :=
  [("id", .str n.id), ("title", .str n.title), ("description", .ofOption n.description),
   ("class_group_id", .str n.classId), ("parent_id", .ofOption n.parentId),
   ("order", View.whole n.order), ("visibility", .str n.visibility.name),
   ("created_by", .str n.createdBy), ("created_at", .int n.createdAt),
   ("updated_at", .int n.updatedAt), ("meta_data", n.notes),
   ("type", .str n.material.kindName)] ++ n.material.cells

def Area.cells (a : Area) : Fields :=
  [("id", .str a.id), ("name", .str a.name), ("description", .ofOption a.description),
   ("icon", .ofOption a.icon), ("color", .ofOption a.color), ("order", View.whole a.order),
   ("active", View.flag a.active), ("created_at", .int a.createdAt),
   ("updated_at", .int a.updatedAt)]

def Subarea.cells (s : Subarea) : Fields :=
  [("id", .str s.id), ("math_area_id", .str s.areaId), ("name", .str s.name),
   ("description", .ofOption s.description), ("order", View.whole s.order),
   ("active", View.flag s.active), ("created_at", .int s.createdAt),
   ("updated_at", .int s.updatedAt)]

def Question.cells (q : Question) : Fields :=
  [("id", .str q.id), ("math_area_id", .str q.areaId), ("math_subarea_id", .ofOption q.subareaId),
   ("title", .str q.title), ("content", .str q.content),
   ("content_latex", .ofOption q.contentLatex), ("answer", .ofOption q.answer),
   ("answer_latex", .ofOption q.answerLatex), ("explanation", .ofOption q.explanation),
   ("explanation_latex", .ofOption q.explanationLatex), ("difficulty", .str q.difficulty.name),
   ("tags", q.tags), ("active", View.flag q.active), ("created_by", .str q.createdBy),
   ("created_at", .int q.createdAt), ("updated_at", .int q.updatedAt)]

namespace Kind

def cells : (k : Kind) → k.Row → Fields
  | group => ClassGroup.cells
  | student => Student.cells
  | content => Content.cells
  | area => Area.cells
  | subarea => Subarea.cells
  | question => Question.cells

/-- The columns that a change empties when it names no value for them. -/
def lost : Kind → List String
  | group | student | content => []
  | area => ["description", "icon", "color"]
  | subarea => ["description"]
  | question => ["math_subarea_id", "answer", "explanation"]

end Kind

/-! Rows with the same cells are the same. -/

@[simp] theorem Json.ofOption_inj {a b : Option String} : ofOption a = ofOption b ↔ a = b := by
  cases a <;> cases b <;> simp [ofOption]

@[simp] theorem View.flag_inj {a b : Option Bool} : flag a = flag b ↔ a = b := by
  cases a <;> cases b <;> simp [flag]

@[simp] theorem View.whole_inj {a b : Option Int} : whole a = whole b ↔ a = b := by
  cases a <;> cases b <;> simp [whole]

@[simp] theorem Visibility.name_inj {a b : Visibility} : a.name = b.name ↔ a = b := by
  cases a <;> cases b <;> decide

@[simp] theorem Difficulty.name_inj {a b : Difficulty} : a.name = b.name ↔ a = b := by
  cases a <;> cases b <;> decide

theorem Material.cells_injective : Function.Injective cells := by
  intro a b h
  cases a <;> cases b <;> simp_all [cells]

theorem Kind.cells_injective (k : Kind) : Function.Injective k.cells := by
  intro a b h
  cases k with
  | group => cases a; cases b; simp_all [cells, ClassGroup.cells]
  | student => cases a; cases b; simp_all [cells, Student.cells]
  | content =>
    obtain ⟨hbase, hmaterial⟩ := List.append_inj h rfl
    have hmaterial := Material.cells_injective hmaterial
    cases a; cases b; simp_all
  | area => cases a; cases b; simp_all [cells, Area.cells]
  | subarea => cases a; cases b; simp_all [cells, Subarea.cells]
  | question => cases a; cases b; simp_all [cells, Question.cells]

/-! What becomes of one cell. -/

namespace Cell

variable {fs : Fields} {lost : List String} {key : String} {f : Field} {α : Type}

/-- The cell is made anew by a change: it has the time of the change, or the LaTeX form of a text
that is named. -/
def Derived (named : String → Prop) (key : String) : Prop :=
  key = "updated_at" ∨ ∃ text, named text ∧ key = text ++ "_latex"

/-- The cell `new` is what a change by the fields `fs` makes of `old`. An empty text need not be
written. -/
structure Follows (fs : Fields) (lost : List String) (old new : String × Json) : Prop where
  key : new.1 = old.1
  written : ∀ v, fs.value? old.1 = some v → v ≠ .str "" → new.2 = v
  kept : fs.value? old.1 = none → ¬ Derived (fun text => fs.value? text ≠ none) old.1 →
    new.2 = if old.1 ∈ lost then .null else old.2

/-- What is read for a column, if anything: the value of its field, or null, if the field has none
and the column is emptied then. -/
structure Reads (fs : Fields) (lost : List String) (key : String) (cell : α → Json)
    (read : Option α) : Prop where
  value : ∀ v, fs.value? key = some v → v ≠ .str "" → read.map cell = some v
  missing : fs.value? key = none → read.map cell = if key ∈ lost then some .null else none

theorem value?_eq_some {v : Json} (hfield : Json.field? fs key = some v) (hnull : v ≠ .null) :
    fs.value? key = some v := by
  cases v with
  | null => exact absurd rfl hnull
  | _ => simp [Fields.value?, hfield, Json.isNull]

theorem value?_eq_none (hfield : Json.field? fs key = none ∨ Json.field? fs key = some .null) :
    fs.value? key = none := by
  rcases hfield with hfield | hfield <;> simp [Fields.value?, hfield, Json.isNull]

theorem Reads.eq_none {cell : α → Json} {read : Option α} (h : Reads fs lost key cell read)
    (hlost : key ∉ lost) (hnone : fs.value? key = none) : read = none := by
  have hread := h.missing hnone
  rw [if_neg hlost] at hread
  exact Option.map_eq_none_iff.mp hread

namespace Follows

/-- The field has no part in what is asked for. -/
theorem untouched {v : Json} (hfield : Json.field? fs key = none) (hlost : key ∉ lost) :
    Follows fs lost (key, v) (key, v) where
  key := rfl
  written w hw := by
    rw [value?_eq_none (.inl hfield)] at hw
    cases hw
  kept _ _ := (if_neg hlost).symm

theorem stamped {old new : Json} (hfield : Json.field? fs "updated_at" = none) :
    Follows fs lost ("updated_at", old) ("updated_at", new) where
  key := rfl
  written w hw := by
    rw [value?_eq_none (.inl hfield)] at hw
    cases hw
  kept _ hderived := absurd (.inl rfl) hderived

theorem of_reads {cell : α → Json} {read : Option α} (h : Reads fs lost key cell read) (old : α) :
    Follows fs lost (key, cell old) (key, cell (read.getD old)) where
  key := rfl
  written v hv hne := by
    obtain ⟨a, rfl, ha⟩ := Option.map_eq_some_iff.mp (h.value v hv hne)
    exact ha
  kept hnone _ := by
    show cell (read.getD old) = if key ∈ lost then .null else cell old
    by_cases hlost : key ∈ lost
    · obtain ⟨a, rfl, ha⟩ := Option.map_eq_some_iff.mp ((h.missing hnone).trans (if_pos hlost))
      rw [if_pos hlost]
      exact ha
    · rw [h.eq_none hlost hnone, if_neg hlost]
      rfl

/-- A column that must not be empty. -/
theorem of_reads_some {cell : α → Json} {read : Option (Option α)} {old new : α}
    (h : Reads fs lost key (fun o => o.elim .null cell) read)
    (hnew : read.getD (some old) = some new) : Follows fs lost (key, cell old) (key, cell new) := by
  have hfollows := of_reads h (some old)
  rw [hnew] at hfollows
  exact hfollows

/-- A column that is only changed to something. -/
theorem of_reads_orElse {cell : α → Json} {read : Option α} (h : Reads fs lost key cell read)
    (hlost : key ∉ lost) (old : Option α) : Follows fs lost (key, old.elim .null cell)
      (key, (read.orElse fun _ => old).elim .null cell) where
  key := rfl
  written v hv hne := by
    obtain ⟨a, rfl, ha⟩ := Option.map_eq_some_iff.mp (h.value v hv hne)
    exact ha
  kept hnone _ := by
    rw [h.eq_none hlost hnone, if_neg hlost]
    rfl

/-- The LaTeX form of a text. -/
theorem latex {text given : Option String} {name : String} (hkey : key = name ++ "_latex")
    (h : Reads fs lost key .str given) (hlost : key ∉ lost)
    (htext : fs.value? name = none → text = none) (old : Option String) :
    Follows fs lost (key, .ofOption old) (key, .ofOption (Questions.newLatex text given old)) where
  key := rfl
  written v hv hne := by
    obtain ⟨a, rfl, ha⟩ := Option.map_eq_some_iff.mp (h.value v hv hne)
    exact ha
  kept hnone hderived := by
    -- had the text a value, its LaTeX form would be a new one
    have hname : fs.value? name = none := by
      by_contra hsome
      exact hderived (.inr ⟨name, hsome, hkey⟩)
    rw [h.eq_none hlost hnone, htext hname, if_neg hlost]
    rfl

end Follows

/-! Reading a column from its field, once the form has accepted it. -/

namespace Reads

/-- The values of a field can be read for a column, and written back. -/
def Writes (f : Field) (cell : α → Json) (read : Json → Option α) : Prop :=
  ∀ v, f.shape.Fits v → (∀ r ∈ f.rules, r.holds v = true) → (read v).map cell = some v

theorem of_missing {cell : α → Json} {read : Option α} (hnone : fs.value? key = none)
    (hread : read.map cell = if key ∈ lost then some .null else none) :
    Reads fs lost key cell read where
  value v hv := by
    rw [hnone] at hv
    cases hv
  missing _ := hread

theorem of_value {cell : α → Json} {read : Option α} {v : Json} (hvalue : fs.value? key = some v)
    (hread : read.map cell = some v) : Reads fs lost key cell read where
  value w hw _ := by
    rw [hread, ← hvalue, hw]
  missing hnone := by
    rw [hvalue] at hnone
    cases hnone

/-- A null changes nothing. -/
theorem of_bind {cell : α → Json} {read : Json → Option α} (h : f.Holds fs)
    (hread : Writes f cell read) (hnull : read .null = none) (hlost : f.name ∉ lost) :
    Reads fs lost f.name cell ((Json.field? fs f.name).bind read) := by
  cases h with
  | absent hfield | null hfield =>
    apply of_missing (value?_eq_none (by simp [hfield]))
    simp [hfield, hnull, hlost]
  | value hfield hvnull hfits hrules =>
    apply of_value (value?_eq_some hfield hvnull)
    rw [hfield]
    exact hread _ hfits hrules

/-- The column of the field is emptied exactly if a null stands in for a field that is not given. -/
def Empties (f : Field) (lost : List String) : Prop :=
  f.presence = .filled .null ∧ f.name ∈ lost ∨ f.presence = .optional ∧ f.name ∉ lost

theorem empties_nil (hpresence : f.presence = .optional) : Empties f [] :=
  .inr ⟨hpresence, List.not_mem_nil⟩

/-- A null empties the column. -/
theorem of_map {cell : α → Json} {read : Json → Option α} (h : f.Holds fs)
    (hread : Writes f cell read) (hnull : read .null = none) (hlost : Empties f lost) :
    Reads fs lost f.name (fun o => o.elim .null cell) ((Json.field? fs f.name).map read) := by
  cases h with
  | absent hfield hpresence =>
    have hlost : f.name ∉ lost := by simpa [Empties, hpresence] using hlost
    apply of_missing (value?_eq_none (.inl hfield))
    simp [hfield, hlost]
  | null hfield hpresence =>
    have hlost : f.name ∈ lost := by simpa [Empties, hpresence] using hlost
    apply of_missing (value?_eq_none (.inr hfield))
    simp [hfield, hnull, hlost]
  | value hfield hvnull hfits hrules =>
    obtain ⟨a, ha, hcell⟩ := Option.map_eq_some_iff.mp (hread _ hfits hrules)
    apply of_value (value?_eq_some hfield hvnull)
    simp [hfield, ha, hcell]

theorem writes_text (hshape : f.shape = .text ∨ f.shape = .email) :
    Writes f .str Json.str? := by
  intro v hfits _
  obtain ⟨s, rfl⟩ : ∃ s, v = .str s := by
    rcases hshape with hshape | hshape
    · rw [hshape] at hfits
      exact hfits
    · rw [hshape] at hfits
      exact hfits
  rfl

theorem writes_whole (hshape : f.shape = .whole) : Writes f .int Json.int? := by
  intro v hfits _
  rw [hshape] at hfits
  obtain ⟨n, rfl⟩ := hfits
  rfl

theorem writes_flag (hshape : f.shape = .flag) : Writes f .bool Json.bool? := by
  intro v hfits _
  rw [hshape] at hfits
  obtain ⟨b, rfl⟩ := hfits
  rfl

theorem text (h : f.Holds fs) (hshape : f.shape = .text ∨ f.shape = .email)
    (hlost : Empties f lost) : Reads fs lost f.name .ofOption (fs.namedText? f.name) :=
  of_map h (writes_text hshape) rfl hlost

/-- An empty text changes nothing. -/
theorem given (h : f.Holds fs) (hshape : f.shape = .text) (hlost : f.name ∉ lost) :
    Reads fs lost f.name .str (fs.given? f.name) := by
  have htext : Reads fs lost f.name .str (fs.text? f.name) :=
    of_bind h (writes_text (.inl hshape)) rfl hlost
  refine ⟨fun v hv hne => ?_, fun hnone => ?_⟩
  · obtain ⟨s, hs, rfl⟩ := Option.map_eq_some_iff.mp (htext.value v hv hne)
    have hsne : s ≠ "" := fun heq => hne (congrArg Json.str heq)
    simp [Fields.given?, hs, hsne]
  · simp [Fields.given?, htext.eq_none hlost hnone, hlost]

/-- One of several words. -/
theorem word {ofName? : String → Option α} {name : α → String} {choices : List String}
    (h : f.Holds fs) (hshape : f.shape = .text) (hrule : .oneOf choices ∈ f.rules)
    (hchoices : ∀ s ∈ choices, (ofName? s).map name = some s) (hlost : f.name ∉ lost) :
    Reads fs lost f.name (fun a => .str (name a)) ((fs.text? f.name).bind ofName?) := by
  have hread : Writes f (fun a => .str (name a)) fun v => v.str?.bind ofName? := by
    intro v hfits hrules
    rw [hshape] at hfits
    obtain ⟨s, rfl⟩ := hfits
    have hs : s ∈ choices := by simpa [Rule.holds] using hrules _ hrule
    obtain ⟨a, ha, rfl⟩ := Option.map_eq_some_iff.mp (hchoices s hs)
    simp [Json.str?, ha]
  unfold Fields.text?
  rw [Option.bind_assoc]
  exact of_bind h hread rfl hlost

theorem anyValue (hlost : key ∉ lost) : Reads fs lost key (fun v => v) (fs.value? key) where
  value v hv _ := by simp [hv]
  missing hnone := by simp [hnone, hlost]

/-- A column that takes whatever the form accepts. -/
theorem field (h : f.Holds fs) (hpresence : f.presence = .optional) (hlost : f.name ∉ lost) :
    Reads fs lost f.name (fun v => v) (Json.field? fs f.name) := by
  have hfield : Json.field? fs f.name = fs.value? f.name := by
    cases h with
    | absent hfield => rw [hfield, value?_eq_none (.inl hfield)]
    | null _ hfilled => cases hpresence.symm.trans hfilled
    | value hfield hnull => rw [hfield, value?_eq_some hfield hnull]
  rw [hfield]
  exact anyValue hlost

/-- An empty reference is none. -/
theorem reference {read : Option (Option String)} (h : Reads fs lost key .ofOption read) :
    Reads fs lost key .ofOption (read.map fun s => s.filter (!·.isEmpty)) := by
  have hsame (v : Json) (hne : v ≠ .str "") (hread : read.map .ofOption = some v) :
      (read.map fun s => s.filter (!·.isEmpty)).map .ofOption = some v := by
    obtain ⟨s, rfl, rfl⟩ := Option.map_eq_some_iff.mp hread
    cases s with
    | none => rfl
    | some s =>
      have hs : s ≠ "" := fun heq => hne (congrArg Json.str heq)
      simp [hs]
  refine ⟨fun v hv hne => hsame v hne (h.value v hv hne), fun hnone => ?_⟩
  by_cases hlost : key ∈ lost
  · rw [if_pos hlost]
    exact hsame .null nofun ((h.missing hnone).trans (if_pos hlost))
  · rw [h.eq_none hlost hnone, if_neg hlost]
    rfl

/-- A text that has no value is none, whether it is emptied or kept. -/
theorem join_eq_none {read : Option (Option String)} (h : Reads fs lost key .ofOption read)
    (hnone : fs.value? key = none) : read.join = none := by
  by_cases hlost : key ∈ lost
  · obtain ⟨s, rfl, hs⟩ := Option.map_eq_some_iff.mp ((h.missing hnone).trans (if_pos hlost))
    cases s with
    | none => rfl
    | some s => cases hs
  · rw [h.eq_none hlost hnone]
    rfl

end Reads

/-- A cell and what a change makes of it stand under the same name. -/
theorem field?_of_follows {old new : Fields} (h : List.Forall₂ (Follows fs lost) old new)
    (key : String) : Json.field? old key = none ∧ Json.field? new key = none ∨
      ∃ v w, Json.field? old key = some v ∧ Json.field? new key = some w ∧
        Follows fs lost (key, v) (key, w) := by
  induction h with
  | nil => exact .inl ⟨rfl, rfl⟩
  | @cons x y old new hcell _ ih =>
    obtain ⟨k, v⟩ := x
    obtain ⟨k', w⟩ := y
    obtain rfl : k' = k := hcell.key
    rw [Json.field?_cons, Json.field?_cons]
    by_cases hkey : k' = key
    · subst hkey
      exact .inr ⟨v, w, if_pos rfl, if_pos rfl, hcell⟩
    · rw [if_neg hkey, if_neg hkey]
      exact ih

end Cell

open Cell

variable {given fs : Fields} {now : Instant}

/-! What a change by a request makes of the cells of a row. -/

theorem Classes.follows_of_apply {g g' : ClassGroup} (h : Form.classChange.Loads given fs)
    (happly : (Change.ofFields fs).apply g = .ok g') :
    List.Forall₂ (Follows fs []) g.cells g'.cells := by
  obtain ⟨name, code, hname', hcode', rfl⟩ := Change.apply_eq_ok happly
  have hfields := h.fields
  simp only [Form.classChange, List.forall_mem_cons] at hfields
  obtain ⟨hname, hdescription, hcode, hactive, hconfigs, -⟩ := hfields
  simp only [ClassGroup.cells, List.forall₂_cons, List.Forall₂.nil, and_true]
  exact ⟨.untouched (h.others _ (by decide)) (by decide),
    .of_reads_some (.text hname (.inl rfl) (Reads.empties_nil rfl)) hname',
    .of_reads (.text hdescription (.inl rfl) (Reads.empties_nil rfl)) _,
    .of_reads_some (.text hcode (.inl rfl) (Reads.empties_nil rfl)) hcode',
    .untouched (h.others _ (by decide)) (by decide),
    .untouched (h.others _ (by decide)) (by decide),
    .of_reads (.of_map hactive (Reads.writes_flag rfl) rfl (Reads.empties_nil rfl)) _,
    .of_reads (.field hconfigs rfl List.not_mem_nil) _⟩

theorem Students.follows_of_apply {s s' : Student} (h : Form.studentChange.Loads given fs)
    (happly : (Change.ofFields fs).apply s = .ok s') :
    List.Forall₂ (Follows fs []) s.cells s'.cells := by
  obtain ⟨name, email, classId, hname', hemail', hclass', rfl⟩ := Change.apply_eq_ok happly
  have hfields := h.fields
  simp only [Form.studentChange, List.forall_mem_cons] at hfields
  obtain ⟨hname, hemail, hpassword, hregistration, hclass, hactive, -⟩ := hfields
  simp only [Student.cells, List.forall₂_cons, List.Forall₂.nil, and_true]
  exact ⟨.untouched (h.others _ (by decide)) (by decide),
    .of_reads_some (.text hname (.inl rfl) (Reads.empties_nil rfl)) hname',
    .of_reads_some (.text hemail (.inr rfl) (Reads.empties_nil rfl)) hemail',
    .of_reads (.text hpassword (.inl rfl) (Reads.empties_nil rfl)) _,
    .of_reads (.text hregistration (.inl rfl) (Reads.empties_nil rfl)) _,
    .untouched (h.others _ (by decide)) (by decide),
    .untouched (h.others _ (by decide)) (by decide),
    .of_reads (.of_map hactive (Reads.writes_flag rfl) rfl (Reads.empties_nil rfl)) _,
    .of_reads_some (.text hclass (.inl rfl) (Reads.empties_nil rfl)) hclass'⟩

namespace Contents

theorem kindName_applyMaterial (d : Change) (m : Material) :
    (d.applyMaterial m).kindName = m.kindName := by
  cases m <;> rfl

theorem follows_applyMaterial (h : Form.contentChange.Loads given fs) (m : Material) :
    List.Forall₂ (Follows fs []) m.cells ((Change.ofFields fs).applyMaterial m).cells := by
  have hfields := h.fields
  simp only [Form.contentChange, Form.folderFields, List.cons_append, List.nil_append,
    List.forall_mem_cons] at hfields
  obtain ⟨-, -, -, -, -, -, hcolor, hicon, hupload, hduration, hthumbnail, hchannel, -⟩ := hfields
  cases m with
  | folder color icon upload =>
    simp only [Change.applyMaterial, Material.cells, List.forall₂_cons, List.Forall₂.nil, and_true]
    exact ⟨.of_reads (.text hcolor (.inl rfl) (Reads.empties_nil rfl)) _,
      .of_reads (.text hicon (.inl rfl) (Reads.empties_nil rfl)) _,
      .of_reads (.of_map hupload (Reads.writes_flag rfl) rfl (Reads.empties_nil rfl)) _⟩
  | file =>
    have hkeys : ∀ key ∈ ["drive_file_id", "drive_url", "original_name", "mime_type", "size",
        "version", "upload_date", "file_hash"], key ∉ Form.contentChange.map Field.name := by
      decide
    refine List.forall₂_same.mpr fun cell hcell => ?_
    exact .untouched (h.others _ (hkeys _ (List.mem_map_of_mem hcell))) List.not_mem_nil
  | video videoId url duration thumbnail channel published =>
    simp only [Change.applyMaterial, Material.cells, List.forall₂_cons, List.Forall₂.nil, and_true]
    exact ⟨.untouched (h.others _ (by decide)) (by decide),
      .untouched (h.others _ (by decide)) (by decide),
      .of_reads (.of_map hduration (Reads.writes_whole rfl) rfl (Reads.empties_nil rfl)) _,
      .of_reads (.text hthumbnail (.inl rfl) (Reads.empties_nil rfl)) _,
      .of_reads (.text hchannel (.inl rfl) (Reads.empties_nil rfl)) _,
      .untouched (h.others _ (by decide)) (by decide)⟩

theorem follows_of_apply {n n' : Content} (h : Form.contentChange.Loads given fs)
    (happly : (Change.ofFields fs).apply now n = .ok n') :
    List.Forall₂ (Follows fs []) n.cells n'.cells := by
  obtain ⟨title, htitle', rfl⟩ := Change.apply_eq_ok happly
  have hfields := h.fields
  simp only [Form.contentChange, Form.folderFields, List.cons_append, List.nil_append,
    List.forall_mem_cons] at hfields
  obtain ⟨htitle, hdescription, hparent, horder, hvisibility, hnotes, -⟩ := hfields
  refine List.rel_append ?_ (follows_applyMaterial h n.material)
  simp only [kindName_applyMaterial, List.forall₂_cons, List.Forall₂.nil, and_true]
  exact ⟨.untouched (h.others _ (by decide)) (by decide),
    .of_reads_some (.text htitle (.inl rfl) (Reads.empties_nil rfl)) htitle',
    .of_reads (.text hdescription (.inl rfl) (Reads.empties_nil rfl)) _,
    .untouched (h.others _ (by decide)) (by decide),
    .of_reads (.reference (.text hparent (.inl rfl) (Reads.empties_nil rfl))) _,
    .of_reads (.of_map horder (Reads.writes_whole rfl) rfl (Reads.empties_nil rfl)) _,
    .of_reads (.word hvisibility rfl List.mem_cons_self (by decide) (by decide)) _,
    .untouched (h.others _ (by decide)) (by decide),
    .untouched (h.others _ (by decide)) (by decide),
    .stamped (h.others _ (by decide)),
    .of_reads (.field hnotes rfl List.not_mem_nil) _,
    .untouched (h.others _ (by decide)) (by decide)⟩

end Contents

theorem Areas.follows_apply (h : Form.areaChange.Loads given fs) (now : Instant) (a : Area) :
    List.Forall₂ (Follows fs (Kind.lost .area)) a.cells
      ((Change.ofFields fs).apply now a).cells := by
  have hfields := h.fields
  simp only [Form.areaChange, List.forall_mem_cons] at hfields
  obtain ⟨hname, hdescription, hicon, hcolor, horder, hactive, -⟩ := hfields
  simp only [Area.cells, Change.apply, List.forall₂_cons, List.Forall₂.nil, and_true]
  exact ⟨.untouched (h.others _ (by decide)) (by decide),
    .of_reads (.given hname rfl (by decide)) _,
    .of_reads (.text hdescription (.inl rfl) (.inl ⟨rfl, by decide⟩)) _,
    .of_reads (.text hicon (.inl rfl) (.inl ⟨rfl, by decide⟩)) _,
    .of_reads (.text hcolor (.inl rfl) (.inl ⟨rfl, by decide⟩)) _,
    .of_reads_orElse (.of_bind horder (Reads.writes_whole rfl) rfl (by decide)) (by decide) _,
    .of_reads_orElse (.of_bind hactive (Reads.writes_flag rfl) rfl (by decide)) (by decide) _,
    .untouched (h.others _ (by decide)) (by decide),
    .stamped (h.others _ (by decide))⟩

theorem Subareas.follows_apply (h : Form.subareaChange.Loads given fs) (now : Instant)
    (s : Subarea) :
    List.Forall₂ (Follows fs (Kind.lost .subarea)) s.cells
      ((Change.ofFields fs).apply now s).cells := by
  have hfields := h.fields
  simp only [Form.subareaChange, List.forall_mem_cons] at hfields
  obtain ⟨hname, hdescription, horder, hactive, -⟩ := hfields
  simp only [Subarea.cells, Change.apply, List.forall₂_cons, List.Forall₂.nil, and_true]
  exact ⟨.untouched (h.others _ (by decide)) (by decide),
    .untouched (h.others _ (by decide)) (by decide),
    .of_reads (.given hname rfl (by decide)) _,
    .of_reads (.text hdescription (.inl rfl) (.inl ⟨rfl, by decide⟩)) _,
    .of_reads_orElse (.of_bind horder (Reads.writes_whole rfl) rfl (by decide)) (by decide) _,
    .of_reads_orElse (.of_bind hactive (Reads.writes_flag rfl) rfl (by decide)) (by decide) _,
    .untouched (h.others _ (by decide)) (by decide),
    .stamped (h.others _ (by decide))⟩

theorem Questions.follows_apply (h : Form.questionChange.Loads given fs) (now : Instant)
    (q : Question) :
    List.Forall₂ (Follows fs (Kind.lost .question)) q.cells
      ((Change.ofFields fs).apply now q).cells := by
  have hfields := h.fields
  simp only [Form.questionChange, Form.questionTexts, List.cons_append, List.nil_append,
    List.forall_mem_cons] at hfields
  obtain ⟨harea, hsubarea, htitle, hcontent, hcontentLatex, hanswer, hanswerLatex, hexplanation,
    hexplanationLatex, hdifficulty, -, hactive, -⟩ := hfields
  have hcontent' : Reads fs (Kind.lost .question) "content" .str (fs.given? "content") :=
    .given hcontent rfl (by decide)
  have hanswer' : Reads fs (Kind.lost .question) "answer" .ofOption (fs.namedText? "answer") :=
    .text hanswer (.inl rfl) (.inl ⟨rfl, by decide⟩)
  have hexplanation' : Reads fs (Kind.lost .question) "explanation" .ofOption
      (fs.namedText? "explanation") := .text hexplanation (.inl rfl) (.inl ⟨rfl, by decide⟩)
  simp only [Question.cells, Change.apply, List.forall₂_cons, List.Forall₂.nil, and_true]
  exact ⟨.untouched (h.others _ (by decide)) (by decide),
    .of_reads (.given harea rfl (by decide)) _,
    .of_reads (.reference (.text hsubarea (.inl rfl) (.inl ⟨rfl, by decide⟩))) _,
    .of_reads (.given htitle rfl (by decide)) _,
    .of_reads hcontent' _,
    .latex rfl (.given hcontentLatex rfl (by decide)) (by decide)
      (hcontent'.eq_none (by decide)) _,
    .of_reads hanswer' _,
    .latex rfl (.given hanswerLatex rfl (by decide)) (by decide) hanswer'.join_eq_none _,
    .of_reads hexplanation' _,
    .latex rfl (.given hexplanationLatex rfl (by decide)) (by decide) hexplanation'.join_eq_none _,
    .of_reads (.word hdifficulty rfl List.mem_cons_self (by decide) (by decide)) _,
    .of_reads (.anyValue (by decide)) _,
    .of_reads_orElse (.of_bind hactive (Reads.writes_flag rfl) rfl (by decide)) (by decide) _,
    .untouched (h.others _ (by decide)) (by decide),
    .untouched (h.others _ (by decide)) (by decide),
    .stamped (h.others _ (by decide))⟩

end LogicTutor
