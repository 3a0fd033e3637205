import LogicTutor.Campus.Fields
import LogicTutor.Campus.Store

/-! Mathematical areas and their subareas, by which questions are ordered. -/
namespace LogicTutor

namespace Areas

def notFound : Problem := .plain "NOT_FOUND" "Area matematica nao encontrada"

def nameTaken : Problem := .about "DUPLICATE_NAME" "Ja existe uma area com esse nome" "name"

def inUse (n : Nat) : Problem :=
  .plain "HAS_QUESTIONS" s!"Nao e possivel excluir. Existem {n} questoes vinculadas a esta area."

/-- What a new area is made from. -/
structure Draft where
  name : Option String
  description : Option String
  icon : Option String
  color : Option String
  order : Int
  deriving Repr

def Draft.ofFields (fs : Fields) : Draft :=
  ⟨fs.text? "name", fs.text? "description", fs.text? "icon", fs.text? "color",
    (fs.whole? "order").getD 0⟩

/-- What of an area is to change. An empty name, or a null in place of a number or a flag, changes
nothing. -/
structure Change where
  name : Option String
  description : Option (Option String)
  icon : Option (Option String)
  color : Option (Option String)
  order : Option Int
  active : Option Bool
  deriving Repr

def Change.ofFields (fs : Fields) : Change :=
  ⟨fs.given? "name", fs.namedText? "description", fs.namedText? "icon", fs.namedText? "color",
    fs.whole? "order", fs.flag? "active"⟩

def Change.apply (d : Change) (now : Instant) (a : Area) : Area :=
  { a with
    name := d.name.getD a.name
    description := d.description.getD a.description
    icon := d.icon.getD a.icon
    color := d.color.getD a.color
    order := d.order.orElse fun _ => a.order
    active := d.active.orElse fun _ => a.active
    updatedAt := now }

variable (c : Campus)

/-- By place, and then by name. -/
def precedes (order₁ order₂ : Option Int) (name₁ name₂ : String) : Bool :=
  match order₁, order₂ with
  | none, some _ => true
  | some a, some b => a < b || (a = b && name₁ ≤ name₂)
  | none, none => name₁ ≤ name₂
  | some _, none => false

/-- All areas, or only the active ones. -/
def list (all : Bool) : List Area :=
  (c.areas.filter fun a => all || a.active = some true).mergeSort
    fun a b => precedes a.order b.order a.name b.name

def get (id : Id) : Deed Area := .found c notFound (c.area? id)

/-- The questions of an area. -/
def questions (id : Id) : List Question := c.questions.filter fun q => q.areaId = id

/-- The subareas of an area. -/
def subareas (id : Id) : List Subarea := c.subareas.filter fun s => s.areaId = id

def create (now : Instant) (d : Draft) : Deed Area :=
  if c.areas.any fun a => some a.name = d.name then .refused c nameTaken
  else
    .attempt (c.spend 1) "Area criada com sucesso" do
      let a : Area := ⟨c.nextId, ← Campus.present d.name, d.description, d.icon, d.color,
        some d.order, some true, now, now⟩
      return (a, ← (c.spend 1).addArea a)

def update (now : Instant) (id : Id) (d : Change) : Deed Area :=
  match c.area? id with
  | none => .refused c notFound
  | some a =>
    if d.name.any fun n => n ≠ a.name && c.areas.any fun b => b.name = n && b.id ≠ id then
      .refused c nameTaken
    else
      let a := d.apply now a
      .attempt c "Area atualizada com sucesso" ((c.saveArea a).map fun c => (a, c))

/-- Removes an area without questions, together with its subareas. -/
def delete (now : Instant) (id : Id) : Deed Unit :=
  match c.area? id with
  | none => .refused c notFound
  | some a =>
    let n := (questions c a.id).length
    if 0 < n then .refused c (inUse n)
    else
      let c' := (subareas c a.id).foldl (fun c s => c.eraseSubarea s.id now) c
      .attempt c "Area removida com sucesso" ((c'.eraseArea a.id).map fun c => ((), c))

end Areas

namespace Subareas

def notFound : Problem := .plain "NOT_FOUND" "Subarea nao encontrada"

def noArea : Problem := .about "AREA_NOT_FOUND" "Area matematica nao encontrada" "math_area_id"

def nameTaken : Problem :=
  .about "DUPLICATE_NAME" "Ja existe uma subarea com esse nome nesta area" "name"

def inUse (n : Nat) : Problem :=
  .plain "HAS_QUESTIONS"
    s!"Nao e possivel excluir. Existem {n} questoes vinculadas a esta subarea."

/-- What a new subarea is made from. -/
structure Draft where
  name : Option String
  description : Option String
  order : Int
  deriving Repr

def Draft.ofFields (fs : Fields) : Draft :=
  ⟨fs.text? "name", fs.text? "description", (fs.whole? "order").getD 0⟩

structure Change where
  name : Option String
  description : Option (Option String)
  order : Option Int
  active : Option Bool
  deriving Repr

def Change.ofFields (fs : Fields) : Change :=
  ⟨fs.given? "name", fs.namedText? "description", fs.whole? "order", fs.flag? "active"⟩

def Change.apply (d : Change) (now : Instant) (s : Subarea) : Subarea :=
  { s with
    name := d.name.getD s.name
    description := d.description.getD s.description
    order := d.order.orElse fun _ => s.order
    active := d.active.orElse fun _ => s.active
    updatedAt := now }

variable (c : Campus)

/-- The subareas of an area, all or only the active ones. -/
def list (areaId : Id) (all : Bool) : Deed (List Subarea) :=
  match c.area? areaId with
  | none => .refused c Areas.notFound
  | some _ => .answered c (((Areas.subareas c areaId).filter fun s =>
      all || s.active = some true).mergeSort fun a b => Areas.precedes a.order b.order a.name b.name)

def get (id : Id) : Deed Subarea := .found c notFound (c.subarea? id)

/-- The questions of a subarea. -/
def questions (id : Id) : List Question := c.questions.filter fun q => q.subareaId = some id

def create (now : Instant) (areaId : Id) (d : Draft) : Deed Subarea :=
  match c.area? areaId with
  | none => .refused c noArea
  | some a =>
    if c.subareas.any fun s => s.areaId = a.id && some s.name = d.name then .refused c nameTaken
    else
      .attempt (c.spend 1) "Subarea criada com sucesso" do
        let s : Subarea := ⟨c.nextId, a.id, ← Campus.present d.name, d.description, some d.order,
          some true, now, now⟩
        return (s, ← (c.spend 1).addSubarea s)

def update (now : Instant) (id : Id) (d : Change) : Deed Subarea :=
  match c.subarea? id with
  | none => .refused c notFound
  | some s =>
    if d.name.any fun n => n ≠ s.name &&
        c.subareas.any fun t => t.areaId = s.areaId && t.name = n && t.id ≠ id then
      .refused c nameTaken
    else
      let s := d.apply now s
      .attempt c "Subarea atualizada com sucesso" ((c.saveSubarea s).map fun c => (s, c))

/-- Removes a subarea without questions. -/
def delete (now : Instant) (id : Id) : Deed Unit :=
  match c.subarea? id with
  | none => .refused c notFound
  | some s =>
    let n := (questions c s.id).length
    if 0 < n then .refused c (inUse n)
    else .done (c.eraseSubarea s.id now) () "Subarea removida com sucesso"

end Subareas

end LogicTutor
