import LogicTutor.Campus.Fields
import LogicTutor.Campus.Search
import LogicTutor.Campus.Store

/-! The contents of an administrator's classes. -/
namespace LogicTutor.Contents

def notFound : Problem := .plain "NOT_FOUND" "Conteudo nao encontrado"

def classNotFound : Problem :=
  .about "CLASS_GROUP_NOT_FOUND" "Turma nao encontrada" "class_group_id"

def parentNotFound : Problem := .about "PARENT_NOT_FOUND" "Pasta pai nao encontrada" "parent_id"

def ownParent : Problem :=
  .about "CIRCULAR_REFERENCE" "Conteudo nao pode ser pai de si mesmo" "parent_id"

def hasChildren : Problem :=
  .plain "HAS_CHILDREN" "Nao e possivel excluir pasta com conteudos"

/-- What new content is made from; what kinds do not share is read when the kind is known. -/
structure Draft where
  type : Option String
  title : Option String
  description : Option String
  classId : Option Id
  parentId : Option Id
  order : Int
  visibility : Visibility
  notes : Json
  rest : Fields
  deriving Repr

def Draft.ofFields (fs : Fields) : Draft where
  type := fs.text? "type"
  title := fs.text? "title"
  description := fs.text? "description"
  classId := fs.text? "class_group_id"
  parentId := fs.text? "parent_id"
  order := (fs.whole? "order").getD 0
  visibility := ((fs.text? "visibility").bind Visibility.ofName?).getD .hidden
  notes := (Json.field? fs "meta_data").getD (.obj [])
  rest := fs

/-- What sets the content apart, by its kind. -/
def Draft.material (d : Draft) (now : Instant) : Except Problem Material :=
  let fs := d.rest
  match d.type with
  | some "pasta" =>
    let upload := (fs.flag? "allow_upload").getD false
    .ok (.folder (fs.text? "color") (fs.text? "icon") (some upload))
  | some "arquivo" =>
    match fs.given? "drive_file_id", fs.given? "drive_url", fs.given? "original_name",
        fs.given? "mime_type", (fs.whole? "size").filter (· ≠ 0) with
    | some driveId, some url, some fileName, some mime, some size =>
      .ok (.file driveId url fileName mime size 1 now (fs.text? "file_hash"))
    | _, _, _, _, _ =>
      .error (.plain "MISSING_FILE_FIELDS" "Campos obrigatorios para arquivo nao fornecidos")
  | some "youtube" =>
    match fs.given? "youtube_id", fs.given? "full_url" with
    | some videoId, some url =>
      .ok (.video videoId url (fs.whole? "duration") (fs.text? "thumbnail_url")
        (fs.text? "channel") (fs.text? "published_at"))
    | _, _ =>
      .error (.plain "MISSING_YOUTUBE_FIELDS" "Campos obrigatorios para YouTube nao fornecidos")
  | _ => .error (.about "INVALID_TYPE" "Tipo de conteudo invalido" "type")

/-- What of a content is to change; a field that is not named stays. -/
structure Change where
  title : Option (Option String)
  description : Option (Option String)
  parentId : Option (Option Id)
  order : Option (Option Int)
  visibility : Option Visibility
  notes : Option Json
  color : Option (Option String)
  icon : Option (Option String)
  allowUpload : Option (Option Bool)
  duration : Option (Option Int)
  thumbnail : Option (Option String)
  channel : Option (Option String)
  deriving Repr

/-- An empty parent is none, and a visibility that does not exist is not named. -/
def Change.ofFields (fs : Fields) : Change where
  title := fs.namedText? "title"
  description := fs.namedText? "description"
  parentId := (fs.namedText? "parent_id").map fun p => p.filter (!·.isEmpty)
  order := fs.namedWhole? "order"
  visibility := (fs.text? "visibility").bind Visibility.ofName?
  notes := Json.field? fs "meta_data"
  color := fs.namedText? "color"
  icon := fs.namedText? "icon"
  allowUpload := fs.namedFlag? "allow_upload"
  duration := fs.namedWhole? "duration"
  thumbnail := fs.namedText? "thumbnail_url"
  channel := fs.namedText? "channel"

/-- The part of a change that a kind of content has. -/
def Change.applyMaterial (d : Change) : Material → Material
  | .folder color icon upload =>
    .folder (d.color.getD color) (d.icon.getD icon) (d.allowUpload.getD upload)
  | .video v url duration thumbnail channel published =>
    .video v url (d.duration.getD duration) (d.thumbnail.getD thumbnail)
      (d.channel.getD channel) published
  | m => m

def Change.apply (d : Change) (now : Instant) (n : Content) : Except Failure Content := do
  return { n with
    title := ← Campus.present (d.title.getD (some n.title))
    description := d.description.getD n.description
    parentId := d.parentId.getD n.parentId
    order := d.order.getD n.order
    visibility := d.visibility.getD n.visibility
    notes := d.notes.getD n.notes
    updatedAt := now
    material := d.applyMaterial n.material }

variable (c : Campus) (admin : Id)

/-- Content of a class of the administrator. -/
def own? (id : Id) : Option Content :=
  c.contents.find? fun n => n.id = id && c.owns admin n.classId

/-- There is such a folder in the class. -/
def hasFolder (id : Id) (classId : Id) : Bool :=
  c.contents.any fun n => n.id = id && n.classId = classId && n.material.isFolder

/-- Which contents to list. -/
structure Filter where
  classId : Option Id
  /-- The word `null` asks for what lies at the top. -/
  parentId : Option String
  type : Option String
  visibility : Option Visibility
  search : Option String
  deriving Repr

def Filter.ofFields (fs : Fields) (typeKey : String) : Filter :=
  ⟨fs.given? "class_group_id", fs.given? "parent_id",
    (fs.text? typeKey).filter fun t => ["pasta", "arquivo", "youtube"].contains t,
    (fs.text? "visibility").bind Visibility.ofName?, fs.given? "search"⟩

def Filter.admits (f : Filter) (n : Content) : Bool :=
  f.classId.all (· = n.classId) &&
  (f.parentId.all fun p => if p = "null" then n.parentId.isNone else n.parentId = some p) &&
  f.type.all (· = n.material.kindName) && f.visibility.all (· = n.visibility) &&
  f.search.all fun t => Search.occurs t n.title

/-- The order in which contents stand: what has no place comes first. -/
def placeLt : Option Int → Option Int → Bool
  | none, some _ => true
  | some a, some b => a < b
  | _, none => false

/-- The contents of the administrator's classes by place, the newest first. -/
def list (f : Filter) : List Content :=
  (c.contents.filter fun n => c.owns admin n.classId && f.admits n).mergeSort fun a b =>
    placeLt a.order b.order || (a.order = b.order && b.createdAt ≤ a.createdAt)

def get (id : Id) : Deed Content := .found c notFound (own? c admin id)

def create (now : Instant) (d : Draft) : Deed Content :=
  match d.classId.bind (c.ownClass? admin) with
  | none => .refused c classNotFound
  | some g =>
    if d.parentId.any fun p => !p.isEmpty && !hasFolder c p g.id then .refused c parentNotFound
    else
      match d.material now with
      | .error p => .refused c p
      | .ok material =>
        .attempt (c.spend 1) "Conteudo criado com sucesso" do
          let n : Content := ⟨c.nextId, ← Campus.present d.title, d.description, g.id, d.parentId,
            some d.order, d.visibility, admin, now, now, d.notes, material⟩
          return (n, ← (c.spend 1).addContent n)

def update (now : Instant) (id : Id) (d : Change) : Deed Content :=
  match own? c admin id with
  | none => .refused c notFound
  | some n =>
    let parent := d.parentId.join
    if parent.any fun p => !hasFolder c p n.classId then .refused c parentNotFound
    else if parent = some n.id then .refused c ownParent
    else
      .attempt c "Conteudo atualizado com sucesso" do
        let n ← d.apply now n
        return (n, c.saveContent n)

/-- Removes content, unless it is a folder that something lies in. -/
def delete (now : Instant) (id : Id) : Deed Unit :=
  match own? c admin id with
  | none => .refused c notFound
  | some n =>
    if n.material.isFolder && c.contents.any fun m => m.parentId = some n.id then
      .refused c hasChildren
    else .attempt c "Conteudo removido com sucesso" ((c.eraseContent n.id now).map fun c => ((), c))

end LogicTutor.Contents
