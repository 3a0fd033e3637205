import LogicTutor.Json.Basic
import LogicTutor.Text.Digit

/-! What a video catalogue tells of one video, read from its reply. -/
namespace LogicTutor

/-- Title, channel and picture are handed on as the catalogue gives them. -/
structure Video where
  id : String
  title : Json
  seconds : Nat
  channel : Json
  picture : Json
  deriving Repr

namespace Video

/-- A number before a letter, and what follows; zero if it is not there. -/
def part? (letter : Char) (cs : List Char) : Option (Nat × List Char) :=
  match cs.span Text.isDigit with
  | (d :: ds, c :: rest) =>
    if c = letter then
      if (d :: ds).length ≤ Text.digitLimit then some (Text.numberOf (d :: ds), rest) else none
    else some (0, cs)
  | _ => some (0, cs)

/-- The seconds of a duration in hours, minutes and seconds, such as `PT1H30M5S`. What follows the
last part that can be read does not count, nor does a text of another form. Without a value if a
number has too many digits. -/
def seconds? (s : String) : Option Nat :=
  match s.toList with
  | 'P' :: 'T' :: cs => do
      let (h, cs) ← part? 'H' cs
      let (m, cs) ← part? 'M' cs
      let (s, _) ← part? 'S' cs
      return h * 3600 + m * 60 + s
  | _ => some 0

/-- The catalogue's reply does not have the expected shape. -/
inductive Misread where
  | shape
  deriving DecidableEq, Repr

/-- The fields of an object in a field, which may be missing. -/
def inner (fields : List (String × Json)) (key : String) :
    Except Misread (List (String × Json)) :=
  match Json.field? fields key with
  | none => .ok []
  | some (.obj inner) => .ok inner
  | some _ => .error .shape

/-- The address of the picture, by the first size that has one. -/
def pictureOf (sizes : List (String × Json)) : List String → Except Misread Json
  | [] => .ok (.str "")
  | size :: rest => do
      match Json.field? (← inner sizes size) "url" with
      | some url => if url.isTruthy then return url else pictureOf sizes rest
      | none => pictureOf sizes rest

/-- The first video of the reply; none if the reply lists none. -/
def ofReply (id : String) : Json → Except Misread (Option Video)
  | .obj reply =>
    match Json.field? reply "items" with
    | some (.arr (.obj item :: _)) => do
        let snippet ← inner item "snippet"
        let details ← inner item "contentDetails"
        let sizes ← inner snippet "thumbnails"
        let picture ← pictureOf sizes ["maxres", "high", "medium", "default"]
        match (Json.field? details "duration").getD (.str "PT0S") with
        | .str d =>
          match seconds? d with
          | some n => return some ⟨id, (Json.field? snippet "title").getD (.str ""), n,
              (Json.field? snippet "channelTitle").getD (.str ""), picture⟩
          | none => .error .shape
        | _ => .error .shape
    | some v => if v.isTruthy then .error .shape else .ok none
    | none => .ok none
  | _ => .error .shape

def json (v : Video) : Json :=
  .obj [("video_id", .str v.id), ("title", v.title), ("duration", .int v.seconds),
    ("channel", v.channel), ("thumbnail_url", v.picture)]

end Video

end LogicTutor
