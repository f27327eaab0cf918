import ProtocolSimulation.Texts

/-!
# JSON values

The values the API and the rules exchange. Reading and writing JSON text is done
by libraries, so a codec is a parameter of what uses it.
-/
namespace ProtocolSimulation.JsonValues

open ProtocolSimulation.Texts

inductive Json where
  | null
  | bool (b : Bool)
  | num (literal : Text)
  | str (t : Text)
  | arr (items : List Json)
  | obj (fields : List (Text × Json))

namespace Json

/-- A field of an object. Of repeated keys the last one counts. -/
def get (j : Json) (key : Text) : Option Json :=
  match j with
  | obj fields => (fields.reverse.find? fun f => f.1 = key).map Prod.snd
  | _ => none

/-- `serde_json::Map::insert`: objects keep their keys in order. -/
def insert : List (Text × Json) → Text → Json → List (Text × Json)
  | [], key, v => [(key, v)]
  | f :: fields, key, v =>
    if f.1 = key then (key, v) :: fields
    else if key < f.1 then (key, v) :: f :: fields
    else f :: insert fields key v

def asStr : Json → Option Text
  | str t => some t
  | _ => none

end Json

/-- Reading and writing of JSON text. -/
structure JsonCodec where
  parse : Text → Option Json
  render : Json → Text
  renderPretty : Json → Text

/-- A codec for the one object that has no fields. -/
def emptyObjectCodec : JsonCodec := ⟨fun _ => some (.obj []), fun _ => "{}", fun _ => "{}"⟩

end ProtocolSimulation.JsonValues
