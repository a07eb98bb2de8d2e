import SqlTriggers.Migration.Config
import SqlTriggers.Migration.History
import SqlTriggers.Trigger.Json

/-! Operations, histories and configurations as JSON. -/

namespace SqlTriggers

def badJson : Error := .serialization .badJson

namespace Operation

def key : Operation → String
  | create _ => "create"
  | drop _ => "drop"

def toJson (op : Operation) : Json :=
  .ofMembers [("op", .ofString op.key), ("trigger", op.trigger.toJson)]

def ofKey? (key : String) (t : Trigger) : Option Operation :=
  if key = "create" then some (create t)
  else if key = "drop" then some (drop t)
  else none

/-- The two members come in either order. A trigger that comes first is taken in as a whole before
it is known what it is for, and so must be readable as a whole. -/
def ofJson? (j : Json) : Option Operation := do
  let fs ← j.fields? ["op", "trigger"] false
  let key ← Json.field? fs "op" Json.word?
  let content ← fs.lookup "trigger"
  if (fs.head?.map (·.1)) = some "trigger" && !content.readable then none
  else ofKey? key (← Trigger.ofJson? content)

def read? (s : String) : Option Operation :=
  (Json.read? s).bind ofJson?

end Operation

namespace Migration

def toJson (m : Migration) : Json :=
  .ofMembers [
    ("version", .ofNat m.version.toNat), ("name", .ofString m.name),
    ("engine", .ofString m.engine.key), ("operations", .ofList Operation.toJson m.operations),
    ("up", .ofList .ofString m.up), ("down", .ofList .ofString m.down)]

def ofJson? (j : Json) : Option Migration := do
  let fs ← j.fields? ["version", "name", "engine", "operations", "up", "down"] false
  return {
    version := ← Json.field? fs "version" Json.uint64?
    name := ← Json.field? fs "name" Json.text?
    engine := ← Json.field? fs "engine" fun j => j.word?.bind Engine.ofKey?
    operations := ← Json.fieldOr? fs "operations" (Json.list? Operation.ofJson?) []
    up := ← Json.field? fs "up" (Json.list? Json.text?)
    down := ← Json.field? fs "down" (Json.list? Json.text?) }

end Migration

namespace History

def toJson (h : History) : Json :=
  .ofMembers [("migrations", .ofList Migration.toJson h.migrations)]

def ofJson? (j : Json) : Option (List Migration) := do
  let fs ← j.fields? ["migrations"] false
  Json.field? fs "migrations" (Json.list? Migration.ofJson?)

def write (h : History) : String :=
  h.toJson.prettyText

def read (s : String) : Except Error History :=
  match (Json.read? s).bind ofJson? with
  | some ms => ofMigrations ms
  | none => .error badJson

end History

namespace Config

def ofJson? (j : Json) : Option Config := do
  let fs ← j.fields? ["engine", "silence_warnings", "compatibility"] true
  return {
    engine := ← Json.fieldOr? fs "engine" (fun j => j.word?.bind Engine.ofKey?) default.engine
    silenceWarnings := ← Json.fieldOr? fs "silence_warnings" Json.bool? default.silenceWarnings
    compatibility := ← Json.fieldOr? fs "compatibility" Json.uint32? default.compatibility }

def read (s : String) : Except Error Config :=
  match (Json.read? s).bind ofJson? with
  | some c => c.check.map fun _ => c
  | none => .error badJson

end Config

end SqlTriggers
