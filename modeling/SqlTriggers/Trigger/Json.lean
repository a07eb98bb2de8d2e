import SqlTriggers.Json.Printer
import SqlTriggers.Json.Reader
import SqlTriggers.Trigger.Basic

/-! Triggers as JSON. Lists that are empty and attributes that are absent are left out. -/

namespace SqlTriggers

def Security.toJson : Security → Json
  | .invoker => .ofString "invoker"
  | .definer => .ofString "definer"
  | .principal account => .ofMembers [("principal", .ofString account)]

def Security.ofWord? : String → Option Security
  | "invoker" => some .invoker
  | "definer" => some .definer
  | _ => none

def Security.ofJson? (j : Json) : Option Security :=
  match j.word? with
  | some w => Security.ofWord? w
  | none =>
    match j.members? with
    | some [("principal", account)] => account.text?.map .principal
    | _ => none

namespace Trigger

def fieldNames : List String :=
  ["name", "table", "timing", "events", "columns", "granularity", "condition", "security",
    "declarations", "body", "compatibility", "generated"]

def listField (name : String) (xs : List String) : List (String × Json) :=
  if xs.isEmpty then [] else [(name, .ofList .ofString xs)]

def toJson (t : Trigger) : Json :=
  .ofMembers (
    [("name", .ofString t.name), ("table", .ofString t.table),
      ("timing", .ofString t.timing.key),
      ("events", .ofList (fun e => .ofString e.key) t.events.toList)] ++
    listField "columns" t.columns ++
    [("granularity", .ofString t.granularity.key)] ++
    (t.condition.toList.map fun c => ("condition", .ofString c)) ++
    (t.security.toList.map fun s => ("security", s.toJson)) ++
    listField "declarations" t.declarations ++
    [("body", .ofList .ofString t.body), ("compatibility", .ofNat t.compatibility.toNat),
      ("generated", .bool t.generated)])

def ofJson? (j : Json) : Option Trigger := do
  let fs ← j.fields? fieldNames false
  let texts := Json.list? Json.text?
  return {
    name := ← Json.field? fs "name" Json.text?
    table := ← Json.field? fs "table" Json.text?
    timing := ← Json.field? fs "timing" fun j => j.word?.bind Timing.ofKey?
    events := EventSet.ofList
      (← Json.field? fs "events" (Json.list? fun j => j.word?.bind Event.ofKey?))
    columns := ← Json.fieldOr? fs "columns" texts []
    granularity := ←
      Json.fieldOr? fs "granularity" (fun j => j.word?.bind Granularity.ofKey?) .row
    condition := ← Json.fieldOr? fs "condition" (Json.nullable? Json.text?) none
    security := ← Json.fieldOr? fs "security" (Json.nullable? Security.ofJson?) none
    declarations := ← Json.fieldOr? fs "declarations" texts []
    body := ← Json.field? fs "body" texts
    compatibility := ← Json.field? fs "compatibility" Json.uint32?
    generated := ← Json.field? fs "generated" Json.bool? }

def read? (s : String) : Option Trigger :=
  (Json.read? s).bind ofJson?

end Trigger

end SqlTriggers
