import SqlTriggers.Engine.Basic
import SqlTriggers.Engine.Clauses

/-! The statements that create and remove a trigger on each engine. -/

namespace SqlTriggers

namespace Trigger

def functionText (t : Trigger) : String :=
  let security :=
    match t.security with
    | some .definer => ["SECURITY DEFINER"]
    | some .invoker => ["SECURITY INVOKER"]
    | _ => []
  let declarations :=
    if t.declarations.isEmpty then [] else "DECLARE" :: t.declarations.map indent
  stacked (
    ["CREATE OR REPLACE FUNCTION " ++ t.name ++ "()", "RETURNS TRIGGER", "LANGUAGE plpgsql"] ++
    security ++ ["AS $$"] ++ declarations ++ ["BEGIN"] ++ t.body.map indent ++
    t.returnLines.map indent ++ ["END;", "$$;"])

def executingText (t : Trigger) : String :=
  let condition := t.condition.toList.map fun c => "WHEN (" ++ c ++ ")"
  let routine := if t.compatibility = oldestCompatibility then "PROCEDURE" else "FUNCTION"
  stacked (
    ["CREATE TRIGGER " ++ t.headline, t.forEach] ++ condition ++
    ["EXECUTE " ++ routine ++ " " ++ t.name ++ "();"])

def definerClause (t : Trigger) : String :=
  match t.security with
  | some .definer => "DEFINER = CURRENT_USER "
  | some (.principal account) => "DEFINER = " ++ account ++ " "
  | _ => ""

def inlineText (t : Trigger) : String :=
  let body := stacked t.body
  let block :=
    if body.isEmpty then []
    else match t.condition with
      | some c =>
        [indent ("IF " ++ t.guardText c ++ " THEN"), indent (indent body), indent "END IF;"]
      | none => [indent body]
  stacked (
    ["CREATE " ++ t.definerClause ++ "TRIGGER " ++ t.headline, t.forEach, "BEGIN"] ++ block ++
    ["END"])

def lightweightText (t : Trigger) : String :=
  let condition := t.condition.toList.map fun c => "WHEN " ++ t.guardText c
  stacked (
    ["CREATE TRIGGER " ++ t.headline, t.forEach] ++ condition ++ ["BEGIN"] ++ t.body.map indent ++
    ["END;"])

end Trigger

namespace Engine

def createStatements : Engine → Trigger → List String
  | .functionBacked, t => [t.functionText, t.executingText]
  | .inline, t => [t.inlineText]
  | .lightweight, t => [t.lightweightText]

def dropStatements : Engine → Trigger → List String
  | .functionBacked, t =>
    ["DROP TRIGGER IF EXISTS " ++ t.name ++ " ON " ++ t.table ++ ";",
      "DROP FUNCTION IF EXISTS " ++ t.name ++ "();"]
  | _, t => ["DROP TRIGGER IF EXISTS " ++ t.name ++ ";"]

/-- All that the engine is told about a trigger. Triggers are the same if this text is. -/
def rendering (engine : Engine) (t : Trigger) : String :=
  stacked (engine.createStatements t)

end Engine

end SqlTriggers
