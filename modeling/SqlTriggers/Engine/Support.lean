import SqlTriggers.Error

/-! Which features a trigger uses, and what an engine says to them: a feature that it lacks is an
error, one that another engine lacks is a warning. -/

namespace SqlTriggers

structure Warning where
  engine : Engine
  trigger : String
  feature : Feature
  deriving DecidableEq, Repr

namespace Warning

def message (w : Warning) : String :=
  "trigger '" ++ w.trigger ++ "' uses " ++ w.feature.label ++ ", which " ++ w.engine.label ++
    " supports but is not portable to " ++ ", ".intercalate (w.feature.lackedBy.map Engine.label)

def logLine (w : Warning) : String :=
  "trigger_forge: " ++ w.message

end Warning

structure Report (α : Type) where
  result : Except Error α
  warnings : List Warning

def logged (silenced : Bool) (ws : List Warning) : List String :=
  if silenced then [] else ws.map Warning.logLine

namespace Trigger

def uses (t : Trigger) : Feature → Bool
  | .statementLevel => t.granularity = .statement
  | .multipleEvents => 1 < t.events.size
  | .truncate => t.firesOn .truncate
  | .rowLevelTruncate => t.firesOn .truncate && t.granularity = .row
  | .updateColumns => !t.columns.isEmpty
  | .declarations => !t.declarations.isEmpty
  | .securityInvoker => t.security = some .invoker
  | .securityDefiner => t.security = some .definer
  | .securityPrincipal =>
    match t.security with
    | some (.principal _) => true
    | _ => false
  | .emptyBody => t.body.isEmpty
  | .conditionalEmptyBody => t.body.isEmpty && t.condition.isSome

def features (t : Trigger) : List Feature :=
  Feature.all.filter t.uses

end Trigger

namespace Engine

def weigh (engine : Engine) (trigger : String) : List Feature → Except Error (List Warning)
  | [] => .ok []
  | f :: fs => do
    if !engine.offers f then
      throw (.unsupportedFeature engine f trigger)
    let ws ← weigh engine trigger fs
    return if f.lackedBy.isEmpty then ws else ⟨engine, trigger, f⟩ :: ws

def accept (engine : Engine) (t : Trigger) : Except Error (List Warning) :=
  if newestCompatibility < t.compatibility then .error (.unknownCompatibility t.compatibility)
  else engine.weigh t.name t.features

def acceptAll (engine : Engine) : List Trigger → Except Error (List Warning)
  | [] => .ok []
  | t :: ts => do
    let ws ← engine.accept t
    let others ← engine.acceptAll ts
    return ws ++ others

end Engine

end SqlTriggers
