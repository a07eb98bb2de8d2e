/-! The database engines and the trigger features that tell them apart. -/

namespace SqlTriggers

/-- How an engine keeps a trigger's body: in a function of its own, in the trigger with one trigger
per table, timing and event, or in the trigger with an optional `WHEN`. -/
inductive Engine where
  | functionBacked
  | inline
  | lightweight
  deriving DecidableEq, Repr

inductive Feature where
  | statementLevel
  | multipleEvents
  | truncate
  | rowLevelTruncate
  | updateColumns
  | declarations
  | securityInvoker
  | securityDefiner
  | securityPrincipal
  | emptyBody
  | conditionalEmptyBody
  deriving DecidableEq, Repr

namespace Engine

def all : List Engine :=
  [.functionBacked, .inline, .lightweight]

def label : Engine → String
  | .functionBacked => "function-backed engine"
  | .inline => "inline engine"
  | .lightweight => "lightweight engine"

def key : Engine → String
  | .functionBacked => "function_backed"
  | .inline => "inline"
  | .lightweight => "lightweight"

def ofKey? (s : String) : Option Engine :=
  all.find? fun e => e.key = s

def offers : Engine → Feature → Bool
  | .functionBacked, .rowLevelTruncate => false
  | .functionBacked, .securityPrincipal => false
  | .functionBacked, _ => true
  | .inline, .securityDefiner => true
  | .inline, .securityPrincipal => true
  | .inline, .emptyBody => true
  | .inline, _ => false
  | .lightweight, .updateColumns => true
  | .lightweight, _ => false

def manyPerSlot : Engine → Bool
  | .inline => false
  | _ => true

end Engine

namespace Feature

def all : List Feature :=
  [.statementLevel, .multipleEvents, .truncate, .rowLevelTruncate, .updateColumns, .declarations,
    .securityInvoker, .securityDefiner, .securityPrincipal, .emptyBody, .conditionalEmptyBody]

def label : Feature → String
  | .statementLevel => "FOR EACH STATEMENT"
  | .multipleEvents => "more than one event per trigger"
  | .truncate => "TRUNCATE events"
  | .rowLevelTruncate => "row-level TRUNCATE"
  | .updateColumns => "UPDATE OF columns"
  | .declarations => "DECLARE blocks"
  | .securityInvoker => "SECURITY INVOKER"
  | .securityDefiner => "SECURITY DEFINER"
  | .securityPrincipal => "an explicit security principal"
  | .emptyBody => "an empty body"
  | .conditionalEmptyBody => "a condition on an empty body"

def lackedBy (f : Feature) : List Engine :=
  Engine.all.filter fun e => !e.offers f

end Feature

end SqlTriggers
