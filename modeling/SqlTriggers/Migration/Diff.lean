import SqlTriggers.Engine.Statements
import SqlTriggers.Sorting

/-! What has to change between the triggers that are applied and those that are declared. Two
triggers are the same if the engine is told the same about them. -/

namespace SqlTriggers

structure Diff where
  added : List Trigger
  removed : List Trigger
  deriving DecidableEq, Repr

namespace Diff

def isEmpty (d : Diff) : Bool :=
  d.added.isEmpty && d.removed.isEmpty

def replaced (d : Diff) : List (Trigger × Trigger) :=
  d.removed.filterMap fun old =>
    (d.added.find? fun new => new.identity = old.identity).map fun new => (old, new)

def appliedCompatibility (applied : List Trigger) (k : TriggerKey) : Option UInt32 :=
  (applied.reverse.find? fun t => t.key = k).map Trigger.compatibility

/-- A declared trigger as the engine is told about it when it is compared: a rendering that is
already applied is kept, so that new rendering rules alone change nothing. -/
def comparedRendering (engine : Engine) (applied : List Trigger) (t : Trigger) : String :=
  match appliedCompatibility applied t.key with
  | some c => engine.rendering (t.withCompatibility c)
  | none => engine.rendering t

def createdForm (applied : List Trigger) (t : Trigger) : Trigger :=
  match appliedCompatibility applied t.key with
  | some c => t.withCompatibility (if c < t.compatibility then t.compatibility else c)
  | none => t

/-- The changes that lead from the applied triggers to the declared ones. A trigger that no model
declared is only removed when a declaration takes over its table and name. -/
def between (engine : Engine) (declared applied : List Trigger) : Diff :=
  let appliedRenderings := applied.map engine.rendering
  let changed := declared.filter fun t =>
    !appliedRenderings.contains (comparedRendering engine applied t)
  let declaredRenderings := declared.map (comparedRendering engine applied)
  let takenOver (t : Trigger) := changed.any fun d => d.key = t.key
  let removed := applied.filter fun t =>
    (t.generated || takenOver t) && !declaredRenderings.contains (engine.rendering t)
  { added := sortOn Trigger.key (changed.map (createdForm applied))
    removed := sortOn Trigger.key removed }

end Diff

end SqlTriggers
