import SqlTriggers.Declaration.Basic
import SqlTriggers.Engine.Compilation
import SqlTriggers.Sorting

/-! The triggers that an engine has for declarations. An engine with one trigger per slot merges
a group into one trigger; the others have a trigger for every body in it. -/

namespace SqlTriggers

structure Choice where
  condition : Option String
  body : List String
  deriving DecidableEq, Repr

def Choice.header (choice : Choice) (i : Nat) (last : Bool) : String :=
  match i, choice.condition, last with
  | 0, c, _ => "IF (" ++ c.getD "TRUE" ++ ") THEN"
  | _, none, true => "ELSE"
  | _, c, _ => "ELSEIF (" ++ c.getD "TRUE" ++ ") THEN"

def choiceLines (i : Nat) : List Choice → List String
  | [] => []
  | c :: cs => c.header i cs.isEmpty :: c.body.map indent ++ choiceLines (i + 1) cs

/-- One statement that runs the body of the first choice whose condition holds. A single choice
without a condition needs none. -/
def choiceBody (choices : List Choice) : List String :=
  match choices with
  | [⟨none, body⟩] => body
  | _ => [stacked (choiceLines 0 choices ++ ["END IF;"])]

namespace Group

def choices (g : Group) : Except Error (List Choice) :=
  g.members.mapM fun m => do
    let condition ← m.head.filledCondition (m.head.scope g.bindings)
    return ⟨condition, m.statements⟩

def everyDeclaration (g : Group) : List String :=
  g.declarations ++ g.members.flatMap fun m => m.head.declarations

def merge (g : Group) (engine : Engine) : Except Error Trigger := do
  if g.hasNest then
    throw (.nestedGroup engine g.displayName)
  let choices ← g.choices
  return g.trigger g.displayName none g.everyDeclaration (choiceBody choices)

end Group

namespace Engine

def triggersOf (engine : Engine) : Declaration → Except Error (List Trigger)
  | .trigger t => .ok [t]
  | .group g => if engine.manyPerSlot then g.triggers else (g.merge engine).map fun t => [t]

def triggersOfAll (engine : Engine) : List Declaration → Except Error (List Trigger)
  | [] => .ok []
  | d :: ds => do
    let ts ← engine.triggersOf d
    let others ← engine.triggersOfAll ds
    return ts ++ others

def slotConflict? (ts : List Trigger) : Option (Slot × List String) :=
  let taken := ts.flatMap fun t => t.slots.map fun s => (s, t.name)
  let holders (s : Slot) := (taken.filter fun e => e.1 = s).map (·.2)
  (sortOn (·.1) taken).findSome? fun e =>
    if 1 < (holders e.1).length then some (e.1, holders e.1) else none

def requireFreeSlots (engine : Engine) (ts : List Trigger) : Except Error Unit :=
  if engine.manyPerSlot then .ok ()
  else match slotConflict? ts with
    | some (slot, names) => .error (.duplicateSlot engine slot names)
    | none => .ok ()

end Engine

def firstRepeated? (seen : List TriggerKey) : List Trigger → Option Trigger
  | [] => none
  | t :: ts => if t.key ∈ seen then some t else firstRepeated? (t.key :: seen) ts

def requireDistinctKeys (ts : List Trigger) : Except Error Unit :=
  match firstRepeated? [] ts with
  | some t => .error (.duplicateName t.table t.name)
  | none => .ok ()

def expansion (engine : Engine) (ds : List Declaration) : Except Error (List Trigger) := do
  let ts ← engine.triggersOfAll ds
  requireDistinctKeys ts
  engine.requireFreeSlots ts
  return sortOn Trigger.key ts

end SqlTriggers
