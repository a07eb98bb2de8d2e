import SqlTriggers.Placeholder

/-! Drafts of declarations. Settings are made one by one, and each replaces what an earlier one for
the same attribute set, faulty values included. -/

namespace SqlTriggers

def Timing.ofText (s : String) : Except Error Timing :=
  match Timing.ofKey? (folded s) with
  | some t => .ok t
  | none => .error (.invalidTiming s)

def Event.ofText (s : String) : Except Error Event :=
  match Event.ofKey? (folded s) with
  | some e => .ok e
  | none => .error (.invalidEvent s)

def Granularity.ofText (s : String) : Except Error Granularity :=
  match Granularity.ofKey? (folded s) with
  | some g => .ok g
  | none => .error (.invalidGranularity s)

structure Attributes where
  name : Option String
  table : Option String
  timing : Option (Except Error Timing)
  events : Option (Except Error (List Event))
  columns : Option (List String)
  granularity : Option (Except Error Granularity)
  condition : Option String
  security : Option Security
  declarations : List String
  bindings : Bindings
  body : Option (List String)
  generated : Option Bool
  compatibility : Option UInt32

def Attributes.empty : Attributes where
  name := none
  table := none
  timing := none
  events := none
  columns := none
  granularity := none
  condition := none
  security := none
  declarations := []
  bindings := .empty
  body := none
  generated := none
  compatibility := none

inductive Draft where
  | mk (own : Attributes) (branches : List Draft)

/-- One setting of a declaration. Values that come as text have been read, with or without
success. -/
inductive Setting where
  | name (name : String)
  | on (table : String)
  | forEach (granularity : Except Error Granularity)
  | timing (timing : Except Error Timing)
  | events (events : List (Except Error Event))
  | before (events : List (Except Error Event))
  | after (events : List (Except Error Event))
  | when (condition : String)
  | all
  | of (columns : List String)
  | security (security : Security)
  | declare (declarations : List String)
  | bind (key value : String)
  | generated (generated : Bool)
  | compatibility (version : UInt32)
  | body (statements : List String)
  | branch (settings : List Setting)

def firstFault {α : Type} : List (Except Error α) → Except Error (List α)
  | [] => .ok []
  | x :: xs => do
    let a ← x
    let as ← firstFault xs
    return a :: as

namespace Attributes

def set (a : Attributes) : Setting → Attributes
  | .name s => { a with name := some s }
  | .on s => { a with table := some s }
  | .forEach g => { a with granularity := some g }
  | .timing t => { a with timing := some t }
  | .events es => { a with events := some (firstFault es) }
  | .before es => { a with timing := some (.ok .before), events := some (firstFault es) }
  | .after es => { a with timing := some (.ok .after), events := some (firstFault es) }
  | .when c => { a with condition := some c }
  | .all => { a with condition := none }
  | .of cs => { a with columns := some cs }
  | .security s => { a with security := some s }
  | .declare ds => { a with declarations := ds }
  | .bind k v => { a with bindings := a.bindings.insert k v }
  | .generated b => { a with generated := some b }
  | .compatibility n => { a with compatibility := some n }
  | .body ss => { a with body := some ss }
  | .branch _ => a

end Attributes

namespace Draft

def own : Draft → Attributes
  | mk own _ => own

def branches : Draft → List Draft
  | mk _ branches => branches

def empty : Draft :=
  mk .empty []

def hasBranches (d : Draft) : Bool :=
  !d.branches.isEmpty

def set (d : Draft) (s : Setting) : Draft :=
  mk (d.own.set s) d.branches

def addBranch (d branch : Draft) : Draft :=
  mk d.own (d.branches ++ [branch])

mutual

def apply (d : Draft) : Setting → Draft
  | .branch settings => d.addBranch (applyAll empty settings)
  | s => d.set s

def applyAll (d : Draft) : List Setting → Draft
  | [] => d
  | s :: ss => applyAll (apply d s) ss

end

def ofSettings (settings : List Setting) : Draft :=
  applyAll empty settings

end Draft

end SqlTriggers
