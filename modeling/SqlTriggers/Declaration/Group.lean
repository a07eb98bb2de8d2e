import SqlTriggers.Placeholder
import SqlTriggers.Trigger.DefaultName

/-! Groups: several conditional reactions to the same row changes. Members keep their order. A
member carries a body or further members, and sees the bindings of what encloses it under its
own. -/

namespace SqlTriggers

structure MemberHead where
  name : Option String
  condition : Option String
  declarations : List String
  bindings : Bindings
  deriving DecidableEq

inductive Member where
  | leaf (head : MemberHead) (body : List String)
  | nest (head : MemberHead) (members : List Member)

structure Group where
  name : Option String
  table : String
  timing : Timing
  events : EventSet
  columns : List String
  granularity : Granularity
  security : Option Security
  declarations : List String
  bindings : Bindings
  members : List Member
  compatibility : UInt32
  generated : Bool

namespace MemberHead

def scope (h : MemberHead) (enclosing : Bindings) : Bindings :=
  enclosing.override h.bindings

def filledCondition (h : MemberHead) (scope : Bindings) : Except Error (Option String) :=
  match h.condition with
  | none => .ok none
  | some c => (fillHoles c scope).map some

end MemberHead

namespace Member

def head : Member → MemberHead
  | leaf h _ => h
  | nest h _ => h

def isNest : Member → Bool
  | leaf .. => false
  | nest .. => true

def statements : Member → List String
  | leaf _ body => body
  | nest .. => []

end Member

def conjunction : List String → Option String
  | [] => none
  | [c] => some c
  | cs => some (" AND ".intercalate (cs.map fun c => "(" ++ c ++ ")"))

namespace Group

def defaultName (g : Group) (condition : Option String) : String :=
  SqlTriggers.defaultName g.table g.timing g.events g.granularity condition

def displayName (g : Group) : String :=
  g.name.getD (g.defaultName none)

def hasNest (g : Group) : Bool :=
  g.members.any Member.isNest

def trigger (g : Group) (name : String) (condition : Option String)
    (declarations body : List String) : Trigger where
  name := name
  table := g.table
  timing := g.timing
  events := g.events
  columns := g.columns
  granularity := g.granularity
  condition := condition
  security := g.security
  declarations := declarations
  body := body
  compatibility := g.compatibility
  generated := g.generated

mutual

def memberTriggers (g : Group) (bindings : Bindings) (conditions declarations : List String) :
    Member → Except Error (List Trigger)
  | .leaf head body => do
    let condition ← head.filledCondition (head.scope bindings)
    let condition := conjunction (conditions ++ condition.toList)
    let name := head.name.getD (g.defaultName condition)
    return [g.trigger name condition (declarations ++ head.declarations) body]
  | .nest head members => do
    let condition ← head.filledCondition (head.scope bindings)
    membersTriggers g (head.scope bindings) (conditions ++ condition.toList)
      (declarations ++ head.declarations) members

def membersTriggers (g : Group) (bindings : Bindings) (conditions declarations : List String) :
    List Member → Except Error (List Trigger)
  | [] => .ok []
  | m :: ms => do
    let triggers ← memberTriggers g bindings conditions declarations m
    let others ← membersTriggers g bindings conditions declarations ms
    return triggers ++ others

end

def triggers (g : Group) : Except Error (List Trigger) :=
  membersTriggers g g.bindings [] g.declarations g.members

end Group

end SqlTriggers
