import SqlTriggers.Declaration.Basic
import SqlTriggers.Declaration.Draft
import SqlTriggers.Trigger.Statement

/-! Freezing a draft. The attributes are checked one after the other, and the first fault is
reported. -/

namespace SqlTriggers

namespace Attributes

structure Common where
  table : String
  timing : Timing
  events : EventSet
  columns : List String
  granularity : Granularity
  security : Option Security
  compatibility : UInt32
  generated : Bool
  deriving DecidableEq, Repr

def required {α : Type} (field : Attribute) : Option (Except Error α) →
    Except Error α
  | none => .error (.missingField field)
  | some value => value

def common (a : Attributes) : Except Error Common := do
  let table ← required .table (a.table.map .ok)
  checkTableName table
  let timing ← required .timing a.timing
  let events ← (required .events a.events).map EventSet.ofList
  if events.isEmpty then
    throw (.emptyEvents table)
  let granularity ← a.granularity.getD (.ok .row)
  let columns := a.columns.getD []
  columns.forM checkColumnName
  if !columns.isEmpty && !events.contains .update then
    throw (.columnsWithoutUpdate (a.name.getD table))
  if let some (.principal account) := a.security then
    checkPrincipal account
  let compatibility := a.compatibility.getD newestCompatibility
  if newestCompatibility < compatibility then
    throw (.unknownCompatibility compatibility)
  return {
    table, timing, events, columns, granularity, security := a.security, compatibility,
    generated := a.generated.getD false }

def keep {α : Type} [DecidableEq α] (group : String) (field : Attribute) (own : Option α)
    (common : α) : Except Error Unit :=
  if own.all (· = common) then .ok () else .error (.groupMemberOverride group field)

def requireCommon (a : Attributes) (group : String) (s : Common) : Except Error Unit := do
  keep group .table a.table s.table
  let timing ← a.timing.mapM id
  keep group .timing timing s.timing
  let events ← a.events.mapM id
  keep group .events (events.map EventSet.ofList) s.events
  let granularity ← a.granularity.mapM id
  keep group .granularity granularity s.granularity
  keep group .columns a.columns s.columns
  keep group .security (a.security.map some) s.security
  keep group .generated a.generated s.generated
  keep group .compatibility a.compatibility s.compatibility

end Attributes

namespace Draft

open Attributes (Common)

def checkTriggerName (name : String) : Except Error Unit :=
  checkIdentifier "trigger name" name

def freezeCondition (a : Attributes) : Except Error (Option String) :=
  match a.condition with
  | none => .ok none
  | some c => do
    let c ← fillHoles c a.bindings
    return if c.isEmpty then none else some c

def freezeTrigger (a : Attributes) : Except Error Trigger := do
  let s ← a.common
  let condition ← freezeCondition a
  let name := a.name.getD (defaultName s.table s.timing s.events s.granularity condition)
  checkTriggerName name
  let body ← Attributes.required .body (a.body.map .ok)
  return {
    name, table := s.table, timing := s.timing, events := s.events, columns := s.columns,
    granularity := s.granularity, condition, security := s.security,
    declarations := Statement.canonicalList a.declarations, body := Statement.canonicalList body,
    compatibility := s.compatibility, generated := s.generated }

def freezeHead (a : Attributes) : MemberHead where
  name := a.name
  condition := (a.condition.map trimmed).filter fun c => !c.isEmpty
  declarations := Statement.canonicalList a.declarations
  bindings := a.bindings

mutual

def freezeMember (group : String) (s : Common) : Draft → Except Error Member
  | .mk a branches => do
    a.requireCommon group s
    a.name.forM checkTriggerName
    match branches with
    | [] =>
      let body := Statement.canonicalList (a.body.getD [])
      if body.isEmpty then
        throw (.emptyGroupMember group)
      return .leaf (freezeHead a) body
    | b :: bs =>
      if a.body.isSome then
        throw (.bodyOnGroup group)
      let first ← freezeMember group s b
      let others ← freezeMembers group s bs
      return .nest (freezeHead a) (first :: others)

def freezeMembers (group : String) (s : Common) : List Draft → Except Error (List Member)
  | [] => .ok []
  | b :: bs => do
    let first ← freezeMember group s b
    let others ← freezeMembers group s bs
    return first :: others

end

def freezeGroup (a : Attributes) (branches : List Draft) : Except Error Group := do
  let s ← a.common
  a.name.forM checkTriggerName
  let name := a.name.getD (defaultName s.table s.timing s.events s.granularity none)
  if a.body.isSome then
    throw (.bodyOnGroup name)
  let members ← freezeMembers name s branches
  let group : Group := {
    name := a.name, table := s.table, timing := s.timing, events := s.events,
    columns := s.columns, granularity := s.granularity, security := s.security,
    declarations := Statement.canonicalList a.declarations, bindings := a.bindings, members,
    compatibility := s.compatibility, generated := s.generated }
  let triggers ← group.triggers
  triggers.forM fun t => checkTriggerName t.name
  return group

def freeze (d : Draft) : Except Error Declaration :=
  if d.hasBranches then (freezeGroup d.own d.branches).map .group
  else (freezeTrigger d.own).map .trigger

def freezeSingle (d : Draft) : Except Error Trigger := do
  match ← d.freeze with
  | .trigger t => return t
  | .group g => throw (.notASingleTrigger g.displayName)

def freezeGenerated (d : Draft) : Except Error Declaration :=
  (d.set (.generated true)).freeze

end Draft

end SqlTriggers
