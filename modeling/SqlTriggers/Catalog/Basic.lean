import SqlTriggers.Catalog.Statement
import SqlTriggers.Error
import SqlTriggers.Migration.History
import SqlTriggers.OrderedMap
import SqlTriggers.Text.Lines

/-! A database's triggers and functions, kept in memory. A catalog understands the statements that
the engines are given, and refuses what a database would refuse. -/

namespace SqlTriggers

abbrev Snapshot := OrderedMap String String

structure Catalog where
  functions : OrderedMap String String
  triggers : OrderedMap String String
  deriving DecidableEq

inductive Refusal where
  | triggerExists (name : String)
  | functionMissing (name : String)
  | functionInUse (name : String)
  | unrecognised
  deriving DecidableEq, Repr

def Refusal.reason : Refusal → String
  | .triggerExists name => "trigger \"" ++ name ++ "\" already exists"
  | .functionMissing name => "function " ++ name ++ "() does not exist"
  | .functionInUse name => "other objects depend on function " ++ name ++ "()"
  | .unrecognised => "unrecognised statement"

namespace Catalog

def empty : Catalog := ⟨.empty, .empty⟩

def calledFunction (sql : String) : Option String :=
  (CatalogStatement.called? sql.toList).map String.ofList

def addTrigger (c : Catalog) (name sql : String) : Except Refusal Catalog :=
  if c.triggers.contains name then .error (.triggerExists name)
  else
    match calledFunction sql with
    | some f =>
      if c.functions.contains f then .ok { c with triggers := c.triggers.insert name sql }
      else .error (.functionMissing f)
    | none => .ok { c with triggers := c.triggers.insert name sql }

def removeFunction (c : Catalog) (name : String) : Except Refusal Catalog :=
  if c.triggers.values.any fun sql => calledFunction sql = some name then
    .error (.functionInUse name)
  else .ok { c with functions := c.functions.erase name }

def step (c : Catalog) (sql : String) : Except Refusal Catalog :=
  match CatalogStatement.read? sql.toList with
  | some (.createFunction name) =>
    .ok { c with functions := c.functions.insert (String.ofList name) sql }
  | some (.createTrigger name) => c.addTrigger (String.ofList name) sql
  | some (.dropTrigger name) =>
    .ok { c with triggers := c.triggers.erase (String.ofList name) }
  | some (.dropFunction name) => c.removeFunction (String.ofList name)
  | none => .error .unrecognised

def execute (c : Catalog) (sql : String) : Except Error Catalog :=
  let sql := trimmed sql
  match c.step sql with
  | .ok c' => .ok c'
  | .error r => .error (.execution sql r.reason)

def executor : Executor Catalog where
  run c sql :=
    match c.execute sql with
    | .ok c' => (c', .ok ())
    | .error e => (c, .error e)

def liveText (c : Catalog) (sql : String) : String :=
  match (calledFunction sql).bind c.functions.get? with
  | some f => f ++ "\n" ++ sql
  | none => sql

def snapshot (c : Catalog) : Snapshot :=
  c.triggers.mapValues c.liveText

def countContaining (c : Catalog) (needle : String) : Nat :=
  c.snapshot.values.countP fun ddl => Text.occurs needle.toList ddl.toList

end Catalog

end SqlTriggers
