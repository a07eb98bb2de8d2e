import SqlTriggers.Catalog.Basic
import SqlTriggers.Dump.Writer
import SqlTriggers.Migration.Generator
import SqlTriggers.Migration.History

/-! What one works on: the declared triggers of an application, its migrations, and a database. -/

namespace SqlTriggers

structure Workspace where
  engine : Engine
  declarations : List Declaration
  history : History
  catalog : Catalog

namespace Workspace

def new (engine : Engine) : Workspace :=
  ⟨engine, [], .empty, .empty⟩

def register (w : Workspace) (d : Declaration) : Workspace :=
  { w with declarations := w.declarations ++ [d] }

def reset (w : Workspace) : Workspace :=
  { w with declarations := [] }

def triggers (w : Workspace) : Except Error (List Trigger) :=
  expansion w.engine w.declarations

def plan (w : Workspace) (cap : UInt32) : Report Plan :=
  (Generator.mk w.engine cap).generate w.declarations w.history.applied

def isCurrent (w : Workspace) : Except Error Bool :=
  upToDate w.engine w.declarations w.history.applied

def record (w : Workspace) (m : Migration) : Workspace × Except Error Unit :=
  match w.history.record m with
  | .ok h => ({ w with history := h }, .ok ())
  | .error e => (w, .error e)

def apply (w : Workspace) (m : Migration) : Workspace × Except Error Unit :=
  match History.apply Catalog.executor w.catalog w.history m with
  | (c, .ok h) => ({ w with history := h, catalog := c }, .ok ())
  | (c, .error e) => ({ w with catalog := c }, .error e)

inductive Outcome where
  | upToDate
  | unnamed
  | migrated (m : Migration) (warnings : List Warning)

def migrate (w : Workspace) (version : UInt64) (cap : UInt32) :
    Workspace × Except Error Outcome :=
  let report := w.plan cap
  match report.result with
  | .error e => (w, .error e)
  | .ok plan =>
    match plan.toMigration? version with
    | none => (w, .ok .unnamed)
    | some m =>
      if plan.isEmpty then (w, .ok .upToDate)
      else
        let (w', result) := w.apply m
        (w', result.map fun _ => .migrated m report.warnings)

def rollback (w : Workspace) : Workspace × Except Error (Option Migration) :=
  match History.rollback Catalog.executor w.catalog w.history with
  | (c, .ok (h, m)) => ({ w with history := h, catalog := c }, .ok m)
  | (c, .error e) => ({ w with catalog := c }, .error e)

def execute (w : Workspace) (sql : String) : Workspace × Except Error Unit :=
  match w.catalog.execute sql with
  | .ok c => ({ w with catalog := c }, .ok ())
  | .error e => (w, .error e)

end Workspace

def version : String := "0.1.0-beta.1"

end SqlTriggers
