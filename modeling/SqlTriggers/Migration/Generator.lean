import SqlTriggers.Declaration.Expansion
import SqlTriggers.Migration.Config
import SqlTriggers.Migration.Plan

/-! From declarations and the applied triggers to a plan. -/

namespace SqlTriggers

structure Generator where
  engine : Engine
  compatibility : UInt32
  deriving DecidableEq, Repr

namespace Generator

def ofEngine (engine : Engine) : Generator :=
  ⟨engine, newestCompatibility⟩

def ofConfig (c : Config) : Generator :=
  ⟨c.engine, c.compatibility⟩

def cap (g : Generator) (t : Trigger) : Trigger :=
  if g.compatibility < t.compatibility then t.withCompatibility g.compatibility else t

def wanted (g : Generator) (ds : List Declaration) :
    Except Error (List Trigger) :=
  (expansion g.engine ds).map fun ts => ts.map g.cap

def diff (g : Generator) (ds : List Declaration) (applied : List Trigger) :
    Except Error Diff :=
  (g.wanted ds).map fun ts => Diff.between g.engine ts applied

/-- The plan, if every trigger that it adds is supported. Nothing is reported before all of them
have been checked. -/
def generate (g : Generator) (ds : List Declaration) (applied : List Trigger) : Report Plan :=
  match g.diff ds applied with
  | .error e => ⟨.error e, []⟩
  | .ok d =>
    match g.engine.acceptAll d.added with
    | .error e => ⟨.error e, []⟩
    | .ok ws => ⟨.ok (Plan.ofDiff g.engine d), ws⟩

end Generator

def Config.logged (c : Config) (silenced : Bool) (ws : List Warning) : List String :=
  SqlTriggers.logged (c.silenceWarnings || silenced) ws

def upToDate (engine : Engine) (ds : List Declaration) (applied : List Trigger) :
    Except Error Bool :=
  ((Generator.ofEngine engine).diff ds applied).map Diff.isEmpty

end SqlTriggers
