import SqlTriggers.Engine.Statements
import SqlTriggers.Engine.Support

/-! Statements for a trigger that has been checked against its engine. -/

namespace SqlTriggers.Engine

def compile (engine : Engine) (t : Trigger) : Report (List String) :=
  match engine.accept t with
  | .error e => ⟨.error e, []⟩
  | .ok ws => ⟨.ok (engine.createStatements t), ws⟩

end SqlTriggers.Engine
