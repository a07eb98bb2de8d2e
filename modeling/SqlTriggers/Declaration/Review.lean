import SqlTriggers.Declaration.Expansion
import SqlTriggers.Declaration.Freeze

/-! Freezing a draft and checking the declaration against an engine at once. -/

namespace SqlTriggers

def Engine.review (engine : Engine) : List Trigger → Report Unit
  | [] => ⟨.ok (), []⟩
  | t :: ts =>
    match engine.accept t with
    | .error e => ⟨.error e, []⟩
    | .ok ws =>
      let others := engine.review ts
      ⟨others.result, ws ++ others.warnings⟩

def Draft.freezeFor (d : Draft) (engine : Engine) : Report Declaration :=
  match d.freeze with
  | .error e => ⟨.error e, []⟩
  | .ok declaration =>
    match engine.triggersOf declaration with
    | .error e => ⟨.error e, []⟩
    | .ok ts =>
      let report := engine.review ts
      ⟨report.result.map fun _ => declaration, report.warnings⟩

end SqlTriggers
