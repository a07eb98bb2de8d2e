import SqlTriggers.Proofs.Migration.Generator
import SqlTriggers.Proofs.Migration.Plan

/-! A generation run tells its sink nothing, or it has a plan and tells the sink everything about what
the plan creates. -/

namespace SqlTriggers

def Report.sentTo {α σ : Type} (r : Report α) (sink : σ → Warning → σ) (s : σ) : σ :=
  r.warnings.foldl sink s

namespace Generator

theorem generate_all_or_nothing (g : Generator) (ds : List Declaration) (applied : List Trigger)
    {σ : Type} (sink : σ → Warning → σ) (s : σ) :
    let r := g.generate ds applied
    (∀ e, r.result = .error e → r.sentTo sink s = s) ∧
      ((∃ p, r.result = .ok p) ↔
        ∃ d, g.diff ds applied = .ok d ∧ ∀ t ∈ d.added, g.engine.Accepts t) ∧
      ∀ p, r.result = .ok p → g.diff ds applied = .ok p.diff ∧
        p.created = p.diff.added ∧ p.dropped = p.diff.removed ∧
        p.operations = p.dropped.map .drop ++ p.created.map .create ∧
        (∀ t ∈ p.created, g.engine.accept t = .ok (g.engine.warningsFor t)) ∧
        r.sentTo sink s = (p.created.flatMap g.engine.warningsFor).foldl sink s ∧
        p.up = p.dropped.flatMap g.engine.dropStatements ++
          p.created.flatMap g.engine.createStatements ∧
        p.down = (p.operations.reverse.flatMap fun op => op.inverse.statements g.engine) ∧
        p.down = p.created.reverse.flatMap g.engine.dropStatements ++
          p.dropped.reverse.flatMap g.engine.createStatements := by
  intro r
  refine ⟨fun e he => ?_, ?_, fun p hp => ?_⟩
  · rw [Report.sentTo, warnings_of_error he, List.foldl_nil]
  · simp only [r, generate_result_eq_ok_iff]
    exact ⟨fun ⟨_, d, hd, ha, _⟩ => ⟨d, hd, ha⟩, fun ⟨d, hd, ha⟩ => ⟨_, d, hd, ha, rfl⟩⟩
  · obtain ⟨d, hd, ha, rfl⟩ := generate_result_eq_ok_iff.mp hp
    have haccept : ∀ t ∈ d.added, g.engine.accept t = .ok (g.engine.warningsFor t) :=
      fun t ht => Engine.accept_eq_ok_iff.mpr ⟨ha t ht, rfl⟩
    rw [Plan.created_ofDiff, Plan.dropped_ofDiff]
    refine ⟨hd, rfl, rfl, rfl, haccept, ?_, Plan.up_ofDiff g.engine d, rfl,
      Plan.down_ofDiff g.engine d⟩
    rw [Report.sentTo, show r = _ from generate_of_accepts hd ha]

def bobTotal : Trigger := { bobCounter "SELECT 1;" 1 true with declarations := ["total integer;"] }

def visitsAsApp : Trigger :=
  { bobCounter "SELECT 1;" 1 true with table := "visits", security := some (.principal "app") }

theorem generate_all_or_nothing_bobTotal :
    let g := ofEngine .functionBacked
    let keep : List Warning → Warning → List Warning := fun ws w => ws ++ [w]
    let old := bobCounter "SELECT 1;" 1 true
    (∃ p, (g.generate [.trigger bobTotal] [old]).result = .ok p ∧
        p.created = [bobTotal] ∧ p.dropped = [old] ∧
        p.down = g.engine.dropStatements bobTotal ++ g.engine.createStatements old ∧
        (g.generate [.trigger bobTotal] [old]).sentTo keep [] =
          [⟨.functionBacked, "bob_tr", .declarations⟩]) ∧
      (g.generate [.trigger bobTotal, .trigger visitsAsApp] [old]).sentTo keep [] = [] := by
  intro g keep old
  constructor
  · have hdiff : g.diff [.trigger bobTotal] [old] = .ok ⟨[bobTotal], [old]⟩ := by decide +kernel
    obtain ⟨-, hplan, hall⟩ := generate_all_or_nothing g [.trigger bobTotal] [old] keep []
    obtain ⟨p, hp⟩ := hplan.mpr ⟨_, hdiff, by decide⟩
    obtain ⟨hd, hcreated, hdropped, -, -, hsent, -, -, hdown⟩ := hall p hp
    rw [← Except.ok.inj (hdiff.symm.trans hd)] at hcreated hdropped
    refine ⟨p, hp, hcreated, hdropped, ?_, ?_⟩
    · rw [hdown, hcreated, hdropped]
      simp
    · rw [hsent, hcreated]
      rfl
  · obtain ⟨hnone, -⟩ :=
      generate_all_or_nothing g [.trigger bobTotal, .trigger visitsAsApp] [old] keep []
    exact hnone (.unsupportedFeature .functionBacked .securityPrincipal "bob_tr") (by decide +kernel)

end Generator

end SqlTriggers
