import SqlTriggers.Proofs.Declaration.Built
import SqlTriggers.Proofs.Migration.Generator
import SqlTriggers.Proofs.Migration.Name
import SqlTriggers.Proofs.Migration.Plan
import SqlTriggers.Proofs.Workspace.Steady

/-! Runs of migrations and rollbacks over a catalog that also holds foreign objects. -/

namespace SqlTriggers

open History (replay replayFrom Fits FitsAll)

inductive Move where
  | migrate (ds : List Declaration) (version : UInt64) (cap : UInt32)
  | rollback

namespace Workspace

def declare (w : Workspace) (ds : List Declaration) : Workspace :=
  { w with declarations := ds }

def Allows (w : Workspace) : Move → Prop
  | .migrate ds version cap => (∀ d ∈ ds, d.Built) ∧
      ∀ p, ((w.declare ds).plan cap).result = .ok p → p.isEmpty = false →
        ∀ latest, w.history.lastVersion = some latest → latest < version
  | .rollback => True

def after (w : Workspace) : Move → Workspace
  | .migrate ds version cap => ((w.declare ds).migrate version cap).1
  | .rollback => w.rollback.1

inductive Run (engine : Engine) (foreign : Catalog) : List Move → Workspace → Prop
  | start : Run engine foreign [] ⟨engine, [], .empty, foreign⟩
  | step {moves : List Move} {w : Workspace} (move : Move) : Run engine foreign moves w →
      w.Allows move → Run engine foreign (moves ++ [move]) (w.after move)

end Workspace

def Declared (engine : Engine) (moves : List Move) (t : Trigger) : Prop :=
  ∃ ds version cap ts, .migrate ds version cap ∈ moves ∧ expansion engine ds = .ok ts ∧ t ∈ ts

/-- The run's triggers get in the way neither of each other nor of what is foreign. -/
structure Clear (engine : Engine) (foreign : Catalog) (moves : List Move) : Prop where
  oneTable : ∀ t u, Declared engine moves t → Declared engine moves u → t.name = u.name →
    t.table = u.table
  triggerFree : ∀ t, Declared engine moves t → foreign.triggers.get? t.name = none
  functionFree : ∀ t, Declared engine moves t → foreign.functions.get? t.name = none
  closed : ∀ n sql f, foreign.triggers.get? n = some sql → Catalog.calledFunction sql = some f →
    ∃ text, foreign.functions.get? f = some text
  calls : ∀ t, Declared engine moves t → ∀ c ≤ newestCompatibility,
    engine.CallsOnlyOwn (t.withCompatibility c)

lemma Declared.mono {engine : Engine} {moves all : List Move} {t : Trigger}
    (h : Declared engine moves t) (hs : ∀ move ∈ moves, move ∈ all) : Declared engine all t := by
  obtain ⟨ds, version, cap, ts, hm, he, ht⟩ := h
  exact ⟨ds, version, cap, ts, hs _ hm, he, ht⟩

lemma Clear.mono {engine : Engine} {foreign : Catalog} {moves all : List Move}
    (h : Clear engine foreign all) (hs : ∀ move ∈ moves, move ∈ all) :
    Clear engine foreign moves where
  oneTable t u ht hu := h.oneTable t u (ht.mono hs) (hu.mono hs)
  triggerFree t ht := h.triggerFree t (ht.mono hs)
  functionFree t ht := h.functionFree t (ht.mono hs)
  closed := h.closed
  calls t ht := h.calls t (ht.mono hs)

def Form (engine : Engine) (moves : List Move) (t : Trigger) : Prop :=
  ∃ u, Declared engine moves u ∧ u.Checked ∧ t.compatibility ≤ newestCompatibility ∧
    t = u.withCompatibility t.compatibility

section Form

variable {engine : Engine} {foreign : Catalog} {moves : List Move} {t : Trigger}

lemma Form.checked (h : Form engine moves t) : t.Checked := by
  obtain ⟨u, -, hc, -, hu⟩ := h
  rw [hu]
  exact hc.withCompatibility _

lemma Clear.tame (h : Clear engine foreign moves) : Tame engine foreign (Form engine moves) where
  checked _ ht := ht.checked
  calls := by
    rintro t ⟨u, hu, -, hle, ht⟩
    rw [ht]
    exact h.calls u hu _ hle
  oneTable := by
    rintro t t' ⟨u, hu, -, -, ht⟩ ⟨u', hu', -, -, ht'⟩ hn
    rw [ht, ht'] at hn ⊢
    exact h.oneTable u u' hu hu' hn
  triggerFree := by
    rintro t ⟨u, hu, -, -, ht⟩
    rw [ht]
    exact h.triggerFree u hu
  functionFree := by
    rintro t ⟨u, hu, -, -, ht⟩
    rw [ht]
    exact h.functionFree u hu
  closed := h.closed

lemma form_of_mem_operations {ds : List Declaration} {version : UInt64} {cap c : UInt32}
    {ts applied : List Trigger} (hm : .migrate ds version cap ∈ moves) (hb : ∀ d ∈ ds, d.Built)
    (he : expansion engine ds = .ok ts) (ha : ∀ a ∈ applied, Form engine moves a) :
    ∀ op ∈ (Plan.ofDiff engine
      (Diff.between engine (ts.map (Generator.mk engine c).cap) applied)).operations,
      Form engine moves op.trigger := by
  intro op hop
  simp only [Plan.ofDiff, List.mem_append, List.mem_map] at hop
  rcases hop with ⟨t, ht, rfl⟩ | ⟨t, ht, rfl⟩
  · exact ha t (Diff.mem_applied_of_mem_removed ht)
  · obtain ⟨v, hv, htv⟩ := Diff.exists_of_mem_added ht
    obtain ⟨u, hu, huv⟩ := List.mem_map.mp hv
    obtain ⟨hc, hs⟩ := expansion_checked hb he u hu
    have hcap : v.compatibility ≤ newestCompatibility := by
      rw [← huv]
      exact UInt32.le_trans (Generator.cap_compatibility_le _ u) hs.compatibility
    have happlied : ∀ a ∈ applied, a.compatibility ≤ newestCompatibility := by
      intro a hm
      obtain ⟨-, -, -, hle, -⟩ := ha a hm
      exact hle
    have hle : t.compatibility ≤ newestCompatibility := by
      rw [htv]
      exact Diff.createdForm_compatibility_le hcap happlied
    have hform : t = u.withCompatibility t.compatibility := by
      have hv' := Diff.createdForm_eq applied v
      rw [← htv, ← huv, Generator.cap_withCompatibility] at hv'
      exact hv'
    exact ⟨u, ⟨ds, version, cap, ts, hm, he, hu⟩, hc, hle, hform⟩

end Form

variable {engine : Engine} {foreign : Catalog} {w : Workspace} {moves : List Move}

/-- A migration fails only while it is planned, and changes nothing then. A rollback right after
it leads back to where it began. -/
structure Workspace.Migrates (w : Workspace) (version : UInt64) (cap : UInt32) : Prop where
  failing : ∀ e, (w.plan cap).result = .error e → w.migrate version cap = (w, .error e)
  idle : ∀ p, (w.plan cap).result = .ok p → p.isEmpty = true →
    w.migrate version cap = (w, .ok .upToDate)
  carried : ∀ p, (w.plan cap).result = .ok p → p.isEmpty = false →
    ∃ m c, p.toMigration? version = some m ∧
      w.history.apply Catalog.executor w.catalog m = (c, .ok (w.history.push m)) ∧
      w.migrate version cap = ({ w with history := w.history.push m, catalog := c },
        .ok (.migrated m (w.plan cap).warnings)) ∧
      { w with history := w.history.push m, catalog := c }.rollback = (w, .ok (some m))

namespace Workspace

lemma migrate_of_error {version : UInt64} {cap : UInt32} {e : Error}
    (h : (w.plan cap).result = .error e) : w.migrate version cap = (w, .error e) := by
  simp only [migrate, h]

lemma migrate_of_empty {version : UInt64} {cap : UInt32} {p : Plan} {m : Migration}
    (h : (w.plan cap).result = .ok p) (hm : p.toMigration? version = some m)
    (he : p.isEmpty = true) : w.migrate version cap = (w, .ok .upToDate) := by
  simp only [migrate, h, hm, he, if_true]

lemma migrate_of_apply {version : UInt64} {cap : UInt32} {p : Plan} {m : Migration} {c : Catalog}
    {h' : History} (h : (w.plan cap).result = .ok p) (hm : p.toMigration? version = some m)
    (he : p.isEmpty = false)
    (ha : w.history.apply Catalog.executor w.catalog m = (c, .ok h')) :
    w.migrate version cap = ({ w with history := h', catalog := c },
      .ok (.migrated m (w.plan cap).warnings)) := by
  simp only [migrate, h, hm, he, apply, ha]
  rfl

end Workspace

namespace Steady

variable {all : List Move} {ds : List Declaration} {version : UInt64} {cap : UInt32}

lemma planned (h : Steady engine foreign (Form engine all) w)
    (hm : .migrate ds version cap ∈ all) (hb : ∀ d ∈ ds, d.Built) {p : Plan}
    (hp : ((w.declare ds).plan cap).result = .ok p) :
    FitsAll (replay w.history.operations) p.operations ∧
      (∀ op ∈ p.operations, Form engine all op.trigger) ∧
      ∃ name, p.toMigration? version =
        some (.ofOperations version name engine p.operations) := by
  have hp : ((Generator.mk engine cap).generate ds w.history.applied).result = .ok p := by
    rw [← h.engine_eq]
    exact hp
  obtain ⟨ts, he, rfl⟩ := Generator.generate_eq_ok hp
  have hpop := h.recorded.populated
  have cm : ∀ t ∈ (replay w.history.operations).values, t.Checked := fun t ht =>
    (hpop.used t ht).checked
  have ct : ∀ t ∈ ts.map (Generator.mk engine cap).cap, t.Checked :=
    Generator.map_cap_checked _ fun t ht => (expansion_checked hb he t ht).1
  refine ⟨?_, form_of_mem_operations hm hb he hpop.used, ?_⟩
  · exact History.plan_fits engine hpop.keyed (Generator.map_cap_nodup _ (expansion_nodup he)) ct cm
  · exact Plan.exists_toMigration?_eq engine (fun t ht => Diff.checked_of_mem_added ct ht)
      (fun t ht => cm t (Diff.mem_applied_of_mem_removed ht)) version

lemma migrates (h : Steady engine foreign (Form engine all) w)
    (hw : Tame engine foreign (Form engine all)) (hm : .migrate ds version cap ∈ all)
    (ha : w.Allows (.migrate ds version cap)) :
    (w.declare ds).Migrates version cap ∧
      Steady engine foreign (Form engine all) (w.after (.migrate ds version cap)) := by
  obtain ⟨hb, hv⟩ := ha
  have hcarried : ∀ p, ((w.declare ds).plan cap).result = .ok p → p.isEmpty = false →
      ∃ m c, p.toMigration? version = some m ∧
        w.history.apply Catalog.executor w.catalog m = (c, .ok (w.history.push m)) ∧
        Steady engine foreign (Form engine all)
          { w.declare ds with history := w.history.push m, catalog := c } := by
    intro p hp he
    obtain ⟨hf, hu, name, hname⟩ := h.planned hm hb hp
    obtain ⟨c, hc, hs⟩ := h.apply hw hf hu name (hv p hp he)
    exact ⟨_, c, hname, hc, hs.engine_eq, hs.recorded, hs.mirrors⟩
  have hidle : Steady engine foreign (Form engine all) (w.declare ds) :=
    ⟨h.engine_eq, h.recorded, h.mirrors⟩
  constructor
  · refine ⟨fun e => Workspace.migrate_of_error, fun p hp he => ?_, fun p hp he => ?_⟩
    · obtain ⟨-, -, name, hname⟩ := h.planned hm hb hp
      exact Workspace.migrate_of_empty hp hname he
    · obtain ⟨m, c, hname, hc, hs⟩ := hcarried p hp he
      exact ⟨m, c, hname, hc, Workspace.migrate_of_apply hp hname he hc,
        hidle.rollback_push hw hs⟩
  · rw [Workspace.after]
    cases hp : ((w.declare ds).plan cap).result with
    | error e =>
      rw [Workspace.migrate_of_error hp]
      exact hidle
    | ok p =>
      cases he : p.isEmpty with
      | true =>
        obtain ⟨-, -, name, hname⟩ := h.planned hm hb hp
        rw [Workspace.migrate_of_empty hp hname he]
        exact hidle
      | false =>
        obtain ⟨m, c, hname, hc, hs⟩ := hcarried p hp he
        rw [Workspace.migrate_of_apply hp hname he hc]
        exact hs

lemma after_migrate (h : Steady engine foreign (Form engine all) w)
    (hw : Tame engine foreign (Form engine all)) (hm : .migrate ds version cap ∈ all)
    (ha : w.Allows (.migrate ds version cap)) {p : Plan}
    (hp : ((w.declare ds).plan cap).result = .ok p) (he : p.isEmpty = false) :
    ∃ m, p.toMigration? version = some m ∧
      (w.after (.migrate ds version cap)).history = w.history.push m := by
  obtain ⟨m, c, hname, -, hmigrate, -⟩ := (h.migrates hw hm ha).1.carried p hp he
  refine ⟨m, hname, ?_⟩
  rw [Workspace.after, hmigrate]
  rfl

end Steady

lemma Workspace.Run.steady {all : List Move} (hr : Workspace.Run engine foreign moves w)
    (hw : Tame engine foreign (Form engine all)) (hs : ∀ move ∈ moves, move ∈ all) :
    Steady engine foreign (Form engine all) w := by
  induction hr with
  | start => exact ⟨rfl, .empty, mirrors_start engine foreign⟩
  | step move hr ha ih =>
    have h := ih fun mv hm => hs mv (List.mem_append_left _ hm)
    have hmove := hs move (List.mem_append_right _ (List.mem_singleton_self move))
    cases move with
    | migrate ds version cap => exact (h.migrates hw hmove ha).2
    | rollback =>
      obtain ⟨c, hc, hs⟩ := h.rollback hw
      rw [Workspace.after, Workspace.rollback, hc]
      exact hs

def Workspace.Succeeds (w : Workspace) : Move → Prop
  | .migrate ds version cap => (w.declare ds).Migrates version cap
  | .rollback => ∃ c, w.history.rollback Catalog.executor w.catalog =
      (c, .ok (⟨w.history.migrations.dropLast⟩, w.history.latest?)) ∧
      w.rollback = ({ w with history := ⟨w.history.migrations.dropLast⟩, catalog := c },
        .ok w.history.latest?)

theorem Workspace.Run.shows_and_succeeds (hr : Workspace.Run engine foreign moves w)
    (hc : Clear engine foreign moves) : w.Shows engine foreign ∧
      ∀ move, w.Allows move → Clear engine foreign (moves ++ [move]) → w.Succeeds move := by
  constructor
  · exact (hr.steady hc.tame fun _ hm => hm).shows hc.tame
  · intro move ha hc'
    have h := hr.steady hc'.tame fun _ hm => List.mem_append_left _ hm
    cases move with
    | migrate ds version cap =>
      exact (h.migrates hc'.tame (List.mem_append_right _ (List.mem_singleton_self _)) ha).1
    | rollback =>
      obtain ⟨c, hroll, -⟩ := h.rollback hc'.tame
      refine ⟨c, hroll, ?_⟩
      rw [Workspace.rollback, hroll]

section Audit

open Workspace (Run)

def auditCatalog : Catalog where
  functions := .ofList [("audit", "CREATE FUNCTION audit() RETURNS TRIGGER;")]
  triggers := .ofList
    [("audit_tr", "CREATE TRIGGER audit_tr AFTER INSERT ON users EXECUTE FUNCTION audit();")]

def bobOne (compatibility : UInt32) : Trigger :=
  bobCounter "UPDATE groups SET bob_count = bob_count + 1;" compatibility true

def bobTwo (compatibility : UInt32) : Trigger :=
  bobCounter "UPDATE groups SET bob_count = bob_count + 2;" compatibility true

def bobStart : Workspace := ⟨.functionBacked, [], .empty, auditCatalog⟩

def bobFirstMove : Move := .migrate [.trigger (bobOne 1)] 1 0

def bobSecondMove : Move := .migrate [.trigger (bobTwo 1)] 2 1

def bobMoves : List Move := [bobFirstMove, bobSecondMove]

lemma declared_bobMoves {t : Trigger}
    (h : Declared .functionBacked (bobMoves ++ [.rollback]) t) :
    ∃ statement, t = bobCounter statement 1 true := by
  obtain ⟨ds, version, cap, ts, hm, he, ht⟩ := h
  have hone : ∀ statement, expansion .functionBacked [.trigger (bobCounter statement 1 true)] =
      .ok [bobCounter statement 1 true] := fun _ => rfl
  simp only [bobMoves, bobFirstMove, bobSecondMove, bobOne, bobTwo, List.cons_append,
    List.nil_append, List.mem_cons, Move.migrate.injEq, reduceCtorEq, List.not_mem_nil,
    or_false] at hm
  rcases hm with ⟨rfl, -, -⟩ | ⟨rfl, -, -⟩
  · obtain rfl := Except.ok.inj ((hone _).symm.trans he)
    exact ⟨_, List.mem_singleton.mp ht⟩
  · obtain rfl := Except.ok.inj ((hone _).symm.trans he)
    exact ⟨_, List.mem_singleton.mp ht⟩

lemma eq_or_eq_of_le_newest {c : UInt32} (hc : c ≤ newestCompatibility) : c = 0 ∨ c = 1 := by
  have hle : c.toNat ≤ 1 := hc
  rcases Nat.le_one_iff_eq_zero_or_eq_one.mp hle with h | h
  · exact .inl (UInt32.toNat_inj.mp h)
  · exact .inr (UInt32.toNat_inj.mp h)

lemma bobCounter_calls (statement : String) {c : UInt32} (hc : c ≤ newestCompatibility) :
    Engine.functionBacked.CallsOnlyOwn (bobCounter statement c true) := by
  have htext : Engine.functionBacked.triggerText (bobCounter statement c true) =
      Engine.functionBacked.triggerText (bobCounter "" c true) := rfl
  have hcall : (bobCounter statement c true).callText = (bobCounter "" c true).callText := rfl
  rw [Engine.CallsOnlyOwn, htext, hcall]
  have hboth : Engine.functionBacked.CallsOnlyOwn (bobCounter "" 0 true) ∧
      Engine.functionBacked.CallsOnlyOwn (bobCounter "" 1 true) := by
    simp only [Engine.callsOnlyOwn_iff_tails, Engine.triggerText, Trigger.toList_executingText,
      Trigger.toList_headline, Trigger.forEach, String.toList_append]
    decide +kernel
  rcases eq_or_eq_of_le_newest hc with rfl | rfl
  · exact hboth.1
  · exact hboth.2

lemma bobMoves_clear : Clear .functionBacked auditCatalog (bobMoves ++ [.rollback]) := by
  refine ⟨?_, ?_, ?_, ?_, ?_⟩
  · intro t u ht hu _
    obtain ⟨_, rfl⟩ := declared_bobMoves ht
    obtain ⟨_, rfl⟩ := declared_bobMoves hu
    rfl
  · intro t ht
    obtain ⟨_, rfl⟩ := declared_bobMoves ht
    rfl
  · intro t ht
    obtain ⟨_, rfl⟩ := declared_bobMoves ht
    rfl
  · intro n sql f hs hf
    have hmem : (n, sql) ∈ auditCatalog.triggers.entries := OrderedMap.get?_eq_some_iff.mp hs
    obtain ⟨rfl, rfl⟩ := Prod.mk.inj (List.mem_singleton.mp hmem)
    have hcall : Catalog.calledFunction
        "CREATE TRIGGER audit_tr AFTER INSERT ON users EXECUTE FUNCTION audit();" =
          some "audit" := by
      decide +kernel
    obtain rfl := Option.some.inj (hcall.symm.trans hf)
    exact ⟨_, rfl⟩
  · intro t ht c hc
    obtain ⟨_, rfl⟩ := declared_bobMoves ht
    exact bobCounter_calls _ hc

lemma bobFirstMove_allowed : bobStart.Allows bobFirstMove := by
  refine ⟨fun d hd => List.mem_singleton.mp hd ▸ bobCounter_built _ (by simp), ?_⟩
  intro p _ _ latest hl
  exact absurd hl (Option.some_ne_none latest).symm

-- The first cap keeps the trigger at the oldest rules, so the edit brings the newest ones too.
lemma bobMoves_plans :
    ((Generator.mk .functionBacked 0).generate [.trigger (bobOne 1)] []).result =
        .ok (Plan.ofDiff .functionBacked ⟨[bobOne 0], []⟩) ∧
      ((Generator.mk .functionBacked 1).generate [.trigger (bobTwo 1)] [bobOne 0]).result =
        .ok (Plan.ofDiff .functionBacked ⟨[bobTwo 1], [bobOne 0]⟩) := by
  constructor <;> decide +kernel

lemma bobFirstMove_run : ∃ w name, Run .functionBacked auditCatalog [bobFirstMove] w ∧
    w.history = History.empty.push
      (.ofOperations 1 name .functionBacked [.create (bobOne 0)]) := by
  have hstart : Run .functionBacked auditCatalog [] bobStart := .start
  obtain ⟨m, hm, hh⟩ := (hstart.steady bobMoves_clear.tame nofun).after_migrate bobMoves_clear.tame
    List.mem_cons_self bobFirstMove_allowed bobMoves_plans.1 rfl
  obtain ⟨name, -, rfl⟩ := Option.map_eq_some_iff.mp hm
  exact ⟨_, name, hstart.step bobFirstMove bobFirstMove_allowed, hh⟩

lemma bobMoves_run : ∃ w, Run .functionBacked auditCatalog bobMoves w ∧
    w.history.migrations.map Migration.version = [1, 2] ∧ w.history.applied = [bobTwo 1] := by
  obtain ⟨w, name, hr, hh⟩ := bobFirstMove_run
  have hsteady := hr.steady bobMoves_clear.tame
    fun _ hmove => List.mem_singleton.mp hmove ▸ List.mem_cons_self
  have hallowed : w.Allows bobSecondMove := by
    refine ⟨fun d hd => List.mem_singleton.mp hd ▸ bobCounter_built _ (by simp), ?_⟩
    intro p _ _ latest hl
    rw [hh] at hl
    rw [← Option.some.inj (show some 1 = some latest from hl)]
    decide
  have hplan : ((w.declare [.trigger (bobTwo 1)]).plan 1).result =
      .ok (Plan.ofDiff .functionBacked ⟨[bobTwo 1], [bobOne 0]⟩) := by
    have happlied : w.history.applied = [bobOne 0] := by
      rw [hh]
      rfl
    rw [Workspace.plan, Workspace.declare, happlied, hsteady.engine_eq]
    exact bobMoves_plans.2
  obtain ⟨m, hm, hh'⟩ := hsteady.after_migrate bobMoves_clear.tame
    (List.mem_cons_of_mem _ List.mem_cons_self) hallowed hplan rfl
  obtain ⟨_, -, rfl⟩ := Option.map_eq_some_iff.mp hm
  refine ⟨_, hr.step bobSecondMove hallowed, ?_⟩
  rw [bobSecondMove, hh', hh]
  exact ⟨rfl, rfl⟩

theorem bobMoves_shows_and_succeeds : ∃ w, Run .functionBacked auditCatalog bobMoves w ∧
    w.history.migrations.map Migration.version = [1, 2] ∧ w.history.applied = [bobTwo 1] ∧
    Clear .functionBacked auditCatalog (bobMoves ++ [.rollback]) ∧
    w.Shows .functionBacked auditCatalog ∧ w.Succeeds .rollback := by
  obtain ⟨w, hr, hversions, happlied⟩ := bobMoves_run
  have h := hr.shows_and_succeeds (bobMoves_clear.mono fun _ => List.mem_append_left _)
  exact ⟨w, hr, hversions, happlied, bobMoves_clear, h.1, h.2 .rollback trivial bobMoves_clear⟩

end Audit

end SqlTriggers
