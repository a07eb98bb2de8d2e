import SqlTriggers.Proofs.Dump.Provenance
import SqlTriggers.Proofs.Workspace.Run

/-! The dump after a migration has been rolled back, with the dump from in between behind it. That
dump still tells of the triggers that are gone again. -/

namespace SqlTriggers

open History (replay replayFrom)

/-- The plan declares anew what was only declared by hand, and changes no more than its layout. -/
def Plan.Claims (p : Plan) (h : History) (u : Trigger) : Prop :=
  (∃ t ∈ p.diff.added, t.generated = true ∧ p.engine.Reads t u.name (p.engine.rendering u)) ∧
    ∀ r ∈ h.recorded, r.generated = true → ¬ p.engine.Reads r u.name (p.engine.rendering u)

def Workspace.dump (w : Workspace) (previous : Option String) : Except Error String :=
  (Dumper.ofHistory w.engine w.history).dump w.catalog.snapshot previous

namespace History

lemma mem_recorded_push_iff {h : History} {m : Migration} {engine : Engine} {d : Diff}
    (hm : m.operations = (Plan.ofDiff engine d).operations) {t : Trigger} :
    t ∈ (h.push m).recorded ↔ t ∈ d.added ∨ t ∈ h.recorded := by
  rw [mem_recorded_iff, mem_recorded_iff, push_operations, hm, Plan.ofDiff, List.mem_append,
    List.mem_append, or_comm]
  simp

lemma mem_applied_push {h : History} {m : Migration} {engine : Engine} {d : Diff}
    (hm : m.operations = (Plan.ofDiff engine d).operations)
    (hn : (d.added.map Trigger.key).Nodup) {t : Trigger} (ht : t ∈ d.added) :
    t ∈ (h.push m).applied := by
  refine (keyed_replay _).mem_values_iff.mpr ?_
  rw [push_operations, hm, replay_append, Plan.ofDiff, get?_replayFrom_plan hn,
    (triggerAt_eq_some_iff hn).mpr ⟨ht, rfl⟩, Option.some_or]

end History

namespace Steady

variable {engine : Engine} {used : Trigger → Prop} {w : Workspace}

lemma mem_snapshot_iff (h : Steady engine .empty used w) (hw : Tame engine .empty used)
    {name ddl : String} : (name, ddl) ∈ w.catalog.snapshot.entries ↔
      ∃ u ∈ w.history.applied, u.name = name ∧ engine.rendering u = ddl := by
  have hp := h.recorded.populated
  have hnone : Catalog.empty.snapshot.get? name = none := rfl
  rw [← OrderedMap.get?_eq_some_iff, h.mirrors.snapshot hp hw, hnone, Option.or_none,
    Option.map_eq_some_iff]
  simp only [hp.named_eq_some_iff hw, ← hp.keyed.mem_values_iff, and_assoc]
  rfl

lemma snapshot_names (h : Steady engine .empty used w) (hw : Tame engine .empty used) :
    ∀ name ∈ w.catalog.snapshot.keys, '\n' ∉ name.toList ∧ trimmed name = name := by
  intro name hn
  obtain ⟨e, he, rfl⟩ := List.mem_map.mp hn
  obtain ⟨u, hu, hname, -⟩ := (h.mem_snapshot_iff hw).mp he
  have hchecked := hw.checked u (h.recorded.populated.used u hu)
  rw [← hname]
  exact ⟨hchecked.notMem_name (by decide), hchecked.trimmed_name⟩

lemma dump_none (h : Steady engine .empty used w) :
    w.dump none = .ok ((Dumper.ofHistory engine w.history).render w.catalog.snapshot none) := by
  rw [Workspace.dump, h.engine_eq]
  rfl

lemma dump_rendered (h : Steady engine .empty used w) {d : Dumper} {snapshot : Snapshot}
    {previous : Option Dump} (hn : ∀ name ∈ snapshot.keys, '\n' ∉ name.toList) :
    w.dump (some (d.render snapshot previous)) = .ok ((Dumper.ofHistory engine w.history).render
      w.catalog.snapshot (some (d.reading snapshot previous))) := by
  rw [Workspace.dump, h.engine_eq, Dumper.dump, d.read_render snapshot previous hn]
  rfl

lemma dump_detour {w' : Workspace} {m : Migration} {d : Diff} {used : Trigger → Prop}
    (h : Steady engine .empty used w) (h' : Steady engine .empty used w')
    (hw : Tame engine .empty used) (hhistory : w'.history = w.history.push m)
    (hm : m.operations = (Plan.ofDiff engine d).operations)
    (hn : (d.added.map Trigger.key).Nodup) :
    ∃ b a z before after, w.dump none = .ok b ∧ w'.dump (some b) = .ok a ∧
      w.dump (some a) = .ok z ∧ Dump.read b = .ok before ∧ Dump.read z = .ok after ∧
      (z = b ↔ ∀ u ∈ w.history.applied, ¬ (Plan.ofDiff engine d).Claims w.history u) ∧
      ∀ u ∈ w.history.applied, (Plan.ofDiff engine d).Claims w.history u ↔
        u.name ∈ before.raw ∧ ∃ t ∈ after.triggers, t.name = u.name := by
  have hnames : ∀ name ∈ w.catalog.snapshot.keys, '\n' ∉ name.toList :=
    fun name hm => (h.snapshot_names hw name hm).1
  have hnames' : ∀ name ∈ w'.catalog.snapshot.keys, '\n' ∉ name.toList :=
    fun name hm => (h'.snapshot_names hw name hm).1
  have hlive : ∀ t ∈ d.added, (t.name, engine.rendering t) ∈ w'.catalog.snapshot.entries := by
    intro t ht
    refine (h'.mem_snapshot_iff hw).mpr ⟨t, ?_, rfl, rfl⟩
    rw [hhistory]
    exact History.mem_applied_push hm hn ht
  have hrecorded : ∀ t, t ∈ w'.history.recorded ↔ t ∈ d.added ∨ t ∈ w.history.recorded := by
    intro t
    rw [hhistory]
    exact History.mem_recorded_push_iff hm
  refine ⟨_, _, _, _, _, h.dump_none, h'.dump_rendered hnames, h.dump_rendered hnames',
    Dumper.read_render _ _ _ hnames, Dumper.read_render _ _ _ hnames, ?_, fun u hu => ?_⟩
  · rw [Dumper.render_detour_iff hnames hrecorded hlive]
    constructor
    · rintro hall u hu ⟨⟨t, ht, hg, hreads⟩, hfirst⟩
      exact hall (u.name, engine.rendering u) ((h.mem_snapshot_iff hw).mpr ⟨u, hu, rfl, rfl⟩)
        hfirst t ht hg hreads
    · rintro hclaims ⟨name, ddl⟩ he hfirst t ht hg hreads
      obtain ⟨u, hu, rfl, rfl⟩ := (h.mem_snapshot_iff hw).mp he
      exact hclaims u hu ⟨⟨t, ht, hg, hreads⟩, hfirst⟩
  · have he : (u.name, engine.rendering u) ∈ w.catalog.snapshot.entries :=
      (h.mem_snapshot_iff hw).mpr ⟨u, hu, rfl, rfl⟩
    have htrimmed : ∀ name ∈ w.catalog.snapshot.keys, trimmed name = name :=
      fun name hm => (h.snapshot_names hw name hm).2
    rw [Dumper.raw_then_symbolic_iff htrimmed hrecorded hlive he, and_comm]
    rfl

section Migrate

variable {all : List Move} {ds : List Declaration} {version : UInt64} {cap : UInt32} {p : Plan}

lemma dump_after_rollback (h : Steady engine .empty (Form engine all) w)
    (hw : Tame engine .empty (Form engine all)) (hm : .migrate ds version cap ∈ all)
    (ha : w.Allows (.migrate ds version cap)) (hp : ((w.declare ds).plan cap).result = .ok p)
    (he : p.isEmpty = false) :
    ∃ w' m b a z before after, (w.declare ds).migrate version cap =
        (w', .ok (.migrated m ((w.declare ds).plan cap).warnings)) ∧
      w'.rollback = (w.declare ds, .ok (some m)) ∧
      w.dump none = .ok b ∧ w'.dump (some b) = .ok a ∧ (w.declare ds).dump (some a) = .ok z ∧
      Dump.read b = .ok before ∧ Dump.read z = .ok after ∧
      (z = b ↔ ∀ u ∈ w.history.applied, ¬ p.Claims w.history u) ∧
      ∀ u ∈ w.history.applied, p.Claims w.history u ↔
        u.name ∈ before.raw ∧ ∃ t ∈ after.triggers, t.name = u.name := by
  obtain ⟨hmigrates, hafter⟩ := h.migrates hw hm ha
  obtain ⟨m, c, hname, -, hmigrate, hrollback⟩ := hmigrates.carried p hp he
  rw [Workspace.after, hmigrate] at hafter
  have hplan : ((Generator.mk engine cap).generate ds w.history.applied).result = .ok p := by
    rw [← h.engine_eq]
    exact hp
  obtain ⟨ts, hts, rfl⟩ := Generator.generate_eq_ok hplan
  obtain ⟨name, -, rfl⟩ := Option.map_eq_some_iff.mp hname
  have hadded := Diff.nodup_of_sorted (Diff.added_sorted engine w.history.applied
    (Generator.map_cap_nodup (Generator.mk engine cap) (expansion_nodup hts)))
  obtain ⟨b, a, z, before, after, hdumps⟩ := h.dump_detour hafter hw rfl rfl hadded
  exact ⟨_, _, b, a, z, before, after, hmigrate, hrollback, hdumps⟩

end Migrate

end Steady

/-- A migration that is rolled back leaves the dump as it was, unless its plan claims a trigger that
was declared by hand. -/
theorem Workspace.Run.dump_after_rollback_iff {engine : Engine} {moves : List Move} {w : Workspace}
    {ds : List Declaration} {version : UInt64} {cap : UInt32} {p : Plan}
    (hr : Run engine .empty moves w) (hc : Clear engine .empty (moves ++ [.migrate ds version cap]))
    (ha : w.Allows (.migrate ds version cap)) (hp : ((w.declare ds).plan cap).result = .ok p)
    (he : p.isEmpty = false) :
    ∃ w' m b a z before after, (w.declare ds).migrate version cap =
        (w', .ok (.migrated m ((w.declare ds).plan cap).warnings)) ∧
      w'.rollback = (w.declare ds, .ok (some m)) ∧
      w.dump none = .ok b ∧ w'.dump (some b) = .ok a ∧ (w.declare ds).dump (some a) = .ok z ∧
      Dump.read b = .ok before ∧ Dump.read z = .ok after ∧
      (z = b ↔ ∀ u ∈ w.history.applied, ¬ p.Claims w.history u) ∧
      ∀ u ∈ w.history.applied, p.Claims w.history u ↔
        u.name ∈ before.raw ∧ ∃ t ∈ after.triggers, t.name = u.name := by
  have hmove : .migrate ds version cap ∈ moves ++ [.migrate ds version cap] :=
    List.mem_append_right _ (List.mem_singleton_self _)
  have h := hr.steady hc.tame fun _ hm => List.mem_append_left _ hm
  exact h.dump_after_rollback hc.tame hmove ha hp he

section Edit

def bobFirst (generated : Bool) : Move :=
  .migrate [.trigger (bobCounter "SELECT 1;" 1 generated)] 1 1

def bobSpaced : Move :=
  .migrate [.trigger (bobCounter "SELECT  1;" 1 true)] 2 1

lemma bobFirst_built (generated : Bool) :
    (Declaration.trigger (bobCounter "SELECT 1;" 1 generated)).Built := by
  refine ⟨.ofSettings (bobCounterSettings "SELECT 1;" ++ [.generated generated]), ?_⟩
  cases generated <;> rfl

lemma bobSpaced_built : (Declaration.trigger (bobCounter "SELECT  1;" 1 true)).Built :=
  ⟨.ofSettings (bobCounterSettings "SELECT  1;"), rfl⟩

lemma bobEdit_calls (generated : Bool) : ∀ s ∈ ["SELECT 1;", "SELECT  1;"],
    Engine.lightweight.CallsOnlyOwn (bobCounter s 0 generated) ∧
      Engine.lightweight.CallsOnlyOwn (bobCounter s 1 generated) := by
  simp only [Engine.callsOnlyOwn_iff_tails, Engine.triggerText, Trigger.toList_lightweightText,
    Trigger.toList_headline, Trigger.forEach, toList_indent, String.toList_append]
  cases generated <;> decide +kernel

lemma declared_bobEdit {generated : Bool} {t : Trigger}
    (h : Declared .lightweight [bobFirst generated, bobSpaced] t) :
    ∃ s ∈ ["SELECT 1;", "SELECT  1;"], ∃ b, t = bobCounter s 1 b := by
  obtain ⟨ds, version, cap, ts, hm, he, ht⟩ := h
  have hone : ∀ s b, expansion .lightweight [.trigger (bobCounter s 1 b)] =
      .ok [bobCounter s 1 b] := fun _ _ => rfl
  simp only [bobFirst, bobSpaced, List.mem_cons, Move.migrate.injEq, List.not_mem_nil,
    or_false] at hm
  rcases hm with ⟨rfl, -, -⟩ | ⟨rfl, -, -⟩
  · obtain rfl := Except.ok.inj ((hone _ _).symm.trans he)
    exact ⟨_, by simp, _, List.mem_singleton.mp ht⟩
  · obtain rfl := Except.ok.inj ((hone _ _).symm.trans he)
    exact ⟨_, by simp, _, List.mem_singleton.mp ht⟩

lemma bobEdit_clear (generated : Bool) :
    Clear .lightweight .empty [bobFirst generated, bobSpaced] := by
  refine ⟨?_, fun _ _ => rfl, fun _ _ => rfl, fun _ _ _ h => (nomatch h), ?_⟩
  · intro t u ht hu _
    obtain ⟨_, -, _, rfl⟩ := declared_bobEdit ht
    obtain ⟨_, -, _, rfl⟩ := declared_bobEdit hu
    rfl
  · intro t ht c hc
    obtain ⟨s, hs, b, rfl⟩ := declared_bobEdit ht
    obtain rfl | rfl := eq_or_eq_of_le_newest hc
    · exact (bobEdit_calls b s hs).1
    · exact (bobEdit_calls b s hs).2

lemma bobFirst_plan (generated : Bool) : ((Generator.mk .lightweight 1).generate
    [.trigger (bobCounter "SELECT 1;" 1 generated)] []).result =
      .ok (Plan.ofDiff .lightweight ⟨[bobCounter "SELECT 1;" 1 generated], []⟩) := by
  cases generated <;> decide +kernel

lemma bobSpaced_plan (generated : Bool) : ((Generator.mk .lightweight 1).generate
    [.trigger (bobCounter "SELECT  1;" 1 true)] [bobCounter "SELECT 1;" 1 generated]).result =
      .ok (Plan.ofDiff .lightweight
        ⟨[bobCounter "SELECT  1;" 1 true], [bobCounter "SELECT 1;" 1 generated]⟩) := by
  cases generated <;> decide +kernel

lemma bobFirst_run (generated : Bool) : ∃ w, Workspace.Run .lightweight .empty [bobFirst generated] w ∧
    w.history = History.empty.push (.ofOperations 1 "create_trigger_bob_tr" .lightweight
      [.create (bobCounter "SELECT 1;" 1 generated)]) := by
  have hallowed : (Workspace.mk .lightweight [] .empty .empty).Allows (bobFirst generated) := by
    refine ⟨fun d hd => List.mem_singleton.mp hd ▸ bobFirst_built generated, ?_⟩
    intro p _ _ latest hl
    exact absurd hl (Option.some_ne_none latest).symm
  have hw := (bobEdit_clear generated).tame
  have hsteady : Steady .lightweight .empty _ ⟨.lightweight, [], .empty, .empty⟩ :=
    Workspace.Run.start.steady hw nofun
  obtain ⟨m, hname, hhistory⟩ :=
    hsteady.after_migrate hw List.mem_cons_self hallowed (bobFirst_plan generated) rfl
  have hm : (Plan.ofDiff .lightweight ⟨[bobCounter "SELECT 1;" 1 generated], []⟩).toMigration? 1 =
      some (.ofOperations 1 "create_trigger_bob_tr" .lightweight
        [.create (bobCounter "SELECT 1;" 1 generated)]) := by
    cases generated <;> decide +kernel
  obtain rfl := Option.some.inj (hm.symm.trans hname)
  exact ⟨_, Workspace.Run.start.step _ hallowed, hhistory⟩

section Spaced

variable {generated : Bool} {w : Workspace}
  (hh : w.history = History.empty.push (.ofOperations 1 "create_trigger_bob_tr" .lightweight
    [.create (bobCounter "SELECT 1;" 1 generated)]))

include hh

lemma bobSpaced_allowed : w.Allows bobSpaced := by
  refine ⟨fun d hd => List.mem_singleton.mp hd ▸ bobSpaced_built, fun p _ _ latest hl => ?_⟩
  rw [hh] at hl
  rw [← Option.some.inj (show some 1 = some latest from hl)]
  decide

lemma plan_bobSpaced (he : w.engine = .lightweight) :
    ((w.declare [.trigger (bobCounter "SELECT  1;" 1 true)]).plan 1).result =
      .ok (Plan.ofDiff .lightweight
        ⟨[bobCounter "SELECT  1;" 1 true], [bobCounter "SELECT 1;" 1 generated]⟩) := by
  have happlied : w.history.applied = [bobCounter "SELECT 1;" 1 generated] := by
    rw [hh]
    rfl
  rw [← bobSpaced_plan generated, ← happlied, ← he]
  rfl

end Spaced

/-- What was declared by hand is written as generated from then on. -/
theorem dump_after_rollback_spaced : ∃ w p w' m b a z,
    Workspace.Run .lightweight .empty [bobFirst false] w ∧
      Clear .lightweight .empty [bobFirst false, bobSpaced] ∧ w.Allows bobSpaced ∧
      ((w.declare [.trigger (bobCounter "SELECT  1;" 1 true)]).plan 1).result = .ok p ∧
      p.isEmpty = false ∧
      ((w.declare [.trigger (bobCounter "SELECT  1;" 1 true)]).migrate 2 1).1 = w' ∧
      w'.rollback = (w.declare [.trigger (bobCounter "SELECT  1;" 1 true)], .ok (some m)) ∧
      w.dump none = .ok b ∧ w'.dump (some b) = .ok a ∧ w'.rollback.1.dump (some a) = .ok z ∧
      z ≠ b := by
  obtain ⟨w, hr, hh⟩ := bobFirst_run false
  have hc := bobEdit_clear false
  have h := hr.steady hc.tame fun _ hm => List.mem_append_left [bobSpaced] hm
  have hp := plan_bobSpaced hh h.engine_eq
  have hallowed := bobSpaced_allowed hh
  obtain ⟨w', m, b, a, z, -, -, hmigrate, hrollback, hb, ha, hz, -, -, hiff, -⟩ :=
    h.dump_after_rollback hc.tame (List.mem_cons_of_mem _ List.mem_cons_self) hallowed hp rfl
  refine ⟨w, _, w', m, b, a, z, hr, hc, hallowed, hp, rfl, congrArg Prod.fst hmigrate, hrollback,
    hb, ha, by rw [hrollback, hz], fun heq => ?_⟩
  have hold : bobCounter "SELECT 1;" 1 false ∈ w.history.applied := by
    rw [hh]
    exact List.mem_cons_self
  refine hiff.mp heq _ hold ⟨⟨_, List.mem_cons_self, rfl, counter_reads "bob_tr" false⟩, ?_⟩
  intro r hr hg
  rw [hh] at hr
  obtain rfl : r = bobCounter "SELECT 1;" 1 false := List.mem_singleton.mp hr
  exact nomatch hg

theorem dump_after_rollback_generated : ∃ w w' m b a,
    Workspace.Run .lightweight .empty [bobFirst true] w ∧
      ((w.declare [.trigger (bobCounter "SELECT  1;" 1 true)]).migrate 2 1).1 = w' ∧
      w'.rollback = (w.declare [.trigger (bobCounter "SELECT  1;" 1 true)], .ok (some m)) ∧
      w.dump none = .ok b ∧ w'.dump (some b) = .ok a ∧ w'.rollback.1.dump (some a) = .ok b := by
  obtain ⟨w, hr, hh⟩ := bobFirst_run true
  have hc := bobEdit_clear true
  have h := hr.steady hc.tame fun _ hm => List.mem_append_left [bobSpaced] hm
  have hp := plan_bobSpaced hh h.engine_eq
  obtain ⟨w', m, b, a, z, -, -, hmigrate, hrollback, hb, ha, hz, -, -, hiff, -⟩ :=
    hr.dump_after_rollback_iff hc (bobSpaced_allowed hh) hp rfl
  have hsame : z = b := by
    refine hiff.mpr fun u hu hclaims => ?_
    rw [hh] at hu
    obtain rfl : u = bobCounter "SELECT 1;" 1 true := List.mem_singleton.mp hu
    refine hclaims.2 _ ?_ rfl ⟨rfl, rfl⟩
    rw [hh]
    exact List.mem_cons_self
  refine ⟨w, w', m, b, a, hr, congrArg Prod.fst hmigrate, hrollback, hb, ha, ?_⟩
  rw [hrollback, hz, hsame]

end Edit

end SqlTriggers
