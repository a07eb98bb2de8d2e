import SqlTriggers.Proofs.Dump.Symbolic
import SqlTriggers.Proofs.Workspace.Rollback

/-! Dumps of a workspace whose migrations declare generated triggers only. Many recorded triggers may
read like a live one, and the dump tells the one that is applied. -/

namespace SqlTriggers

open Attributes (Common)
open Dumper (declaring ofHistory)

lemma generated_of_mem_triggersOf {engine : Engine} {d : Declaration} {ts : List Trigger}
    (h : engine.triggersOf d = .ok ts) {t : Trigger} (ht : t ∈ ts) : t.generated = d.generated := by
  cases d with
  | trigger u =>
    obtain rfl := Except.ok.inj h
    rw [List.mem_singleton.mp ht]
    rfl
  | group g =>
    rw [Engine.triggersOf] at h
    split at h
    · exact congrArg Common.generated (Group.common_of_mem_membersTriggers h t ht)
    · obtain ⟨u, hm, rfl⟩ := map_eq_ok_iff.mp h
      rw [List.mem_singleton.mp ht]
      exact congrArg Common.generated (Group.merge_eq_ok hm).2

lemma Form.generated {engine : Engine} {moves : List Move} {t : Trigger}
    (hg : ∀ ds version cap, .migrate ds version cap ∈ moves → ∀ d ∈ ds, d.generated = true)
    (h : Form engine moves t) : t.generated = true := by
  obtain ⟨u, ⟨ds, version, cap, ts, hm, he, hu⟩, -, -, ht⟩ := h
  obtain ⟨d, hd, us, hus, hmem⟩ := mem_expansion he hu
  rw [ht]
  exact (generated_of_mem_triggersOf hus hmem).trans (hg ds version cap hm d hd)

section Live

variable {engine : Engine} {used : Trigger → Prop} {w : Workspace} {t : Trigger}

lemma Recorded.used_of_mem_recorded {h : History} (hr : Recorded engine used h)
    (ht : t ∈ h.recorded) : used t := by
  rw [History.mem_recorded_iff] at ht
  induction hr with
  | empty => exact absurd ht List.not_mem_nil
  | push version name _ _ hu ih =>
    rw [History.push_operations] at ht
    rcases List.mem_append.mp ht with ht | ht
    · exact ih ht
    · exact hu _ ht

namespace Steady

lemma names_nodup (h : Steady engine .empty used w) (hw : Tame engine .empty used) :
    (w.history.applied.map Trigger.name).Nodup := by
  have hpop := h.recorded.populated
  have hkeys := hpop.keyed.values_nodup
  refine List.Nodup.map_on (fun t ht u hu hn => ?_) (List.Nodup.of_map _ hkeys)
  exact eq_of_key_eq hkeys ht hu (hw.key_eq (hpop.used t ht) (hpop.used u hu) hn)

lemma recognise_applied (h : Steady engine .empty used w) (hw : Tame engine .empty used)
    (hg : ∀ t, used t → t.generated = true) (previous : Option Dump)
    (ht : t ∈ w.history.applied) :
    (ofHistory engine w.history).recognise ((ofHistory engine w.history).candidates previous)
      t.name (engine.rendering t) = some t := by
  have hrecorded : ∀ u ∈ w.history.recorded, used u :=
    fun u hu => h.recorded.used_of_mem_recorded hu
  have htrusted : (ofHistory engine w.history).trusted = w.history.recorded := by
    simpa [Dumper.trusted, ofHistory] using fun u hu => hg u (hrecorded u hu)
  apply Dumper.recognise_candidates
  rw [htrusted]
  exact Dumper.recognise_of_first _ (History.triggerAt_recorded ht) fun u hu hn =>
    hw.key_eq (hrecorded u hu) (h.recorded.populated.used t ht) hn

lemma dump_declaring (h : Steady engine .empty used w) (hw : Tame engine .empty used)
    (hg : ∀ t, used t → t.generated = true) {previous : Option String} {parsed : Option Dump}
    (hp : previous.mapM Dump.read = .ok parsed) :
    w.dump previous = .ok (declaring (w.history.lastVersion.getD 0) w.history.applied) ∧
      Dump.read (declaring (w.history.lastVersion.getD 0) w.history.applied) =
        .ok ⟨some (w.history.lastVersion.getD 0), sortOn Trigger.name w.history.applied, []⟩ := by
  rw [Workspace.dump, h.engine_eq]
  exact ⟨(ofHistory engine w.history).dump_of_shows (h.names_nodup hw)
    (fun name ddl => h.mem_snapshot_iff hw) (fun t ht => h.recognise_applied hw hg parsed ht) hp,
    Dumper.read_declaring _ _⟩

end Steady

end Live

/-- The dump before does not show in it. -/
theorem Workspace.Run.dump_lossless {engine : Engine} {moves : List Move} {w : Workspace}
    {previous : Option String} {parsed : Option Dump} (hr : Run engine .empty moves w)
    (hc : Clear engine .empty moves)
    (hg : ∀ ds version cap, .migrate ds version cap ∈ moves → ∀ d ∈ ds, d.generated = true)
    (hp : previous.mapM Dump.read = .ok parsed) :
    w.dump previous = .ok (declaring (w.history.lastVersion.getD 0) w.history.applied) ∧
      Dump.read (declaring (w.history.lastVersion.getD 0) w.history.applied) =
        .ok ⟨some (w.history.lastVersion.getD 0), sortOn Trigger.name w.history.applied, []⟩ :=
  (hr.steady hc.tame fun _ hm => hm).dump_declaring hc.tame (fun _ ht => ht.generated hg) hp

lemma bobSpaced_run : ∃ w, Workspace.Run .lightweight .empty [bobFirst true, bobSpaced] w ∧
    w.history.applied = [bobCounter "SELECT  1;" 1 true] ∧ w.history.lastVersion = some 2 := by
  obtain ⟨w, hr, hh⟩ := bobFirst_run true
  have hw := (bobEdit_clear true).tame
  have h := hr.steady hw fun _ hm => List.mem_append_left [bobSpaced] hm
  have hallowed := bobSpaced_allowed hh
  have hmove : bobSpaced ∈ [bobFirst true, bobSpaced] := List.mem_cons_of_mem _ List.mem_cons_self
  obtain ⟨m, hname, hafter⟩ :=
    h.after_migrate hw hmove hallowed (plan_bobSpaced hh h.engine_eq) rfl
  obtain ⟨name, -, rfl⟩ := Option.map_eq_some_iff.mp hname
  refine ⟨_, hr.step bobSpaced hallowed, ?_⟩
  rw [bobSpaced, hafter, hh]
  exact ⟨rfl, rfl⟩

theorem dump_lossless_spaced : ∃ w,
    Workspace.Run .lightweight .empty [bobFirst true, bobSpaced] w ∧
      w.history.applied = [bobCounter "SELECT  1;" 1 true] ∧
      w.dump none = .ok (declaring 2 [bobCounter "SELECT  1;" 1 true]) ∧
      Dump.read (declaring 2 [bobCounter "SELECT  1;" 1 true]) =
        .ok ⟨some 2, [bobCounter "SELECT  1;" 1 true], []⟩ := by
  obtain ⟨w, hr, happlied, hversion⟩ := bobSpaced_run
  have hg : ∀ ds version cap, .migrate ds version cap ∈ [bobFirst true, bobSpaced] →
      ∀ d ∈ ds, d.generated = true := by
    intro ds version cap hm d hd
    simp only [bobFirst, bobSpaced, List.mem_cons, Move.migrate.injEq, List.not_mem_nil,
      or_false] at hm
    rcases hm with ⟨rfl, -, -⟩ | ⟨rfl, -, -⟩
    · rw [List.mem_singleton.mp hd]
      rfl
    · rw [List.mem_singleton.mp hd]
      rfl
  have hdump := hr.dump_lossless (bobEdit_clear true) hg
    (show (none : Option String).mapM Dump.read = .ok none from rfl)
  rw [happlied, hversion] at hdump
  exact ⟨w, hr, happlied, hdump⟩

end SqlTriggers
