import SqlTriggers.Proofs.Declaration.Built
import SqlTriggers.Proofs.Migration.Generator
import SqlTriggers.Proofs.Migration.Name
import SqlTriggers.Proofs.Migration.Plan

/-! Once a plan has been carried out nothing is left to be planned, by whatever rendering rules. -/

namespace SqlTriggers

namespace Diff

variable {engine : Engine} {t : Trigger}

lemma eq_nil_of_triggerAt {ts : List Trigger} (h : ∀ k, triggerAt k ts = none) : ts = [] := by
  cases ts with
  | nil => rfl
  | cons t ts => exact absurd rfl (triggerAt_eq_none_iff.mp (h t.key) t List.mem_cons_self)

def Alike (t u : Option Trigger) : Prop :=
  ∀ c : UInt32, t.map (fun t => t.withCompatibility c) = u.map fun u => u.withCompatibility c

lemma Alike.some_left {u : Option Trigger} (h : Alike (some t) u) :
    ∃ v, u = some v ∧ ∀ c, t.withCompatibility c = v.withCompatibility c := by
  cases u with
  | none => exact absurd (h 0) (by simp)
  | some v => exact ⟨v, rfl, fun c => Option.some.inj (h c)⟩

lemma Alike.none_left {u : Option Trigger} (h : Alike none u) : u = none := by
  cases u with
  | none => rfl
  | some v => exact absurd (h 0) (by simp)

lemma changeAt_of_rendering_eq {a : Trigger}
    (h : engine.rendering (t.withCompatibility a.compatibility) = engine.rendering a) :
    changeAt engine (some t) (some a) = (none, none) :=
  if_pos h

lemma changeAt_standing (engine : Engine) {t u : Option Trigger} (h : Alike t u)
    (a : Option Trigger) : changeAt engine u (standing engine t a) = (none, none) := by
  cases t with
  | none =>
    obtain rfl := h.none_left
    rw [standing_of_undeclared]
    cases a with
    | none => rfl
    | some a => cases hg : a.generated <;> simp [changeAt, Option.filter, hg]
  | some t =>
    obtain ⟨u, rfl, hu⟩ := h.some_left
    cases a with
    | none =>
      rw [standing_of_new]
      exact changeAt_of_rendering_eq (by rw [← hu]; rfl)
    | some a =>
      by_cases hr : engine.rendering (t.withCompatibility a.compatibility) = engine.rendering a
      · rw [standing_of_same hr]
        exact changeAt_of_rendering_eq (by rw [← hu, hr])
      · rw [standing_of_changed hr]
        exact changeAt_of_rendering_eq (by rw [← hu]; rfl)

end Diff

namespace History

open Diff

variable {m : Triggers} {declared declared' : List Trigger}

lemma between_after_plan (engine : Engine) (hm : Keyed m) (hd : (declared.map Trigger.key).Nodup)
    (hd' : (declared'.map Trigger.key).Nodup) (cd : ∀ t ∈ declared, t.Checked)
    (cd' : ∀ t ∈ declared', t.Checked) (cm : ∀ t ∈ m.values, t.Checked)
    (hs : ∀ k, Alike (triggerAt k declared) (triggerAt k declared')) :
    let d := between engine declared m.values
    between engine declared' (replayFrom m (Plan.ofDiff engine d).operations).values =
      ⟨[], []⟩ := by
  intro d
  have hm' := hm.replayFrom (Plan.ofDiff engine d).operations
  have cm' := checked_after_plan engine cd cm
  have hnone : ∀ k, (triggerAt k (between engine declared'
        (replayFrom m (Plan.ofDiff engine d).operations).values).added,
      triggerAt k (between engine declared'
        (replayFrom m (Plan.ofDiff engine d).operations).values).removed) = (none, none) := by
    intro k
    rw [changeAt_of_lookups engine hd' hm'.values_nodup cd' cm' k, hm'.triggerAt_values,
      get?_after_plan engine hm hd cd cm]
    exact changeAt_standing engine (hs k) (m.get? k)
  have hadded := eq_nil_of_triggerAt fun k => congrArg Prod.fst (hnone k)
  have hremoved := eq_nil_of_triggerAt fun k => congrArg Prod.snd (hnone k)
  generalize between engine declared' _ = d' at hadded hremoved
  obtain ⟨_, _⟩ := d'
  exact congrArg₂ Diff.mk hadded hremoved

end History

lemma Generator.alike_of_caps (g g' : Generator) (k : TriggerKey) (ts : List Trigger) :
    Diff.Alike (triggerAt k (ts.map g.cap)) (triggerAt k (ts.map g'.cap)) := by
  intro c
  rw [triggerAt_map_cap, triggerAt_map_cap, Option.map_map, Option.map_map]
  congr 1
  funext t
  simp only [Function.comp_apply, cap_withCompatibility]

def Plan.noop (engine : Engine) : Plan where
  name := some "noop"
  engine := engine
  diff := ⟨[], []⟩
  operations := []
  up := []
  down := []

lemma diff_after_plan {engine : Engine} {ds : List Declaration} {h : History} {ts : List Trigger}
    (hr : ∀ t ∈ h.recorded, t.Checked) (hd : (ts.map Trigger.key).Nodup)
    (ct : ∀ t ∈ ts, t.Checked) (he : expansion engine ds = .ok ts) (c c' : UInt32)
    (m : Migration) (hm : m.operations = (Plan.ofDiff engine
      (Diff.between engine (ts.map (Generator.mk engine c).cap) h.applied)).operations) :
    (Generator.mk engine c').diff ds (h.push m).applied = .ok ⟨[], []⟩ := by
  have hdiff := History.between_after_plan engine (History.keyed_replay h.operations)
    (Generator.map_cap_nodup ⟨engine, c⟩ hd) (Generator.map_cap_nodup ⟨engine, c'⟩ hd)
    (Generator.map_cap_checked _ ct) (Generator.map_cap_checked _ ct)
    (fun t ht => hr t (History.mem_recorded_of_mem_applied ht))
    (fun k => Generator.alike_of_caps ⟨engine, c⟩ ⟨engine, c'⟩ k ts)
  rw [Generator.diff, Generator.wanted, he, History.applied, History.push_operations, hm,
    History.replay_append]
  exact congrArg Except.ok hdiff

theorem generate_after_plan (engine : Engine) (c c' : UInt32) {ds : List Declaration} {h : History}
    {p : Plan} {version : UInt64} (hd : ∀ d ∈ ds, d.Built) (hr : ∀ t ∈ h.recorded, t.Checked)
    (hp : ((Generator.mk engine c).generate ds h.applied).result = .ok p)
    (hv : ∀ latest, h.lastVersion = some latest → latest < version) :
    ∃ m h', p.toMigration? version = some m ∧ h.record m = .ok h' ∧
      (Generator.mk engine c').generate ds h'.applied = ⟨.ok (.noop engine), []⟩ ∧
      upToDate engine ds h'.applied = .ok true := by
  obtain ⟨ts, he, rfl⟩ := Generator.generate_eq_ok hp
  have ct : ∀ t ∈ ts, t.Checked := fun t ht => (expansion_checked hd he t ht).1
  have ca : ∀ t ∈ h.applied, t.Checked := fun t ht => hr t (History.mem_recorded_of_mem_applied ht)
  obtain ⟨name, hm⟩ := Plan.exists_toMigration?_eq engine
    (fun t => Diff.checked_of_mem_added (Generator.map_cap_checked _ ct))
    (fun t ht => ca t (Diff.mem_applied_of_mem_removed ht)) version
  refine ⟨_, h.push _, hm, History.record_eq_ok hv, ?_, ?_⟩
  · rw [Generator.generate, diff_after_plan hr (expansion_nodup he) ct he c c']
    · rfl
    · rfl
  · rw [upToDate, Generator.ofEngine,
      diff_after_plan hr (expansion_nodup he) ct he c newestCompatibility]
    · rfl
    · rfl

theorem generate_after_plan_edit :
    let old := bobCounter "UPDATE groups SET bob_count = bob_count + 1;" 1 true
    let new := bobCounter "UPDATE groups SET bob_count = bob_count + 2;" 1 true
    let h : History := ⟨[.ofOperations 7 "create_trigger_bob_tr" .functionBacked [.create old]]⟩
    ∃ p, ((Generator.mk .functionBacked 0).generate [.trigger new] h.applied).result = .ok p ∧
      p.operations = [.drop old, .create new] ∧
      ∃ m h', p.toMigration? 8 = some m ∧ h.record m = .ok h' ∧
        (Generator.mk .functionBacked 1).generate [.trigger new] h'.applied =
          ⟨.ok (.noop .functionBacked), []⟩ ∧
        upToDate .functionBacked [.trigger new] h'.applied = .ok true := by
  intro old new h
  have happlied : h.applied = [old] := by rfl
  have hrecorded : h.recorded = [old] := by rfl
  have hlast : h.lastVersion = some 7 := by rfl
  have hplan : ((Generator.mk .functionBacked 0).generate [.trigger new]
      [old]).result.toOption.map Plan.operations = some [.drop old, .create new] := by
    decide +kernel
  have ho : old.Checked := bobCounter_checked _ _ _
  have hn : (Declaration.trigger new).Built := bobCounter_built _ (by simp)
  clear_value old new h
  rw [← happlied] at hplan
  cases hg : ((Generator.mk .functionBacked 0).generate [.trigger new] h.applied).result with
  | error e => simp [hg, Except.toOption] at hplan
  | ok p =>
    have hops : p.operations = [.drop old, .create new] := by
      simpa [hg, Except.toOption] using hplan
    refine ⟨p, rfl, hops, generate_after_plan .functionBacked 0 1 ?_ ?_ hg ?_⟩
    · exact fun d hd => List.mem_singleton.mp hd ▸ hn
    · rw [hrecorded]
      exact fun t ht => List.mem_singleton.mp ht ▸ ho
    · rw [hlast]
      intro latest hl
      rw [← Option.some.inj hl]
      decide

end SqlTriggers
