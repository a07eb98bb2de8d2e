import SqlTriggers.Proofs.Declaration.Built
import SqlTriggers.Proofs.Declaration.Slots
import SqlTriggers.Proofs.Migration.Generator
import SqlTriggers.Proofs.Migration.Plan
import SqlTriggers.Proofs.Trigger.Headline

/-! Which applied triggers share a slot of an engine with one trigger per slot. Declared triggers
share none, but a trigger that was declared by hand stays when it is declared no more. -/

namespace SqlTriggers

open Diff

/-- The applied triggers that no declaration names and that stay all the same. -/
def leftOver (declared applied : List Trigger) : List Trigger :=
  applied.filter fun a => !a.generated && declared.all fun t => t.key ≠ a.key

lemma mem_leftOver_iff {declared applied : List Trigger} {a : Trigger} :
    a ∈ leftOver declared applied ↔
      a ∈ applied ∧ a.generated = false ∧ ∀ t ∈ declared, t.key ≠ a.key := by
  simp [leftOver]

lemma append_leftOver_nodup {declared applied : List Trigger}
    (hd : (declared.map Trigger.key).Nodup) (ha : (applied.map Trigger.key).Nodup) :
    ((declared ++ leftOver declared applied).map Trigger.key).Nodup := by
  rw [List.map_append, List.nodup_append]
  refine ⟨hd, ha.sublist (List.filter_sublist.map _), ?_⟩
  intro k hk k' hk' he
  obtain ⟨t, ht, rfl⟩ := List.mem_map.mp hk
  obtain ⟨a, hm, rfl⟩ := List.mem_map.mp hk'
  exact (mem_leftOver_iff.mp hm).2.2 t ht he

namespace Generator

variable (g : Generator) (ts applied : List Trigger)

lemma cap_slots (t : Trigger) : (g.cap t).slots = t.slots := by
  unfold cap
  split <;> rfl

lemma leftOver_map_cap : leftOver (ts.map g.cap) applied = leftOver ts applied := by
  simp only [leftOver, List.all_map, Function.comp_def, cap_key]

lemma onePerSlot_map_cap_append (us : List Trigger) :
    OnePerSlot (ts.map g.cap ++ us) ↔ OnePerSlot (ts ++ us) := by
  simp only [onePerSlot_iff_nodup, List.flatMap_append, List.flatMap_map, cap_slots]

end Generator

section Standing

variable {engine : Engine} {t u : Trigger}

lemma slots_eq_of_rendering_eq (ht : t.Checked) (hu : u.Checked)
    (h : engine.rendering t = engine.rendering u) : t.slots = u.slots := by
  obtain ⟨hheadline, -⟩ := engine.clauses_eq_of_rendering_eq ht hu h
  obtain ⟨htiming, hevents, -⟩ := ht.of_headline_eq hu hheadline
  have hkey := ht.key_eq_of_headline_eq hu hheadline
  have htable : t.table = u.table := congrArg TriggerKey.table hkey
  simp only [Trigger.slots, htable, htiming, hevents]

lemma exists_standing_of_declared (ht : t.Checked) {a : Option Trigger}
    (ha : ∀ b, a = some b → b.Checked) :
    ∃ u, standing engine (some t) a = some u ∧ u.slots = t.slots := by
  cases a with
  | none => exact ⟨t, standing_of_new, rfl⟩
  | some b =>
    by_cases hr : engine.rendering (t.withCompatibility b.compatibility) = engine.rendering b
    · refine ⟨b, standing_of_same hr, ?_⟩
      exact (slots_eq_of_rendering_eq (ht.withCompatibility _) (ha b rfl) hr).symm
    · exact ⟨_, standing_of_changed hr, rfl⟩

end Standing

namespace History

section Plan

variable {engine : Engine} {m : Triggers} {declared : List Trigger} {t u : Trigger}

def afterPlan (engine : Engine) (m : Triggers) (declared : List Trigger) : Triggers :=
  replayFrom m (Plan.ofDiff engine (between engine declared m.values)).operations

variable (hm : Keyed m) (hd : (declared.map Trigger.key).Nodup) (cd : ∀ t ∈ declared, t.Checked)
  (cm : ∀ t ∈ m.values, t.Checked)

include hm hd cd cm

lemma exists_of_declared (ht : t ∈ declared) :
    ∃ u ∈ (afterPlan engine m declared).values, u.key = t.key ∧ u.slots = t.slots := by
  have hk := get?_after_plan engine hm hd cd cm t.key
  rw [(triggerAt_eq_some_iff hd).mpr ⟨ht, rfl⟩] at hk
  have ha : ∀ b, m.get? t.key = some b → b.Checked := by
    intro b hb
    exact cm b (OrderedMap.mem_values_iff.mpr ⟨_, hb⟩)
  obtain ⟨u, hu, hs⟩ := exists_standing_of_declared (cd t ht) ha
  rw [hu] at hk
  exact ⟨u, OrderedMap.mem_values_iff.mpr ⟨_, hk⟩, hm.replayFrom _ _ _ hk, hs⟩

lemma mem_of_leftOver (ha : t ∈ leftOver declared m.values) :
    t ∈ (afterPlan engine m declared).values := by
  obtain ⟨hmem, hg, hk⟩ := mem_leftOver_iff.mp ha
  have hget := get?_after_plan engine hm hd cd cm t.key
  rw [triggerAt_eq_none_iff.mpr hk, hm.mem_values_iff.mp hmem, standing_of_undeclared] at hget
  refine OrderedMap.mem_values_iff.mpr ⟨t.key, ?_⟩
  rw [afterPlan, hget]
  simp [Option.filter, hg]

lemma declared_or_leftOver (hu : u ∈ (afterPlan engine m declared).values) :
    (∃ t ∈ declared, t.key = u.key ∧ t.slots = u.slots) ∨ u ∈ leftOver declared m.values := by
  have hget := (hm.replayFrom _).mem_values_iff.mp hu
  cases ht : triggerAt u.key declared with
  | some t =>
    obtain ⟨hmem, hk⟩ := (triggerAt_eq_some_iff hd).mp ht
    obtain ⟨v, hv, hvk, hvs⟩ : ∃ v ∈ (afterPlan engine m declared).values,
        v.key = t.key ∧ v.slots = t.slots := exists_of_declared hm hd cd cm hmem
    have hvu : v = u := eq_of_key_eq (hm.replayFrom _).values_nodup hv hu (hvk.trans hk)
    exact .inl ⟨t, hmem, hk, by rw [← hvs, hvu]⟩
  | none =>
    have hk := get?_after_plan engine hm hd cd cm u.key
    rw [ht, standing_of_undeclared, hget, eq_comm, Option.filter_eq_some_iff] at hk
    have hg : u.generated = false := by simpa using hk.2
    exact .inr (mem_leftOver_iff.mpr
      ⟨hm.mem_values_iff.mpr hk.1, hg, triggerAt_eq_none_iff.mp ht⟩)

lemma onePerSlot_afterPlan_iff : OnePerSlot (afterPlan engine m declared).values ↔
    OnePerSlot (declared ++ leftOver declared m.values) := by
  have hafter := (hm.replayFrom (Plan.ofDiff engine
    (between engine declared m.values)).operations).values_nodup
  have hboth := append_leftOver_nodup hd hm.values_nodup
  constructor
  · refine fun h => h.of_slots hafter hboth fun t ht => ?_
    rcases List.mem_append.mp ht with ht | ht
    · exact exists_of_declared hm hd cd cm ht
    · exact ⟨t, mem_of_leftOver hm hd cd cm ht, rfl, rfl⟩
  · refine fun h => h.of_slots hboth hafter fun u hu => ?_
    rcases declared_or_leftOver hm hd cd cm hu with ⟨t, ht, hts⟩ | hu
    · exact ⟨t, List.mem_append_left _ ht, hts⟩
    · exact ⟨u, List.mem_append_right _ hu, rfl, rfl⟩

lemma onePerSlot_generated_afterPlan (h : OnePerSlot declared) :
    OnePerSlot ((afterPlan engine m declared).values.filter Trigger.generated) := by
  have hafter := (hm.replayFrom (Plan.ofDiff engine
    (between engine declared m.values)).operations).values_nodup
  refine h.of_slots hd (hafter.sublist (List.filter_sublist.map _)) fun u hu => ?_
  obtain ⟨hu, hg⟩ := List.mem_filter.mp hu
  rcases declared_or_leftOver hm hd cd cm hu with ht | hu
  · exact ht
  · rw [(mem_leftOver_iff.mp hu).2.1] at hg
    exact nomatch hg

end Plan

def Records (engine : Engine) (ds : List Declaration) (h h' : History) : Prop :=
  (∀ d ∈ ds, d.Built) ∧ ∃ cap version p m,
    ((Generator.mk engine cap).generate ds h.applied).result = .ok p ∧
      p.toMigration? version = some m ∧ h.record m = .ok h'

inductive Reached (engine : Engine) : History → Prop
  | start : Reached engine .empty
  | record {h h' : History} {ds : List Declaration} : Reached engine h → Records engine ds h h' →
      Reached engine h'
  | rollback {h h' : History} {σ : Type} {x : Executor σ} {s s' : σ} {m : Option Migration} :
      Reached engine h → h.rollback x s = (s', .ok (h', m)) → Reached engine h'

inductive Planned (engine : Engine) : History → Prop
  | start : Planned engine .empty
  | record {h h' : History} {ds : List Declaration} : Planned engine h → Records engine ds h h' →
      Planned engine h'

section Reached

variable {engine : Engine} {ds : List Declaration} {h h' : History}

lemma eq_push_of_record {m : Migration} (hr : h.record m = .ok h') : h' = h.push m := by
  simp only [record, bind_eq_ok_iff, pure_eq_ok_iff] at hr
  obtain ⟨u, -, rfl⟩ := hr
  rfl

lemma eq_dropLast_of_rollback {σ : Type} {x : Executor σ} {s s' : σ} {m : Option Migration}
    (hr : h.rollback x s = (s', .ok (h', m))) : h' = ⟨h.migrations.dropLast⟩ := by
  rw [rollback] at hr
  split at hr
  · rename_i hl
    simp only [Prod.mk.injEq, Except.ok.injEq] at hr
    have hnil : h.migrations = [] := List.getLast?_eq_none_iff.mp hl
    rw [← hr.2.1, hnil, List.dropLast_nil, ← hnil]
  · split at hr
    · simp at hr
    · simp only [Prod.mk.injEq, Except.ok.injEq] at hr
      exact hr.2.1.symm

lemma Planned.dropLast (hp : Planned engine h) : Planned engine ⟨h.migrations.dropLast⟩ := by
  cases hp with
  | start => exact .start
  | record hp hr =>
    obtain ⟨-, cap, version, p, m, -, -, hrecord⟩ := hr
    obtain rfl := eq_push_of_record hrecord
    simpa [push] using hp

lemma Reached.planned (hr : Reached engine h) : Planned engine h := by
  induction hr with
  | start => exact .start
  | record _ hrecords ih => exact ih.record hrecords
  | rollback _ hroll ih =>
    rw [eq_dropLast_of_rollback hroll]
    exact ih.dropLast

lemma Records.exists_expansion (hr : Records engine ds h h') :
    ∃ ts cap, expansion engine ds = .ok ts ∧ (∀ t ∈ ts, t.Checked) ∧
      h'.applied = (afterPlan engine (replay h.operations)
        (ts.map (Generator.mk engine cap).cap)).values := by
  obtain ⟨hb, cap, version, p, m, hp, hm, hrecord⟩ := hr
  obtain ⟨ts, he, rfl⟩ := Generator.generate_eq_ok hp
  obtain ⟨name, -, rfl⟩ := Option.map_eq_some_iff.mp hm
  obtain rfl := eq_push_of_record hrecord
  refine ⟨ts, cap, he, fun t ht => (expansion_checked hb he t ht).1, ?_⟩
  rw [applied, push_operations, replay_append]
  rfl

lemma Planned.checked (hp : Planned engine h) : ∀ t ∈ h.applied, t.Checked := by
  induction hp with
  | start => exact fun t ht => absurd ht List.not_mem_nil
  | record _ hr ih =>
    obtain ⟨ts, cap, -, ct, happlied⟩ := hr.exists_expansion
    rw [happlied]
    exact checked_after_plan engine (Generator.map_cap_checked _ ct) ih

lemma Planned.onePerSlot_generated (he : engine.manyPerSlot = false) (hp : Planned engine h) :
    OnePerSlot (h.applied.filter Trigger.generated) := by
  cases hp with
  | start => exact .nil
  | record hp hr =>
    obtain ⟨ts, cap, hts, ct, happlied⟩ := hr.exists_expansion
    have hone : OnePerSlot (ts.map (Generator.mk engine cap).cap ++ []) :=
      (Generator.onePerSlot_map_cap_append _ ts []).mpr (by simpa using expansion_onePerSlot he hts)
    rw [List.append_nil] at hone
    rw [happlied]
    exact onePerSlot_generated_afterPlan (keyed_replay _)
      (Generator.map_cap_nodup _ (expansion_nodup hts)) (Generator.map_cap_checked _ ct) hp.checked
      hone

/-- Two applied triggers share a slot only where one of them was declared by hand, and a plan lets
them only by such a trigger that it finds applied but declared no more. -/
theorem Reached.onePerSlot_iff_leftOver (hr : Reached .inline h) :
    OnePerSlot (h.applied.filter Trigger.generated) ∧
      ∀ ds h', Records .inline ds h h' → ∃ ts, expansion .inline ds = .ok ts ∧
        (OnePerSlot h'.applied ↔ OnePerSlot (ts ++ leftOver ts h.applied)) := by
  have hp := hr.planned
  refine ⟨hp.onePerSlot_generated rfl, fun ds h' hrecords => ?_⟩
  obtain ⟨ts, cap, hts, ct, happlied⟩ := hrecords.exists_expansion
  refine ⟨ts, hts, ?_⟩
  rw [happlied, onePerSlot_afterPlan_iff (keyed_replay _)
    (Generator.map_cap_nodup _ (expansion_nodup hts)) (Generator.map_cap_checked _ ct) hp.checked,
    Generator.leftOver_map_cap, Generator.onePerSlot_map_cap_append]
  rfl

end Reached

section ByHand

def eveCounter : Trigger :=
  { bobCounter "SELECT 1;" 1 true with name := "eve_tr" }

def bobByHand : History :=
  empty.push (.ofOperations 1 "create_trigger_bob_tr" .inline
    [.create (bobCounter "SELECT 1;" 1 false)])

def eveBeside : History :=
  bobByHand.push (.ofOperations 2 "create_trigger_eve_tr" .inline [.create eveCounter])

lemma bobByHand_records :
    Records .inline [.trigger (bobCounter "SELECT 1;" 1 false)] .empty bobByHand := by
  refine ⟨fun d hd => ?_, 1, 1, Plan.ofDiff .inline ⟨[bobCounter "SELECT 1;" 1 false], []⟩, _,
    by decide +kernel, by rfl, by rfl⟩
  rw [List.mem_singleton.mp hd]
  exact ⟨.ofSettings (bobCounterSettings "SELECT 1;" ++ [.generated false]), by rfl⟩

lemma eveBeside_records : Records .inline [.trigger eveCounter] bobByHand eveBeside := by
  refine ⟨fun d hd => ?_, 1, 2, Plan.ofDiff .inline ⟨[eveCounter], []⟩, _, by decide +kernel,
    by rfl, by rfl⟩
  rw [List.mem_singleton.mp hd]
  exact ⟨.ofSettings (bobCounterSettings "SELECT 1;" ++ [.name "eve_tr"]), by rfl⟩

lemma eveBeside_applied : eveBeside.applied = [bobCounter "SELECT 1;" 1 false, eveCounter] := by
  rfl

theorem onePerSlot_iff_leftOver_bob :
    Reached .inline bobByHand ∧ OnePerSlot (bobByHand.applied.filter Trigger.generated) ∧
      Records .inline [.trigger eveCounter] bobByHand eveBeside ∧
      ∃ ts, expansion .inline [.trigger eveCounter] = .ok ts ∧
        (OnePerSlot eveBeside.applied ↔ OnePerSlot (ts ++ leftOver ts bobByHand.applied)) := by
  have hr : Reached .inline bobByHand := .record .start bobByHand_records
  obtain ⟨hgenerated, hplan⟩ := hr.onePerSlot_iff_leftOver
  exact ⟨hr, hgenerated, eveBeside_records, hplan _ _ eveBeside_records⟩

theorem eveBeside_shares_slot : Reached .inline eveBeside ∧ ¬ OnePerSlot eveBeside.applied := by
  refine ⟨(Reached.start.record bobByHand_records).record eveBeside_records, ?_⟩
  rw [eveBeside_applied]
  decide

end ByHand

end History

end SqlTriggers
