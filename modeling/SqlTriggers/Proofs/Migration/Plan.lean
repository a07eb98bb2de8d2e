import SqlTriggers.Proofs.Migration.Replay

/-! A plan's operations fit the applied triggers that it was made for. -/

namespace SqlTriggers

namespace Plan

def created (p : Plan) : List Trigger :=
  p.operations.filterMap fun
    | .create t => some t
    | .drop _ => none

def dropped (p : Plan) : List Trigger :=
  p.operations.filterMap fun
    | .create _ => none
    | .drop t => some t

variable (engine : Engine) (d : Diff)

@[simp] lemma created_ofDiff : (ofDiff engine d).created = d.added := by
  simp [created, ofDiff, List.filterMap_append, List.filterMap_map]

@[simp] lemma dropped_ofDiff : (ofDiff engine d).dropped = d.removed := by
  simp [dropped, ofDiff, List.filterMap_append, List.filterMap_map]

lemma up_ofDiff : (ofDiff engine d).up =
    d.removed.flatMap engine.dropStatements ++ d.added.flatMap engine.createStatements := by
  simp [ofDiff, Operation.forward, List.flatMap_map, Operation.statements]

lemma down_ofDiff : (ofDiff engine d).down = d.added.reverse.flatMap engine.dropStatements ++
    d.removed.reverse.flatMap engine.createStatements := by
  simp [ofDiff, Operation.backward, ← List.map_reverse, List.flatMap_map, Operation.inverse,
    Operation.statements]

end Plan

namespace Diff

variable {engine : Engine} {declared applied : List Trigger} {t : Trigger}

lemma createdForm_checked (h : t.Checked) : (createdForm applied t).Checked := by
  unfold createdForm
  split
  · exact h.withCompatibility _
  · exact h

lemma checked_of_mem_added (cd : ∀ t ∈ declared, t.Checked)
    (ht : t ∈ (between engine declared applied).added) : t.Checked := by
  simp only [between, mem_sortOn] at ht
  obtain ⟨u, hu, rfl⟩ := List.mem_map.mp ht
  exact createdForm_checked (cd u (List.mem_of_mem_filter hu))

lemma mem_applied_of_mem_removed (ht : t ∈ (between engine declared applied).removed) :
    t ∈ applied := by
  simp only [between, mem_sortOn] at ht
  exact List.mem_of_mem_filter ht

lemma createdForm_eq (applied : List Trigger) (t : Trigger) :
    createdForm applied t = t.withCompatibility (createdForm applied t).compatibility := by
  unfold createdForm
  split <;> rfl

lemma createdForm_compatibility_le {bound : UInt32} (ht : t.compatibility ≤ bound)
    (ha : ∀ a ∈ applied, a.compatibility ≤ bound) :
    (createdForm applied t).compatibility ≤ bound := by
  unfold createdForm
  split
  · rename_i c hc
    obtain ⟨a, hf, rfl⟩ := Option.map_eq_some_iff.mp hc
    have hm : a ∈ applied := List.mem_reverse.mp (List.mem_of_find?_eq_some hf)
    rw [Trigger.withCompatibility]
    split
    · exact ht
    · exact ha a hm
  · exact ht

lemma exists_of_mem_added (ht : t ∈ (between engine declared applied).added) :
    ∃ u ∈ declared, t = createdForm applied u := by
  simp only [between, mem_sortOn] at ht
  obtain ⟨u, hu, rfl⟩ := List.mem_map.mp ht
  exact ⟨u, List.mem_of_mem_filter hu, rfl⟩

lemma changeAt_added {t a : Option Trigger} (h : (changeAt engine t a).1.isSome) :
    a = none ∨ (changeAt engine t a).2 = a := by
  cases a with
  | none => exact .inl rfl
  | some a =>
    cases t with
    | none => exact absurd h (by simp [changeAt])
    | some t =>
      rw [changeAt] at h ⊢
      split_ifs at h ⊢
      · exact absurd h (by simp)
      · exact .inr rfl

def standing (engine : Engine) (t a : Option Trigger) : Option Trigger :=
  (changeAt engine t a).1.or (if (changeAt engine t a).2.isSome then none else a)

lemma standing_of_new : standing engine (some t) none = some t := rfl

lemma standing_of_same {a : Trigger}
    (h : engine.rendering (t.withCompatibility a.compatibility) = engine.rendering a) :
    standing engine (some t) (some a) = some a := by
  simp [standing, changeAt, h]

lemma standing_of_changed {a : Trigger}
    (h : engine.rendering (t.withCompatibility a.compatibility) ≠ engine.rendering a) :
    standing engine (some t) (some a) =
      some (t.withCompatibility (max a.compatibility t.compatibility)) := by
  simp [standing, changeAt, h]

lemma standing_of_undeclared (engine : Engine) (a : Option Trigger) :
    standing engine none a = a.filter fun a => !a.generated := by
  cases a with
  | none => rfl
  | some a => cases hg : a.generated <;> simp [standing, changeAt, Option.filter, hg]

end Diff

namespace History

open Diff

variable {m : Triggers} {declared : List Trigger}

lemma checked_after_plan (engine : Engine) (cd : ∀ t ∈ declared, t.Checked)
    (cm : ∀ t ∈ m.values, t.Checked) :
    ∀ t ∈ (replayFrom m (Plan.ofDiff engine (between engine declared m.values)).operations).values,
      t.Checked := by
  intro t ht
  rcases mem_values_replayFrom ht with ht | ht
  · exact cm t ht
  · simp only [Plan.ofDiff, List.mem_append, List.mem_map] at ht
    rcases ht with ⟨u, -, hu⟩ | ⟨u, hu, he⟩
    · cases hu
    · obtain rfl := Operation.create.inj he
      exact checked_of_mem_added cd hu

lemma get?_after_plan (engine : Engine) (hm : Keyed m) (hd : (declared.map Trigger.key).Nodup)
    (cd : ∀ t ∈ declared, t.Checked) (cm : ∀ t ∈ m.values, t.Checked) (k : TriggerKey) :
    (replayFrom m (Plan.ofDiff engine (between engine declared m.values)).operations).get? k =
      standing engine (triggerAt k declared) (m.get? k) := by
  have hc := changeAt_of_lookups engine hd hm.values_nodup cd cm k
  rw [hm.triggerAt_values] at hc
  rw [Plan.ofDiff, get?_replayFrom_plan (nodup_of_sorted (added_sorted engine m.values hd)),
    standing, ← hc]

lemma plan_fits (engine : Engine) (hm : Keyed m) (hd : (declared.map Trigger.key).Nodup)
    (cd : ∀ t ∈ declared, t.Checked) (cm : ∀ t ∈ m.values, t.Checked) :
    FitsAll m (Plan.ofDiff engine (between engine declared m.values)).operations := by
  have hremoved := nodup_of_sorted (removed_sorted engine declared hm.values_nodup)
  have hadded := nodup_of_sorted (added_sorted engine m.values hd)
  refine fitsAll_append.mpr ⟨fitsAll_drops hremoved fun t ht => ?_,
    fitsAll_creates hadded fun t ht => ?_⟩
  · exact hm.mem_values_iff.mp (mem_applied_of_mem_removed ht)
  · have hc := changeAt_of_lookups engine hd hm.values_nodup cd cm t.key
    have hsome := (triggerAt_eq_some_iff hadded).mpr ⟨ht, rfl⟩
    rw [hsome, hm.triggerAt_values] at hc
    have hchange : (changeAt engine (triggerAt t.key declared) (m.get? t.key)).1.isSome := by
      rw [← hc]
      rfl
    rw [get?_replayFrom_drops]
    rcases changeAt_added hchange with hnone | hold
    · rw [hnone, ite_self]
    · have hsnd := congrArg Prod.snd hc
      rw [hold] at hsnd
      rw [show triggerAt t.key _ = m.get? t.key from hsnd]
      cases m.get? t.key <;> rfl

end History

end SqlTriggers
