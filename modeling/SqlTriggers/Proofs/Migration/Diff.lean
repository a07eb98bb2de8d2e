import Mathlib.Data.List.Nodup
import SqlTriggers.Migration.Diff
import SqlTriggers.Proofs.Engine.Rendering
import SqlTriggers.Proofs.Sorting

/-! The diff by table and name. Since a rendering tells both, comparing all renderings at once is
the same as comparing trigger by trigger. -/

namespace SqlTriggers

def triggerAt (k : TriggerKey) (ts : List Trigger) : Option Trigger :=
  ts.find? fun t => t.key = k

lemma triggerAt_eq_none_iff {k : TriggerKey} {ts : List Trigger} :
    triggerAt k ts = none ↔ ∀ t ∈ ts, t.key ≠ k := by
  simp [triggerAt]

lemma eq_of_key_eq {ts : List Trigger} (hn : (ts.map Trigger.key).Nodup) {t u : Trigger}
    (ht : t ∈ ts) (hu : u ∈ ts) (h : t.key = u.key) : t = u :=
  List.inj_on_of_nodup_map hn ht hu h

lemma keys_nodup_of_names {ts : List Trigger} (hn : (ts.map Trigger.name).Nodup) :
    (ts.map Trigger.key).Nodup := by
  refine List.Nodup.of_map TriggerKey.name ?_
  rwa [List.map_map]

lemma triggerAt_eq_some_iff {k : TriggerKey} {ts : List Trigger}
    (hn : (ts.map Trigger.key).Nodup) {t : Trigger} :
    triggerAt k ts = some t ↔ t ∈ ts ∧ t.key = k := by
  constructor
  · intro h
    exact ⟨List.mem_of_find?_eq_some h, by simpa using List.find?_some h⟩
  · rintro ⟨ht, rfl⟩
    cases h : triggerAt t.key ts with
    | none => exact absurd rfl (triggerAt_eq_none_iff.mp h t ht)
    | some u =>
      have hu : u.key = t.key := by simpa using List.find?_some h
      rw [eq_of_key_eq hn (List.mem_of_find?_eq_some h) ht hu]

namespace Diff

lemma appliedCompatibility_eq_none {applied : List Trigger} {k : TriggerKey}
    (h : ∀ a ∈ applied, a.key ≠ k) : appliedCompatibility applied k = none := by
  simpa [appliedCompatibility] using h

lemma appliedCompatibility_eq_some {applied : List Trigger} (hn : (applied.map Trigger.key).Nodup)
    {a : Trigger} (ha : a ∈ applied) :
    appliedCompatibility applied a.key = some a.compatibility := by
  have hr : (applied.reverse.map Trigger.key).Nodup := by
    rw [List.map_reverse]
    exact List.nodup_reverse.mpr hn
  have h : triggerAt a.key applied.reverse = some a :=
    (triggerAt_eq_some_iff hr).mpr ⟨List.mem_reverse.mpr ha, rfl⟩
  rw [triggerAt] at h
  rw [appliedCompatibility, h, Option.map_some]

lemma exists_comparedRendering_eq (engine : Engine) (applied : List Trigger) (t : Trigger) :
    ∃ c, comparedRendering engine applied t = engine.rendering (t.withCompatibility c) := by
  unfold comparedRendering
  split
  · exact ⟨_, rfl⟩
  · exact ⟨t.compatibility, rfl⟩

lemma createdForm_key (applied : List Trigger) (t : Trigger) :
    (createdForm applied t).key = t.key := by
  unfold createdForm
  split <;> rfl

variable {engine : Engine} {declared applied : List Trigger} {t a : Trigger}

lemma key_eq_of_comparedRendering_eq (ht : t.Checked) (ha : a.Checked)
    (h : comparedRendering engine applied t = engine.rendering a) : t.key = a.key := by
  obtain ⟨c, hc⟩ := exists_comparedRendering_eq engine applied t
  rw [hc] at h
  have hk : (t.withCompatibility c).key = a.key :=
    engine.key_eq_of_rendering_eq (ht.withCompatibility c) ha h
  exact hk

lemma createdForm_of_new (h : ∀ a ∈ applied, a.key ≠ t.key) : createdForm applied t = t := by
  rw [createdForm, appliedCompatibility_eq_none h]

lemma comparedRendering_of_old (hn : (applied.map Trigger.key).Nodup) (ha : a ∈ applied)
    (h : a.key = t.key) : comparedRendering engine applied t =
      engine.rendering (t.withCompatibility a.compatibility) := by
  rw [comparedRendering, ← h, appliedCompatibility_eq_some hn ha]

lemma createdForm_of_old (hn : (applied.map Trigger.key).Nodup) (ha : a ∈ applied)
    (h : a.key = t.key) : createdForm applied t =
      t.withCompatibility (max a.compatibility t.compatibility) := by
  rw [createdForm, ← h, appliedCompatibility_eq_some hn ha]
  have hm : max a.compatibility t.compatibility =
      if a.compatibility ≤ t.compatibility then t.compatibility else a.compatibility := rfl
  simp only [hm]
  congr 1
  split_ifs with hlt hle hle
  · rfl
  · exact absurd (UInt32.le_of_lt hlt) hle
  · exact UInt32.le_antisymm hle (UInt32.not_lt.mp hlt)
  · rfl

lemma between_nil (engine : Engine) (ts : List Trigger) :
    between engine ts [] = ⟨sortOn Trigger.key ts, []⟩ := by
  have hcreated : createdForm [] = id := funext fun _ => rfl
  simp [between, hcreated, sortOn]

def Differs (engine : Engine) (t a : Trigger) : Prop :=
  engine.rendering (t.withCompatibility a.compatibility) ≠ engine.rendering a

section Between

variable (hd : (declared.map Trigger.key).Nodup) (ha : (applied.map Trigger.key).Nodup)
  (cd : ∀ t ∈ declared, t.Checked) (ca : ∀ a ∈ applied, a.Checked)

include ha cd ca

lemma comparedRendering_notMem_iff (ht : t ∈ declared) :
    comparedRendering engine applied t ∉ applied.map engine.rendering ↔
      ∀ a ∈ applied, a.key = t.key → Differs engine t a := by
  constructor
  · intro h a hm hk hr
    exact h (List.mem_map.mpr ⟨a, hm, by rw [comparedRendering_of_old ha hm hk, hr]⟩)
  · intro h hc
    obtain ⟨a, hm, hr⟩ := List.mem_map.mp hc
    have hk := (key_eq_of_comparedRendering_eq (cd t ht) (ca a hm) hr.symm).symm
    exact h a hm hk (by rw [← comparedRendering_of_old ha hm hk, hr])

lemma rendering_notMem_iff (hm : a ∈ applied) :
    engine.rendering a ∉ declared.map (comparedRendering engine applied) ↔
      ∀ t ∈ declared, t.key = a.key → Differs engine t a := by
  constructor
  · intro h t ht hk hr
    exact h (List.mem_map.mpr ⟨t, ht, by rw [comparedRendering_of_old ha hm hk.symm, hr]⟩)
  · intro h hc
    obtain ⟨t, ht, hr⟩ := List.mem_map.mp hc
    have hk := key_eq_of_comparedRendering_eq (cd t ht) (ca a hm) hr
    exact h t ht hk (by rw [← comparedRendering_of_old ha hm hk.symm, hr])

lemma mem_added_iff : t ∈ (between engine declared applied).added ↔ ∃ u ∈ declared,
    (∀ a ∈ applied, a.key = u.key → Differs engine u a) ∧ createdForm applied u = t := by
  simp only [between, mem_sortOn]
  constructor
  · intro h
    obtain ⟨u, hm, rfl⟩ := List.mem_map.mp h
    simp only [List.mem_filter, Bool.not_eq_true', List.contains_eq_mem,
      decide_eq_false_iff_not] at hm
    exact ⟨u, hm.1, (comparedRendering_notMem_iff ha cd ca hm.1).mp hm.2, rfl⟩
  · rintro ⟨u, hu, hc, rfl⟩
    refine List.mem_map_of_mem (List.mem_filter.mpr ⟨hu, ?_⟩)
    simpa only [Bool.not_eq_true', List.contains_eq_mem, decide_eq_false_iff_not] using
      (comparedRendering_notMem_iff ha cd ca hu).mpr hc

include hd

lemma mem_removed_iff : a ∈ (between engine declared applied).removed ↔ a ∈ applied ∧
    (a.generated ∧ (∀ t ∈ declared, t.key ≠ a.key) ∨
      ∃ t ∈ declared, t.key = a.key ∧ Differs engine t a) := by
  simp only [between, mem_sortOn, List.mem_filter, Bool.and_eq_true, Bool.or_eq_true,
    Bool.not_eq_true', List.contains_eq_mem, decide_eq_false_iff_not, List.any_eq_true,
    decide_eq_true_eq]
  refine and_congr_right fun hm => ?_
  rw [rendering_notMem_iff ha cd ca hm]
  constructor
  · rintro ⟨hg, hc⟩
    by_cases hk : ∀ t ∈ declared, t.key ≠ a.key
    · rcases hg with hg | ⟨t, ⟨ht, _⟩, hta⟩
      · exact .inl ⟨hg, hk⟩
      · exact absurd hta (hk t ht)
    · push Not at hk
      obtain ⟨t, ht, hta⟩ := hk
      exact .inr ⟨t, ht, hta, hc t ht hta⟩
  · rintro (⟨hg, hk⟩ | ⟨t, ht, hta, hr⟩)
    · exact ⟨.inl hg, fun t ht hta => absurd hta (hk t ht)⟩
    · have hc : ∀ b ∈ applied, b.key = t.key → Differs engine t b := by
        intro b hb hbt
        rwa [eq_of_key_eq ha hb hm (hbt.trans hta)]
      refine ⟨.inr ⟨t, ⟨ht, (comparedRendering_notMem_iff ha cd ca ht).mpr hc⟩, hta⟩, ?_⟩
      intro u hu hua
      rwa [eq_of_key_eq hd hu ht (hua.trans hta.symm)]

end Between

lemma added_sorted (engine : Engine) (applied : List Trigger)
    (hd : (declared.map Trigger.key).Nodup) :
    (between engine declared applied).added.Pairwise fun a b => compare a.key b.key = .lt := by
  refine sortOn_strictly_sorted Trigger.key ?_
  rw [List.map_map, show Trigger.key ∘ createdForm applied = Trigger.key from
    funext (createdForm_key applied)]
  exact hd.sublist (List.filter_sublist.map _)

lemma removed_sorted (engine : Engine) (declared : List Trigger)
    (ha : (applied.map Trigger.key).Nodup) :
    (between engine declared applied).removed.Pairwise fun a b => compare a.key b.key = .lt :=
  sortOn_strictly_sorted Trigger.key (ha.sublist (List.filter_sublist.map _))

lemma nodup_of_sorted {ts : List Trigger}
    (h : ts.Pairwise fun a b => compare a.key b.key = .lt) : (ts.map Trigger.key).Nodup := by
  rw [List.Nodup, List.pairwise_map]
  refine h.imp fun {a b} hlt hk => ?_
  rw [hk, Std.ReflOrd.compare_self] at hlt
  exact Ordering.noConfusion hlt

section Keys

variable (hd : (declared.map Trigger.key).Nodup) (ha : (applied.map Trigger.key).Nodup)
  (cd : ∀ t ∈ declared, t.Checked) (ca : ∀ a ∈ applied, a.Checked)

include ha cd ca

lemma added_eq_none_of_not_declared {k : TriggerKey} (h : triggerAt k declared = none) :
    triggerAt k (between engine declared applied).added = none := by
  rw [triggerAt_eq_none_iff] at h ⊢
  intro t ht
  obtain ⟨u, hu, _, rfl⟩ := (mem_added_iff ha cd ca).mp ht
  rw [createdForm_key]
  exact h u hu

include hd

lemma added_eq_some (ht : t ∈ declared) (h : ∀ a ∈ applied, a.key = t.key → Differs engine t a) :
    triggerAt t.key (between engine declared applied).added = some (createdForm applied t) :=
  (triggerAt_eq_some_iff (nodup_of_sorted (added_sorted engine applied hd))).mpr
    ⟨(mem_added_iff ha cd ca).mpr ⟨t, ht, h, rfl⟩, createdForm_key applied t⟩

lemma added_eq_none_of_same (ht : t ∈ declared) (hm : a ∈ applied) (hk : a.key = t.key)
    (h : ¬ Differs engine t a) :
    triggerAt t.key (between engine declared applied).added = none := by
  refine triggerAt_eq_none_iff.mpr fun s hs hst => ?_
  obtain ⟨u, hu, hc, rfl⟩ := (mem_added_iff ha cd ca).mp hs
  rw [createdForm_key] at hst
  obtain rfl := eq_of_key_eq hd hu ht hst
  exact h (hc a hm hk)

lemma removed_eq_none_of_not_applied {k : TriggerKey} (h : triggerAt k applied = none) :
    triggerAt k (between engine declared applied).removed = none := by
  rw [triggerAt_eq_none_iff] at h ⊢
  exact fun a hm => h a ((mem_removed_iff hd ha cd ca).mp hm).1

lemma removed_eq_of_not_declared (hm : a ∈ applied) (h : ∀ t ∈ declared, t.key ≠ a.key) :
    triggerAt a.key (between engine declared applied).removed =
      if a.generated then some a else none := by
  split
  · rename_i hg
    exact (triggerAt_eq_some_iff (nodup_of_sorted (removed_sorted engine declared ha))).mpr
      ⟨(mem_removed_iff hd ha cd ca).mpr ⟨hm, .inl ⟨hg, h⟩⟩, rfl⟩
  · rename_i hg
    refine triggerAt_eq_none_iff.mpr fun s hs hsa => ?_
    obtain ⟨hs, ⟨hsg, _⟩ | ⟨t, ht, hts, _⟩⟩ := (mem_removed_iff hd ha cd ca).mp hs
    · exact hg (eq_of_key_eq ha hs hm hsa ▸ hsg)
    · exact h t ht (hts.trans hsa)

lemma removed_eq_some (ht : t ∈ declared) (hm : a ∈ applied) (hk : a.key = t.key)
    (h : Differs engine t a) :
    triggerAt t.key (between engine declared applied).removed = some a :=
  (triggerAt_eq_some_iff (nodup_of_sorted (removed_sorted engine declared ha))).mpr
    ⟨(mem_removed_iff hd ha cd ca).mpr ⟨hm, .inr ⟨t, ht, hk.symm, h⟩⟩, hk⟩

lemma removed_eq_none_of_same (ht : t ∈ declared) (hm : a ∈ applied) (hk : a.key = t.key)
    (h : ¬ Differs engine t a) :
    triggerAt t.key (between engine declared applied).removed = none := by
  refine triggerAt_eq_none_iff.mpr fun s hs hst => ?_
  obtain ⟨hs, ⟨_, hn⟩ | ⟨u, hu, hus, hr⟩⟩ := (mem_removed_iff hd ha cd ca).mp hs
  · exact hn t ht hst.symm
  · obtain rfl := eq_of_key_eq ha hs hm (hst.trans hk.symm)
    obtain rfl := eq_of_key_eq hd hu ht (hus.trans hst)
    exact h hr

end Keys

/-- What one table and name adds and removes, given the declared and the applied trigger there. -/
def changeAt (engine : Engine) : Option Trigger → Option Trigger → Option Trigger × Option Trigger
  | none, none => (none, none)
  | some t, none => (some t, none)
  | none, some a => (none, if a.generated then some a else none)
  | some t, some a =>
    if engine.rendering (t.withCompatibility a.compatibility) = engine.rendering a then (none, none)
    else (some (t.withCompatibility (max a.compatibility t.compatibility)), some a)

lemma changeAt_of_lookups (engine : Engine) {declared applied : List Trigger}
    (hd : (declared.map Trigger.key).Nodup) (ha : (applied.map Trigger.key).Nodup)
    (cd : ∀ t ∈ declared, t.Checked) (ca : ∀ a ∈ applied, a.Checked) (k : TriggerKey) :
    (triggerAt k (between engine declared applied).added,
      triggerAt k (between engine declared applied).removed) =
      changeAt engine (triggerAt k declared) (triggerAt k applied) := by
  cases ht : triggerAt k declared with
  | none =>
    have hadd : triggerAt k (between engine declared applied).added = none :=
      added_eq_none_of_not_declared ha cd ca ht
    cases hk : triggerAt k applied with
    | none => exact Prod.ext hadd (removed_eq_none_of_not_applied hd ha cd ca hk)
    | some a =>
      obtain ⟨hm, rfl⟩ := (triggerAt_eq_some_iff ha).mp hk
      exact Prod.ext hadd
        (removed_eq_of_not_declared hd ha cd ca hm (triggerAt_eq_none_iff.mp ht))
  | some t =>
    obtain ⟨hm, rfl⟩ := (triggerAt_eq_some_iff hd).mp ht
    cases hk : triggerAt t.key applied with
    | none =>
      have hn := triggerAt_eq_none_iff.mp hk
      have hadd : triggerAt t.key (between engine declared applied).added =
          some (createdForm applied t) :=
        added_eq_some hd ha cd ca hm fun a h he => absurd he (hn a h)
      rw [createdForm_of_new hn] at hadd
      exact Prod.ext hadd (removed_eq_none_of_not_applied hd ha cd ca hk)
    | some a =>
      obtain ⟨hma, he⟩ := (triggerAt_eq_some_iff ha).mp hk
      rw [changeAt]
      by_cases hr : Differs engine t a
      · have hadd : triggerAt t.key (between engine declared applied).added =
            some (createdForm applied t) := added_eq_some hd ha cd ca hm fun b hb hbt =>
          (eq_of_key_eq ha hb hma (hbt.trans he.symm)) ▸ hr
        rw [createdForm_of_old ha hma he] at hadd
        rw [if_neg hr]
        exact Prod.ext hadd (removed_eq_some hd ha cd ca hm hma he hr)
      · rw [if_pos (not_not.mp hr)]
        exact Prod.ext (added_eq_none_of_same hd ha cd ca hm hma he hr)
          (removed_eq_none_of_same hd ha cd ca hm hma he hr)

end Diff

end SqlTriggers
