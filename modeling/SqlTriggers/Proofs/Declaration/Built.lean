import SqlTriggers.Declaration.Expansion
import SqlTriggers.Declaration.Freeze
import SqlTriggers.Proofs.Result
import SqlTriggers.Proofs.Sorting
import SqlTriggers.Proofs.Trigger.Checked
import SqlTriggers.Proofs.Trigger.DefaultName

/-! The triggers of a frozen declaration have passed all checks, on every engine. -/

namespace SqlTriggers

open Attributes (Common)

structure Attributes.Common.Checked (s : Common) : Prop where
  table : checkTableName s.table = .ok ()
  events : s.events.isEmpty = false
  columns : ∀ c ∈ s.columns, checkColumnName c = .ok ()
  updates : s.columns ≠ [] → s.events.contains .update = true
  principal : ∀ account, s.security = some (.principal account) → checkPrincipal account = .ok ()
  compatibility : s.compatibility ≤ newestCompatibility

lemma common_checked {a : Attributes} {s : Common} (h : a.common = .ok s) : s.Checked := by
  simp only [Attributes.common, bind_eq_ok_iff, guard_eq_ok_iff] at h
  obtain ⟨table, -, u, ht, timing, -, events, -, he, granularity, -, v, hc, hu, h⟩ := h
  have hcolumns := forM_eq_ok_iff.mp hc
  have hupdates : a.columns.getD [] ≠ [] → events.contains .update = true := by
    simpa [List.isEmpty_iff, imp_iff_not_or, or_comm] using hu
  have hevents : events.isEmpty = false := Bool.eq_false_iff.mpr he
  split at h
  · rename_i account hs
    simp only [bind_eq_ok_iff, guard_eq_ok_iff, pure_eq_ok_iff] at h
    obtain ⟨w, hp, hl, rfl⟩ := h
    refine ⟨ht, hevents, hcolumns, hupdates, ?_, UInt32.not_lt.mp hl⟩
    intro account' h'
    obtain rfl := Security.principal.inj (Option.some.inj (hs.symm.trans h'))
    exact hp
  · rename_i hs
    simp only [guard_eq_ok_iff, pure_eq_ok_iff] at h
    obtain ⟨hl, rfl⟩ := h
    exact ⟨ht, hevents, hcolumns, hupdates, fun account h' => absurd h' (hs account),
      UInt32.not_lt.mp hl⟩

def Trigger.common (t : Trigger) : Common :=
  ⟨t.table, t.timing, t.events, t.columns, t.granularity, t.security, t.compatibility, t.generated⟩

def Group.common (g : Group) : Common :=
  ⟨g.table, g.timing, g.events, g.columns, g.granularity, g.security, g.compatibility, g.generated⟩

lemma Trigger.checked_of_common {t : Trigger} (hn : checkIdentifier "trigger name" t.name = .ok ())
    (hc : t.common.Checked) : t.Checked :=
  ⟨hn, hc.table, hc.columns, hc.principal⟩

/-- Frozen from some draft, as every declaration is that an application makes. -/
def Declaration.Built (d : Declaration) : Prop :=
  ∃ draft : Draft, draft.freeze = .ok d

lemma Declaration.Built.cases {d : Declaration} (hd : d.Built) :
    (∃ a t, Draft.freezeTrigger a = .ok t ∧ d = .trigger t) ∨
      ∃ a branches g, Draft.freezeGroup a branches = .ok g ∧ d = .group g := by
  obtain ⟨draft, hd⟩ := hd
  unfold Draft.freeze at hd
  split at hd
  · obtain ⟨g, hg, rfl⟩ := map_eq_ok_iff.mp hd
    exact .inr ⟨_, _, g, hg, rfl⟩
  · obtain ⟨t, ht, rfl⟩ := map_eq_ok_iff.mp hd
    exact .inl ⟨_, t, ht, rfl⟩

lemma Declaration.Built.exists_freezeGroup {g : Group} (h : (Declaration.group g).Built) :
    ∃ a branches, Draft.freezeGroup a branches = .ok g := by
  rcases h.cases with ⟨a, t, -, he⟩ | ⟨a, branches, g', hg, he⟩
  · cases he
  · obtain rfl := Declaration.group.inj he
    exact ⟨a, branches, hg⟩

lemma freezeTrigger_checked {a : Attributes} {t : Trigger} (h : Draft.freezeTrigger a = .ok t) :
    checkIdentifier "trigger name" t.name = .ok () ∧ t.common.Checked := by
  simp only [Draft.freezeTrigger, bind_eq_ok_iff, pure_eq_ok_iff] at h
  obtain ⟨s, hs, condition, -, u, hn, body, -, rfl⟩ := h
  exact ⟨hn, common_checked hs⟩

namespace Group

variable {g : Group}

mutual

lemma common_of_mem_memberTriggers {bindings : Bindings} {conditions declarations : List String}
    {m : Member} {ts : List Trigger}
    (h : memberTriggers g bindings conditions declarations m = .ok ts) :
    ∀ t ∈ ts, t.common = g.common := by
  cases m with
  | leaf head body =>
    simp only [memberTriggers, bind_eq_ok_iff, pure_eq_ok_iff] at h
    obtain ⟨condition, -, rfl⟩ := h
    intro t ht
    obtain rfl := List.mem_singleton.mp ht
    rfl
  | nest head members =>
    simp only [memberTriggers, bind_eq_ok_iff] at h
    obtain ⟨condition, -, h⟩ := h
    exact common_of_mem_membersTriggers h

lemma common_of_mem_membersTriggers {bindings : Bindings} {conditions declarations : List String}
    {ms : List Member} {ts : List Trigger}
    (h : membersTriggers g bindings conditions declarations ms = .ok ts) :
    ∀ t ∈ ts, t.common = g.common := by
  cases ms with
  | nil =>
    obtain rfl := Except.ok.inj h
    exact fun t ht => absurd ht List.not_mem_nil
  | cons m ms =>
    simp only [membersTriggers, bind_eq_ok_iff, pure_eq_ok_iff] at h
    obtain ⟨us, hu, vs, hv, rfl⟩ := h
    intro t ht
    rcases List.mem_append.mp ht with ht | ht
    · exact common_of_mem_memberTriggers hu t ht
    · exact common_of_mem_membersTriggers hv t ht

end

lemma merge_eq_ok {engine : Engine} {t : Trigger} (h : g.merge engine = .ok t) :
    t.name = g.displayName ∧ t.common = g.common := by
  simp only [merge, guard_eq_ok_iff, bind_eq_ok_iff, pure_eq_ok_iff] at h
  obtain ⟨-, choices, -, rfl⟩ := h
  exact ⟨rfl, rfl⟩

lemma displayName_checked {u : Unit} (ht : checkTableName g.table = .ok ())
    (hn : g.name.forM Draft.checkTriggerName = .ok u) :
    checkIdentifier "trigger name" g.displayName = .ok () := by
  rw [displayName]
  cases hg : g.name with
  | some name =>
    rw [hg] at hn
    exact hn
  | none =>
    rw [Option.getD_none, defaultName]
    have htable := (checkTableName_eq_ok_iff _).mp ht
    rw [checkIdentifier_eq_ok_iff]
    exact defaultName_isIdentifier g.timing g.events g.granularity none htable

end Group

lemma freezeGroup_checked {a : Attributes} {branches : List Draft} {g : Group}
    (h : Draft.freezeGroup a branches = .ok g) : g.common.Checked ∧
      checkIdentifier "trigger name" g.displayName = .ok () ∧
      ∀ ts, g.triggers = .ok ts → ∀ t ∈ ts, checkIdentifier "trigger name" t.name = .ok () := by
  simp only [Draft.freezeGroup, bind_eq_ok_iff, guard_eq_ok_iff, pure_eq_ok_iff] at h
  obtain ⟨s, hs, u, hn, -, members, -, triggers, ht, v, hc, rfl⟩ := h
  have hchecked := common_checked hs
  refine ⟨hchecked, Group.displayName_checked hchecked.table hn, ?_⟩
  intro ts hts
  obtain rfl := Except.ok.inj (ht.symm.trans hts)
  exact forM_eq_ok_iff.mp hc

lemma Declaration.Built.triggersOf {d : Declaration} (hd : d.Built) {engine : Engine}
    {ts : List Trigger} (h : engine.triggersOf d = .ok ts) :
    ∀ t ∈ ts, t.Checked ∧ t.common.Checked := by
  rcases hd.cases with ⟨a, t, ht, rfl⟩ | ⟨a, branches, g, hg, rfl⟩
  · obtain rfl := Except.ok.inj h
    obtain ⟨hn, hc⟩ := freezeTrigger_checked ht
    intro u hu
    obtain rfl := List.mem_singleton.mp hu
    exact ⟨Trigger.checked_of_common hn hc, hc⟩
  · obtain ⟨hc, hn, hns⟩ := freezeGroup_checked hg
    rw [Engine.triggersOf] at h
    split at h
    · intro t ht
      have htc := Group.common_of_mem_membersTriggers h t ht
      exact ⟨Trigger.checked_of_common (hns ts h t ht) (htc ▸ hc), htc ▸ hc⟩
    · obtain ⟨t, hm, rfl⟩ := map_eq_ok_iff.mp h
      obtain ⟨htn, htc⟩ := Group.merge_eq_ok hm
      intro u hu
      obtain rfl := List.mem_singleton.mp hu
      exact ⟨Trigger.checked_of_common (htn ▸ hn) (htc ▸ hc), htc ▸ hc⟩

section Expansion

variable {engine : Engine} {ds : List Declaration} {ts : List Trigger}

lemma mem_triggersOfAll (h : engine.triggersOfAll ds = .ok ts) {t : Trigger} (ht : t ∈ ts) :
    ∃ d ∈ ds, ∃ us, engine.triggersOf d = .ok us ∧ t ∈ us := by
  induction ds generalizing ts with
  | nil =>
    obtain rfl := Except.ok.inj h
    exact absurd ht List.not_mem_nil
  | cons d ds ih =>
    simp only [Engine.triggersOfAll, bind_eq_ok_iff, pure_eq_ok_iff] at h
    obtain ⟨us, hu, vs, hv, rfl⟩ := h
    rcases List.mem_append.mp ht with ht | ht
    · exact ⟨d, List.mem_cons_self, us, hu, ht⟩
    · obtain ⟨d', hd', h'⟩ := ih hv ht
      exact ⟨d', List.mem_cons_of_mem _ hd', h'⟩

lemma firstRepeated?_eq_none_iff (seen : List TriggerKey) (ts : List Trigger) :
    firstRepeated? seen ts = none ↔
      (∀ t ∈ ts, t.key ∉ seen) ∧ (ts.map Trigger.key).Nodup := by
  induction ts generalizing seen with
  | nil => simp [firstRepeated?]
  | cons t ts ih =>
    rw [firstRepeated?]
    split
    · rename_i h
      simp [h]
    · rename_i h
      rw [ih]
      simp only [List.mem_cons, forall_eq_or_imp, List.map_cons, List.nodup_cons, List.mem_map]
      constructor
      · rintro ⟨hs, hn⟩
        exact ⟨⟨h, fun u hu hm => hs u hu (.inr hm)⟩, fun ⟨u, hu, hk⟩ => hs u hu (.inl hk), hn⟩
      · rintro ⟨⟨_, hs⟩, hf, hn⟩
        refine ⟨fun u hu hm => ?_, hn⟩
        rcases hm with hk | hm
        · exact hf ⟨u, hu, hk⟩
        · exact hs u hu hm

lemma requireDistinctKeys_eq_ok_iff {ts : List Trigger} {u : Unit} :
    requireDistinctKeys ts = .ok u ↔ (ts.map Trigger.key).Nodup := by
  have h := firstRepeated?_eq_none_iff [] ts
  rw [requireDistinctKeys]
  split
  · rename_i hf
    simp_all
  · rename_i hf
    simp_all

lemma expansion_nodup (h : expansion engine ds = .ok ts) : (ts.map Trigger.key).Nodup := by
  simp only [expansion, bind_eq_ok_iff, pure_eq_ok_iff] at h
  obtain ⟨us, -, u, hd, v, -, rfl⟩ := h
  have hp := (sortOn_perm Trigger.key us).map Trigger.key
  exact hp.nodup_iff.mpr (requireDistinctKeys_eq_ok_iff.mp hd)

lemma mem_expansion (h : expansion engine ds = .ok ts) {t : Trigger} (ht : t ∈ ts) :
    ∃ d ∈ ds, ∃ us, engine.triggersOf d = .ok us ∧ t ∈ us := by
  simp only [expansion, bind_eq_ok_iff, pure_eq_ok_iff] at h
  obtain ⟨us, hu, -, -, -, -, rfl⟩ := h
  exact mem_triggersOfAll hu (mem_sortOn.mp ht)

lemma expansion_checked (hd : ∀ d ∈ ds, d.Built) (h : expansion engine ds = .ok ts) :
    ∀ t ∈ ts, t.Checked ∧ t.common.Checked := by
  intro t ht
  obtain ⟨d, hm, us, hu, ht⟩ := mem_expansion h ht
  exact (hd d hm).triggersOf hu t ht

end Expansion

def bobCounterSettings (statement : String) : List Setting :=
  [.name "bob_tr", .on "users", .after [.ok .insert], .when "NEW.name = 'bob'", .generated true,
    .body [statement]]

lemma bobCounter_built : ∀ s ∈ ["UPDATE groups SET bob_count = bob_count + 1;",
    "UPDATE groups SET bob_count = bob_count + 2;"],
    (Declaration.trigger (bobCounter s 1 true)).Built := by
  intro s hs
  refine ⟨.ofSettings (bobCounterSettings s), ?_⟩
  simp only [List.mem_cons, List.not_mem_nil, or_false] at hs
  rcases hs with rfl | rfl
  · rfl
  · rfl

end SqlTriggers
