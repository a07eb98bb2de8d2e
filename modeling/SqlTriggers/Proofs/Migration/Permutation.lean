import SqlTriggers.Migration.Generator
import SqlTriggers.Proofs.Declaration.Expansion
import SqlTriggers.Proofs.Migration.Generator

/-! A plan does not depend on the order in which declarations were made and applied triggers are
listed. Neither does the kind of error where there is no plan. -/

namespace SqlTriggers

section Expansion

variable {engine : Engine} {ds ds' : List Declaration} {ts us : List Trigger} {e e' : Error}

lemma triggersOfAll_perm (hd : ds.Perm ds') (h : engine.triggersOfAll ds = .ok ts) :
    ∃ us, engine.triggersOfAll ds' = .ok us ∧ ts.Perm us := by
  induction hd generalizing ts with
  | nil => exact ⟨ts, h, .refl ts⟩
  | cons d _ ih =>
    simp only [Engine.triggersOfAll, bind_eq_ok_iff, pure_eq_ok_iff] at h ⊢
    obtain ⟨first, hf, others, ho, rfl⟩ := h
    obtain ⟨others', ho', hp⟩ := ih ho
    exact ⟨_, ⟨first, hf, others', ho', rfl⟩, hp.append_left first⟩
  | swap d d' ds =>
    simp only [Engine.triggersOfAll, bind_eq_ok_iff, pure_eq_ok_iff] at h ⊢
    obtain ⟨first, hf, _, ⟨second, hs, others, ho, rfl⟩, rfl⟩ := h
    refine ⟨_, ⟨second, hs, _, ⟨first, hf, others, ho, rfl⟩, rfl⟩, ?_⟩
    rw [← List.append_assoc, ← List.append_assoc]
    exact List.perm_append_comm.append_right others
  | trans _ _ ih ih' =>
    obtain ⟨vs, hv, hp⟩ := ih h
    obtain ⟨us, hu, hq⟩ := ih' hv
    exact ⟨us, hu, hp.trans hq⟩

lemma triggersOfAll_error (hb : GroupsBuilt ds) (h : engine.triggersOfAll ds = .error e) :
    ∃ group, e = .nestedGroup engine group := by
  obtain ⟨-, front, g, behind, -, -, -, he⟩ := (Engine.triggersOfAll_eq_error_iff_nested hb).mp h
  exact ⟨_, he⟩

lemma expansion_perm (hd : ds.Perm ds') (h : expansion engine ds = .ok ts) :
    expansion engine ds' = .ok ts := by
  simp only [expansion, bind_eq_ok_iff, pure_eq_ok_iff] at h ⊢
  obtain ⟨us, hu, u, hdistinct, v, hfree, rfl⟩ := h
  obtain ⟨vs, hv, hp⟩ := triggersOfAll_perm hd hu
  have hlegal := Engine.legal_iff.mpr ⟨hdistinct, hfree⟩
  obtain ⟨hdistinct', hfree'⟩ := Engine.legal_iff.mp (hlegal.perm hp)
  exact ⟨vs, hv, u, hdistinct', v, hfree', (sortOn_eq_of_perm Trigger.key hlegal.distinct hp).symm⟩

lemma expansion_error (ht : engine.triggersOfAll ds = .ok ts) (h : expansion engine ds = .error e) :
    (¬ (ts.map Trigger.key).Nodup ∧ ∃ table name, e = .duplicateName table name) ∨
      (ts.map Trigger.key).Nodup ∧ ∃ slot names, e = .duplicateSlot engine slot names := by
  rw [expansion, ht] at h
  rcases bind_eq_error_iff.mp h with h | ⟨_, ⟨⟩, h⟩
  · cases h
  rcases bind_eq_error_iff.mp h with hname | ⟨u, hdistinct, h⟩
  · obtain ⟨t, -, rfl⟩ := requireDistinctKeys_eq_error_iff.mp hname
    refine .inl ⟨fun hn => ?_, t.table, t.name, rfl⟩
    rw [requireDistinctKeys_eq_ok_iff (u := ()).mpr hn] at hname
    cases hname
  rcases bind_eq_error_iff.mp h with hslot | ⟨v, -, h⟩
  · obtain ⟨-, slot, names, -, rfl⟩ := Engine.requireFreeSlots_eq_error_iff.mp hslot
    exact .inr ⟨requireDistinctKeys_eq_ok_iff.mp hdistinct, slot, names, rfl⟩
  · cases h

lemma expansion_error_perm (hb : GroupsBuilt ds) (hd : ds.Perm ds')
    (h : expansion engine ds = .error e) (h' : expansion engine ds' = .error e') :
    e.ctorIdx = e'.ctorIdx := by
  have hb' : GroupsBuilt ds' := fun g hg => hb g (hd.mem_iff.mpr hg)
  cases ht : engine.triggersOfAll ds with
  | error e₀ =>
    cases hu : engine.triggersOfAll ds' with
    | error e₁ =>
      rw [expansion, ht] at h
      rw [expansion, hu] at h'
      obtain rfl := Except.error.inj h
      obtain rfl := Except.error.inj h'
      obtain ⟨group, rfl⟩ := triggersOfAll_error hb ht
      obtain ⟨group', rfl⟩ := triggersOfAll_error hb' hu
      rfl
    | ok us =>
      obtain ⟨ts, hts, -⟩ := triggersOfAll_perm hd.symm hu
      rw [ht] at hts
      cases hts
  | ok ts =>
    obtain ⟨us, hu, hp⟩ := triggersOfAll_perm hd ht
    have hkeys := (hp.map Trigger.key).nodup_iff
    rcases expansion_error ht h with ⟨hn, table, name, rfl⟩ | ⟨hn, slot, names, rfl⟩
    · rcases expansion_error hu h' with ⟨-, table', name', rfl⟩ | ⟨hm, -⟩
      · rfl
      · exact absurd (hkeys.mpr hm) hn
    · rcases expansion_error hu h' with ⟨hm, -⟩ | ⟨-, slot', names', rfl⟩
      · exact absurd (hkeys.mp hn) hm
      · rfl

end Expansion

section Diff

variable {applied applied' : List Trigger} (ha : (applied.map Trigger.key).Nodup)
  (hp : applied.Perm applied')

include ha hp

lemma appliedCompatibility_perm (k : TriggerKey) :
    Diff.appliedCompatibility applied k = Diff.appliedCompatibility applied' k := by
  have ha' : (applied'.map Trigger.key).Nodup := (hp.map Trigger.key).nodup_iff.mp ha
  by_cases h : ∃ a ∈ applied, a.key = k
  · obtain ⟨a, hm, rfl⟩ := h
    rw [Diff.appliedCompatibility_eq_some ha hm,
      Diff.appliedCompatibility_eq_some ha' (hp.mem_iff.mp hm)]
  · have hnone : ∀ a ∈ applied, a.key ≠ k := fun a hm hk => h ⟨a, hm, hk⟩
    rw [Diff.appliedCompatibility_eq_none hnone,
      Diff.appliedCompatibility_eq_none fun a hm => hnone a (hp.mem_iff.mpr hm)]

lemma between_perm (engine : Engine) (declared : List Trigger) :
    Diff.between engine declared applied = Diff.between engine declared applied' := by
  have hcompared : Diff.comparedRendering engine applied =
      Diff.comparedRendering engine applied' := by
    funext t
    rw [Diff.comparedRendering, Diff.comparedRendering, appliedCompatibility_perm ha hp]
  have hcreated : Diff.createdForm applied = Diff.createdForm applied' := by
    funext t
    rw [Diff.createdForm, Diff.createdForm, appliedCompatibility_perm ha hp]
  have hcontains : ∀ text, (applied.map engine.rendering).contains text =
      (applied'.map engine.rendering).contains text := fun text =>
    (hp.map engine.rendering).contains_eq
  simp only [Diff.between, hcompared, hcreated, hcontains, Diff.mk.injEq, true_and]
  exact sortOn_eq_of_perm Trigger.key (ha.sublist (List.filter_sublist.map _)) (hp.filter _)

end Diff

namespace Generator

variable {g : Generator} {ds ds' : List Declaration} {applied applied' : List Trigger}

lemma diff_perm (ha : (applied.map Trigger.key).Nodup) (hd : ds.Perm ds')
    (hp : applied.Perm applied') {d : Diff} (h : g.diff ds applied = .ok d) :
    g.diff ds' applied' = .ok d := by
  obtain ⟨us, hw, rfl⟩ := map_eq_ok_iff.mp h
  obtain ⟨ts, ht, rfl⟩ := map_eq_ok_iff.mp hw
  rw [diff, wanted, expansion_perm hd ht, between_perm ha hp]
  rfl

lemma expansion_error_of_diff {e : Error} (h : g.diff ds applied = .error e) :
    expansion g.engine ds = .error e := by
  rw [diff, wanted] at h
  cases he : expansion g.engine ds with
  | error e' =>
    rw [he] at h
    exact congrArg Except.error (Except.error.inj h)
  | ok ts =>
    rw [he] at h
    cases h

/-- Declarations in another order, and applied triggers in another, give the same plan and the same
warnings, or no plan for the same kind of reason. -/
theorem generate_perm (hb : GroupsBuilt ds) (ha : (applied.map Trigger.key).Nodup)
    (hd : ds.Perm ds') (hp : applied.Perm applied') :
    (∀ p, (g.generate ds applied).result = .ok p ↔ (g.generate ds' applied').result = .ok p) ∧
      (g.generate ds applied).warnings = (g.generate ds' applied').warnings ∧
      ∀ e e', (g.generate ds applied).result = .error e →
        (g.generate ds' applied').result = .error e' → e.ctorIdx = e'.ctorIdx := by
  cases h : g.diff ds applied with
  | ok d =>
    have hsame : g.generate ds applied = g.generate ds' applied' := by
      rw [generate, generate, h, diff_perm ha hd hp h]
    rw [hsame]
    refine ⟨fun p => Iff.rfl, rfl, fun e e' he he' => ?_⟩
    rw [Except.error.inj (he.symm.trans he')]
  | error e =>
    have ha' : (applied'.map Trigger.key).Nodup := (hp.map Trigger.key).nodup_iff.mp ha
    cases h' : g.diff ds' applied' with
    | ok d =>
      rw [diff_perm ha' hd.symm hp.symm h'] at h
      cases h
    | error e' =>
      have hkind := expansion_error_perm hb hd (expansion_error_of_diff h)
        (expansion_error_of_diff h')
      rw [generate, generate, h, h']
      refine ⟨fun p => by simp, rfl, fun f f' hf hf' => ?_⟩
      rw [← Except.error.inj hf, ← Except.error.inj hf']
      exact hkind

def groupsCounter : Trigger := { bobCounter "SELECT 1;" 1 true with table := "groups" }

theorem generate_perm_bobOrElse :
    GroupsBuilt [.group bobOrElse, .trigger groupsCounter] ∧
      ([bobCounter "SELECT 1;" 0 true, groupsCounter].map Trigger.key).Nodup ∧
      ∃ p, ((ofEngine .lightweight).generate [.group bobOrElse, .trigger groupsCounter]
          [bobCounter "SELECT 1;" 0 true, groupsCounter]).result = .ok p ∧
        ((ofEngine .lightweight).generate [.trigger groupsCounter, .group bobOrElse]
          [groupsCounter, bobCounter "SELECT 1;" 0 true]).result = .ok p := by
  have hb : GroupsBuilt [.group bobOrElse, .trigger groupsCounter] := by
    intro g hg
    simp only [List.mem_cons, Declaration.group.injEq, reduceCtorEq, List.not_mem_nil,
      or_false] at hg
    exact hg ▸ bobOrElse_built
  have ha : ([bobCounter "SELECT 1;" 0 true, groupsCounter].map Trigger.key).Nodup := by decide
  have hperm := generate_perm (g := ofEngine .lightweight) hb ha (.swap _ _ []) (.swap _ _ [])
  have hplan : ((ofEngine .lightweight).generate [.group bobOrElse, .trigger groupsCounter]
      [bobCounter "SELECT 1;" 0 true, groupsCounter]).result.isOk = true := by decide +kernel
  obtain ⟨p, hp⟩ := exists_of_isOk hplan
  exact ⟨hb, ha, p, hp, (hperm.1 p).mp hp⟩

end Generator

end SqlTriggers
