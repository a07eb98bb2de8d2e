import SqlTriggers.Migration.History
import SqlTriggers.Proofs.Migration.Diff
import SqlTriggers.Proofs.OrderedMap

/-! Replaying operations on the triggers by table and name. Operations that fit the triggers that
they meet are undone by their inverses in reverse order. -/

namespace SqlTriggers

namespace Executor

variable {σ : Type} {x : Executor σ} {s s' : σ} {stmt : String}

lemma runAll_cons_ok (h : x.run s stmt = (s', .ok ())) (rest : List String) :
    x.runAll s (stmt :: rest) = x.runAll s' rest := by
  simp only [runAll, h]

lemma runAll_cons_error {e : Error} (h : x.run s stmt = (s', .error e)) (rest : List String) :
    x.runAll s (stmt :: rest) = (s', .error e) := by
  simp only [runAll, h]

end Executor

namespace History

abbrev Triggers := OrderedMap TriggerKey Trigger

def replayFrom (m : Triggers) (ops : List Operation) : Triggers :=
  ops.foldl replayStep m

lemma replay_append (ops rest : List Operation) :
    replay (ops ++ rest) = replayFrom (replay ops) rest :=
  List.foldl_append

lemma push_operations (h : History) (m : Migration) :
    (h.push m).operations = h.operations ++ m.operations := by
  simp [operations, push]

lemma requireNewer_eq_ok {h : History} {version : UInt64}
    (hv : ∀ latest, h.lastVersion = some latest → latest < version) :
    h.requireNewer version = .ok () := by
  rw [requireNewer]
  cases hl : h.lastVersion with
  | none => rfl
  | some latest => exact if_neg (UInt64.not_le.mpr (hv latest hl))

lemma record_eq_ok {h : History} {m : Migration}
    (hv : ∀ latest, h.lastVersion = some latest → latest < m.version) :
    h.record m = .ok (h.push m) := by
  rw [record, requireNewer_eq_ok hv]
  rfl

section Executor

variable {σ : Type} {x : Executor σ} {s s' : σ} {h : History} {m : Migration}

lemma apply_eq_ok (hv : ∀ latest, h.lastVersion = some latest → latest < m.version)
    (hx : x.runAll s m.up = (s', .ok ())) : h.apply x s m = (s', .ok (h.push m)) := by
  simp only [apply, requireNewer_eq_ok hv, hx]

lemma rollback_eq_ok (hl : h.latest? = some m) (hx : x.runAll s m.down = (s', .ok ())) :
    h.rollback x s = (s', .ok (⟨h.migrations.dropLast⟩, some m)) := by
  simp only [rollback, hl, hx]

end Executor

variable {m : Triggers} {ops rest : List Operation} {op : Operation} {k : TriggerKey}

lemma replayFrom_cons : replayFrom m (op :: ops) = replayFrom (replayStep m op) ops := rfl

lemma replayFrom_append : replayFrom m (ops ++ rest) = replayFrom (replayFrom m ops) rest :=
  List.foldl_append

def Keyed (m : Triggers) : Prop :=
  ∀ k t, m.get? k = some t → t.key = k

lemma Keyed.replayStep (h : Keyed m) (op : Operation) : Keyed (replayStep m op) := by
  intro k t hk
  cases op with
  | create u =>
    rw [History.replayStep, OrderedMap.get?_insert] at hk
    split_ifs at hk with hu
    · rw [← Option.some.inj hk, hu]
    · exact h k t hk
  | drop u =>
    rw [History.replayStep, OrderedMap.get?_erase] at hk
    split_ifs at hk
    exact h k t hk

lemma Keyed.replayFrom (h : Keyed m) (ops : List Operation) : Keyed (replayFrom m ops) := by
  induction ops generalizing m with
  | nil => exact h
  | cons op ops ih => exact ih (h.replayStep op)

lemma keyed_empty : Keyed (.empty : Triggers) :=
  fun k t h => by simp at h

lemma keyed_replay (ops : List Operation) : Keyed (replay ops) :=
  keyed_empty.replayFrom ops

lemma Keyed.mem_values_iff (h : Keyed m) {t : Trigger} : t ∈ m.values ↔ m.get? t.key = some t := by
  rw [OrderedMap.mem_values_iff]
  constructor
  · rintro ⟨k, hk⟩
    rwa [h k t hk]
  · intro hk
    exact ⟨_, hk⟩

lemma Keyed.map_key_values (h : Keyed m) : m.values.map Trigger.key = m.keys := by
  have he : ∀ e ∈ m.entries, (Trigger.key ∘ fun e => e.2) e = e.1 := fun e hm =>
    h e.1 e.2 (OrderedMap.get?_eq_some_iff.mpr hm)
  rw [OrderedMap.values, List.map_map, List.map_congr_left he, OrderedMap.keys]

lemma Keyed.values_nodup (h : Keyed m) : (m.values.map Trigger.key).Nodup := by
  rw [h.map_key_values]
  exact m.keys_nodup

lemma Keyed.values_sorted (h : Keyed m) :
    m.values.Pairwise fun t u => compare t.key u.key = .lt := by
  have hkeys : m.keys.Pairwise fun k l => compare k l = .lt := List.pairwise_map.mpr m.sorted
  rw [← h.map_key_values] at hkeys
  exact List.pairwise_map.mp hkeys

lemma Keyed.triggerAt_values (h : Keyed m) (k : TriggerKey) : triggerAt k m.values = m.get? k := by
  apply Option.ext
  intro t
  rw [triggerAt_eq_some_iff h.values_nodup, h.mem_values_iff]
  constructor
  · rintro ⟨hm, rfl⟩
    exact hm
  · intro hk
    have hkey := h k t hk
    exact ⟨hkey ▸ hk, hkey⟩

lemma mem_values_replayStep {t : Trigger} (h : t ∈ (replayStep m op).values) :
    t ∈ m.values ∨ op = .create t := by
  obtain ⟨k, hk⟩ := OrderedMap.mem_values_iff.mp h
  cases op with
  | create u =>
    rw [replayStep, OrderedMap.get?_insert] at hk
    split_ifs at hk
    · exact .inr (congrArg _ (Option.some.inj hk))
    · exact .inl (OrderedMap.mem_values_iff.mpr ⟨k, hk⟩)
  | drop u =>
    rw [replayStep, OrderedMap.get?_erase] at hk
    split_ifs at hk
    exact .inl (OrderedMap.mem_values_iff.mpr ⟨k, hk⟩)

lemma mem_values_replayFrom {t : Trigger} (h : t ∈ (replayFrom m ops).values) :
    t ∈ m.values ∨ .create t ∈ ops := by
  induction ops generalizing m with
  | nil => exact .inl h
  | cons op ops ih =>
    rcases ih h with h | h
    · rcases mem_values_replayStep h with h | rfl
      · exact .inl h
      · exact .inr List.mem_cons_self
    · exact .inr (List.mem_cons_of_mem _ h)

section Recorded

def created (ops : List Operation) : List Trigger :=
  ops.reverse.filterMap fun
    | .create t => some t
    | .drop _ => none

lemma mem_created_iff {t : Trigger} : t ∈ created ops ↔ .create t ∈ ops := by
  simp only [created, List.mem_filterMap, List.mem_reverse]
  constructor
  · rintro ⟨op, hop, ht⟩
    cases op with
    | create u => rwa [← Option.some.inj ht]
    | drop u => exact nomatch ht
  · intro ht
    exact ⟨_, ht, rfl⟩

lemma mem_recorded_iff {h : History} {t : Trigger} : t ∈ h.recorded ↔ .create t ∈ h.operations :=
  mem_created_iff

lemma mem_recorded_of_mem_applied {h : History} {t : Trigger} (ht : t ∈ h.applied) :
    t ∈ h.recorded := by
  rcases mem_values_replayFrom ht with he | hc
  · exact absurd he List.not_mem_nil
  · exact mem_recorded_iff.mpr hc

lemma created_eq_append_cons_iff {front back : List Trigger} {t : Trigger} :
    created ops = front ++ t :: back ↔ ∃ before after, ops = before ++ .create t :: after ∧
      created before = back ∧ created after = front := by
  constructor
  · intro he
    obtain ⟨later, rest, hops, rfl, hrest⟩ := List.filterMap_eq_append_iff.mp he
    obtain ⟨drops, op, earlier, rfl, hdrops, hop, rfl⟩ := List.filterMap_eq_cons_iff.mp hrest
    have hcreate : op = .create t := by
      cases op with
      | create u => rw [Option.some.inj hop]
      | drop u => exact nomatch hop
    refine ⟨earlier.reverse, (later ++ drops).reverse, ?_, by simp [created], ?_⟩
    · rw [← List.reverse_reverse ops, hops, hcreate]
      simp
    · rw [created, List.reverse_reverse, List.filterMap_append, List.filterMap_eq_nil_iff.mpr hdrops,
        List.append_nil]
  · rintro ⟨before, after, rfl, rfl, rfl⟩
    simp [created]

lemma created_concat_create (t : Trigger) : created (ops ++ [.create t]) = t :: created ops := by
  simp [created]

lemma created_concat_drop (t : Trigger) : created (ops ++ [.drop t]) = created ops := by
  simp [created]

lemma triggerAt_created {t : Trigger} (h : (replay ops).get? k = some t) :
    triggerAt k (created ops) = some t := by
  induction ops using List.reverseRecOn with
  | nil => exact nomatch h
  | append_singleton ops op ih =>
    rw [replay_append] at h
    cases op with
    | create u =>
      have hget : ((replay ops).insert u.key u).get? k = some t := h
      rw [OrderedMap.get?_insert] at hget
      rw [created_concat_create, triggerAt, List.find?_cons]
      by_cases hk : u.key = k
      · rw [if_pos hk] at hget
        simpa [hk] using hget
      · rw [if_neg hk] at hget
        simp only [hk, decide_false]
        exact ih hget
    | drop u =>
      have hget : ((replay ops).erase u.key).get? k = some t := h
      rw [OrderedMap.get?_erase] at hget
      split_ifs at hget
      rw [created_concat_drop]
      exact ih hget

lemma triggerAt_recorded {h : History} {t : Trigger} (ht : t ∈ h.applied) :
    triggerAt t.key h.recorded = some t :=
  triggerAt_created ((keyed_replay h.operations).mem_values_iff.mp ht)

end Recorded

section Undo

def Fits (m : Triggers) : Operation → Prop
  | .create t => m.get? t.key = none
  | .drop t => m.get? t.key = some t

def FitsAll (m : Triggers) : List Operation → Prop
  | [] => True
  | op :: ops => Fits m op ∧ FitsAll (replayStep m op) ops

lemma fitsAll_append :
    FitsAll m (ops ++ rest) ↔ FitsAll m ops ∧ FitsAll (replayFrom m ops) rest := by
  induction ops generalizing m with
  | nil => simp [FitsAll, replayFrom]
  | cons op ops ih => simp only [List.cons_append, FitsAll, ih, replayFrom_cons, and_assoc]

lemma Fits.inverse (h : Fits m op) : Fits (replayStep m op) op.inverse := by
  cases op with
  | create t => simp [Operation.inverse, Fits, replayStep, OrderedMap.get?_insert]
  | drop t => simp [Operation.inverse, Fits, replayStep, OrderedMap.get?_erase]

lemma replayStep_inverse (h : Fits m op) : replayStep (replayStep m op) op.inverse = m := by
  apply OrderedMap.ext_get?
  intro k
  cases op with
  | create t =>
    have hn : m.get? t.key = none := h
    simp only [Operation.inverse, replayStep, OrderedMap.get?_erase, OrderedMap.get?_insert]
    split
    · rename_i hk
      rw [← hk, hn]
    · rfl
  | drop t =>
    have hs : m.get? t.key = some t := h
    simp only [Operation.inverse, replayStep, OrderedMap.get?_insert, OrderedMap.get?_erase]
    split
    · rename_i hk
      rw [← hk, hs]
    · rfl

lemma undo_fits (h : FitsAll m ops) :
    FitsAll (replayFrom m ops) (ops.reverse.map Operation.inverse) ∧
      replayFrom (replayFrom m ops) (ops.reverse.map Operation.inverse) = m := by
  induction ops generalizing m with
  | nil => exact ⟨trivial, rfl⟩
  | cons op ops ih =>
    obtain ⟨hf, hr⟩ := ih h.2
    rw [List.reverse_cons, List.map_append, replayFrom_cons, fitsAll_append, replayFrom_append, hr]
    exact ⟨⟨hf, h.1.inverse, trivial⟩, replayStep_inverse h.1⟩

end Undo

section Plan

variable {ts added removed : List Trigger}

lemma get?_replayFrom_drops : (replayFrom m (ts.map .drop)).get? k =
    if (triggerAt k ts).isSome then none else m.get? k := by
  induction ts generalizing m with
  | nil => rfl
  | cons t ts ih =>
    rw [List.map_cons, replayFrom_cons, ih, replayStep, OrderedMap.get?_erase, triggerAt, triggerAt,
      List.find?_cons]
    by_cases h : t.key = k <;> simp [h]

lemma get?_replayFrom_creates (hn : (ts.map Trigger.key).Nodup) :
    (replayFrom m (ts.map .create)).get? k = (triggerAt k ts).or (m.get? k) := by
  induction ts generalizing m with
  | nil => rfl
  | cons t ts ih =>
    rw [List.map_cons, List.nodup_cons] at hn
    rw [List.map_cons, replayFrom_cons, ih hn.2, replayStep, OrderedMap.get?_insert, triggerAt,
      triggerAt, List.find?_cons]
    by_cases h : t.key = k
    · have hk : triggerAt k ts = none := by
        refine triggerAt_eq_none_iff.mpr fun u hu hk => hn.1 ?_
        rw [h, ← hk]
        exact List.mem_map_of_mem hu
      rw [triggerAt] at hk
      simp [h, hk]
    · simp [h]

lemma get?_replayFrom_plan (hn : (added.map Trigger.key).Nodup) :
    (replayFrom m (removed.map .drop ++ added.map .create)).get? k =
      (triggerAt k added).or (if (triggerAt k removed).isSome then none else m.get? k) := by
  rw [replayFrom_append, get?_replayFrom_creates hn, get?_replayFrom_drops]

lemma fitsAll_drops (hn : (ts.map Trigger.key).Nodup) (h : ∀ t ∈ ts, m.get? t.key = some t) :
    FitsAll m (ts.map .drop) := by
  induction ts generalizing m with
  | nil => trivial
  | cons t ts ih =>
    rw [List.map_cons, List.nodup_cons] at hn
    refine ⟨h t List.mem_cons_self, ih hn.2 fun u hu => ?_⟩
    have hk : t.key ≠ u.key := fun hk => hn.1 (hk ▸ List.mem_map_of_mem hu)
    rw [replayStep, OrderedMap.get?_erase, if_neg hk]
    exact h u (List.mem_cons_of_mem _ hu)

lemma fitsAll_creates (hn : (ts.map Trigger.key).Nodup) (h : ∀ t ∈ ts, m.get? t.key = none) :
    FitsAll m (ts.map .create) := by
  induction ts generalizing m with
  | nil => trivial
  | cons t ts ih =>
    rw [List.map_cons, List.nodup_cons] at hn
    refine ⟨h t List.mem_cons_self, ih hn.2 fun u hu => ?_⟩
    have hk : t.key ≠ u.key := fun hk => hn.1 (hk ▸ List.mem_map_of_mem hu)
    rw [replayStep, OrderedMap.get?_insert, if_neg hk]
    exact h u (List.mem_cons_of_mem _ hu)

end Plan

end History

end SqlTriggers
