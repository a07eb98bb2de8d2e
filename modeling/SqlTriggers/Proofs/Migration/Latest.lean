import SqlTriggers.Proofs.Migration.Replay

/-! The two views of a history. What is applied at a table and name is what the last operation there
left, and the newest of the recorded triggers. -/

namespace SqlTriggers.History

def LastAt (k : TriggerKey) (ops : List Operation) (op : Operation) : Prop :=
  ∃ front back, ops = front ++ op :: back ∧ op.trigger.key = k ∧ ∀ o ∈ back, o.trigger.key ≠ k

variable {k : TriggerKey} {ops : List Operation} {op : Operation} {t : Trigger}

lemma lastAt_iff :
    LastAt k ops op ↔ ops.reverse.find? (fun o => o.trigger.key = k) = some op := by
  rw [List.find?_eq_some_iff_append, decide_eq_true_eq]
  constructor
  · rintro ⟨front, back, rfl, hk, hback⟩
    exact ⟨hk, back.reverse, front.reverse, by simp, by simpa using hback⟩
  · rintro ⟨hk, back, front, hops, hback⟩
    refine ⟨front.reverse, back.reverse, ?_, hk, by simpa using hback⟩
    rw [← List.reverse_reverse ops, hops]
    simp

lemma lastAt_concat (o : Operation) : LastAt k (ops ++ [o]) op ↔
    if o.trigger.key = k then o = op else LastAt k ops op := by
  rw [lastAt_iff, List.reverse_append, List.reverse_singleton, List.singleton_append,
    List.find?_cons, lastAt_iff]
  by_cases hk : o.trigger.key = k <;> simp [hk]

lemma get?_replay_eq_some_iff : (replay ops).get? k = some t ↔ LastAt k ops (.create t) := by
  induction ops using List.reverseRecOn with
  | nil => simp [lastAt_iff, replay]
  | append_singleton ops op ih =>
    rw [replay_append, lastAt_concat, ← ih]
    cases op with
    | create u =>
      have hget : (replayFrom (replay ops) [.create u]).get? k =
          if u.key = k then some u else (replay ops).get? k := OrderedMap.get?_insert _ _ _ _
      rw [hget, Operation.trigger]
      split <;> simp
    | drop u =>
      have hget : (replayFrom (replay ops) [.drop u]).get? k =
          if u.key = k then none else (replay ops).get? k := OrderedMap.get?_erase _ _ _
      rw [hget, Operation.trigger]
      split <;> simp

lemma mem_applied_iff {h : History} : t ∈ h.applied ↔ LastAt t.key h.operations (.create t) := by
  rw [applied, (keyed_replay h.operations).mem_values_iff, get?_replay_eq_some_iff]

/-- Dropping what is not there and creating what is already there are allowed for: whatever the
operations are, the applied triggers are those that were created last at their table and name, each
the first in the record there. -/
theorem applied_by_last (h : History) :
    h.applied.Pairwise (fun t u => compare t.key u.key = .lt) ∧
    ∀ k, (∀ t, t ∈ h.applied ∧ t.key = k ↔ LastAt k h.operations (.create t)) ∧
      (∀ t ∈ h.applied, ∀ u ∈ h.applied, t.key = k → u.key = k → t = u) ∧
      ∀ t ∈ h.applied, t.key = k →
        ∃ front back, h.recorded = front ++ t :: back ∧ ∀ u ∈ front, u.key ≠ k := by
  have hkeyed := keyed_replay h.operations
  refine ⟨hkeyed.values_sorted, fun k => ⟨fun t => ?_, ?_, ?_⟩⟩
  · constructor
    · rintro ⟨ht, rfl⟩
      exact mem_applied_iff.mp ht
    · intro hlast
      have hk : t.key = k := hlast.choose_spec.choose_spec.2.1
      exact ⟨mem_applied_iff.mpr (hk ▸ hlast), hk⟩
  · intro t ht u hu htk huk
    exact eq_of_key_eq hkeyed.values_nodup ht hu (htk.trans huk.symm)
  · rintro t ht rfl
    obtain ⟨-, front, back, hrecorded, hfront⟩ :=
      List.find?_eq_some_iff_append.mp (triggerAt_recorded ht)
    exact ⟨front, back, hrecorded, by simpa using hfront⟩

def careless : History :=
  let bob := bobCounter "SELECT 1;" 1 true
  let eve := { bob with name := "eve_tr" }
  ⟨[.ofOperations 1 "first" .lightweight [.drop bob, .create bob, .create eve],
    .ofOperations 2 "second" .lightweight
      [.create (bobCounter "SELECT 2;" 1 true), .drop eve, .drop eve]]⟩

theorem applied_by_last_careless :
    careless.applied = [bobCounter "SELECT 2;" 1 true] ∧
    LastAt ⟨"users", "bob_tr"⟩ careless.operations (.create (bobCounter "SELECT 2;" 1 true)) ∧
    (¬ ∃ t, LastAt ⟨"users", "eve_tr"⟩ careless.operations (.create t)) ∧
    ∃ front back, careless.recorded = front ++ bobCounter "SELECT 2;" 1 true :: back ∧
      ∀ u ∈ front, u.key ≠ ⟨"users", "bob_tr"⟩ := by
  have happlied : careless.applied = [bobCounter "SELECT 2;" 1 true] := by decide +kernel
  have hmem : bobCounter "SELECT 2;" 1 true ∈ careless.applied := by simp [happlied]
  have heve : ∀ t ∈ careless.applied, t.key ≠ ⟨"users", "eve_tr"⟩ := by
    rw [happlied]
    decide
  obtain ⟨-, hbykey⟩ := applied_by_last careless
  obtain ⟨hlast, -, hfirst⟩ := hbykey ⟨"users", "bob_tr"⟩
  refine ⟨happlied, (hlast _).mp ⟨hmem, rfl⟩, ?_, hfirst _ hmem rfl⟩
  rintro ⟨t, ht⟩
  obtain ⟨hm, hk⟩ := ((hbykey _).1 t).mpr ht
  exact heve t hm hk

end SqlTriggers.History
