import SqlTriggers.Proofs.Migration.Plan

/-! Between two sets of generated triggers, the way back undoes the way there: what one diff adds, the
other removes. -/

namespace SqlTriggers

namespace Diff

def SameRules (xs ys : List Trigger) : Prop :=
  ∀ x ∈ xs, ∀ y ∈ ys, x.key = y.key → x.compatibility = y.compatibility

instance (xs ys : List Trigger) : Decidable (SameRules xs ys) :=
  inferInstanceAs (Decidable (∀ x ∈ xs, ∀ y ∈ ys, x.key = y.key → x.compatibility = y.compatibility))

lemma SameRules.symm {xs ys : List Trigger} (h : SameRules xs ys) : SameRules ys xs :=
  fun y hy x hx hk => (h x hx y hy hk.symm).symm

lemma sameRules_self {xs : List Trigger} (hn : (xs.map Trigger.key).Nodup) : SameRules xs xs :=
  fun _ hx _ hy hk => congrArg Trigger.compatibility (eq_of_key_eq hn hx hy hk)

section SameRules

variable {engine : Engine} {xs ys : List Trigger} {t : Trigger} (h : SameRules xs ys) (ht : t ∈ xs)

include h ht

lemma eq_of_appliedCompatibility {c : UInt32} (hc : appliedCompatibility ys t.key = some c) :
    c = t.compatibility := by
  obtain ⟨y, hf, rfl⟩ := Option.map_eq_some_iff.mp hc
  have hy : y ∈ ys := List.mem_reverse.mp (List.mem_of_find?_eq_some hf)
  have hk : y.key = t.key := by simpa using List.find?_some hf
  exact (h t ht y hy hk.symm).symm

lemma comparedRendering_of_sameRules : comparedRendering engine ys t = engine.rendering t := by
  unfold comparedRendering
  split
  · rename_i c hc
    rw [eq_of_appliedCompatibility h ht hc]
    rfl
  · rfl

lemma createdForm_of_sameRules : createdForm ys t = t := by
  unfold createdForm
  split
  · rename_i c hc
    rw [eq_of_appliedCompatibility h ht hc, if_neg (UInt32.lt_irrefl _)]
    rfl
  · rfl

end SameRules

def unmatched (engine : Engine) (xs ys : List Trigger) : List Trigger :=
  sortOn Trigger.key (xs.filter fun x => !(ys.map engine.rendering).contains (engine.rendering x))

variable {engine : Engine} {xs ys : List Trigger}

lemma added_of_sameRules (h : SameRules xs ys) :
    (between engine xs ys).added = unmatched engine xs ys := by
  have hcreated : ∀ ts : List Trigger, ts ⊆ xs → ts.map (createdForm ys) = ts := fun ts hts =>
    (List.map_congr_left fun t ht => createdForm_of_sameRules h (hts ht)).trans (List.map_id' ts)
  simp only [between, unmatched]
  rw [hcreated _ (List.filter_subset_self _)]
  congr 1
  exact List.filter_congr fun t ht => by rw [comparedRendering_of_sameRules h ht]

lemma removed_of_sameRules (h : SameRules xs ys) (hg : ∀ y ∈ ys, y.generated = true) :
    (between engine xs ys).removed = unmatched engine ys xs := by
  have hcompared : xs.map (comparedRendering engine ys) = xs.map engine.rendering :=
    List.map_congr_left fun t ht => comparedRendering_of_sameRules h ht
  simp only [between, unmatched, hcompared]
  congr 1
  exact List.filter_congr fun y hy => by simp [hg y hy]

lemma unmatched_self (engine : Engine) (xs : List Trigger) : unmatched engine xs xs = [] := by
  have hnone : (xs.filter fun x => !(xs.map engine.rendering).contains (engine.rendering x)) = [] := by
    refine List.filter_eq_nil_iff.mpr fun t ht => ?_
    simpa using ⟨t, ht, rfl⟩
  rw [unmatched, hnone]
  rfl

theorem between_mirrors (engine : Engine) {xs ys : List Trigger} (gx : ∀ x ∈ xs, x.generated = true)
    (gy : ∀ y ∈ ys, y.generated = true) (hn : (xs.map Trigger.key).Nodup) (hc : SameRules xs ys) :
    let there := between engine xs ys
    let back := between engine ys xs
    there.added = back.removed ∧ there.removed = back.added ∧
      (Plan.ofDiff engine there).created = (Plan.ofDiff engine back).dropped ∧
      (Plan.ofDiff engine there).dropped = (Plan.ofDiff engine back).created ∧
      between engine xs xs = ⟨[], []⟩ := by
  intro there back
  have hadded : there.added = back.removed := by
    rw [added_of_sameRules hc, removed_of_sameRules hc.symm gx]
  have hremoved : there.removed = back.added := by
    rw [removed_of_sameRules hc gy, added_of_sameRules hc.symm]
  have hself := sameRules_self hn
  have hnew : (between engine xs xs).added = [] := by
    rw [added_of_sameRules hself, unmatched_self]
  have hold : (between engine xs xs).removed = [] := by
    rw [removed_of_sameRules hself gx, unmatched_self]
  exact ⟨hadded, hremoved, by simpa using hadded, by simpa using hremoved,
    congrArg₂ Diff.mk hnew hold⟩

theorem between_mirrors_edit :
    let bob := bobCounter "SELECT 1;" 0 true
    let xs := [{ bob with body := ["SELECT 2;"] }, { bob with table := "groups" }]
    let ys := [bob, { bob with name := "eve_tr" }]
    (∀ x ∈ xs, x.generated = true) ∧ (∀ y ∈ ys, y.generated = true) ∧
      (xs.map Trigger.key).Nodup ∧ SameRules xs ys ∧
      (between .lightweight xs ys).added = (between .lightweight ys xs).removed ∧
      (Plan.ofDiff .lightweight (between .lightweight ys xs)).dropped.map Trigger.key =
        [⟨"groups", "bob_tr"⟩, ⟨"users", "bob_tr"⟩] := by
  intro bob xs ys
  have gx : ∀ x ∈ xs, x.generated = true := by decide
  have gy : ∀ y ∈ ys, y.generated = true := by decide
  have hn : (xs.map Trigger.key).Nodup := by decide
  have hc : SameRules xs ys := by decide
  obtain ⟨hadded, -, hdropped, -⟩ := between_mirrors .lightweight gx gy hn hc
  refine ⟨gx, gy, hn, hc, hadded, ?_⟩
  rw [← hdropped]
  decide

end Diff

end SqlTriggers
