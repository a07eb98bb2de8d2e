import SqlTriggers.Migration.Generator
import SqlTriggers.Proofs.Engine.Support
import SqlTriggers.Proofs.Migration.Diff
import SqlTriggers.Proofs.Result

/-! The cap changes nothing about a trigger but its rendering rules. A generation run has a plan just
when there is a diff whose additions the engine accepts. -/

namespace SqlTriggers

namespace Generator

open Diff

lemma cap_of_le {g : Generator} {t : Trigger} (h : t.compatibility ≤ g.compatibility) :
    g.cap t = t :=
  if_neg (UInt32.not_lt.mpr h)

lemma cap_withCompatibility (g : Generator) (t : Trigger) (c : UInt32) :
    (g.cap t).withCompatibility c = t.withCompatibility c := by
  unfold cap
  split <;> rfl

lemma cap_key (g : Generator) (t : Trigger) : (g.cap t).key = t.key := by
  unfold cap
  split <;> rfl

lemma cap_checked (g : Generator) {t : Trigger} (h : t.Checked) : (g.cap t).Checked := by
  unfold cap
  split
  · exact h.withCompatibility _
  · exact h

lemma cap_compatibility_le (g : Generator) (t : Trigger) :
    (g.cap t).compatibility ≤ t.compatibility := by
  unfold cap
  split
  · rename_i hlt
    exact UInt32.le_of_lt hlt
  · exact UInt32.le_refl _

lemma triggerAt_map_cap (g : Generator) (k : TriggerKey) (ts : List Trigger) :
    triggerAt k (ts.map g.cap) = (triggerAt k ts).map g.cap := by
  rw [triggerAt, triggerAt, List.find?_map]
  congr 2
  funext t
  simp only [Function.comp_apply, cap_key]

lemma map_cap_nodup (g : Generator) {ts : List Trigger} (h : (ts.map Trigger.key).Nodup) :
    ((ts.map g.cap).map Trigger.key).Nodup := by
  rw [List.map_map, show Trigger.key ∘ g.cap = Trigger.key from funext g.cap_key]
  exact h

lemma map_cap_checked (g : Generator) {ts : List Trigger} (h : ∀ t ∈ ts, t.Checked) :
    ∀ t ∈ ts.map g.cap, t.Checked := by
  intro t ht
  obtain ⟨u, hu, rfl⟩ := List.mem_map.mp ht
  exact g.cap_checked (h u hu)

section Generate

variable {g : Generator} {ds : List Declaration} {applied : List Trigger} {d : Diff} {p : Plan}

lemma generate_of_error {e : Error} (h : expansion g.engine ds = .error e) :
    g.generate ds applied = ⟨.error e, []⟩ := by
  have hdiff : g.diff ds applied = .error e := by
    rw [diff, wanted, h]
    rfl
  simp only [generate, hdiff]

lemma generate_of_accepts (h : g.diff ds applied = .ok d) (ha : ∀ t ∈ d.added, g.engine.Accepts t) :
    g.generate ds applied =
      ⟨.ok (Plan.ofDiff g.engine d), d.added.flatMap g.engine.warningsFor⟩ := by
  simp only [generate, h, Engine.acceptAll_eq_ok_iff.mpr ⟨ha, rfl⟩]

lemma generate_result_eq_ok_iff : (g.generate ds applied).result = .ok p ↔
    ∃ d, g.diff ds applied = .ok d ∧ (∀ t ∈ d.added, g.engine.Accepts t) ∧
      p = Plan.ofDiff g.engine d := by
  constructor
  · intro h
    rw [generate] at h
    split at h
    · cases h
    · rename_i d hd
      split at h
      · cases h
      · rename_i ws hws
        exact ⟨d, hd, (Engine.acceptAll_eq_ok_iff.mp hws).1, (Except.ok.inj h).symm⟩
  · rintro ⟨d, hd, ha, rfl⟩
    rw [generate_of_accepts hd ha]

lemma warnings_of_error {e : Error} (h : (g.generate ds applied).result = .error e) :
    (g.generate ds applied).warnings = [] := by
  revert h
  rw [generate]
  split
  · exact fun _ => rfl
  · split
    · exact fun _ => rfl
    · exact fun h => nomatch h

lemma generate_eq_ok (h : (g.generate ds applied).result = .ok p) :
    ∃ ts, expansion g.engine ds = .ok ts ∧
      p = Plan.ofDiff g.engine (between g.engine (ts.map g.cap) applied) := by
  obtain ⟨d, hd, -, rfl⟩ := generate_result_eq_ok_iff.mp h
  obtain ⟨us, hw, rfl⟩ := map_eq_ok_iff.mp hd
  obtain ⟨ts, ht, rfl⟩ := map_eq_ok_iff.mp hw
  exact ⟨ts, ht, rfl⟩

end Generate

end Generator

end SqlTriggers
