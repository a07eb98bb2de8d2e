import Mathlib.Tactic.Common
import SqlTriggers.Engine.Compilation
import SqlTriggers.Proofs.Result

/-! An engine accepts a trigger if it knows the rendering rules and has all features it uses. -/

namespace SqlTriggers

lemma Trigger.mem_features {t : Trigger} {f : Feature} : f ∈ t.features ↔ t.uses f = true := by
  have hall : f ∈ Feature.all := by cases f <;> decide
  rw [features, List.mem_filter, and_iff_right hall]

lemma Trigger.uses_withCompatibility (t : Trigger) (c : UInt32) :
    (t.withCompatibility c).uses = t.uses := by
  funext f
  cases f <;> rfl

namespace Engine

variable {engine : Engine} {t : Trigger}

def Accepts (engine : Engine) (t : Trigger) : Prop := ∃ ws, engine.accept t = .ok ws

instance (engine : Engine) (t : Trigger) : Decidable (engine.Accepts t) :=
  decidable_of_iff ((engine.accept t).toOption.isSome = true) <| by
    cases h : engine.accept t <;> simp [Accepts, h, Except.toOption]

lemma weigh_eq_ok_iff {name : String} {fs : List Feature} {ws : List Warning} :
    engine.weigh name fs = .ok ws ↔ (∀ f ∈ fs, engine.offers f = true) ∧
      ws = (fs.filter fun f => !f.lackedBy.isEmpty).map fun f => ⟨engine, name, f⟩ := by
  induction fs generalizing ws with
  | nil => simp [weigh, @eq_comm _ _ ws]
  | cons f fs ih =>
    simp only [weigh, guard_eq_ok_iff, bind_eq_ok_iff, pure_eq_ok_iff, ih, List.forall_mem_cons,
      List.filter_cons]
    cases f.lackedBy.isEmpty <;> simp [and_assoc, @eq_comm _ _ ws]

lemma accepts_iff : engine.Accepts t ↔ t.compatibility ≤ newestCompatibility ∧
    ∀ f, t.uses f = true → engine.offers f = true := by
  rw [Accepts, accept]
  split
  · rename_i h
    simp [UInt32.not_le.mpr h]
  · rename_i h
    simp [weigh_eq_ok_iff, UInt32.not_lt.mp h, Trigger.mem_features]

def warningsFor (engine : Engine) (t : Trigger) : List Warning :=
  (t.features.filter fun f => !f.lackedBy.isEmpty).map fun f => ⟨engine, t.name, f⟩

lemma accept_eq_ok_iff {ws : List Warning} :
    engine.accept t = .ok ws ↔ engine.Accepts t ∧ ws = engine.warningsFor t := by
  have hws : ∀ {us}, engine.accept t = .ok us → us = engine.warningsFor t := by
    intro us h
    rw [accept] at h
    split at h
    · cases h
    · exact (weigh_eq_ok_iff.mp h).2
  constructor
  · exact fun h => ⟨⟨ws, h⟩, hws h⟩
  · rintro ⟨⟨us, h⟩, rfl⟩
    rw [h, hws h]

lemma acceptAll_eq_ok_iff {ts : List Trigger} {ws : List Warning} :
    engine.acceptAll ts = .ok ws ↔
      (∀ t ∈ ts, engine.Accepts t) ∧ ws = ts.flatMap engine.warningsFor := by
  induction ts generalizing ws with
  | nil => simp [acceptAll, @eq_comm _ _ ws]
  | cons t ts ih =>
    simp only [acceptAll, bind_eq_ok_iff, pure_eq_ok_iff, accept_eq_ok_iff, ih,
      List.forall_mem_cons, List.flatMap_cons]
    constructor
    · rintro ⟨_, ⟨ht, rfl⟩, _, ⟨hts, rfl⟩, rfl⟩
      exact ⟨⟨ht, hts⟩, rfl⟩
    · rintro ⟨⟨ht, hts⟩, rfl⟩
      exact ⟨_, ⟨ht, rfl⟩, _, ⟨hts, rfl⟩, rfl⟩

lemma compile_of_accepts (h : engine.Accepts t) :
    engine.compile t = ⟨.ok (engine.createStatements t), engine.warningsFor t⟩ := by
  rw [compile, accept_eq_ok_iff.mpr ⟨h, rfl⟩]

lemma compile_result_eq_ok_iff {ss : List String} :
    (engine.compile t).result = .ok ss ↔ engine.Accepts t ∧ ss = engine.createStatements t := by
  constructor
  · intro h
    have ha : engine.Accepts t := by
      cases hw : engine.accept t with
      | error e =>
        rw [compile, hw] at h
        cases h
      | ok ws => exact ⟨ws, hw⟩
    rw [compile_of_accepts ha] at h
    exact ⟨ha, (Except.ok.inj h).symm⟩
  · rintro ⟨ha, rfl⟩
    rw [compile_of_accepts ha]

lemma accepts_withCompatibility_iff {c : UInt32} (ht : t.compatibility ≤ newestCompatibility)
    (hc : c ≤ newestCompatibility) : engine.Accepts (t.withCompatibility c) ↔ engine.Accepts t := by
  rw [accepts_iff, accepts_iff, t.uses_withCompatibility]
  exact and_congr_left fun _ => iff_of_true hc ht

lemma Accepts.offers (h : engine.Accepts t) {f : Feature} (hf : engine.offers f = false) :
    t.uses f = false := by
  by_contra hu
  have ho := (accepts_iff.mp h).2 f (by simpa using hu)
  simp [hf] at ho

end Engine

end SqlTriggers
