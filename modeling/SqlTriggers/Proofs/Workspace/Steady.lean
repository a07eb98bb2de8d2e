import SqlTriggers.Proofs.Catalog.Mirror
import SqlTriggers.Workspace

/-! What holds of a workspace whose database holds what its history says, and is kept by carrying
out a migration and by undoing one. -/

namespace SqlTriggers

open History (replay Fits FitsAll)

/-- Every migration was planned against what those before it left. -/
inductive Recorded (engine : Engine) (used : Trigger → Prop) : History → Prop
  | empty : Recorded engine used .empty
  | push {h : History} {ops : List Operation} (version : UInt64) (name : String) :
      Recorded engine used h → FitsAll (replay h.operations) ops →
      (∀ op ∈ ops, used op.trigger) →
      Recorded engine used (h.push (.ofOperations version name engine ops))

section History

variable {engine : Engine} {used : Trigger → Prop} {h : History}

lemma Recorded.populated (hr : Recorded engine used h) : Populated used (replay h.operations) := by
  induction hr with
  | empty => exact Populated.empty
  | push version name _ _ hu ih =>
    rw [History.push_operations, History.replay_append]
    exact ih.replayFrom hu

lemma Recorded.eq_push (hr : Recorded engine used h) : h = .empty ∨
    ∃ h' ops version name, h = h'.push (.ofOperations version name engine ops) ∧
      Recorded engine used h' ∧ FitsAll (replay h'.operations) ops ∧
      ∀ op ∈ ops, used op.trigger := by
  cases hr with
  | empty => exact .inl rfl
  | push version name hr hf hu => exact .inr ⟨_, _, version, name, rfl, hr, hf, hu⟩

end History

structure Steady (engine : Engine) (foreign : Catalog) (used : Trigger → Prop) (w : Workspace) :
    Prop where
  engine_eq : w.engine = engine
  recorded : Recorded engine used w.history
  mirrors : Mirrors engine foreign (replay w.history.operations) w.catalog

variable {engine : Engine} {foreign : Catalog} {used : Trigger → Prop} {w : Workspace}

namespace Steady

lemma apply (h : Steady engine foreign used w) (hw : Tame engine foreign used)
    {ops : List Operation} (hf : FitsAll (replay w.history.operations) ops)
    (hu : ∀ op ∈ ops, used op.trigger) {version : UInt64} (name : String)
    (hv : ∀ latest, w.history.lastVersion = some latest → latest < version) :
    let m := Migration.ofOperations version name engine ops
    ∃ c, History.apply Catalog.executor w.catalog w.history m = (c, .ok (w.history.push m)) ∧
      Steady engine foreign used { w with history := w.history.push m, catalog := c } := by
  intro m
  obtain ⟨c, hc, hm⟩ := h.mirrors.forward h.recorded.populated hw hu hf
  refine ⟨c, ?_, h.engine_eq, h.recorded.push version name hf hu, ?_⟩
  · exact History.apply_eq_ok hv hc
  · rw [History.push_operations, History.replay_append]
    exact hm

lemma rollback (h : Steady engine foreign used w) (hw : Tame engine foreign used) :
    ∃ c, History.rollback Catalog.executor w.catalog w.history =
        (c, .ok (⟨w.history.migrations.dropLast⟩, w.history.latest?)) ∧
      Steady engine foreign used
        { w with history := ⟨w.history.migrations.dropLast⟩, catalog := c } := by
  rcases h.recorded.eq_push with he | ⟨h', ops, version, name, he, hr, hf, hu⟩
  · rw [he]
    refine ⟨w.catalog, rfl, h.engine_eq, .empty, ?_⟩
    have hm := h.mirrors
    rwa [he] at hm
  · have hm := h.mirrors
    rw [he, History.push_operations, History.replay_append] at hm
    obtain ⟨c, hc, hm'⟩ := hm.backward hr.populated hw hu hf
    have hlast : w.history.latest? = some (.ofOperations version name engine ops) := by
      simp [he, History.latest?, History.push]
    have hdrop : (⟨w.history.migrations.dropLast⟩ : History) = h' := by
      simp [he, History.push]
    rw [hlast, hdrop]
    refine ⟨c, ?_, h.engine_eq, hr, hm'⟩
    rw [← hdrop]
    exact History.rollback_eq_ok hlast hc

lemma rollback_push (h : Steady engine foreign used w) (hw : Tame engine foreign used)
    {m : Migration} {c : Catalog}
    (hs : Steady engine foreign used { w with history := w.history.push m, catalog := c }) :
    { w with history := w.history.push m, catalog := c }.rollback = (w, .ok (some m)) := by
  obtain ⟨c', hc', hback⟩ := hs.rollback hw
  have hdrop : (⟨(w.history.push m).migrations.dropLast⟩ : History) = w.history := by
    simp [History.push]
  have hlast : (w.history.push m).latest? = some m := by
    simp [History.latest?, History.push]
  rw [hdrop, hlast] at hc'
  have hmirrors := hback.mirrors
  rw [hdrop] at hmirrors
  obtain rfl := h.mirrors.catalog_eq hmirrors
  rw [Workspace.rollback, hc']

end Steady

lemma mirrors_start (engine : Engine) (foreign : Catalog) :
    Mirrors engine foreign (replay []) foreign :=
  ⟨fun _ => rfl, fun _ => rfl⟩

/-- The catalog shows the applied triggers as they are rendered, beside everything foreign. -/
structure Workspace.Shows (w : Workspace) (engine : Engine) (foreign : Catalog) : Prop where
  snapshot : ∀ n, w.catalog.snapshot.get? n =
    ((w.history.applied.find? fun t => t.name = n).map engine.rendering).or
      (foreign.snapshot.get? n)
  functions : ∀ n, w.catalog.functions.get? n =
    ((w.history.applied.find? fun t => t.name = n).bind engine.functionText?).or
      (foreign.functions.get? n)
  foreignTriggers : ∀ n sql, foreign.triggers.get? n = some sql →
    w.catalog.triggers.get? n = some sql
  foreignFunctions : ∀ n sql, foreign.functions.get? n = some sql →
    w.catalog.functions.get? n = some sql

lemma Steady.shows (h : Steady engine foreign used w) (hw : Tame engine foreign used) :
    w.Shows engine foreign := by
  have hp := h.recorded.populated
  refine ⟨h.mirrors.snapshot hp hw, h.mirrors.functions, fun n sql hs => ?_, fun n sql hs => ?_⟩
  · have hnamed : named (replay w.history.operations) n = none := by
      apply Option.eq_none_iff_forall_ne_some.mpr
      intro t ht
      have hfree := hw.triggerFree t (hp.used_of_named ht)
      rw [((hp.named_eq_some_iff hw).mp ht).2, hs] at hfree
      exact nomatch hfree
    rw [h.mirrors.triggers, hnamed]
    exact hs
  · have hnamed : named (replay w.history.operations) n = none := by
      apply Option.eq_none_iff_forall_ne_some.mpr
      intro t ht
      have hfree := hw.functionFree t (hp.used_of_named ht)
      rw [((hp.named_eq_some_iff hw).mp ht).2, hs] at hfree
      exact nomatch hfree
    rw [h.mirrors.functions, hnamed]
    exact hs

end SqlTriggers
