import SqlTriggers.Proofs.Catalog.Execution
import SqlTriggers.Proofs.Migration.Replay

/-! Applied triggers that can stand beside each other, looked up by their names. -/

namespace SqlTriggers

open History (Triggers Keyed replayStep replayFrom Fits FitsAll)

/-- Triggers that can stand beside each other and beside what is foreign. -/
structure Tame (engine : Engine) (foreign : Catalog) (used : Trigger → Prop) : Prop where
  checked : ∀ t, used t → t.Checked
  calls : ∀ t, used t → engine.CallsOnlyOwn t
  oneTable : ∀ t u, used t → used u → t.name = u.name → t.table = u.table
  triggerFree : ∀ t, used t → foreign.triggers.get? t.name = none
  functionFree : ∀ t, used t → foreign.functions.get? t.name = none
  closed : ∀ n sql f, foreign.triggers.get? n = some sql → Catalog.calledFunction sql = some f →
    ∃ text, foreign.functions.get? f = some text

structure Populated (used : Trigger → Prop) (m : Triggers) : Prop where
  keyed : Keyed m
  used : ∀ t ∈ m.values, used t

def named (m : Triggers) (n : String) : Option Trigger :=
  m.values.find? fun t => t.name = n

variable {engine : Engine} {foreign : Catalog} {used : Trigger → Prop} {m : Triggers} {t : Trigger}
  {n : String}

lemma Tame.key_eq (h : Tame engine foreign used) {t u : Trigger} (ht : used t) (hu : used u)
    (hn : t.name = u.name) : t.key = u.key := by
  rw [Trigger.key, Trigger.key, hn, h.oneTable t u ht hu hn]

namespace Populated

lemma empty : Populated used (.empty : Triggers) :=
  ⟨History.keyed_empty, fun _ ht => absurd ht List.not_mem_nil⟩

lemma replayStep (h : Populated used m) (op : Operation) (hu : used op.trigger) :
    Populated used (replayStep m op) := by
  refine ⟨h.keyed.replayStep op, fun t ht => ?_⟩
  rcases History.mem_values_replayStep ht with ht | rfl
  · exact h.used t ht
  · exact hu

lemma replayFrom {ops : List Operation} (h : Populated used m) (hu : ∀ op ∈ ops, used op.trigger) :
    Populated used (replayFrom m ops) := by
  induction ops generalizing m with
  | nil => exact h
  | cons op ops ih =>
    have hop := hu op List.mem_cons_self
    exact ih (h.replayStep op hop) fun o ho => hu o (List.mem_cons_of_mem _ ho)

lemma named_eq_some_iff (h : Populated used m) (ht : Tame engine foreign used) :
    named m n = some t ↔ m.get? t.key = some t ∧ t.name = n := by
  rw [← h.keyed.mem_values_iff]
  constructor
  · intro hf
    exact ⟨List.mem_of_find?_eq_some hf, by simpa using List.find?_some hf⟩
  · rintro ⟨hm, rfl⟩
    cases hf : named m t.name with
    | none => simpa using List.find?_eq_none.mp hf t hm
    | some u =>
      have hu : u ∈ m.values := List.mem_of_find?_eq_some hf
      have hn : u.name = t.name := by simpa using List.find?_some hf
      have hk := ht.key_eq (h.used u hu) (h.used t hm) hn
      have hget := h.keyed.mem_values_iff.mp hu
      rw [hk, h.keyed.mem_values_iff.mp hm] at hget
      exact hget.symm

lemma used_of_named (h : Populated used m) (hf : named m n = some t) : used t :=
  h.used t (List.mem_of_find?_eq_some hf)

lemma named_insert (h : Populated used m) (hw : Tame engine foreign used) (ht : used t)
    (n : String) : named (m.insert t.key t) n = if t.name = n then some t else named m n := by
  have hi : Populated used (m.insert t.key t) := h.replayStep (.create t) ht
  split
  · rename_i hn
    exact (hi.named_eq_some_iff hw).mpr ⟨by rw [OrderedMap.get?_insert, if_pos rfl], hn⟩
  · rename_i hn
    apply Option.ext
    intro u
    rw [hi.named_eq_some_iff hw, h.named_eq_some_iff hw, OrderedMap.get?_insert]
    refine and_congr_left fun hu => ?_
    have hk : t.key ≠ u.key := fun hk => hn ((congrArg TriggerKey.name hk).trans hu)
    rw [if_neg hk]

lemma named_erase (h : Populated used m) (hw : Tame engine foreign used) (ht : used t)
    (n : String) : named (m.erase t.key) n = if t.name = n then none else named m n := by
  have he : Populated used (m.erase t.key) := h.replayStep (.drop t) ht
  split
  · rename_i hn
    apply Option.eq_none_iff_forall_ne_some.mpr
    intro u hu
    have hused := he.used_of_named hu
    obtain ⟨hget, hname⟩ := (he.named_eq_some_iff hw).mp hu
    rw [OrderedMap.get?_erase, if_pos (hw.key_eq ht hused (hn.trans hname.symm))] at hget
    exact nomatch hget
  · rename_i hn
    apply Option.ext
    intro u
    rw [he.named_eq_some_iff hw, h.named_eq_some_iff hw, OrderedMap.get?_erase]
    refine and_congr_left fun hu => ?_
    have hk : t.key ≠ u.key := fun hk => hn ((congrArg TriggerKey.name hk).trans hu)
    rw [if_neg hk]

end Populated

end SqlTriggers
