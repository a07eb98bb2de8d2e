import SqlTriggers.Proofs.Catalog.Tame

/-! A catalog that holds what a replay says, beside what is foreign to it. -/

namespace SqlTriggers

open History (Triggers replayStep replayFrom Fits FitsAll)

variable {engine : Engine} {foreign : Catalog} {used : Trigger → Prop} {m : Triggers} {t : Trigger}
  {n : String}

def Engine.functionText? : Engine → Trigger → Option String
  | .functionBacked, t => some t.functionText
  | _, _ => none

namespace Engine

variable (he : engine ≠ .functionBacked) (t : Trigger)

include he

lemma functionText?_of_ne : engine.functionText? t = none := by
  cases engine with
  | functionBacked => exact absurd rfl he
  | inline => rfl
  | lightweight => rfl

lemma createStatements_of_ne : engine.createStatements t = [engine.triggerText t] := by
  cases engine with
  | functionBacked => exact absurd rfl he
  | inline => rfl
  | lightweight => rfl

lemma dropStatements_of_ne :
    engine.dropStatements t = ["DROP TRIGGER IF EXISTS " ++ t.name ++ ";"] := by
  cases engine with
  | functionBacked => exact absurd rfl he
  | inline => rfl
  | lightweight => rfl

lemma rendering_of_ne : engine.rendering t = engine.triggerText t := by
  rw [rendering, createStatements_of_ne he, ← stacked_singleton (engine.triggerText t)]
  rfl

end Engine

/-- The catalog holds the texts of the applied triggers, and everything foreign. -/
structure Mirrors (engine : Engine) (foreign : Catalog) (m : Triggers) (c : Catalog) : Prop where
  triggers : ∀ n, c.triggers.get? n =
    ((named m n).map engine.triggerText).or (foreign.triggers.get? n)
  functions : ∀ n, c.functions.get? n =
    ((named m n).bind engine.functionText?).or (foreign.functions.get? n)

namespace Catalog

variable {c c' : Catalog} {s : String} {ss rest : List String}

lemma run_eq_ok (h : c.execute s = .ok c') : executor.run c s = (c', .ok ()) := by
  simp only [executor, h]

lemma run_eq_error {e : Error} (h : c.execute s = .error e) :
    executor.run c s = (c, .error e) := by
  simp only [executor, h]

lemma runAll_cons (h : c.execute s = .ok c') (rest : List String) :
    executor.runAll c (s :: rest) = executor.runAll c' rest :=
  Executor.runAll_cons_ok (run_eq_ok h) rest

lemma runAll_append (h : executor.runAll c ss = (c', .ok ())) (rest : List String) :
    executor.runAll c (ss ++ rest) = executor.runAll c' rest := by
  induction ss generalizing c with
  | nil =>
    obtain rfl := congrArg Prod.fst h
    rfl
  | cons s ss ih =>
    cases he : c.execute s with
    | ok d =>
      rw [runAll_cons he] at h
      rw [List.cons_append, runAll_cons he, ih h]
    | error e =>
      rw [Executor.runAll_cons_error (run_eq_error he)] at h
      exact nomatch congrArg Prod.snd h

end Catalog

namespace Mirrors

open Catalog

variable {c : Catalog}

lemma catalog_eq {c' : Catalog} (h : Mirrors engine foreign m c)
    (h' : Mirrors engine foreign m c') : c = c' := by
  have hf : c.functions = c'.functions :=
    OrderedMap.ext_get? fun n => (h.functions n).trans (h'.functions n).symm
  have ht : c.triggers = c'.triggers :=
    OrderedMap.ext_get? fun n => (h.triggers n).trans (h'.triggers n).symm
  cases c
  cases c'
  exact congrArg₂ Catalog.mk hf ht

lemma calledFunction_eq (h : Mirrors engine foreign m c) (hp : Populated used m)
    (hw : Tame engine foreign used) {sql f : String} (hs : c.triggers.get? n = some sql)
    (hf : calledFunction sql = some f) :
    n = f ∨ ∃ text, foreign.functions.get? f = some text := by
  rw [h.triggers] at hs
  cases hn : named m n with
  | none =>
    rw [hn] at hs
    exact .inr (hw.closed n sql f hs hf)
  | some u =>
    rw [hn] at hs
    obtain rfl := Option.some.inj hs
    have hu := hp.used_of_named hn
    have hname := ((hp.named_eq_some_iff hw).mp hn).2
    by_cases he : engine = .functionBacked
    · subst he
      have hcall := calledFunction_functionBacked (hw.checked u hu) (hw.calls u hu)
      rw [show calledFunction u.executingText = some f from hf] at hcall
      exact .inl (hname.symm.trans (Option.some.inj hcall).symm)
    · rw [calledFunction_eq_none he (hw.calls u hu)] at hf
      exact nomatch hf

lemma insert {c' : Catalog} (h : Mirrors engine foreign m c) (hp : Populated used m)
    (hw : Tame engine foreign used) (ht : used t) (hn : named m t.name = none)
    (htr : c'.triggers = c.triggers.insert t.name (engine.triggerText t))
    (hfn : ∀ n, c'.functions.get? n =
      if t.name = n then (engine.functionText? t).or (c.functions.get? n) else c.functions.get? n) :
    Mirrors engine foreign (m.insert t.key t) c' := by
  constructor
  · intro n
    rw [htr, OrderedMap.get?_insert, hp.named_insert hw ht]
    split
    · rfl
    · exact h.triggers n
  · intro n
    rw [hfn, hp.named_insert hw ht]
    split
    · rename_i he
      rw [h.functions, ← he, hn]
      rfl
    · exact h.functions n

lemma erase {c' : Catalog} (h : Mirrors engine foreign m c) (hp : Populated used m)
    (hw : Tame engine foreign used) (ht : used t) (hn : named m t.name = some t)
    (htr : c'.triggers = c.triggers.erase t.name)
    (hfn : ∀ n, c'.functions.get? n =
      if t.name = n ∧ (engine.functionText? t).isSome then none else c.functions.get? n) :
    Mirrors engine foreign (m.erase t.key) c' := by
  constructor
  · intro n
    rw [htr, OrderedMap.get?_erase, hp.named_erase hw ht]
    split
    · rename_i he
      rw [← he, hw.triggerFree t ht]
      rfl
    · exact h.triggers n
  · intro n
    rw [hfn, hp.named_erase hw ht, h.functions]
    by_cases he : t.name = n
    · rw [← he, hn, hw.functionFree t ht]
      cases hf : engine.functionText? t <;> simp [hf]
    · simp [he]

lemma create (h : Mirrors engine foreign m c) (hp : Populated used m)
    (hw : Tame engine foreign used) (ht : used t) (hf : m.get? t.key = none) :
    ∃ c', executor.runAll c (engine.createStatements t) = (c', .ok ()) ∧
      Mirrors engine foreign (m.insert t.key t) c' := by
  have hc := hw.checked t ht
  have hnamed : named m t.name = none := by
    apply Option.eq_none_iff_forall_ne_some.mpr
    intro u hu
    obtain ⟨hget, hname⟩ := (hp.named_eq_some_iff hw).mp hu
    rw [hw.key_eq (hp.used_of_named hu) ht hname, hf] at hget
    exact nomatch hget
  have hfree : c.triggers.get? t.name = none := by
    rw [h.triggers, hnamed, hw.triggerFree t ht]
    rfl
  by_cases he : engine = .functionBacked
  · subst he
    have hcall := calledFunction_functionBacked hc (hw.calls t ht)
    let d : Catalog := { c with functions := c.functions.insert t.name t.functionText }
    have htrigger : d.execute (Engine.functionBacked.triggerText t) =
        .ok { d with triggers := d.triggers.insert t.name t.executingText } := by
      refine execute_triggerText hc hfree fun f hf => ?_
      have hname : t.name = f := Option.some.inj (hcall.symm.trans hf)
      exact ⟨t.functionText, by rw [OrderedMap.get?_insert, if_pos hname]⟩
    refine ⟨{ d with triggers := d.triggers.insert t.name t.executingText }, ?_, ?_⟩
    · have hs : Engine.functionBacked.createStatements t =
          [t.functionText, Engine.functionBacked.triggerText t] := rfl
      rw [hs, runAll_cons (execute_functionText c hc), runAll_cons htrigger]
      rfl
    · refine h.insert hp hw ht hnamed rfl fun n => ?_
      rw [OrderedMap.get?_insert]
      rfl
  · have htrigger : c.execute (engine.triggerText t) =
        .ok { c with triggers := c.triggers.insert t.name (engine.triggerText t) } := by
      refine execute_triggerText hc hfree fun f hf => ?_
      rw [calledFunction_eq_none he (hw.calls t ht)] at hf
      exact nomatch hf
    refine ⟨{ c with triggers := c.triggers.insert t.name (engine.triggerText t) }, ?_, ?_⟩
    · rw [Engine.createStatements_of_ne he, runAll_cons htrigger]
      rfl
    · refine h.insert hp hw ht hnamed rfl fun n => ?_
      rw [Engine.functionText?_of_ne he, Option.none_or, ite_self]

lemma drop (h : Mirrors engine foreign m c) (hp : Populated used m)
    (hw : Tame engine foreign used) (hf : m.get? t.key = some t) :
    ∃ c', executor.runAll c (engine.dropStatements t) = (c', .ok ()) ∧
      Mirrors engine foreign (m.erase t.key) c' := by
  have hnamed : named m t.name = some t := (hp.named_eq_some_iff hw).mpr ⟨hf, rfl⟩
  have ht : used t := hp.used_of_named hnamed
  have hc := hw.checked t ht
  by_cases he : engine = .functionBacked
  · subst he
    let d : Catalog := { c with triggers := c.triggers.erase t.name }
    have hunused : ∀ sql ∈ d.triggers.values, calledFunction sql ≠ some t.name := by
      intro sql hsql hcall
      obtain ⟨n, hn⟩ := OrderedMap.mem_values_iff.mp hsql
      rw [OrderedMap.get?_erase] at hn
      split_ifs at hn with hne
      rcases h.calledFunction_eq hp hw hn hcall with heq | ⟨text, htext⟩
      · exact hne heq.symm
      · rw [hw.functionFree t ht] at htext
        cases htext
    refine ⟨{ d with functions := d.functions.erase t.name }, ?_, ?_⟩
    · rw [Engine.dropStatements, runAll_cons (execute_dropTriggerOn c hc),
        runAll_cons (execute_dropFunction hc hunused)]
      rfl
    · refine h.erase hp hw ht hnamed rfl fun n => ?_
      rw [OrderedMap.get?_erase]
      simp [Engine.functionText?, d]
  · refine ⟨{ c with triggers := c.triggers.erase t.name }, ?_, ?_⟩
    · rw [Engine.dropStatements_of_ne he, runAll_cons (execute_dropTrigger c hc)]
      rfl
    · refine h.erase hp hw ht hnamed rfl fun n => ?_
      simp [Engine.functionText?_of_ne he]

lemma operation (h : Mirrors engine foreign m c) (hp : Populated used m)
    (hw : Tame engine foreign used) {op : Operation} (hu : used op.trigger) (hf : Fits m op) :
    ∃ c', executor.runAll c (op.statements engine) = (c', .ok ()) ∧
      Mirrors engine foreign (replayStep m op) c' := by
  cases op with
  | create t => exact h.create hp hw hu hf
  | drop t => exact h.drop hp hw hf

lemma forward (h : Mirrors engine foreign m c) (hp : Populated used m)
    (hw : Tame engine foreign used) {ops : List Operation} (hu : ∀ op ∈ ops, used op.trigger)
    (hf : FitsAll m ops) :
    ∃ c', executor.runAll c (Operation.forward engine ops) = (c', .ok ()) ∧
      Mirrors engine foreign (replayFrom m ops) c' := by
  induction ops generalizing m c with
  | nil => exact ⟨c, rfl, h⟩
  | cons op ops ih =>
    have huop := hu op List.mem_cons_self
    obtain ⟨d, hd, hm⟩ := h.operation hp hw huop hf.1
    obtain ⟨c', hc', hm'⟩ := ih hm (hp.replayStep op huop)
      (fun o ho => hu o (List.mem_cons_of_mem _ ho)) hf.2
    refine ⟨c', ?_, hm'⟩
    rw [Operation.forward, List.flatMap_cons, runAll_append hd]
    exact hc'

lemma backward {ops : List Operation} (h : Mirrors engine foreign (replayFrom m ops) c)
    (hp : Populated used m) (hw : Tame engine foreign used) (hu : ∀ op ∈ ops, used op.trigger)
    (hf : FitsAll m ops) :
    ∃ c', executor.runAll c (Operation.backward engine ops) = (c', .ok ()) ∧
      Mirrors engine foreign m c' := by
  obtain ⟨hundo, hback⟩ := History.undo_fits hf
  have hinverse : ∀ op ∈ ops.reverse.map Operation.inverse, used op.trigger := by
    intro op hop
    obtain ⟨o, ho, rfl⟩ := List.mem_map.mp hop
    have hused := hu o (List.mem_reverse.mp ho)
    cases o <;> exact hused
  obtain ⟨c', hc', hm'⟩ := h.forward (hp.replayFrom hu) hw hinverse hundo
  refine ⟨c', ?_, hback ▸ hm'⟩
  rw [Operation.forward, List.flatMap_map] at hc'
  exact hc'

lemma liveText_foreign (h : Mirrors engine foreign m c) (hp : Populated used m)
    (hw : Tame engine foreign used) {sql : String} (hs : foreign.triggers.get? n = some sql) :
    c.liveText sql = foreign.liveText sql := by
  rw [liveText, liveText]
  cases hf : calledFunction sql with
  | none => rfl
  | some f =>
    obtain ⟨text, htext⟩ := hw.closed n sql f hs hf
    have hnamed : named m f = none := by
      apply Option.eq_none_iff_forall_ne_some.mpr
      intro u hu
      have hfree := hw.functionFree u (hp.used_of_named hu)
      rw [((hp.named_eq_some_iff hw).mp hu).2, htext] at hfree
      exact nomatch hfree
    have hget : c.functions.get? f = foreign.functions.get? f := by
      rw [h.functions, hnamed]
      rfl
    rw [Option.bind_some, Option.bind_some, hget]

lemma liveText_used (h : Mirrors engine foreign m c) (hw : Tame engine foreign used)
    (ht : used t) (hn : named m t.name = some t) :
    c.liveText (engine.triggerText t) = engine.rendering t := by
  have hc := hw.checked t ht
  by_cases he : engine = .functionBacked
  · subst he
    have hcall : calledFunction (Engine.functionBacked.triggerText t) = some t.name :=
      calledFunction_functionBacked hc (hw.calls t ht)
    have hget : c.functions.get? t.name = some t.functionText := by
      rw [h.functions, hn]
      rfl
    rw [liveText, hcall, Option.bind_some, hget]
    apply String.toList_inj.mp
    simp [Engine.rendering, Engine.createStatements, Engine.triggerText]
  · rw [liveText, calledFunction_eq_none he (hw.calls t ht), Engine.rendering_of_ne he]
    rfl

lemma snapshot (h : Mirrors engine foreign m c) (hp : Populated used m)
    (hw : Tame engine foreign used) (n : String) : c.snapshot.get? n =
      ((named m n).map engine.rendering).or (foreign.snapshot.get? n) := by
  rw [Catalog.snapshot, Catalog.snapshot, OrderedMap.get?_mapValues, OrderedMap.get?_mapValues,
    h.triggers]
  cases hn : named m n with
  | none =>
    rw [Option.map_none, Option.none_or, Option.map_none, Option.none_or]
    cases hs : foreign.triggers.get? n with
    | none => rfl
    | some sql => rw [Option.map_some, Option.map_some, h.liveText_foreign hp hw hs]
  | some t =>
    have hname := ((hp.named_eq_some_iff hw).mp hn).2
    have htext := h.liveText_used hw (hp.used_of_named hn) (hname ▸ hn)
    rw [Option.map_some, Option.some_or, Option.map_some, Option.map_some, Option.some_or, htext]

end Mirrors

end SqlTriggers
