import SqlTriggers.Declaration.Review
import SqlTriggers.Proofs.Declaration.Expansion
import SqlTriggers.Proofs.Migration.Generator
import SqlTriggers.Proofs.Migration.Plan

/-! A declaration passes its review just when there is a plan for it alone. Both say what compiling
its triggers one by one says. -/

namespace SqlTriggers

namespace Engine

variable {engine : Engine} {ts : List Trigger}

lemma review_of_accepts (h : ∀ t ∈ ts, engine.Accepts t) :
    engine.review ts = ⟨.ok (), ts.flatMap engine.warningsFor⟩ := by
  induction ts with
  | nil => rfl
  | cons t ts ih =>
    obtain ⟨ht, hts⟩ := List.forall_mem_cons.mp h
    simp only [review, accept_eq_ok_iff.mpr ⟨ht, rfl⟩, ih hts, List.flatMap_cons]

lemma accepts_of_review (h : (engine.review ts).result = .ok ()) : ∀ t ∈ ts, engine.Accepts t := by
  induction ts with
  | nil => exact fun t ht => absurd ht List.not_mem_nil
  | cons t ts ih =>
    rw [review] at h
    split at h
    · cases h
    · rename_i ws hws
      exact List.forall_mem_cons.mpr ⟨⟨ws, hws⟩, ih h⟩

def CompilesInOrder (engine : Engine) (ts : List Trigger) (ss : List String) : Prop :=
  ∃ (us : List Trigger) (sss : List (List String)), us.Perm ts ∧
    us.Pairwise (fun t u => compare t.key u.key = .lt) ∧
    List.Forall₂ (fun t ss => (engine.compile t).result = .ok ss) us sss ∧ ss = sss.flatten

lemma compilesInOrder_of_accepts (ha : ∀ t ∈ ts, engine.Accepts t)
    (hn : (ts.map Trigger.key).Nodup) :
    engine.CompilesInOrder ts ((sortOn Trigger.key ts).flatMap engine.createStatements) := by
  refine ⟨sortOn Trigger.key ts, _, sortOn_perm Trigger.key ts,
    sortOn_strictly_sorted Trigger.key hn, ?_, List.flatMap_def⟩
  refine List.forall₂_map_right_iff.mpr (List.forall₂_same.mpr fun t ht => ?_)
  exact compile_result_eq_ok_iff.mpr ⟨ha t (mem_sortOn.mp ht), rfl⟩

lemma onePerSlot_of_triggersOf {d : Declaration} (hi : engine = .inline)
    (h : engine.triggersOf d = .ok ts) : OnePerSlot ts := by
  have hone : ∃ t, ts = [t] := by
    cases d with
    | trigger t => exact ⟨t, (Except.ok.inj h).symm⟩
    | group g =>
      rw [triggersOf, manyPerSlot_eq_false_iff.mpr hi, if_neg Bool.noConfusion] at h
      obtain ⟨t, -, rfl⟩ := map_eq_ok_iff.mp h
      exact ⟨t, rfl⟩
  obtain ⟨t, rfl⟩ := hone
  exact List.pairwise_singleton _ t

end Engine

section Alone

variable {engine : Engine} {d : Declaration} {ts : List Trigger} {e : Error}

lemma expansion_of_error (h : engine.triggersOf d = .error e) :
    expansion engine [d] = .error e := by
  rw [expansion, Engine.triggersOfAll, h]
  rfl

lemma expansion_of_names (h : engine.triggersOf d = .ok ts) (hn : (ts.map Trigger.name).Nodup) :
    expansion engine [d] = .ok (sortOn Trigger.key ts) := by
  have hlegal : engine.Legal ts :=
    ⟨keys_nodup_of_names hn, fun hi => Engine.onePerSlot_of_triggersOf hi h⟩
  refine expansion_eq_ok_iff.mpr ⟨[ts], .cons h .nil, ?_, ?_⟩ <;> rw [List.flatten_singleton]
  exact hlegal

lemma Generator.diff_of_names (hd : d.Built) (h : engine.triggersOf d = .ok ts)
    (hn : (ts.map Trigger.name).Nodup) :
    (ofEngine engine).diff [d] [] = .ok ⟨sortOn Trigger.key ts, []⟩ := by
  have hcap : (sortOn Trigger.key ts).map (ofEngine engine).cap = sortOn Trigger.key ts := by
    refine (List.map_congr_left fun t ht => ?_).trans (List.map_id _)
    exact cap_of_le (hd.triggersOf h t (mem_sortOn.mp ht)).2.compatibility
  have hagain : sortOn Trigger.key (sortOn Trigger.key ts) = sortOn Trigger.key ts :=
    (sortOn_eq_of_perm Trigger.key (keys_nodup_of_names hn) (sortOn_perm Trigger.key ts).symm).symm
  refine map_eq_ok_iff.mpr ⟨_, map_eq_ok_iff.mpr ⟨_, expansion_of_names h hn, rfl⟩, ?_⟩
  rw [hcap, Diff.between_nil, hagain]

lemma Generator.generate_alone (hd : d.Built) (h : engine.triggersOf d = .ok ts)
    (hn : (ts.map Trigger.name).Nodup) {p : Plan} :
    ((ofEngine engine).generate [d] []).result = .ok p ↔ (∀ t ∈ ts, engine.Accepts t) ∧
      p = Plan.ofDiff engine ⟨sortOn Trigger.key ts, []⟩ := by
  rw [generate_result_eq_ok_iff]
  constructor
  · rintro ⟨c, hc, ha, rfl⟩
    obtain rfl := Except.ok.inj ((diff_of_names hd h hn).symm.trans hc)
    exact ⟨fun t ht => ha t (mem_sortOn.mpr ht), rfl⟩
  · rintro ⟨ha, rfl⟩
    exact ⟨_, diff_of_names hd h hn, fun t ht => ha t (mem_sortOn.mp ht), rfl⟩

end Alone

namespace Draft

variable {draft : Draft} {d : Declaration} {engine : Engine} {ts : List Trigger} {e : Error}

lemma freezeFor_of_error (hd : draft.freeze = .ok d) (h : engine.triggersOf d = .error e) :
    draft.freezeFor engine = ⟨.error e, []⟩ := by
  simp only [freezeFor, hd, h]

lemma freezeFor_of_accepts (hd : draft.freeze = .ok d) (h : engine.triggersOf d = .ok ts)
    (ha : ∀ t ∈ ts, engine.Accepts t) :
    draft.freezeFor engine = ⟨.ok d, ts.flatMap engine.warningsFor⟩ := by
  simp only [freezeFor, hd, h, Engine.review_of_accepts ha]
  rfl

lemma exists_freezeFor_iff (hd : draft.freeze = .ok d) (h : engine.triggersOf d = .ok ts) :
    (∃ d', (draft.freezeFor engine).result = .ok d') ↔ ∀ t ∈ ts, engine.Accepts t := by
  constructor
  · rintro ⟨d', hr⟩
    simp only [freezeFor, hd, h] at hr
    obtain ⟨u, hu, -⟩ := map_eq_ok_iff.mp hr
    exact Engine.accepts_of_review hu
  · exact fun ha => ⟨d, by rw [freezeFor_of_accepts hd h ha]⟩

theorem freezeFor_agrees (hd : draft.freeze = .ok d)
    (hn : ∀ ts, engine.triggersOf d = .ok ts → (ts.map Trigger.name).Nodup) :
    let review := draft.freezeFor engine
    let run := (Generator.ofEngine engine).generate [d] []
    ((∃ d', review.result = .ok d') ↔ ∃ p, run.result = .ok p) ∧
      ((∃ p, run.result = .ok p) ↔ ∃ ts, engine.triggersOf d = .ok ts ∧
        ∀ t ∈ ts, ∃ ss, (engine.compile t).result = .ok ss) ∧
      ∀ p, run.result = .ok p → review.result = .ok d ∧ ∃ ts, engine.triggersOf d = .ok ts ∧
        review.warnings.Perm (ts.flatMap fun t => (engine.compile t).warnings) ∧
        run.warnings.Perm (ts.flatMap fun t => (engine.compile t).warnings) ∧
        engine.CompilesInOrder ts p.up := by
  intro review run
  have hb : d.Built := ⟨draft, hd⟩
  cases ht : engine.triggersOf d with
  | error e =>
    have hreview : review = ⟨.error e, []⟩ := freezeFor_of_error hd ht
    have hrun : run = ⟨.error e, []⟩ := Generator.generate_of_error (expansion_of_error ht)
    simp [hreview, hrun]
  | ok ts =>
    have hnames := hn ts ht
    have hrun : ∀ p, run.result = .ok p ↔ (∀ t ∈ ts, engine.Accepts t) ∧
        p = Plan.ofDiff engine ⟨sortOn Trigger.key ts, []⟩ :=
      fun p => Generator.generate_alone hb ht hnames
    have hplan : (∃ p, run.result = .ok p) ↔ ∀ t ∈ ts, engine.Accepts t := by
      simp only [hrun, exists_and_left, exists_eq, and_true]
    refine ⟨(exists_freezeFor_iff hd ht).trans hplan.symm, ?_, fun p hp => ?_⟩
    · simp only [hplan, Except.ok.injEq, exists_eq_left', Engine.compile_result_eq_ok_iff,
        exists_and_left, exists_eq, and_true]
    · obtain ⟨ha, rfl⟩ := (hrun p).mp hp
      have hwarnings : (ts.flatMap fun t => (engine.compile t).warnings) =
          ts.flatMap engine.warningsFor :=
        List.flatMap_congr fun t ht => by rw [Engine.compile_of_accepts (ha t ht)]
      have hreview : review = ⟨.ok d, ts.flatMap engine.warningsFor⟩ :=
        freezeFor_of_accepts hd ht ha
      have hgenerate : run = ⟨.ok (Plan.ofDiff engine ⟨sortOn Trigger.key ts, []⟩),
          (sortOn Trigger.key ts).flatMap engine.warningsFor⟩ :=
        Generator.generate_of_accepts (Generator.diff_of_names hb ht hnames)
          fun t ht => ha t (mem_sortOn.mp ht)
      refine ⟨by rw [hreview], ts, rfl, ?_, ?_, ?_⟩
      · rw [hreview, hwarnings]
      · rw [hgenerate, hwarnings]
        exact (sortOn_perm Trigger.key ts).flatMap_right engine.warningsFor
      · rw [Plan.up_ofDiff]
        exact Engine.compilesInOrder_of_accepts ha (keys_nodup_of_names hnames)

def totalOrElse : Draft :=
  .ofSettings (bobOrElseSettings ++ [.declare ["total integer;"]])

theorem freezeFor_agrees_totalOrElse :
    ∃ d ts p, totalOrElse.freeze = .ok d ∧ Engine.functionBacked.triggersOf d = .ok ts ∧
      ts.map Trigger.name = ["bob_tr", "else_tr"] ∧
      (totalOrElse.freezeFor .functionBacked).result = .ok d ∧
      (totalOrElse.freezeFor .functionBacked).warnings.map Warning.trigger =
        ["bob_tr", "else_tr"] ∧
      ((Generator.ofEngine .functionBacked).generate [d] []).result = .ok p ∧
      Engine.functionBacked.CompilesInOrder ts p.up := by
  obtain ⟨d, ts, p, hd, ht, hnames, hp⟩ : ∃ d ts p, totalOrElse.freeze = .ok d ∧
      Engine.functionBacked.triggersOf d = .ok ts ∧
      ts.map Trigger.name = ["bob_tr", "else_tr"] ∧
      ((Generator.ofEngine .functionBacked).generate [d] []).result = .ok p :=
    ⟨.group { bobOrElse with declarations := ["total integer;"] }, _, _, by rfl, rfl, rfl, rfl⟩
  have hn : ∀ us, Engine.functionBacked.triggersOf d = .ok us → (us.map Trigger.name).Nodup := by
    intro us hu
    obtain rfl := Except.ok.inj (ht.symm.trans hu)
    rw [hnames]
    decide
  obtain ⟨-, -, hall⟩ := freezeFor_agrees hd hn
  obtain ⟨hreview, us, hu, -, -, hup⟩ := hall p hp
  obtain rfl := Except.ok.inj (ht.symm.trans hu)
  exact ⟨d, ts, p, hd, ht, hnames, hreview, by rfl, hp, hup⟩

end Draft

end SqlTriggers
