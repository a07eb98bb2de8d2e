import SqlTriggers.Proofs.Catalog.Mirror
import SqlTriggers.Proofs.Declaration.Built
import SqlTriggers.Proofs.Migration.Generator
import SqlTriggers.Proofs.Migration.Plan

/-! Creating declared triggers in an empty catalog. Declarations are told apart by table and name,
but a catalog knows triggers by their names alone, so it takes all of them just when no name is used
on two tables. -/

namespace SqlTriggers

open History (Triggers replayFrom)

namespace Catalog

variable {engine : Engine} {t : Trigger} {ts : List Trigger} {c c' : Catalog} {s : String}
  {ss rest : List String}

lemma runAll_cons_eq_ok (h : executor.runAll c (s :: rest) = (c', .ok ())) :
    ∃ d, c.execute s = .ok d ∧ executor.runAll d rest = (c', .ok ()) := by
  cases he : c.execute s with
  | ok d =>
    rw [runAll_cons he] at h
    exact ⟨d, rfl, h⟩
  | error e =>
    rw [Executor.runAll_cons_error (run_eq_error he)] at h
    exact absurd (congrArg Prod.snd h) (by simp)

lemma runAll_append_eq_ok (h : executor.runAll c (ss ++ rest) = (c', .ok ())) :
    ∃ d, executor.runAll c ss = (d, .ok ()) ∧ executor.runAll d rest = (c', .ok ()) := by
  induction ss generalizing c with
  | nil => exact ⟨c, rfl, h⟩
  | cons s ss ih =>
    obtain ⟨d, hd, h⟩ := runAll_cons_eq_ok h
    obtain ⟨e, he, hrest⟩ := ih h
    exact ⟨e, by rw [runAll_cons hd, he], hrest⟩

lemma execute_of_runAll (h : executor.runAll c [s] = (c', .ok ())) : c.execute s = .ok c' := by
  obtain ⟨d, hd, hnil⟩ := runAll_cons_eq_ok h
  simp only [Executor.runAll, Prod.mk.injEq, and_true] at hnil
  rw [hd, hnil]

lemma triggers_of_execute_triggerText (engine : Engine) (ht : t.Checked)
    (h : c.execute (engine.triggerText t) = .ok c') : c.triggers.get? t.name = none ∧
      c'.triggers = c.triggers.insert t.name (engine.triggerText t) := by
  rw [execute_eq_ok_iff, t.trimmed_triggerText engine] at h
  simp only [step, Trigger.read?_triggerText engine ht, String.ofList_toList] at h
  obtain ⟨hfree, -, rfl⟩ := addTrigger_eq_ok_iff.mp h
  exact ⟨hfree, rfl⟩

lemma triggers_of_create (ht : t.Checked)
    (h : executor.runAll c (engine.createStatements t) = (c', .ok ())) :
    c.triggers.get? t.name = none ∧
      c'.triggers = c.triggers.insert t.name (engine.triggerText t) := by
  by_cases he : engine = .functionBacked
  · subst he
    have hs : Engine.functionBacked.createStatements t =
        [t.functionText, Engine.functionBacked.triggerText t] := rfl
    rw [hs, runAll_cons (execute_functionText c ht)] at h
    have hadded := triggers_of_execute_triggerText _ ht (execute_of_runAll h)
    exact hadded
  · rw [Engine.createStatements_of_ne he] at h
    exact triggers_of_execute_triggerText _ ht (execute_of_runAll h)

lemma nodup_of_creates (ct : ∀ t ∈ ts, t.Checked)
    (h : executor.runAll c (Operation.forward engine (ts.map .create)) = (c', .ok ())) :
    (ts.map Trigger.name).Nodup ∧ ∀ t ∈ ts, c.triggers.get? t.name = none := by
  induction ts generalizing c with
  | nil => simp
  | cons t ts ih =>
    rw [List.map_cons, Operation.forward, List.flatMap_cons] at h
    obtain ⟨d, hd, hrest⟩ := runAll_append_eq_ok h
    obtain ⟨hfree, hinsert⟩ := triggers_of_create (ct t List.mem_cons_self) hd
    obtain ⟨hnodup, hnames⟩ := ih (fun u hu => ct u (List.mem_cons_of_mem t hu)) hrest
    have hothers : ∀ u ∈ ts, t.name ≠ u.name ∧ c.triggers.get? u.name = none := by
      intro u hu
      have hu := hnames u hu
      rw [hinsert, OrderedMap.get?_insert] at hu
      split_ifs at hu with hne
      exact ⟨hne, hu⟩
    rw [List.map_cons, List.nodup_cons, List.forall_mem_cons]
    refine ⟨⟨fun hm => ?_, hnodup⟩, hfree, fun u hu => (hothers u hu).2⟩
    obtain ⟨u, hu, hn⟩ := List.mem_map.mp hm
    exact (hothers u hu).1 hn.symm

/-- The catalog holds these triggers as they are rendered, and no others. -/
structure Holds (engine : Engine) (ts : List Trigger) (c : Catalog) : Prop where
  snapshot : ∀ n sql, c.snapshot.get? n = some sql ↔
    ∃ t ∈ ts, t.name = n ∧ engine.rendering t = sql
  functions : ∀ n sql, c.functions.get? n = some sql ↔
    ∃ t ∈ ts, t.name = n ∧ engine.functionText? t = some sql

lemma Holds.perm {us : List Trigger} (h : Holds engine ts c) (hp : ts.Perm us) :
    Holds engine us c := by
  constructor
  · intro n sql
    rw [h.snapshot]
    simp only [hp.mem_iff]
  · intro n sql
    rw [h.functions]
    simp only [hp.mem_iff]

lemma tame_of_nodup (ct : ∀ t ∈ ts, t.Checked) (hc : ∀ t ∈ ts, engine.CallsOnlyOwn t)
    (hn : (ts.map Trigger.name).Nodup) : Tame engine .empty (· ∈ ts) where
  checked := ct
  calls := hc
  oneTable _ _ ht hu h := congrArg Trigger.table (List.inj_on_of_nodup_map hn ht hu h)
  triggerFree _ _ := rfl
  functionFree _ _ := rfl
  closed _ _ _ h := nomatch h

lemma holds_creates (ct : ∀ t ∈ ts, t.Checked) (hc : ∀ t ∈ ts, engine.CallsOnlyOwn t)
    (hn : (ts.map Trigger.name).Nodup) :
    ∃ c, executor.runAll .empty (Operation.forward engine (ts.map .create)) = (c, .ok ()) ∧
      Holds engine ts c := by
  have hw := tame_of_nodup ct hc hn
  have hkeys := keys_nodup_of_names hn
  have hused : ∀ op ∈ ts.map Operation.create, op.trigger ∈ ts := by
    intro op hop
    obtain ⟨t, ht, rfl⟩ := List.mem_map.mp hop
    exact ht
  have hstart : Mirrors engine .empty (.empty : Triggers) .empty := ⟨fun _ => rfl, fun _ => rfl⟩
  obtain ⟨c, hrun, hm⟩ := hstart.forward .empty hw hused
    (History.fitsAll_creates hkeys fun t _ => rfl)
  have hp : Populated (· ∈ ts) (replayFrom .empty (ts.map .create)) :=
    Populated.empty.replayFrom hused
  have hnamed : ∀ n t, named (replayFrom .empty (ts.map .create)) n = some t ↔
      t ∈ ts ∧ t.name = n := by
    intro n t
    rw [hp.named_eq_some_iff hw, History.get?_replayFrom_creates hkeys, OrderedMap.get?_empty,
      Option.or_none, triggerAt_eq_some_iff hkeys, and_iff_left rfl]
  refine ⟨c, hrun, fun n sql => ?_, fun n sql => ?_⟩
  · have hnone : Catalog.empty.snapshot.get? n = none := rfl
    rw [hm.snapshot hp hw, hnone, Option.or_none, Option.map_eq_some_iff]
    simp only [hnamed, and_assoc]
  · have hnone : Catalog.empty.functions.get? n = none := rfl
    rw [hm.functions, hnone, Option.or_none, Option.bind_eq_some_iff]
    simp only [hnamed, and_assoc]

end Catalog

section Generate

open Catalog

variable {g : Generator} {ds : List Declaration} {ts : List Trigger} {p : Plan}

lemma up_eq_forward (hw : g.wanted ds = .ok ts) (hp : (g.generate ds []).result = .ok p) :
    p.up = Operation.forward g.engine ((sortOn Trigger.key ts).map .create) := by
  obtain ⟨us, he, rfl⟩ := Generator.generate_eq_ok hp
  obtain ⟨vs, hv, rfl⟩ := map_eq_ok_iff.mp hw
  obtain rfl := Except.ok.inj (he.symm.trans hv)
  rw [Diff.between_nil]
  rfl

lemma checked_of_mem_wanted (hd : ∀ d ∈ ds, d.Built) (hw : g.wanted ds = .ok ts) :
    ∀ t ∈ ts, t.Checked := by
  obtain ⟨us, he, rfl⟩ := map_eq_ok_iff.mp hw
  exact Generator.map_cap_checked g fun t ht => (expansion_checked hd he t ht).1

lemma names_nodup_of_runAll_up (hd : ∀ d ∈ ds, d.Built) (hw : g.wanted ds = .ok ts)
    (hp : (g.generate ds []).result = .ok p) {c : Catalog}
    (hrun : executor.runAll .empty p.up = (c, .ok ())) : (ts.map Trigger.name).Nodup := by
  have hperm := sortOn_perm Trigger.key ts
  rw [up_eq_forward hw hp] at hrun
  have hnodup := nodup_of_creates (fun t ht => checked_of_mem_wanted hd hw t (mem_sortOn.mp ht)) hrun
  exact (hperm.map Trigger.name).nodup_iff.mp hnodup.1

/-- The plan of all declared triggers can be carried out in an empty catalog just when no two of
them have one name, and then each of them is there with its own text. -/
theorem runAll_up_iff_names_nodup (hd : ∀ d ∈ ds, d.Built) (hw : g.wanted ds = .ok ts)
    (hc : ∀ t ∈ ts, g.engine.CallsOnlyOwn t) (hp : (g.generate ds []).result = .ok p) :
    ((∃ c, executor.runAll .empty p.up = (c, .ok ())) ↔ (ts.map Trigger.name).Nodup) ∧
      ∀ c, executor.runAll .empty p.up = (c, .ok ()) → Holds g.engine ts c := by
  have hcreates : (ts.map Trigger.name).Nodup →
      ∃ c, executor.runAll .empty p.up = (c, .ok ()) ∧ Holds g.engine ts c := by
    intro hn
    have hperm := sortOn_perm Trigger.key ts
    obtain ⟨c, hrun, hholds⟩ := holds_creates
      (fun t ht => checked_of_mem_wanted hd hw t (mem_sortOn.mp ht))
      (fun t ht => hc t (mem_sortOn.mp ht)) ((hperm.map Trigger.name).nodup_iff.mpr hn)
    exact ⟨c, by rw [up_eq_forward hw hp, hrun], hholds.perm hperm⟩
  refine ⟨⟨?_, fun hn => ?_⟩, fun c hrun => ?_⟩
  · rintro ⟨c, hrun⟩
    exact names_nodup_of_runAll_up hd hw hp hrun
  · obtain ⟨c, hrun, -⟩ := hcreates hn
    exact ⟨c, hrun⟩
  · obtain ⟨c', hrun', hholds⟩ := hcreates (names_nodup_of_runAll_up hd hw hp hrun)
    obtain rfl : c' = c := congrArg Prod.fst (hrun'.symm.trans hrun)
    exact hholds

end Generate

section Names

open Catalog

def bobNamed (name table : String) : Trigger :=
  { bobCounter "SELECT 1;" 1 true with name := name, table := table }

def bobPair (name : String) : List Trigger := [bobNamed "bob_tr" "groups", bobNamed name "users"]

lemma bobPair_built : ∀ n ∈ ["bob_tr", "eve_tr"], ∀ d ∈ (bobPair n).map .trigger,
    Declaration.Built d := by
  have hbuilt : ∀ e ∈ [("bob_tr", "groups"), ("bob_tr", "users"), ("eve_tr", "users")],
      (Declaration.trigger (bobNamed e.1 e.2)).Built := by
    intro e he
    refine ⟨.ofSettings (bobCounterSettings "SELECT 1;" ++ [.name e.1, .on e.2]), ?_⟩
    simp only [List.mem_cons, List.not_mem_nil, or_false] at he
    rcases he with rfl | rfl | rfl <;> rfl
  intro n hn d hd
  simp only [List.mem_cons, List.not_mem_nil, or_false] at hn
  simp only [bobPair, List.map_cons, List.map_nil, List.mem_cons, List.not_mem_nil,
    or_false] at hd
  rcases hn with rfl | rfl <;> rcases hd with rfl | rfl <;> exact hbuilt (_, _) (by simp)

lemma bobPair_calls : ∀ n ∈ ["bob_tr", "eve_tr"], ∀ t ∈ bobPair n,
    Engine.functionBacked.CallsOnlyOwn t := by
  -- The text is taken apart first, since evaluating it as a string is slow.
  simp only [Engine.callsOnlyOwn_iff_tails, Engine.triggerText, Trigger.toList_executingText,
    Trigger.toList_headline, Trigger.forEach, String.toList_append]
  decide +kernel

lemma bobPair_wanted : ∀ n ∈ ["bob_tr", "eve_tr"],
    (Generator.ofEngine .functionBacked).wanted ((bobPair n).map .trigger) = .ok (bobPair n) := by
  intro n hn
  simp only [List.mem_cons, List.not_mem_nil, or_false] at hn
  rcases hn with rfl | rfl <;> rfl

lemma bobPair_plan : ∀ n ∈ ["bob_tr", "eve_tr"], ∃ p,
    ((Generator.ofEngine .functionBacked).generate ((bobPair n).map .trigger) []).result =
      .ok p := by
  intro n hn
  simp only [List.mem_cons, List.not_mem_nil, or_false] at hn
  rcases hn with rfl | rfl <;> exact ⟨_, rfl⟩

theorem runAll_up_two_names : ∃ p c, ((Generator.ofEngine .functionBacked).generate
      ((bobPair "eve_tr").map .trigger) []).result = .ok p ∧
    executor.runAll .empty p.up = (c, .ok ()) ∧ Holds .functionBacked (bobPair "eve_tr") c := by
  have hn : "eve_tr" ∈ ["bob_tr", "eve_tr"] := by decide
  obtain ⟨p, hp⟩ := bobPair_plan _ hn
  have h := runAll_up_iff_names_nodup (bobPair_built _ hn) (bobPair_wanted _ hn)
    (bobPair_calls _ hn) hp
  obtain ⟨c, hrun⟩ := h.1.mpr (by decide)
  exact ⟨p, c, hp, hrun, h.2 c hrun⟩

theorem runAll_up_repeated_name : (∀ d ∈ (bobPair "bob_tr").map .trigger, Declaration.Built d) ∧
    (∀ t ∈ bobPair "bob_tr", Engine.functionBacked.CallsOnlyOwn t) ∧
    ∃ p, ((Generator.ofEngine .functionBacked).generate
        ((bobPair "bob_tr").map .trigger) []).result = .ok p ∧
      ¬ ∃ c, executor.runAll .empty p.up = (c, .ok ()) := by
  have hn : "bob_tr" ∈ ["bob_tr", "eve_tr"] := by decide
  obtain ⟨p, hp⟩ := bobPair_plan _ hn
  refine ⟨bobPair_built _ hn, bobPair_calls _ hn, p, hp, ?_⟩
  rintro ⟨c, hrun⟩
  have hnodup := names_nodup_of_runAll_up (bobPair_built _ hn) (bobPair_wanted _ hn) hp hrun
  exact absurd hnodup (by decide)

end Names

end SqlTriggers
