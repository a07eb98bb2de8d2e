import SqlTriggers.Proofs.Catalog.Creation
import SqlTriggers.Proofs.Dump.Symbolic
import SqlTriggers.Proofs.Engine.Faithful

/-! The same triggers on two engines. Their dumps are one text if both know the declarations. -/

namespace SqlTriggers

namespace Catalog

variable {engine : Engine} {ts : List Trigger} {c c' : Catalog} {ss : List String}

def create (engine : Engine) (c : Catalog) (ts : List Trigger) : Except Error Catalog :=
  ts.foldlM (fun c t => do (← (engine.compile t).result).foldlM execute c) c

lemma foldlM_execute (h : executor.runAll c ss = (c', .ok ())) : ss.foldlM execute c = .ok c' := by
  induction ss generalizing c with
  | nil => exact congrArg Except.ok (congrArg Prod.fst h)
  | cons s ss ih =>
    obtain ⟨d, hd, hrest⟩ := runAll_cons_eq_ok h
    rw [List.foldlM_cons, hd]
    exact ih hrest

lemma create_eq_ok (ha : ∀ t ∈ ts, engine.Accepts t)
    (h : executor.runAll c (Operation.forward engine (ts.map .create)) = (c', .ok ())) :
    create engine c ts = .ok c' := by
  induction ts generalizing c with
  | nil => exact congrArg Except.ok (congrArg Prod.fst h)
  | cons t ts ih =>
    rw [List.map_cons, Operation.forward, List.flatMap_cons] at h
    obtain ⟨d, hd, hrest⟩ := runAll_append_eq_ok h
    have hnext := ih (fun u hu => ha u (List.mem_cons_of_mem t hu)) hrest
    have hfirst : (engine.createStatements t).foldlM execute c = .ok d := foldlM_execute hd
    rw [create, List.foldlM_cons, Engine.compile_of_accepts (ha t List.mem_cons_self)]
    exact bind_eq_ok_iff.mpr ⟨d, hfirst, hnext⟩

end Catalog

namespace Dumper

def knowing (engine : Engine) (ts : List Trigger) : Dumper := ⟨engine, none, ts⟩

variable {engine engine' : Engine} {ts us us' : List Trigger} {previous : Option String}
  {parsed : Option Dump}

lemma recognise_known (hg : ∀ t ∈ ts, t.generated = true) (hn : (ts.map Trigger.name).Nodup)
    {t : Trigger} (ht : t ∈ ts) : (knowing engine ts).recognise
      ((knowing engine ts).candidates parsed) t.name (engine.rendering t) = some t := by
  have htrusted : (knowing engine ts).trusted = ts := by
    simpa [trusted, knowing] using hg
  have hfirst : triggerAt t.key ts = some t :=
    (triggerAt_eq_some_iff (keys_nodup_of_names hn)).mpr ⟨ht, rfl⟩
  apply recognise_candidates
  rw [htrusted]
  exact recognise_of_first _ hfirst fun u hu h =>
    congrArg Trigger.key (List.inj_on_of_nodup_map hn hu ht h)

lemma dump_created (ct : ∀ t ∈ ts, t.Checked) (hg : ∀ t ∈ ts, t.generated = true)
    (hn : (ts.map Trigger.name).Nodup) (ha : ∀ t ∈ ts, engine.Accepts t ∧ engine.CallsOnlyOwn t)
    (hu : us.Perm ts) (hp : previous.mapM Dump.read = .ok parsed) :
    ∃ c, Catalog.create engine .empty us = .ok c ∧
      (knowing engine ts).dump c.snapshot previous =
        .ok (declaring ((knowing engine ts).version parsed) ts) := by
  obtain ⟨c, hrun, hholds⟩ := Catalog.holds_creates (fun t ht => ct t (hu.mem_iff.mp ht))
    (fun t ht => (ha t (hu.mem_iff.mp ht)).2) ((hu.map Trigger.name).nodup_iff.mpr hn)
  have hshows : ∀ name ddl, (name, ddl) ∈ c.snapshot.entries ↔
      ∃ t ∈ ts, t.name = name ∧ engine.rendering t = ddl := by
    intro name ddl
    rw [← OrderedMap.get?_eq_some_iff, (hholds.perm hu).snapshot]
  exact ⟨c, Catalog.create_eq_ok (fun t ht => (ha t (hu.mem_iff.mp ht)).1) hrun,
    dump_of_shows _ hn hshows (fun t ht => recognise_known hg hn ht) hp⟩

/-- The engine and the order in which the triggers were created do not show in the dump. -/
theorem dump_portable (hm : ∀ t ∈ ts, ∃ e : Engine, e.Makes t)
    (hg : ∀ t ∈ ts, t.generated = true) (hn : (ts.map Trigger.name).Nodup)
    (ha : ∀ t ∈ ts, engine.Accepts t ∧ engine.CallsOnlyOwn t)
    (ha' : ∀ t ∈ ts, engine'.Accepts t ∧ engine'.CallsOnlyOwn t)
    (hu : us.Perm ts) (hu' : us'.Perm ts) (hp : previous.mapM Dump.read = .ok parsed) :
    ∃ c c' text, Catalog.create engine .empty us = .ok c ∧
      Catalog.create engine' .empty us' = .ok c' ∧
      (knowing engine ts).dump c.snapshot previous = .ok text ∧
      (knowing engine' ts).dump c'.snapshot previous = .ok text ∧
      text = declaring ((parsed.bind Dump.version).getD 0) ts ∧
      Dump.read text =
        .ok ⟨some ((parsed.bind Dump.version).getD 0), sortOn Trigger.name ts, []⟩ := by
  have ct : ∀ t ∈ ts, t.Checked := by
    intro t ht
    obtain ⟨e, he⟩ := hm t ht
    exact he.checked.1
  obtain ⟨c, hc, hdump⟩ := dump_created ct hg hn ha hu hp
  obtain ⟨c', hc', hdump'⟩ := dump_created ct hg hn ha' hu' hp
  exact ⟨c, c', _, hc, hc', hdump, hdump', rfl, read_declaring ts _⟩

end Dumper

section Pair

lemma bobPair_makes : ∀ t ∈ bobPair "eve_tr", Engine.functionBacked.Makes t := by
  intro t ht
  exact ⟨.trigger t, [t], bobPair_built _ (by decide) _ (List.mem_map_of_mem ht), rfl,
    List.mem_singleton_self t⟩

lemma bobPair_lightweight_calls : ∀ t ∈ bobPair "eve_tr", Engine.lightweight.CallsOnlyOwn t := by
  simp only [Engine.callsOnlyOwn_iff_tails, Engine.triggerText, Trigger.toList_lightweightText,
    Trigger.toList_headline, Trigger.forEach, toList_indent, String.toList_append]
  decide +kernel

theorem dump_portable_bobPair : ∃ c c' text,
    Catalog.create .functionBacked .empty (bobPair "eve_tr") = .ok c ∧
      Catalog.create .lightweight .empty (bobPair "eve_tr").reverse = .ok c' ∧
      (Dumper.knowing .functionBacked (bobPair "eve_tr")).dump c.snapshot
        (some "-- version: 7") = .ok text ∧
      (Dumper.knowing .lightweight (bobPair "eve_tr")).dump c'.snapshot
        (some "-- version: 7") = .ok text ∧
      text = Dumper.declaring 7 (bobPair "eve_tr") ∧
      Dump.read text = .ok ⟨some 7, sortOn Trigger.name (bobPair "eve_tr"), []⟩ := by
  have hp : (some "-- version: 7").mapM Dump.read = .ok (some ⟨some 7, [], []⟩) := by
    decide +kernel
  have hboth : ∀ t ∈ bobPair "eve_tr",
      Engine.functionBacked.Accepts t ∧ Engine.lightweight.Accepts t := by decide
  obtain ⟨c, c', text, hc, hc', hd, hd', htext, hread⟩ :=
    Dumper.dump_portable (fun t ht => ⟨_, bobPair_makes t ht⟩) (by decide) (by decide)
      (fun t ht => ⟨(hboth t ht).1, bobPair_calls _ (by decide) t ht⟩)
      (fun t ht => ⟨(hboth t ht).2, bobPair_lightweight_calls t ht⟩)
      (.refl _) (List.reverse_perm _) hp
  exact ⟨c, c', text, hc, hc', hd, hd', htext, hread⟩

end Pair

end SqlTriggers
