import Mathlib.Data.List.Perm.Basic
import SqlTriggers.Proofs.Catalog.Mirror
import SqlTriggers.Proofs.Result

/-! Whatever statements a catalog is given, it keeps every text under the name that the text declares,
it has what its triggers call, and the texts that it keeps make it again. -/

namespace SqlTriggers

open CatalogStatement (read?)

namespace Catalog

variable {c c' : Catalog} {m : OrderedMap String String} {declares : List Char → CatalogStatement}
  {sql : String} {es : List (String × String)}

def executed (ss : List String) : Catalog :=
  ss.foldl (fun c s => (executor.run c s).1) .empty

def DeclaredBy (declares : List Char → CatalogStatement) (n sql : String) : Prop :=
  trimmed sql = sql ∧ read? sql.toList = some (declares n.toList)

def Kept (declares : List Char → CatalogStatement) (m : OrderedMap String String) : Prop :=
  ∀ n sql, m.get? n = some sql → DeclaredBy declares n sql

structure Whole (c : Catalog) : Prop where
  functions : Kept .createFunction c.functions
  triggers : Kept .createTrigger c.triggers
  called : ∀ n sql f, c.triggers.get? n = some sql → calledFunction sql = some f →
    ∃ text, c.functions.get? f = some text

section Keeping

lemma Kept.insert (h : Kept declares m) {n : String} (hs : DeclaredBy declares n sql) :
    Kept declares (m.insert n sql) := by
  intro k text hk
  rw [OrderedMap.get?_insert] at hk
  split at hk
  · rename_i hn
    rw [← hn, ← Option.some.inj hk]
    exact hs
  · exact h k text hk

lemma get?_of_get?_erase {n k text : String} (h : (m.erase n).get? k = some text) :
    m.get? k = some text := by
  rw [OrderedMap.get?_erase] at h
  split at h
  · cases h
  · exact h

lemma Kept.erase (h : Kept declares m) (n : String) : Kept declares (m.erase n) :=
  fun k text hk => h k text (get?_of_get?_erase hk)

lemma whole_empty : Catalog.empty.Whole :=
  ⟨fun _ _ h => (nomatch h), fun _ _ h => (nomatch h), fun _ _ _ h => (nomatch h)⟩

lemma whole_step (hw : c.Whole) (ht : trimmed sql = sql) (h : c.step sql = .ok c') : c'.Whole := by
  rw [step] at h
  split at h
  case h_1 name hr =>
    obtain rfl := Except.ok.inj h
    refine ⟨hw.functions.insert ⟨ht, by rw [hr, String.toList_ofList]⟩, hw.triggers, ?_⟩
    intro n text f hn hf
    obtain ⟨body, hbody⟩ := hw.called n text f hn hf
    rw [OrderedMap.get?_insert]
    split
    · exact ⟨sql, rfl⟩
    · exact ⟨body, hbody⟩
  case h_2 name hr =>
    obtain ⟨-, hcalled, rfl⟩ := addTrigger_eq_ok_iff.mp h
    refine ⟨hw.functions, hw.triggers.insert ⟨ht, by rw [hr, String.toList_ofList]⟩, ?_⟩
    intro n text f hn hf
    rw [OrderedMap.get?_insert] at hn
    split at hn
    · rw [← Option.some.inj hn] at hf
      exact hcalled f hf
    · exact hw.called n text f hn hf
  case h_3 name hr =>
    obtain rfl := Except.ok.inj h
    exact ⟨hw.functions, hw.triggers.erase _,
      fun n text f hn hf => hw.called n text f (get?_of_get?_erase hn) hf⟩
  case h_4 name hr =>
    obtain ⟨hfree, rfl⟩ := removeFunction_eq_ok_iff.mp h
    refine ⟨hw.functions.erase _, hw.triggers, ?_⟩
    intro n text f hn hf
    -- A function that a trigger calls is not the one that was removed.
    have hne : String.ofList name ≠ f := fun hf' =>
      hfree text (OrderedMap.mem_values_iff.mpr ⟨n, hn⟩) (hf' ▸ hf)
    rw [OrderedMap.get?_erase, if_neg hne]
    exact hw.called n text f hn hf
  case h_5 hr => cases h

lemma run_of_refused {e : Error} (h : (executor.run c sql).2 = .error e) :
    (executor.run c sql).1 = c := by
  cases he : c.execute sql with
  | ok d => simp [run_eq_ok he] at h
  | error r => rw [run_eq_error he]

lemma whole_run (hw : c.Whole) (sql : String) : (executor.run c sql).1.Whole := by
  cases he : c.execute sql with
  | error e => rwa [run_eq_error he]
  | ok d =>
    rw [run_eq_ok he]
    exact whole_step hw (trimmed_trimmed sql) (execute_eq_ok_iff.mp he)

lemma whole_runs (hw : c.Whole) (ss : List String) :
    (ss.foldl (fun c s => (executor.run c s).1) c).Whole := by
  induction ss generalizing c with
  | nil => exact hw
  | cons s ss ih =>
    rw [List.foldl_cons]
    exact ih (whole_run hw s)

end Keeping

section Rebuilding

lemma runAll_functions (c : Catalog) (h : ∀ e ∈ es, DeclaredBy .createFunction e.1 e.2) :
    executor.runAll c (es.map (·.2)) =
      ({ c with functions := es.foldl (fun m e => m.insert e.1 e.2) c.functions }, .ok ()) := by
  induction es generalizing c with
  | nil => rfl
  | cons e es ih =>
    obtain ⟨⟨ht, hr⟩, hes⟩ := List.forall_mem_cons.mp h
    have hstep : c.step e.2 = .ok { c with functions := c.functions.insert e.1 e.2 } := by
      simp only [step, hr, String.ofList_toList]
    rw [List.map_cons, runAll_cons (execute_eq_ok ht hstep), ih _ hes]
    rfl

lemma runAll_triggers (c : Catalog) (h : ∀ e ∈ es, DeclaredBy .createTrigger e.1 e.2)
    (hn : (es.map (·.1)).Nodup) (hfree : ∀ e ∈ es, c.triggers.get? e.1 = none)
    (hcalled : ∀ e ∈ es, ∀ f, calledFunction e.2 = some f →
      ∃ text, c.functions.get? f = some text) :
    executor.runAll c (es.map (·.2)) =
      ({ c with triggers := es.foldl (fun m e => m.insert e.1 e.2) c.triggers }, .ok ()) := by
  induction es generalizing c with
  | nil => rfl
  | cons e es ih =>
    obtain ⟨⟨ht, hr⟩, hes⟩ := List.forall_mem_cons.mp h
    obtain ⟨hnew, hnes⟩ := List.nodup_cons.mp hn
    obtain ⟨hefree, hesfree⟩ := List.forall_mem_cons.mp hfree
    obtain ⟨hecalled, hescalled⟩ := List.forall_mem_cons.mp hcalled
    have hstep : c.step e.2 = .ok { c with triggers := c.triggers.insert e.1 e.2 } := by
      simp only [step, hr, String.ofList_toList]
      exact addTrigger_eq_ok_iff.mpr ⟨hefree, hecalled, rfl⟩
    have hstill : ∀ a ∈ es, (c.triggers.insert e.1 e.2).get? a.1 = none := by
      intro a ha
      have hne : e.1 ≠ a.1 := fun hea => hnew (List.mem_map.mpr ⟨a, ha, hea.symm⟩)
      rw [OrderedMap.get?_insert, if_neg hne]
      exact hesfree a ha
    rw [List.map_cons, runAll_cons (execute_eq_ok ht hstep),
      ih { c with triggers := c.triggers.insert e.1 e.2 } hes hnes hstill hescalled]
    rfl

lemma exists_entries_of_perm {l : List String} (h : l.Perm m.values) :
    ∃ es : List (String × String), l = es.map (·.2) ∧ es.Perm m.entries := by
  have hcomp := congrFun (congrFun (List.eq_map_comp_perm (Prod.snd (α := String))) l) m.entries
  exact cast hcomp.symm h

lemma declaredBy_of_mem (hk : Kept declares m) (hp : es.Perm m.entries) :
    ∀ e ∈ es, DeclaredBy declares e.1 e.2 :=
  fun e he => hk e.1 e.2 (OrderedMap.get?_eq_some_iff.mpr (hp.mem_iff.mp he))

lemma rebuilt (hw : c.Whole) {fs ts : List String} (hf : fs.Perm c.functions.values)
    (ht : ts.Perm c.triggers.values) : executor.runAll .empty (fs ++ ts) = (c, .ok ()) := by
  obtain ⟨es, rfl, hes⟩ := exists_entries_of_perm hf
  obtain ⟨ds, rfl, hds⟩ := exists_entries_of_perm ht
  have hfunctions : executor.runAll .empty (es.map (·.2)) = (⟨c.functions, .empty⟩, .ok ()) := by
    have hfold : es.foldl (fun m e => m.insert e.1 e.2) empty.functions = c.functions :=
      OrderedMap.ofList_of_perm hes
    rw [runAll_functions empty (declaredBy_of_mem hw.functions hes), hfold]
    rfl
  have htriggers : executor.runAll ⟨c.functions, .empty⟩ (ds.map (·.2)) = (c, .ok ()) := by
    have hfold : ds.foldl (fun m e => m.insert e.1 e.2) .empty = c.triggers :=
      OrderedMap.ofList_of_perm hds
    have hn : (ds.map (·.1)).Nodup := (hds.map (·.1)).nodup_iff.mpr c.triggers.keys_nodup
    have hcalled : ∀ e ∈ ds, ∀ f, calledFunction e.2 = some f →
        ∃ text, c.functions.get? f = some text := fun e he f =>
      hw.called e.1 e.2 f (OrderedMap.get?_eq_some_iff.mpr (hds.mem_iff.mp he))
    rw [runAll_triggers ⟨c.functions, .empty⟩ (declaredBy_of_mem hw.triggers hds) hn
      (fun _ _ => rfl) hcalled, hfold]
  rw [runAll_append hfunctions, htriggers]

/-- A refused statement changes nothing, no statement leaves a catalog that is not whole, and a
catalog's own texts, functions first, make it again. -/
theorem executed_whole_and_rebuilt (ss : List String) :
    (∀ sql e, (executor.run (executed ss) sql).2 = .error e →
      (executor.run (executed ss) sql).1 = executed ss) ∧
    (executed ss).Whole ∧
    ∀ fs ts, fs.Perm (executed ss).functions.values → ts.Perm (executed ss).triggers.values →
      executor.runAll .empty (fs ++ ts) = (executed ss, .ok ()) :=
  ⟨fun _ _ he => run_of_refused he, whole_runs whole_empty ss,
    fun _ _ hf ht => rebuilt (whole_runs whole_empty ss) hf ht⟩

def noteStatements : List String :=
  ["\nCREATE FUNCTION note()", "CREATE TRIGGER t AFTER x EXECUTE FUNCTION note()",
    "DROP FUNCTION IF EXISTS note()", "CREATE TRIGGER t BEFORE x", "SELECT 1"]

def noteCatalog : Catalog where
  functions := .ofList [("note", "CREATE FUNCTION note()")]
  triggers := .ofList [("t", "CREATE TRIGGER t AFTER x EXECUTE FUNCTION note()")]

lemma executed_noteStatements : executed noteStatements = noteCatalog := by decide +kernel

theorem executed_whole_and_rebuilt_note : executed noteStatements = noteCatalog ∧
    (executor.run noteCatalog "DROP FUNCTION IF EXISTS note()").1 = noteCatalog ∧
    (∃ text, noteCatalog.functions.get? "note" = some text) ∧
    executor.runAll .empty
        (["CREATE FUNCTION note()"] ++ ["CREATE TRIGGER t AFTER x EXECUTE FUNCTION note()"]) =
      (noteCatalog, .ok ()) := by
  have hrefused : (executor.run noteCatalog "DROP FUNCTION IF EXISTS note()").2.isOk = false := by
    decide +kernel
  have hcalled : calledFunction "CREATE TRIGGER t AFTER x EXECUTE FUNCTION note()" =
      some "note" := by
    decide +kernel
  obtain ⟨e, he⟩ := exists_of_not_isOk hrefused
  obtain ⟨hkept, hwhole, hrebuilt⟩ := executed_whole_and_rebuilt noteStatements
  rw [executed_noteStatements] at hkept hwhole hrebuilt
  exact ⟨executed_noteStatements, hkept _ e he, hwhole.called "t" _ "note" rfl hcalled,
    hrebuilt _ _ (.refl _) (.refl _)⟩

end Rebuilding

end Catalog

end SqlTriggers
