import SqlTriggers.Engine.Statements
import SqlTriggers.Proofs.Trigger.Headline
import SqlTriggers.Proofs.Trigger.Statement

/-! What an engine is told about a trigger, row by row. The rows of a trigger's own statements are
indented there, so that none of them is taken for a clause. -/

namespace SqlTriggers

open Text Statement

namespace Trigger

variable {t u : Trigger}

def securityClause (t : Trigger) : List String :=
  match t.security with
  | some .definer => ["SECURITY DEFINER"]
  | some .invoker => ["SECURITY INVOKER"]
  | _ => []

def declareClause (t : Trigger) : List String :=
  if t.declarations.isEmpty then [] else "DECLARE" :: t.declarations.map indent

def callText (t : Trigger) : String :=
  "EXECUTE " ++ (if t.compatibility = oldestCompatibility then "PROCEDURE" else "FUNCTION") ++
    " " ++ t.name ++ "();"

lemma functionText_eq (t : Trigger) : t.functionText = stacked (
    ["CREATE OR REPLACE FUNCTION " ++ t.name ++ "()", "RETURNS TRIGGER", "LANGUAGE plpgsql"] ++
    t.securityClause ++ ["AS $$"] ++ t.declareClause ++ ["BEGIN"] ++ t.body.map indent ++
    t.returnLines.map indent ++ ["END;", "$$;"]) := rfl

lemma executingText_toList (t : Trigger) : ∃ rest : List Char,
    t.executingText.toList = "CREATE TRIGGER ".toList ++ t.headline.toList ++ '\n' :: rest :=
  ⟨_, by simp [executingText]; rfl⟩

lemma inlineText_toList (t : Trigger) : ∃ rest : List Char,
    t.inlineText.toList = "CREATE ".toList ++ t.definerClause.toList ++ "TRIGGER ".toList ++
      t.headline.toList ++ '\n' :: rest :=
  ⟨_, by simp [inlineText]; rfl⟩

lemma lightweightText_toList (t : Trigger) : ∃ rest : List Char,
    t.lightweightText.toList = "CREATE TRIGGER ".toList ++ t.headline.toList ++ '\n' :: rest :=
  ⟨_, by simp [lightweightText]; rfl⟩

lemma toList_headline (t : Trigger) : t.headline.toList =
    t.name.toList ++ ' ' :: (t.timing.sql.toList ++ ' ' ::
      (" OR ".toList.intercalate (t.events.toList.map fun e => (t.eventText e).toList) ++
        " ON ".toList ++ t.table.toList)) := by
  simp [headline, eventList, String.toList_intercalate, Function.comp_def]

lemma toList_executingText (t : Trigger) : t.executingText.toList = stack (
    ("CREATE TRIGGER ".toList ++ t.headline.toList) :: t.forEach.toList ::
      (t.condition.toList.map (fun c => "WHEN (".toList ++ c.toList ++ ")".toList) ++
        [t.callText.toList])) := by
  simp [executingText, callText, Function.comp_def]

lemma toList_lightweightText (t : Trigger) : t.lightweightText.toList = stack (
    ("CREATE TRIGGER ".toList ++ t.headline.toList) :: t.forEach.toList ::
      (t.condition.toList.map (fun c => "WHEN ".toList ++ (t.guardText c).toList) ++
        "BEGIN".toList :: (t.body.map (fun s => (indent s).toList) ++ ["END;".toList]))) := by
  simp [lightweightText, Function.comp_def]

lemma Checked.definerClause_eq (h : t.Checked) : t.definerClause = "" ∨ ∃ account : String,
    IsToken account.toList ∧ t.definerClause = "DEFINER = " ++ account ++ " " := by
  unfold definerClause
  split
  · have hall : "CURRENT_USER".toList.all (fun c => !isBlank c) = true := rfl
    have hchars : ∀ c ∈ "CURRENT_USER".toList, isBlank c = false := fun c hc => by
      simpa only [Bool.not_eq_true'] using List.all_eq_true.mp hall c hc
    exact .inr ⟨"CURRENT_USER", ⟨by decide, hchars⟩, rfl⟩
  · rename_i account ha
    exact .inr ⟨account, h.isToken ha, rfl⟩
  · exact .inl rfl

lemma Checked.rows_headline (h : t.Checked) {front : String} (hf : '\n' ∉ front.toList) :
    rows (front ++ t.headline) = [(front ++ t.headline).toList] := by
  refine rows_eq_singleton ?_
  rw [String.toList_append, List.mem_append, not_or]
  exact ⟨hf, h.newline_notMem_headline⟩

lemma rows_forEach (t : Trigger) : rows t.forEach = [t.forEach.toList] := by
  refine rows_eq_singleton ?_
  rw [forEach]
  cases t.granularity <;> decide

lemma forEach_eq_iff : t.forEach = u.forEach ↔ t.granularity = u.granularity := by
  rw [forEach, forEach]
  cases t.granularity <;> cases u.granularity <;> decide

lemma Checked.rows_callText (h : t.Checked) : rows t.callText = [t.callText.toList] := by
  refine rows_eq_singleton ?_
  have hn := h.notMem_name (c := '\n') (by decide)
  rw [callText]
  split <;> simp [hn]

lemma Checked.rows_functionName (h : t.Checked) :
    rows ("CREATE OR REPLACE FUNCTION " ++ t.name ++ "()") =
      [("CREATE OR REPLACE FUNCTION " ++ t.name ++ "()").toList] := by
  refine rows_eq_singleton ?_
  simp [h.notMem_name (c := '\n') (by decide)]

def functionEnd : List Char := "$$;".toList

def functionRows (t : Trigger) : List (List Char) :=
  ("CREATE OR REPLACE FUNCTION " ++ t.name ++ "()").toList :: "RETURNS TRIGGER".toList ::
    "LANGUAGE plpgsql".toList :: (t.securityClause.map String.toList ++ "AS $$".toList ::
      (t.declareClause.flatMap rows ++ "BEGIN".toList :: (indentedRows t.body ++
        (indentedRows t.returnLines ++ ["END;".toList]))))

lemma rows_securityClause (t : Trigger) :
    t.securityClause.flatMap rows = t.securityClause.map String.toList := by
  rw [securityClause]
  split <;> rfl

lemma Checked.rows_functionText (h : t.Checked) :
    rows t.functionText = t.functionRows ++ [functionEnd] := by
  rw [functionText_eq, rows_stacked (by simp)]
  simp only [List.flatMap_append, List.flatMap_cons, List.flatMap_nil, List.flatMap_map,
    h.rows_functionName, rows_securityClause, functionRows, indentedRows, List.append_assoc,
    List.cons_append, List.nil_append]
  rfl

def conditionRows (t : Trigger) (clause : String → String) : List (List Char) :=
  t.condition.toList.flatMap fun c => rows (clause c)

lemma Checked.rows_executingText (h : t.Checked) :
    rows t.executingText = ("CREATE TRIGGER " ++ t.headline).toList :: t.forEach.toList ::
      (t.conditionRows (fun c => "WHEN (" ++ c ++ ")") ++ [t.callText.toList]) := by
  have ht : t.executingText = stacked (("CREATE TRIGGER " ++ t.headline) :: t.forEach ::
      ((t.condition.toList.map fun c => "WHEN (" ++ c ++ ")") ++ [t.callText])) := rfl
  rw [ht, rows_stacked (by simp)]
  simp only [List.flatMap_cons, List.flatMap_append, List.flatMap_map, List.flatMap_nil,
    h.rows_headline (show '\n' ∉ "CREATE TRIGGER ".toList by decide), rows_forEach,
    h.rows_callText, conditionRows]
  rfl

lemma Checked.rows_lightweightText (h : t.Checked) :
    rows t.lightweightText = ("CREATE TRIGGER " ++ t.headline).toList :: t.forEach.toList ::
      (t.conditionRows (fun c => "WHEN " ++ t.guardText c) ++ "BEGIN".toList ::
        (indentedRows t.body ++ ["END;".toList])) := by
  rw [lightweightText, rows_stacked (by simp)]
  simp only [List.flatMap_cons, List.flatMap_append, List.flatMap_map, List.flatMap_nil,
    h.rows_headline (show '\n' ∉ "CREATE TRIGGER ".toList by decide), rows_forEach,
    conditionRows, indentedRows, List.append_assoc]
  rfl

lemma begin_notMem_bodyRows (t : Trigger) :
    "BEGIN".toList ∉ indentedRows t.body ++ ["END;".toList] := by
  rw [List.mem_append, not_or]
  exact ⟨notMem_indentedRows t.body (by decide), by decide⟩

lemma Checked.lightweight_unique (ht : t.Checked) (hu : u.Checked)
    (h : Engine.lightweight.rendering t = Engine.lightweight.rendering u) :
    t.headline = u.headline ∧ t.forEach = u.forEach ∧
      t.conditionRows (fun c => "WHEN " ++ t.guardText c) =
        u.conditionRows (fun c => "WHEN " ++ u.guardText c) ∧
      indentedRows t.body = indentedRows u.body := by
  have hrows := congrArg rows h
  simp only [Engine.rendering, Engine.createStatements, stacked_singleton, ht.rows_lightweightText,
    hu.rows_lightweightText, List.cons.injEq, String.toList_inj, String.append_right_inj] at hrows
  obtain ⟨hheadline, hforEach, htail⟩ := hrows
  -- A condition may hold a row that reads `BEGIN`, so the body is behind the last one.
  obtain ⟨hcondition, hbody⟩ := cut_unique_last t.begin_notMem_bodyRows u.begin_notMem_bodyRows htail
  exact ⟨hheadline, hforEach, hcondition, List.append_cancel_right hbody⟩

lemma Checked.newline_notMem_definerClause (h : t.Checked) : '\n' ∉ t.definerClause.toList := by
  rcases h.definerClause_eq with hd | ⟨account, ha, hd⟩
  · simp [hd]
  · have hn : '\n' ∉ account.toList := fun hm => absurd (ha.chars _ hm) (by decide)
    simp [hd, hn]

lemma Checked.rows_inlineText (h : t.Checked) : ∃ rest, rows t.inlineText =
    ("CREATE " ++ t.definerClause ++ "TRIGGER " ++ t.headline).toList :: t.forEach.toList ::
      rest := by
  have hfront : '\n' ∉ ("CREATE " ++ t.definerClause ++ "TRIGGER ").toList := by
    simp [h.newline_notMem_definerClause]
  rw [inlineText, rows_stacked (by simp)]
  simp only [List.flatMap_cons, List.flatMap_append, List.flatMap_nil, h.rows_headline hfront,
    rows_forEach, List.cons_append, List.nil_append]
  exact ⟨_, rfl⟩

lemma notMem_declareClause (t : Trigger) {l : List Char} (hd : l ≠ "DECLARE".toList)
    (hi : ¬ Indented l) : l ∉ t.declareClause.flatMap rows := by
  rw [declareClause]
  split
  · simp
  · rw [List.flatMap_cons, List.flatMap_map, List.mem_append, not_or]
    exact ⟨by simpa [rows_eq_singleton] using hd, notMem_indentedRows t.declarations hi⟩

lemma functionEnd_notMem_functionRows (t : Trigger) : functionEnd ∉ t.functionRows := by
  have hname : functionEnd ≠ ("CREATE OR REPLACE FUNCTION " ++ t.name ++ "()").toList :=
    fun h => absurd (congrArg List.head? h) (by simp [functionEnd])
  have hsecurity : functionEnd ∉ t.securityClause.map String.toList := by
    rw [securityClause]
    split <;> decide
  have hindented : ¬ Indented functionEnd := by decide
  simp only [functionRows, List.mem_cons, List.mem_append, not_or]
  exact ⟨hname, by decide, by decide, hsecurity, by decide,
    t.notMem_declareClause (by decide) hindented, by decide, notMem_indentedRows t.body hindented,
    notMem_indentedRows t.returnLines hindented, by decide, List.not_mem_nil⟩

lemma Checked.rows_functionBacked (h : t.Checked) : rows (Engine.functionBacked.rendering t) =
    t.functionRows ++ functionEnd :: ("CREATE TRIGGER " ++ t.headline).toList ::
      t.forEach.toList :: (t.conditionRows (fun c => "WHEN (" ++ c ++ ")") ++
        [t.callText.toList]) := by
  rw [Engine.rendering, Engine.createStatements, rows_stacked (by simp)]
  simp only [List.flatMap_cons, List.flatMap_nil, List.append_nil, h.rows_functionText,
    h.rows_executingText, List.append_assoc, List.cons_append, List.nil_append]

lemma Checked.headline_eq_of_definer (ht : t.Checked) (hu : u.Checked)
    (h : ("CREATE " ++ t.definerClause ++ "TRIGGER " ++ t.headline).toList =
      ("CREATE " ++ u.definerClause ++ "TRIGGER " ++ u.headline).toList) :
    t.headline = u.headline := by
  simp only [String.toList_append, List.append_assoc, List.append_cancel_left_eq] at h
  rcases ht.definerClause_eq with hd | ⟨a, ha, hd⟩ <;>
    rcases hu.definerClause_eq with he | ⟨b, hb, he⟩
  · rw [hd, he] at h
    exact String.toList_inj.mp (by simpa using h)
  · simp [hd, he] at h
  · simp [hd, he] at h
  · simp only [hd, he, String.toList_append, List.append_assoc, List.append_cancel_left_eq] at h
    have hc := (cut_unique ha.blank_notMem hb.blank_notMem h).2
    exact String.toList_inj.mp (by simpa using hc)

end Trigger

namespace Engine

variable {t u : Trigger}

lemma clauses_eq_of_rendering_eq (engine : Engine) (ht : t.Checked) (hu : u.Checked)
    (h : engine.rendering t = engine.rendering u) :
    t.headline = u.headline ∧ t.forEach = u.forEach := by
  have hrows := congrArg rows h
  cases engine with
  | functionBacked =>
    rw [ht.rows_functionBacked, hu.rows_functionBacked] at hrows
    have hcut := (cut_unique t.functionEnd_notMem_functionRows u.functionEnd_notMem_functionRows
      hrows).2
    simp only [List.cons.injEq, String.toList_inj, String.append_right_inj] at hcut
    exact ⟨hcut.1, hcut.2.1⟩
  | inline =>
    obtain ⟨r, hr⟩ := ht.rows_inlineText
    obtain ⟨s, hs⟩ := hu.rows_inlineText
    simp only [rendering, createStatements, stacked_singleton, hr, hs, List.cons.injEq] at hrows
    exact ⟨ht.headline_eq_of_definer hu hrows.1, String.toList_inj.mp hrows.2.1⟩
  | lightweight =>
    obtain ⟨hheadline, hforEach, -, -⟩ := ht.lightweight_unique hu h
    exact ⟨hheadline, hforEach⟩

lemma key_eq_of_rendering_eq (engine : Engine) (ht : t.Checked) (hu : u.Checked)
    (h : engine.rendering t = engine.rendering u) : t.key = u.key :=
  ht.key_eq_of_headline_eq hu (engine.clauses_eq_of_rendering_eq ht hu h).1

end Engine

end SqlTriggers
