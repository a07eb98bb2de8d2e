import Mathlib.Data.List.Infix
import SqlTriggers.Catalog.Basic
import SqlTriggers.Proofs.Catalog.Statement
import SqlTriggers.Proofs.OrderedMap

/-! What a catalog does on the statements that create and remove a trigger. -/

namespace SqlTriggers

open Text CatalogStatement

def Engine.triggerText : Engine → Trigger → String
  | .functionBacked, t => t.executingText
  | .inline, t => t.inlineText
  | .lightweight, t => t.lightweightText

namespace Trigger

variable {t : Trigger}

lemma exists_headline_eq_timing (t : Trigger) : ∃ rest, t.headline.toList =
    t.name.toList ++ ' ' :: (t.timing.sql.toList ++ ' ' :: rest) :=
  ⟨(t.eventList ++ " ON " ++ t.table).toList, by simp [headline]⟩

lemma read?_functionText (h : t.Checked) :
    CatalogStatement.read? t.functionText.toList = some (.createFunction t.name.toList) := by
  have hn := read?_createFunction h.isIdentifier
  rw [functionText_eq]
  simpa [List.append_assoc] using hn _

lemma read?_triggerText (engine : Engine) (h : t.Checked) :
    CatalogStatement.read? (engine.triggerText t).toList = some (.createTrigger t.name.toList) := by
  obtain ⟨behind, hh⟩ := exists_headline_eq_timing t
  cases engine with
  | functionBacked =>
    obtain ⟨rest, hr⟩ := executingText_toList t
    rw [Engine.triggerText, hr, hh]
    simpa [List.append_assoc] using
      read?_createTrigger h.isIdentifier t.timing (behind ++ '\n' :: rest)
  | lightweight =>
    obtain ⟨rest, hr⟩ := lightweightText_toList t
    rw [Engine.triggerText, hr, hh]
    simpa [List.append_assoc] using
      read?_createTrigger h.isIdentifier t.timing (behind ++ '\n' :: rest)
  | inline =>
    obtain ⟨rest, hr⟩ := inlineText_toList t
    rw [Engine.triggerText, hr, hh]
    rcases h.definerClause_eq with hd | ⟨account, ha, hd⟩
    · rw [hd]
      simpa [List.append_assoc] using
        read?_createTrigger h.isIdentifier t.timing (behind ++ '\n' :: rest)
    · rw [hd]
      simpa [List.append_assoc] using
        read?_createDefinerTrigger h.isIdentifier ha t.timing (behind ++ '\n' :: rest)

lemma trimmed_functionText (t : Trigger) : trimmed t.functionText = t.functionText := by
  have hshape := trimmed_stacked ("CREATE OR REPLACE FUNCTION " ++ t.name ++ "()") "$$;"
    (["RETURNS TRIGGER", "LANGUAGE plpgsql"] ++ t.securityClause ++ ["AS $$"] ++
      t.declareClause ++ ["BEGIN"] ++ t.body.map indent ++ t.returnLines.map indent ++ ["END;"])
    (by simp; rfl) rfl (by decide) (by decide)
  rw [functionText_eq]
  simpa [List.append_assoc] using hshape

lemma trimmed_triggerText (t : Trigger) (engine : Engine) :
    trimmed (engine.triggerText t) = engine.triggerText t := by
  cases engine with
  | functionBacked =>
    have hl : t.callText.toList.getLast? = some ';' := by
      rw [callText, String.toList_append, List.getLast?_append]
      rfl
    have hshape := trimmed_stacked ("CREATE TRIGGER " ++ t.headline) t.callText
      (t.forEach :: t.condition.toList.map fun c => "WHEN (" ++ c ++ ")")
      (by simp; rfl) hl (by decide) (by decide)
    simpa [Engine.triggerText, executingText, callText] using hshape
  | inline =>
    have hshape (block : List String) := trimmed_stacked
      ("CREATE " ++ t.definerClause ++ "TRIGGER " ++ t.headline) "END"
      (t.forEach :: "BEGIN" :: block) (by simp; rfl) rfl (by decide) (by decide)
    simpa [Engine.triggerText, inlineText] using hshape _
  | lightweight =>
    have hshape := trimmed_stacked ("CREATE TRIGGER " ++ t.headline) "END;"
      (t.forEach :: ((t.condition.toList.map fun c => "WHEN " ++ t.guardText c) ++ ["BEGIN"] ++
        t.body.map indent)) (by simp; rfl) rfl (by decide) (by decide)
    simpa [Engine.triggerText, lightweightText] using hshape

lemma exists_executingText_eq (t : Trigger) :
    ∃ front, t.executingText.toList = front ++ t.callText.toList := by
  have hs : t.executingText = stacked ((["CREATE TRIGGER " ++ t.headline, t.forEach] ++
      t.condition.toList.map fun c => "WHEN (" ++ c ++ ")") ++ [t.callText]) := rfl
  rw [hs, toList_stacked, List.map_append, stack_append (by simp) (by simp), List.map_singleton,
    stack_singleton, List.append_cons]
  exact ⟨_, rfl⟩

lemma calledHere?_callText (h : t.Checked) :
    calledHere? t.callText.toList = some t.name.toList := by
  have hrun : (takeRoutine (t.name.toList ++ '(' :: [')', ';'])) =
      some (t.name.toList, '(' :: [')', ';']) :=
    takeRoutine_identifier h.isIdentifier _ (by decide)
  by_cases hc : t.compatibility = oldestCompatibility
  · have he : t.callText.toList = "EXECUTE".toList ++ ' ' :: 'P' ::
        ("ROCEDURE".toList ++ ' ' :: (t.name.toList ++ '(' :: [')', ';'])) := by
      simp [callText, hc]
    have hf : afterKeywordGap "FUNCTION" ('P' :: ("ROCEDURE".toList ++ ' ' ::
        (t.name.toList ++ '(' :: [')', ';']))) = none := rfl
    have hp : afterKeywordGap "PROCEDURE" ('P' :: ("ROCEDURE".toList ++ ' ' ::
        (t.name.toList ++ '(' :: [')', ';']))) = some (t.name.toList ++ '(' :: [')', ';']) :=
      afterKeywordGap_identifier h.isIdentifier "PROCEDURE" ('(' :: [')', ';'])
    rw [calledHere?, he, afterKeywordGap_append "EXECUTE" _ (by decide)]
    simp only [Option.bind_eq_bind, Option.bind_some]
    rw [hf, Option.none_or, hp, Option.bind_some, hrun]
    rfl
  · have he : t.callText.toList = "EXECUTE".toList ++ ' ' :: 'F' ::
        ("UNCTION".toList ++ ' ' :: (t.name.toList ++ '(' :: [')', ';'])) := by
      simp [callText, hc]
    have hf : afterKeywordGap "FUNCTION" ('F' :: ("UNCTION".toList ++ ' ' ::
        (t.name.toList ++ '(' :: [')', ';']))) = some (t.name.toList ++ '(' :: [')', ';']) :=
      afterKeywordGap_identifier h.isIdentifier "FUNCTION" ('(' :: [')', ';'])
    rw [calledHere?, he, afterKeywordGap_append "EXECUTE" _ (by decide)]
    simp only [Option.bind_eq_bind, Option.bind_some]
    rw [hf, Option.some_or, Option.bind_some, hrun]
    rfl

end Trigger

def Engine.CallsOnlyOwn (engine : Engine) (t : Trigger) : Prop :=
  ∀ suffix, suffix <:+ (engine.triggerText t).toList → calledHere? suffix ≠ none →
    engine = .functionBacked ∧ suffix = t.callText.toList

instance (engine : Engine) (t : Trigger) : Decidable (engine.CallsOnlyOwn t) :=
  decidable_of_iff ((engine.triggerText t).toList.tails.all (fun cs =>
    (calledHere? cs).isNone || engine = .functionBacked && cs = t.callText.toList) = true) <| by
    simp [Engine.CallsOnlyOwn, List.all_eq_true, ← Classical.or_iff_not_imp_left]

lemma Engine.callsOnlyOwn_iff_tails {engine : Engine} {t : Trigger} : engine.CallsOnlyOwn t ↔
    ∀ suffix ∈ (engine.triggerText t).toList.tails, calledHere? suffix ≠ none →
      engine = .functionBacked ∧ suffix = t.callText.toList := by
  simp only [CallsOnlyOwn, List.mem_tails]

namespace Catalog

variable {engine : Engine} {t : Trigger} {c : Catalog}

lemma calledFunction_functionBacked (h : t.Checked) (hc : Engine.functionBacked.CallsOnlyOwn t) :
    calledFunction t.executingText = some t.name := by
  obtain ⟨front, hf⟩ := t.exists_executingText_eq
  have hcalled : called? t.executingText.toList = some t.name.toList := by
    rw [hf]
    refine called?_append (Trigger.calledHere?_callText h) fun suffix hs hn => ?_
    exact (hc suffix (hf ▸ hs) hn).2
  rw [calledFunction, hcalled, Option.map_some, String.ofList_toList]

lemma calledFunction_eq_none (he : engine ≠ .functionBacked) (hc : engine.CallsOnlyOwn t) :
    calledFunction (engine.triggerText t) = none := by
  have hcalled : called? (engine.triggerText t).toList = none := by
    refine called?_eq_none fun suffix hs => ?_
    by_contra hn
    exact he (hc suffix hs hn).1
  rw [calledFunction, hcalled, Option.map_none]

lemma execute_eq_ok_iff {sql : String} {c' : Catalog} :
    c.execute sql = .ok c' ↔ c.step (trimmed sql) = .ok c' := by
  delta execute
  dsimp only
  split
  · rename_i d hd
    simp only [hd, Except.ok.injEq]
  · rename_i r hr
    simp only [hr, reduceCtorEq]

lemma execute_eq_ok {sql : String} {c' : Catalog} (ht : trimmed sql = sql)
    (h : c.step sql = .ok c') : c.execute sql = .ok c' := by
  rw [execute_eq_ok_iff, ht, h]

lemma addTrigger_eq_ok_iff {c' : Catalog} {n sql : String} : c.addTrigger n sql = .ok c' ↔
    c.triggers.get? n = none ∧
      (∀ f, calledFunction sql = some f → ∃ text, c.functions.get? f = some text) ∧
      { c with triggers := c.triggers.insert n sql } = c' := by
  have hfree : c.triggers.contains n = false ↔ c.triggers.get? n = none := by
    simp [OrderedMap.contains]
  rw [addTrigger, ← hfree]
  cases c.triggers.contains n with
  | true => simp
  | false =>
    cases calledFunction sql with
    | none => simp
    | some f =>
      by_cases hf : c.functions.contains f = true
      · simp [hf, OrderedMap.contains_iff.mp hf]
      · simpa [hf] using fun text ht => absurd (OrderedMap.contains_iff.mpr ⟨text, ht⟩) hf

lemma removeFunction_eq_ok_iff {c' : Catalog} {n : String} : c.removeFunction n = .ok c' ↔
    (∀ text ∈ c.triggers.values, calledFunction text ≠ some n) ∧
      { c with functions := c.functions.erase n } = c' := by
  rw [removeFunction]
  split
  · rename_i hused
    simpa using fun hfree => absurd hused (by simpa using hfree)
  · rename_i hfree
    simpa using fun _ => by simpa using hfree

lemma execute_functionText (c : Catalog) (h : t.Checked) : c.execute t.functionText =
    .ok { c with functions := c.functions.insert t.name t.functionText } := by
  apply execute_eq_ok t.trimmed_functionText
  simp only [step, Trigger.read?_functionText h, String.ofList_toList]

lemma execute_triggerText (h : t.Checked) (hn : c.triggers.get? t.name = none)
    (hf : ∀ f, calledFunction (engine.triggerText t) = some f →
      ∃ sql, c.functions.get? f = some sql) :
    c.execute (engine.triggerText t) =
      .ok { c with triggers := c.triggers.insert t.name (engine.triggerText t) } := by
  have hc : c.triggers.contains t.name = false := by simp [OrderedMap.contains, hn]
  apply execute_eq_ok (t.trimmed_triggerText engine)
  simp only [step, Trigger.read?_triggerText engine h, String.ofList_toList, addTrigger, hc]
  cases hcall : calledFunction (engine.triggerText t) with
  | none => rfl
  | some f =>
    have hfound : c.functions.contains f = true := OrderedMap.contains_iff.mpr (hf f hcall)
    simp [hfound]

lemma execute_dropTrigger (c : Catalog) (h : t.Checked) :
    c.execute ("DROP TRIGGER IF EXISTS " ++ t.name ++ ";") =
      .ok { c with triggers := c.triggers.erase t.name } := by
  have ht := trimmed_append "DROP TRIGGER IF EXISTS " t.name ";" rfl rfl (by decide) (by decide)
  have hr : read? ("DROP TRIGGER IF EXISTS " ++ t.name ++ ";").toList =
      some (.dropTrigger t.name.toList) := by
    rw [String.toList_append, String.toList_append]
    exact read?_dropTrigger h.isIdentifier
  apply execute_eq_ok ht
  simp only [step, hr, String.ofList_toList]

lemma execute_dropTriggerOn (c : Catalog) (h : t.Checked) :
    c.execute ("DROP TRIGGER IF EXISTS " ++ t.name ++ " ON " ++ t.table ++ ";") =
      .ok { c with triggers := c.triggers.erase t.name } := by
  have ht := trimmed_append "DROP TRIGGER IF EXISTS " (t.name ++ " ON " ++ t.table) ";" rfl rfl
    (by decide) (by decide)
  simp only [← String.append_assoc] at ht
  have hr : read? ("DROP TRIGGER IF EXISTS " ++ t.name ++ " ON " ++ t.table ++ ";").toList =
      some (.dropTrigger t.name.toList) := by
    rw [String.toList_append, String.toList_append, String.toList_append, String.toList_append]
    exact read?_dropTriggerOn h.isIdentifier h.isTableName
  apply execute_eq_ok ht
  simp only [step, hr, String.ofList_toList]

lemma execute_dropFunction (h : t.Checked)
    (hu : ∀ sql ∈ c.triggers.values, calledFunction sql ≠ some t.name) :
    c.execute ("DROP FUNCTION IF EXISTS " ++ t.name ++ "();") =
      .ok { c with functions := c.functions.erase t.name } := by
  have ht := trimmed_append "DROP FUNCTION IF EXISTS " t.name "();" rfl rfl (by decide) (by decide)
  have hr : read? ("DROP FUNCTION IF EXISTS " ++ t.name ++ "();").toList =
      some (.dropFunction t.name.toList) := by
    rw [String.toList_append, String.toList_append]
    exact read?_dropFunction h.isIdentifier
  have hany : (c.triggers.values.any fun sql => calledFunction sql = some t.name) = false := by
    rw [List.any_eq_false]
    intro sql hs
    simpa using hu sql hs
  apply execute_eq_ok ht
  simp only [step, hr, String.ofList_toList, removeFunction, hany]
  rfl

end Catalog

end SqlTriggers
