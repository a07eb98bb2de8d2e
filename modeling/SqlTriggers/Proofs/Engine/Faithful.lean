import SqlTriggers.Proofs.Declaration.Statements
import SqlTriggers.Proofs.Engine.Rendering
import SqlTriggers.Proofs.Engine.Support

/-! What the engines that keep a group's members apart are told about a trigger is all of it: no two
triggers that they accept are told alike unless they agree. -/

namespace SqlTriggers

open Text Statement

namespace Trigger

variable {t u : Trigger}

/-- The same but for the rendering rules, for who declared them, and for how the texts of the body
and of the declarations are cut into statements. -/
structure Agrees (t u : Trigger) : Prop where
  name : t.name = u.name
  table : t.table = u.table
  timing : t.timing = u.timing
  events : t.events = u.events
  columns : t.columns = u.columns
  granularity : t.granularity = u.granularity
  condition : t.condition = u.condition
  security : t.security = u.security
  body : stacked t.body = stacked u.body
  declarations : stacked t.declarations = stacked u.declarations

lemma eventText_eq (h : t.columns = u.columns) : t.eventText = u.eventText := by
  funext e
  cases e <;> simp [eventText, h]

lemma headline_eq_iff (ht : t.Checked) (hu : u.Checked) (ct : t.common.Checked)
    (cu : u.common.Checked) : t.headline = u.headline ↔ t.name = u.name ∧ t.table = u.table ∧
      t.timing = u.timing ∧ t.events = u.events ∧ t.columns = u.columns := by
  constructor
  · intro h
    have hkey := ht.key_eq_of_headline_eq hu h
    obtain ⟨htiming, hevents, hcolumns⟩ := ht.of_headline_eq hu h
    refine ⟨congrArg TriggerKey.name hkey, congrArg TriggerKey.table hkey, htiming, hevents, ?_⟩
    by_cases hn : t.columns = [] ∧ u.columns = []
    · rw [hn.1, hn.2]
    · apply hcolumns
      rcases not_and_or.mp hn with hn | hn
      · exact ct.updates hn
      · rw [hevents]
        exact cu.updates hn
  · rintro ⟨hname, htable, htiming, hevents, hcolumns⟩
    simp only [headline, eventList, hname, htable, htiming, hevents, eventText_eq hcolumns]

lemma returnLines_eq (ht : t.timing = u.timing) (hg : t.granularity = u.granularity)
    (he : t.events = u.events) : t.returnLines = u.returnLines := by
  simp [returnLines, firesOn, ht, hg, he]

lemma callText_eq (hn : t.name = u.name) (hc : t.compatibility = u.compatibility) :
    t.callText = u.callText := by
  rw [callText, callText, hn, hc]

lemma guardText_injective (t : Trigger) : Function.Injective t.guardText := by
  intro c d h
  rw [guardText, guardText] at h
  split at h
  · exact h
  · simpa using h

lemma conditionRows_eq_iff {clause : String → String} (hc : Function.Injective clause) :
    t.conditionRows clause = u.conditionRows clause ↔ t.condition = u.condition := by
  rw [conditionRows, conditionRows]
  cases ht : t.condition with
  | none =>
    cases hu : u.condition with
    | none => simp
    | some d => simp [(rows_ne_nil (clause d)).symm]
  | some c =>
    cases hu : u.condition with
    | none => simp [rows_ne_nil]
    | some d => simp [rows_injective.eq_iff, hc.eq_iff]

section FunctionBacked

lemma securityClause_eq_iff (ht : Engine.functionBacked.Accepts t)
    (hu : Engine.functionBacked.Accepts u) :
    t.securityClause = u.securityClause ↔ t.security = u.security := by
  have hpt := ht.offers (f := .securityPrincipal) rfl
  have hpu := hu.offers (f := .securityPrincipal) rfl
  simp only [uses] at hpt hpu
  rw [securityClause, securityClause]
  rcases hst : t.security with _ | _ | _ | a <;> rcases hsu : u.security with _ | _ | _ | b <;>
    simp_all

lemma flatMap_rows_declareClause (t : Trigger) : t.declareClause.flatMap rows =
    if t.declarations.isEmpty then [] else "DECLARE".toList :: indentedRows t.declarations := by
  rw [declareClause]
  split
  · rfl
  · rw [List.flatMap_cons, List.flatMap_map]
    rfl

lemma declareClause_eq_iff (ht : t.Canonical) (hu : u.Canonical) :
    t.declareClause.flatMap rows = u.declareClause.flatMap rows ↔
      stacked t.declarations = stacked u.declarations := by
  rw [← indentedRows_eq_iff ht.declarations hu.declarations, flatMap_rows_declareClause,
    flatMap_rows_declareClause]
  cases t.declarations with
  | nil =>
    cases u.declarations with
    | nil => simp
    | cons e es => exact iff_of_false (by simp) (indentedRows_ne_nil e es).symm
  | cons d ds =>
    cases u.declarations with
    | nil => exact iff_of_false (by simp) (indentedRows_ne_nil d ds)
    | cons e es => simp

lemma notMem_securityClause (t : Trigger) :
    "AS $$".toList ∉ t.securityClause.map String.toList := by
  rw [securityClause]
  split <;> decide

lemma functionRows_eq_iff (hn : t.name = u.name) (hr : t.returnLines = u.returnLines)
    (ct : t.Canonical) (cu : u.Canonical) :
    t.functionRows = u.functionRows ↔ t.securityClause = u.securityClause ∧
      stacked t.declarations = stacked u.declarations ∧ stacked t.body = stacked u.body := by
  rw [← declareClause_eq_iff ct cu, ← indentedRows_eq_iff ct.body cu.body]
  simp only [functionRows, hn, hr, List.cons.injEq, true_and]
  constructor
  · intro h
    -- Declarations are indented, so none of their rows passes for the one that opens the body.
    have hbegin : ∀ v : Trigger, "BEGIN".toList ∉ v.declareClause.flatMap rows :=
      fun v => v.notMem_declareClause (by decide) (by decide)
    obtain ⟨hs, h⟩ := cut_unique t.notMem_securityClause u.notMem_securityClause h
    obtain ⟨hd, h⟩ := cut_unique (hbegin t) (hbegin u) h
    refine ⟨?_, hd, List.append_cancel_right h⟩
    exact List.map_injective_iff.mpr (fun _ _ => String.toList_inj.mp) hs
  · rintro ⟨hs, hd, hb⟩
    rw [hs, hd, hb]

end FunctionBacked

end Trigger

namespace Engine

open Trigger

variable {engine : Engine} {t u : Trigger}

/-- The triggers that declarations come to on an engine. -/
def Makes (engine : Engine) (t : Trigger) : Prop :=
  ∃ d ts, Declaration.Built d ∧ engine.triggersOf d = .ok ts ∧ t ∈ ts

lemma Makes.checked (h : engine.Makes t) : t.Checked ∧ t.common.Checked := by
  obtain ⟨d, ts, hd, hts, ht⟩ := h
  exact hd.triggersOf hts t ht

lemma Makes.canonical (h : engine.Makes t) (he : engine.manyPerSlot = true) : t.Canonical := by
  obtain ⟨d, ts, hd, hts, ht⟩ := h
  exact hd.canonical he hts t ht

lemma rendering_functionBacked_eq_iff (ht : t.Checked) (hu : u.Checked)
    (hc : t.compatibility = u.compatibility) :
    functionBacked.rendering t = functionBacked.rendering u ↔ t.functionRows = u.functionRows ∧
      t.headline = u.headline ∧ t.forEach = u.forEach ∧ t.condition = u.condition := by
  have hclause : Function.Injective fun c => "WHEN (" ++ c ++ ")" := by
    intro c d h
    simpa using h
  rw [← rows_injective.eq_iff, ht.rows_functionBacked, hu.rows_functionBacked,
    ← conditionRows_eq_iff hclause]
  constructor
  · intro h
    obtain ⟨hfunction, hrest⟩ := cut_unique t.functionEnd_notMem_functionRows
      u.functionEnd_notMem_functionRows h
    simp only [List.cons.injEq, String.toList_inj, String.append_right_inj] at hrest
    obtain ⟨hheadline, hforEach, htail⟩ := hrest
    -- A condition may hold any rows, but what stands behind it is one row on both sides.
    have hcondition := (List.append_inj' htail (by simp)).1
    exact ⟨hfunction, hheadline, hforEach, hcondition⟩
  · rintro ⟨hfunction, hheadline, hforEach, hcondition⟩
    have hname : t.name = u.name := congrArg TriggerKey.name (ht.key_eq_of_headline_eq hu hheadline)
    rw [hfunction, hheadline, hforEach, hcondition, callText_eq hname hc]

lemma rendering_lightweight_eq_iff (ht : t.Checked) (hu : u.Checked) (ct : t.Canonical)
    (cu : u.Canonical) (hc : t.compatibility = u.compatibility) :
    lightweight.rendering t = lightweight.rendering u ↔ t.headline = u.headline ∧
      t.forEach = u.forEach ∧ t.condition = u.condition ∧ stacked t.body = stacked u.body := by
  have hguard : u.guardText = t.guardText := by
    funext c
    rw [guardText, guardText, hc]
  have hclause : Function.Injective fun c => "WHEN " ++ t.guardText c := by
    intro c d h
    exact t.guardText_injective (by simpa using h)
  rw [← conditionRows_eq_iff hclause, ← indentedRows_eq_iff ct.body cu.body]
  constructor
  · intro h
    have hunique := ht.lightweight_unique hu h
    rwa [hguard] at hunique
  · rintro ⟨hheadline, hforEach, hcondition, hbody⟩
    rw [← rows_injective.eq_iff, rendering, rendering, createStatements, createStatements,
      stacked_singleton, stacked_singleton, ht.rows_lightweightText, hu.rows_lightweightText,
      hguard, hheadline, hforEach, hcondition, hbody]

lemma Accepts.lightweight (h : lightweight.Accepts t) :
    t.security = none ∧ t.declarations = [] := by
  have hd := h.offers (f := .declarations) rfl
  have hi := h.offers (f := .securityInvoker) rfl
  have hf := h.offers (f := .securityDefiner) rfl
  have hp := h.offers (f := .securityPrincipal) rfl
  simp only [uses] at hd hi hf hp
  refine ⟨?_, by simpa using hd⟩
  rcases hs : t.security with _ | _ | _ | a <;> simp_all

/-- Two accepted triggers are told alike just when they agree, so no edit of a declaration is
missed. -/
theorem rendering_eq_iff_agrees (he : engine ≠ .inline) (ht : engine.Makes t)
    (hu : engine.Makes u) (hat : engine.Accepts t) (hau : engine.Accepts u)
    (hc : t.compatibility = u.compatibility) :
    engine.rendering t = engine.rendering u ↔ t.Agrees u := by
  obtain ⟨kt, mt⟩ := ht.checked
  obtain ⟨ku, mu⟩ := hu.checked
  cases engine with
  | inline => exact absurd rfl he
  | functionBacked =>
    have ct := ht.canonical rfl
    have cu := hu.canonical rfl
    rw [rendering_functionBacked_eq_iff kt ku hc, headline_eq_iff kt ku mt mu, forEach_eq_iff]
    constructor
    · rintro ⟨hf, ⟨hname, htable, htiming, hevents, hcolumns⟩, hg, hcondition⟩
      rw [functionRows_eq_iff hname (returnLines_eq htiming hg hevents) ct cu,
        securityClause_eq_iff hat hau] at hf
      obtain ⟨hs, hd, hb⟩ := hf
      exact ⟨hname, htable, htiming, hevents, hcolumns, hg, hcondition, hs, hb, hd⟩
    · rintro ⟨hname, htable, htiming, hevents, hcolumns, hg, hcondition, hs, hb, hd⟩
      rw [functionRows_eq_iff hname (returnLines_eq htiming hg hevents) ct cu,
        securityClause_eq_iff hat hau]
      exact ⟨⟨hs, hd, hb⟩, ⟨hname, htable, htiming, hevents, hcolumns⟩, hg, hcondition⟩
  | lightweight =>
    obtain ⟨hst, hdt⟩ := hat.lightweight
    obtain ⟨hsu, hdu⟩ := hau.lightweight
    rw [rendering_lightweight_eq_iff kt ku (ht.canonical rfl) (hu.canonical rfl) hc,
      headline_eq_iff kt ku mt mu, forEach_eq_iff]
    constructor
    · rintro ⟨⟨hname, htable, htiming, hevents, hcolumns⟩, hg, hcondition, hb⟩
      exact ⟨hname, htable, htiming, hevents, hcolumns, hg, hcondition, hst.trans hsu.symm, hb,
        by rw [hdt, hdu]⟩
    · rintro ⟨hname, htable, htiming, hevents, hcolumns, hg, hcondition, -, hb, -⟩
      exact ⟨⟨hname, htable, htiming, hevents, hcolumns⟩, hg, hcondition, hb⟩

def bobScript (statements : List String) : Trigger :=
  { bobCounter "" 1 true with body := statements }

lemma bobScript_makes (engine : Engine) {ss : List String} (hs : ss ∈ [["LOCK users;\nSELECT 1;"],
    ["LOCK users;", "SELECT 1;"], ["SELECT 1;"]]) : engine.Makes (bobScript ss) := by
  have hbuilt : (Declaration.trigger (bobScript ss)).Built := by
    refine ⟨.ofSettings (bobCounterSettings "" ++ [.body ss]), ?_⟩
    simp only [List.mem_cons, List.not_mem_nil, or_false] at hs
    rcases hs with rfl | rfl | rfl <;> rfl
  exact ⟨_, _, hbuilt, rfl, List.mem_singleton_self _⟩

theorem rendering_eq_iff_agrees_cut :
    functionBacked.rendering (bobScript ["LOCK users;\nSELECT 1;"]) =
        functionBacked.rendering (bobScript ["LOCK users;", "SELECT 1;"]) ∧
      lightweight.rendering (bobScript ["LOCK users;", "SELECT 1;"]) ≠
        lightweight.rendering (bobScript ["SELECT 1;"]) := by
  have hone : ∀ engine : Engine, engine.Makes (bobScript ["LOCK users;\nSELECT 1;"]) :=
    fun engine => bobScript_makes engine (by decide)
  have htwo : ∀ engine : Engine, engine.Makes (bobScript ["LOCK users;", "SELECT 1;"]) :=
    fun engine => bobScript_makes engine (by decide)
  have hless : ∀ engine : Engine, engine.Makes (bobScript ["SELECT 1;"]) :=
    fun engine => bobScript_makes engine (by decide)
  constructor
  · have hagree : (bobScript ["LOCK users;\nSELECT 1;"]).Agrees
        (bobScript ["LOCK users;", "SELECT 1;"]) :=
      ⟨rfl, rfl, rfl, rfl, rfl, rfl, rfl, rfl, by decide, rfl⟩
    exact (rendering_eq_iff_agrees (by decide) (hone _) (htwo _) (by decide) (by decide)
      rfl).mpr hagree
  · intro h
    have hagree := (rendering_eq_iff_agrees (by decide) (htwo _) (hless _) (by decide)
      (by decide) rfl).mp h
    exact absurd hagree.body (by decide)

end Engine

end SqlTriggers
