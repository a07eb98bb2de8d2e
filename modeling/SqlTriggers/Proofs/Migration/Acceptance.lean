import SqlTriggers.Proofs.Declaration.Built
import SqlTriggers.Proofs.Engine.Support
import SqlTriggers.Proofs.Migration.Generator
import SqlTriggers.Proofs.Migration.Regeneration

/-! Which triggers of a successful plan's declarations an engine may lack features for. Only changed
triggers are checked, and a change that the engine's statements do not show is none. -/

namespace SqlTriggers

open Statement Text

namespace Engine

/-- The features that the engine's statements say nothing about. -/
def omits : Engine → Feature → Bool
  | .functionBacked, .securityPrincipal => true
  | .functionBacked, _ => false
  | .inline, .declarations => true
  | .inline, .securityInvoker => true
  | .inline, .conditionalEmptyBody => true
  | .inline, _ => false
  | .lightweight, .declarations => true
  | .lightweight, .securityInvoker => true
  | .lightweight, .securityDefiner => true
  | .lightweight, .securityPrincipal => true
  | .lightweight, _ => false

variable {engine : Engine} {t u : Trigger}

lemma isEmpty_body_of_lightweight (ht : t.Checked) (hu : u.Checked)
    (h : lightweight.rendering t = lightweight.rendering u) :
    t.body.isEmpty = u.body.isEmpty := by
  obtain ⟨-, -, -, hbody⟩ := ht.lightweight_unique hu h
  cases hbt : t.body with
  | nil =>
    cases hbu : u.body with
    | nil => rfl
    | cons s ss =>
      rw [hbt, hbu] at hbody
      exact absurd hbody.symm (indentedRows_ne_nil s ss)
  | cons s ss =>
    cases hbu : u.body with
    | nil =>
      rw [hbt, hbu] at hbody
      exact absurd hbody (indentedRows_ne_nil s ss)
    | cons r rs => rfl

lemma omits_of_rendering_eq (ht : t.Checked)
    (hupdates : t.columns ≠ [] → t.events.contains .update = true) (hu : u.Checked)
    (ha : engine.Accepts u) (h : engine.rendering t = engine.rendering u) {f : Feature}
    (hf : t.uses f = true) (ho : engine.offers f = false) : engine.omits f = true := by
  obtain ⟨hheadline, hforEach⟩ := engine.clauses_eq_of_rendering_eq ht hu h
  obtain ⟨-, hevents, hcolumns⟩ := ht.of_headline_eq hu hheadline
  have hgranularity := Trigger.forEach_eq_iff.mp hforEach
  have hunused := ha.offers ho
  cases f with
  | statementLevel | multipleEvents | truncate | rowLevelTruncate =>
    simp_all [Trigger.uses, Trigger.firesOn]
  | updateColumns =>
    have hsome : t.columns ≠ [] := by simpa [Trigger.uses] using hf
    rw [Trigger.uses, ← hcolumns (hupdates hsome)] at hunused
    exact absurd (hf.symm.trans hunused) (by decide)
  | declarations | securityInvoker | securityDefiner | securityPrincipal =>
    cases engine <;> first | rfl | exact nomatch ho
  | emptyBody =>
    cases engine with
    | functionBacked | inline => exact nomatch ho
    | lightweight =>
      rw [Trigger.uses, ← isEmpty_body_of_lightweight ht hu h] at hunused
      exact absurd (hf.symm.trans hunused) (by decide)
  | conditionalEmptyBody =>
    cases engine with
    | functionBacked => exact nomatch ho
    | inline => rfl
    | lightweight =>
      have hempty := ha.offers (f := .emptyBody) rfl
      rw [Trigger.uses, ← isEmpty_body_of_lightweight ht hu h] at hempty
      simp [Trigger.uses, hempty] at hf

def bobAsking : Feature → Trigger
  | .declarations => { bobCounter "SELECT 1;" 1 true with declarations := ["total integer;"] }
  | .securityInvoker => { bobCounter "SELECT 1;" 1 true with security := some .invoker }
  | .securityDefiner => { bobCounter "SELECT 1;" 1 true with security := some .definer }
  | .securityPrincipal => { bobCounter "SELECT 1;" 1 true with security := some (.principal "app") }
  | .conditionalEmptyBody => { bobCounter "" 1 true with body := [] }
  | _ => bobCounter "SELECT 1;" 1 true

def bobPlain : Feature → Trigger
  | .conditionalEmptyBody => { bobCounter "" 1 true with body := [], condition := none }
  | _ => bobCounter "SELECT 1;" 1 true

lemma bobAsking_checked (f : Feature) : (bobAsking f).Checked := by
  have hn : checkIdentifier "trigger name" "bob_tr" = .ok () := by decide
  have ht : checkTableName "users" = .ok () := by decide
  have hp : checkPrincipal "app" = .ok () := by decide
  cases f <;> exact ⟨hn, ht, by simp [bobAsking, bobCounter], by simp [bobAsking, bobCounter, hp]⟩

lemma bobPlain_checked (f : Feature) : (bobPlain f).Checked := by
  have hc := bobCounter_checked "" 1 true
  cases f <;> first
    | exact bobCounter_checked _ _ _
    | exact ⟨hc.name, hc.table, hc.columns, hc.principal⟩

lemma omits_iff {engine : Engine} {f : Feature} (ho : engine.offers f = false) :
    engine.omits f = true ↔ ∃ t u : Trigger, t.Checked ∧
      (t.columns ≠ [] → t.events.contains .update = true) ∧ u.Checked ∧ engine.Accepts u ∧
      engine.rendering t = engine.rendering u ∧ t.uses f = true := by
  constructor
  · intro h
    refine ⟨bobAsking f, bobPlain f, bobAsking_checked f, ?_, bobPlain_checked f, ?_⟩
    · cases f <;> simp [bobAsking, bobCounter]
    · cases engine <;> cases f <;> first
        | exact absurd h (by decide)
        | exact ⟨by decide, by rfl, by decide⟩
  · rintro ⟨t, u, ht, hupdates, hu, ha, h, hf⟩
    exact omits_of_rendering_eq ht hupdates hu ha h hf ho

end Engine

namespace Generator

open Diff

variable {g : Generator} {ds : List Declaration} {applied ts : List Trigger}

lemma accepts_createdForm_iff {t : Trigger} (ht : t.compatibility ≤ newestCompatibility)
    (ha : ∀ a ∈ applied, a.compatibility ≤ newestCompatibility) :
    g.engine.Accepts (createdForm applied (g.cap t)) ↔ g.engine.Accepts t := by
  have hcap := UInt32.le_trans (g.cap_compatibility_le t) ht
  rw [createdForm_eq, cap_withCompatibility]
  exact Engine.accepts_withCompatibility_iff ht (createdForm_compatibility_le hcap ha)

lemma generate_succeeds_iff_added (h : expansion g.engine ds = .ok ts) :
    (∃ p, (g.generate ds applied).result = .ok p) ↔
      ∀ t ∈ (between g.engine (ts.map g.cap) applied).added, g.engine.Accepts t := by
  have hdiff : g.diff ds applied = .ok (between g.engine (ts.map g.cap) applied) := by
    rw [diff, wanted, h]
    rfl
  simp [generate_result_eq_ok_iff, hdiff]

lemma generate_succeeds_iff (ha : ∀ a ∈ applied, a.compatibility ≤ newestCompatibility)
    (ct : ∀ t ∈ ts, t.compatibility ≤ newestCompatibility) (h : expansion g.engine ds = .ok ts) :
    (∃ p, (g.generate ds applied).result = .ok p) ↔ ∀ t ∈ ts, g.engine.Accepts t ∨
      ∃ a ∈ applied, comparedRendering g.engine applied (g.cap t) = g.engine.rendering a := by
  rw [generate_succeeds_iff_added h]
  simp only [between, mem_sortOn, List.mem_map, List.mem_filter, List.contains_eq_mem]
  constructor
  · intro hadded t ht
    by_cases hsame : ∃ a ∈ applied,
        comparedRendering g.engine applied (g.cap t) = g.engine.rendering a
    · exact .inr hsame
    · have hchanged : ∀ a ∈ applied,
          g.engine.rendering a ≠ comparedRendering g.engine applied (g.cap t) :=
        fun a hm hr => hsame ⟨a, hm, hr.symm⟩
      have hacc := hadded _ ⟨g.cap t, ⟨⟨t, ht, rfl⟩, by simpa using hchanged⟩, rfl⟩
      exact .inl ((accepts_createdForm_iff (ct t ht) ha).mp hacc)
  · rintro hall _ ⟨_, ⟨⟨t, ht, rfl⟩, hchanged⟩, rfl⟩
    rcases hall t ht with hacc | ⟨a, hm, hsame⟩
    · exact (accepts_createdForm_iff (ct t ht) ha).mpr hacc
    · simp only [hsame, Bool.not_eq_true', decide_eq_false_iff_not] at hchanged
      exact absurd ⟨a, hm, rfl⟩ hchanged

/-- A declaration may ask for what the engine lacks only where its statements say nothing about
it. -/
theorem generate_accepts_or_omits (hd : ∀ d ∈ ds, d.Built) (ha : ∀ a ∈ applied, g.engine.Accepts a)
    {p : Plan} (h : (g.generate ds applied).result = .ok p) :
    ∃ ts, expansion g.engine ds = .ok ts ∧ ∀ t ∈ ts, g.engine.Accepts t ∨
      ∃ a ∈ applied, comparedRendering g.engine applied (g.cap t) = g.engine.rendering a ∧
        (a.Checked → ∀ f, t.uses f = true → g.engine.offers f = false →
          g.engine.omits f = true) := by
  obtain ⟨ts, he, -⟩ := generate_eq_ok h
  have ct := expansion_checked hd he
  refine ⟨ts, he, fun t ht => ?_⟩
  obtain ⟨hchecked, hcommon⟩ := ct t ht
  have happlied : ∀ a ∈ applied, a.compatibility ≤ newestCompatibility :=
    fun a hm => (Engine.accepts_iff.mp (ha a hm)).1
  have hall := (generate_succeeds_iff happlied (fun t ht => (ct t ht).2.compatibility) he).mp ⟨p, h⟩
  rcases hall t ht with hacc | ⟨a, hm, hsame⟩
  · exact .inl hacc
  · refine .inr ⟨a, hm, hsame, fun hca f hf ho => ?_⟩
    obtain ⟨c, hc⟩ := exists_comparedRendering_eq g.engine applied (g.cap t)
    rw [hc, cap_withCompatibility] at hsame
    rw [← t.uses_withCompatibility c] at hf
    exact Engine.omits_of_rendering_eq (hchecked.withCompatibility c) hcommon.updates hca (ha a hm)
      hsame hf ho

lemma bobAsking_built : (Declaration.trigger (Engine.bobAsking .securityDefiner)).Built :=
  ⟨.ofSettings (bobCounterSettings "SELECT 1;" ++ [.security .definer]), rfl⟩

lemma generate_bobAsking : (Generator.ofEngine .lightweight).generate
    [.trigger (Engine.bobAsking .securityDefiner)] [bobCounter "SELECT 1;" 1 true] =
      ⟨.ok (.noop .lightweight), []⟩ := rfl

theorem generate_accepts_or_omits_definer :
    let g := Generator.ofEngine .lightweight
    let old := bobCounter "SELECT 1;" 1 true
    let new := Engine.bobAsking .securityDefiner
    ∃ ts, expansion g.engine [.trigger new] = .ok ts ∧ ∀ t ∈ ts, g.engine.Accepts t ∨
      ∃ a ∈ [old], comparedRendering g.engine [old] (g.cap t) = g.engine.rendering a ∧
        (a.Checked → ∀ f, t.uses f = true → g.engine.offers f = false →
          g.engine.omits f = true) := by
  intro g old new
  have hbuilt : ∀ d ∈ [Declaration.trigger new], d.Built := by
    intro d hd
    obtain rfl := List.mem_singleton.mp hd
    exact bobAsking_built
  have haccepts : ∀ a ∈ [old], g.engine.Accepts a := by decide
  have hplan : (g.generate [.trigger new] [old]).result = .ok (.noop .lightweight) :=
    congrArg Report.result generate_bobAsking
  exact generate_accepts_or_omits hbuilt haccepts hplan

/-- A declaration edited to ask for `SECURITY DEFINER` is taken for the old one by an engine that
does not have it. -/
theorem generate_definer_unnoticed :
    (Declaration.trigger (Engine.bobAsking .securityDefiner)).Built ∧
      Engine.lightweight.Accepts (bobCounter "SELECT 1;" 1 true) ∧
      ¬ Engine.lightweight.Accepts (Engine.bobAsking .securityDefiner) ∧
      (Generator.ofEngine .lightweight).generate
          [.trigger (Engine.bobAsking .securityDefiner)] [bobCounter "SELECT 1;" 1 true] =
        ⟨.ok (.noop .lightweight), []⟩ :=
  ⟨bobAsking_built, by decide, by decide, generate_bobAsking⟩

end Generator

end SqlTriggers
