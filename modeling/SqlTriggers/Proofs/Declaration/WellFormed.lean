import SqlTriggers.Proofs.Declaration.FirstMatch
import SqlTriggers.Proofs.Declaration.Statements
import SqlTriggers.Proofs.Engine.Readback

/-! What every trigger of a frozen declaration satisfies, whether it was declared by itself, kept apart
from its group or merged with it. -/

namespace SqlTriggers

open Statement (Tidy tidy_of_ends)

structure Trigger.WellFormed (t : Trigger) : Prop where
  name : checkIdentifier "trigger name" t.name = .ok ()
  table : checkTableName t.table = .ok ()
  events : t.events.toList ≠ []
  columns : ∀ c ∈ t.columns, checkColumnName c = .ok ()
  updates : t.columns ≠ [] → t.events.contains .update = true
  compatibility : t.compatibility ≤ newestCompatibility
  principal : ∀ account, t.security = some (.principal account) →
    account ≠ "" ∧ ∀ c ∈ account.toList, Text.isBlank c = false
  body : ∀ s ∈ t.body, Tidy s
  declarations : ∀ s ∈ t.declarations, Tidy s

lemma mem_choiceBody {choices : List Choice} {s : String} (h : s ∈ choiceBody choices) :
    (∃ body, choices = [⟨none, body⟩] ∧ s ∈ body) ∨
      s = stacked (choiceLines 0 choices ++ ["END IF;"]) := by
  unfold choiceBody at h
  split at h
  · exact .inl ⟨_, rfl, h⟩
  · exact .inr (List.mem_singleton.mp h)

lemma tidy_dispatch (choices : List Choice) :
    Tidy (stacked (choiceLines 0 choices ++ ["END IF;"])) := by
  have hclosed : (stacked (choiceLines 0 choices ++ ["END IF;"])).toList.getLast? = some ';' :=
    getLast?_stacked _ "END IF;" (by decide)
  cases choices with
  | nil => exact tidy_of_ends (c := 'E') (by decide) (by decide) hclosed
  | cons c cs =>
    have hheader : (c.header 0 cs.isEmpty).toList.head? = some 'I' := by
      simp [Choice.header]
    exact tidy_of_ends (c := 'I') (head?_stacked _ _ hheader) (by decide) hclosed

lemma Group.Frozen.merge {g : Group} (hg : g.Frozen) {ts : List Trigger}
    (hts : g.triggers = .ok ts) {engine : Engine} {t : Trigger} (ht : g.merge engine = .ok t) :
    (∀ s ∈ t.body, Tidy s) ∧ ∀ s ∈ t.declarations, Tidy s := by
  have hmerge := g.merge_of_triggers engine (Group.hasNest_of_merge ht) hts
  obtain rfl := Except.ok.inj (hmerge.symm.trans ht)
  refine ⟨fun s hs => ?_, fun s hs => (hg.everyDeclaration s hs).tidy⟩
  -- A single choice without a condition keeps its body; any other body is one new statement.
  rcases mem_choiceBody hs with ⟨body, hchoices, hmem⟩ | rfl
  · obtain ⟨u, rfl, hu⟩ := List.map_eq_singleton_iff.mp hchoices
    have hbody : u.body = body := congrArg Choice.body hu
    exact ((hg.triggers hts u List.mem_cons_self).body s (hbody ▸ hmem)).tidy
  · exact tidy_dispatch _

lemma Declaration.Built.tidy {d : Declaration} (hd : d.Built) {engine : Engine}
    {ts : List Trigger} (h : engine.triggersOf d = .ok ts) :
    ∀ t ∈ ts, (∀ s ∈ t.body, Tidy s) ∧ ∀ s ∈ t.declarations, Tidy s := by
  have hmade : ∀ {t : Trigger}, t.Made →
      (∀ s ∈ t.body, Tidy s) ∧ ∀ s ∈ t.declarations, Tidy s :=
    fun ht => ⟨fun s hs => (ht.body s hs).tidy, fun s hs => (ht.declarations s hs).tidy⟩
  intro t ht
  rcases hd.cases with ⟨a, u, hu, rfl⟩ | ⟨a, branches, g, hg, rfl⟩
  · obtain rfl := Except.ok.inj h
    obtain rfl := List.mem_singleton.mp ht
    exact hmade (freezeTrigger_made hu)
  · have hfrozen := freezeGroup_frozen hg
    obtain ⟨us, hus⟩ := hd.exists_triggers
    rw [Engine.triggersOf] at h
    split at h
    · exact hmade (hfrozen.triggers h t ht)
    · obtain ⟨u, hm, rfl⟩ := map_eq_ok_iff.mp h
      obtain rfl := List.mem_singleton.mp ht
      exact hfrozen.merge hus hm

/-- On every engine the triggers of a frozen declaration are well formed, and so the first line of what
creates one of them says what it is about and nothing else. -/
theorem Declaration.Built.wellFormed {d : Declaration} (hd : d.Built) {engine : Engine}
    {ts : List Trigger} (h : engine.triggersOf d = .ok ts) :
    ∀ t ∈ ts, t.WellFormed ∧ ∃ text, (engine.createStatements t).getLast? = some text ∧
      (rows text).head?.bind Headline.read? =
        some ⟨t.name, t.timing, t.events.toList, t.columns, t.table⟩ := by
  intro t ht
  obtain ⟨hchecked, hcommon⟩ := hd.triggersOf h t ht
  obtain ⟨hbody, hdeclarations⟩ := hd.tidy h t ht
  have hwell : t.WellFormed := {
    name := hchecked.name
    table := hchecked.table
    events := by simpa [EventSet.isEmpty, Trigger.common] using hcommon.events
    columns := hchecked.columns
    updates := hcommon.updates
    compatibility := hcommon.compatibility
    principal := fun account ha => by
      have htoken := hchecked.isToken ha
      exact ⟨by simpa using htoken.nonempty, htoken.chars⟩
    body := hbody
    declarations := hdeclarations }
  refine ⟨hwell, engine.triggerText t, ?_, Headline.read?_triggerText hchecked hcommon engine⟩
  cases engine <;> rfl

def linkNamedSettings : List Setting :=
  [.name "OR", .on "ON", .after [.ok .insert, .ok .update], .of ["OF", "OR"],
    .security (.principal "a@b"), .branch [.name "p", .when "c", .body [" x ;"]],
    .branch [.name "q", .body ["y"]]]

def linkNamed : Group where
  name := some "OR"
  table := "ON"
  timing := .after
  events := .ofList [.insert, .update]
  columns := ["OF", "OR"]
  granularity := .row
  security := some (.principal "a@b")
  declarations := []
  bindings := .empty
  members := [
    .leaf ⟨some "p", some "c", [], .empty⟩ ["x;"],
    .leaf ⟨some "q", none, [], .empty⟩ ["y;"]]
  compatibility := 1
  generated := false

theorem linkNamed_wellFormed : (Declaration.group linkNamed).Built ∧
    ∃ t, Engine.inline.triggersOf (.group linkNamed) = .ok [t] ∧ t.WellFormed ∧
      ∃ text, (Engine.inline.createStatements t).getLast? = some text ∧
        (rows text).head?.bind Headline.read? =
          some ⟨"OR", .after, [.insert, .update], ["OF", "OR"], "ON"⟩ := by
  have hbuilt : (Declaration.group linkNamed).Built := ⟨.ofSettings linkNamedSettings, by rfl⟩
  obtain ⟨t, ht, hshape⟩ : ∃ t, Engine.inline.triggersOf (.group linkNamed) = .ok [t] ∧
      (t.name, t.timing, t.events.toList, t.columns, t.table) =
        ("OR", .after, [.insert, .update], ["OF", "OR"], "ON") := ⟨_, rfl, rfl⟩
  obtain ⟨hwell, text, htext, hread⟩ := hbuilt.wellFormed ht t List.mem_cons_self
  obtain ⟨hname, htiming, hevents, hcolumns, htable⟩ := by simpa only [Prod.mk.injEq] using hshape
  rw [hname, htiming, hevents, hcolumns, htable] at hread
  exact ⟨hbuilt, t, ht, hwell, text, htext, hread⟩

end SqlTriggers
