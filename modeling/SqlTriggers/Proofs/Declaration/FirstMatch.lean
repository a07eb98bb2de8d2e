import Mathlib.Data.List.Forall2
import SqlTriggers.Proofs.Declaration.Built
import SqlTriggers.Proofs.Trigger.Statement

/-! A group that is merged into one trigger runs the body of the first of its triggers whose condition
holds. The merged body is a chain of headers, each before the indented statements of one trigger. -/

namespace SqlTriggers

open Statement (indentedRows indented_of_mem_indentedRows)

section Chain

structure Valuation where
  holds : String → Bool
  literal : holds "TRUE" = true

/-- The condition that a header tests, where `ELSE` tests none. Any other line is no header. -/
def headerTest? (l : List Char) : Option (Option String) :=
  if l = "ELSE".toList then some none
  else do
    let opened ← (l.dropPrefix? "IF (".toList).or (l.dropPrefix? "ELSEIF (".toList)
    let condition ← opened.dropSuffix? ") THEN".toList
    return some (String.ofList condition)

/-- What a chain runs: the lines under its first header whose test holds. -/
def Valuation.run (v : Valuation) : List (List Char) → Option (List (List Char))
  | [] => none
  | l :: ls =>
    match headerTest? l with
    | some condition =>
      if condition.all v.holds then some (ls.takeWhile fun l => Indented l) else v.run ls
    | none => v.run ls

def chainHeader (n i : Nat) (condition : Option String) : List Char :=
  if condition = none ∧ 0 < i ∧ i + 1 = n then "ELSE".toList
  else (if i = 0 then "IF (" else "ELSEIF (").toList ++ (condition.getD "TRUE").toList ++
    ") THEN".toList

end Chain

section Merge

def Trigger.choice (t : Trigger) : Choice := ⟨t.condition, t.body⟩

lemma Choice.toList_header (c : Choice) {n i : Nat} {last : Bool} (h : last = true ↔ i + 1 = n) :
    (c.header i last).toList = chainHeader n i c.condition := by
  obtain ⟨condition, body⟩ := c
  cases i with
  | zero => simp [header, chainHeader]
  | succ i =>
    cases condition with
    | some c => simp [header, chainHeader]
    | none => cases last <;> simp_all [header, chainHeader]

def Member.StandsFor (bindings : Bindings) (m : Member) (t : Trigger) : Prop :=
  m.head.filledCondition (m.head.scope bindings) = .ok t.condition ∧ t.body = m.statements

lemma conjunction_toList (condition : Option String) :
    conjunction condition.toList = condition := by
  cases condition <;> rfl

namespace Group

variable {g : Group} {ts : List Trigger}

lemma standsFor_of_membersTriggers {bindings : Bindings} {declarations : List String}
    {ms : List Member} (hn : ∀ m ∈ ms, m.isNest = false)
    (h : membersTriggers g bindings [] declarations ms = .ok ts) :
    List.Forall₂ (Member.StandsFor bindings) ms ts := by
  induction ms generalizing ts with
  | nil =>
    obtain rfl := Except.ok.inj h
    exact .nil
  | cons m ms ih =>
    obtain ⟨hm, hms⟩ := List.forall_mem_cons.mp hn
    simp only [membersTriggers, bind_eq_ok_iff, pure_eq_ok_iff] at h
    obtain ⟨us, hu, vs, hv, rfl⟩ := h
    cases m with
    | nest head members => cases hm
    | leaf head body =>
      simp only [memberTriggers, bind_eq_ok_iff, pure_eq_ok_iff, List.nil_append,
        conjunction_toList] at hu
      obtain ⟨condition, hc, rfl⟩ := hu
      exact .cons ⟨hc, rfl⟩ (ih hms hv)

lemma choices_of_standsFor {bindings : Bindings} {ms : List Member}
    (h : List.Forall₂ (Member.StandsFor bindings) ms ts) :
    (ms.mapM fun m => do
      let condition ← m.head.filledCondition (m.head.scope bindings)
      return (⟨condition, m.statements⟩ : Choice)) = .ok (ts.map Trigger.choice) := by
  induction h with
  | nil => rfl
  | @cons m t ms ts hm _ ih =>
    have ht : (⟨t.condition, m.statements⟩ : Choice) = t.choice := by rw [← hm.2]; rfl
    rw [List.mapM_cons, ih, hm.1, List.map_cons, ← ht]
    rfl

lemma choices_of_triggers (hn : g.hasNest = false) (h : g.triggers = .ok ts) :
    g.choices = .ok (ts.map Trigger.choice) := by
  have hms : ∀ m ∈ g.members, m.isNest = false := by simpa [hasNest] using hn
  exact choices_of_standsFor (standsFor_of_membersTriggers hms h)

lemma hasNest_of_merge {engine : Engine} {t : Trigger} (h : g.merge engine = .ok t) :
    g.hasNest = false := by
  simp only [merge, guard_eq_ok_iff] at h
  simpa using h.1

lemma merge_of_triggers (engine : Engine) (hn : g.hasNest = false) (h : g.triggers = .ok ts) :
    g.merge engine = .ok
      (g.trigger g.displayName none g.everyDeclaration (choiceBody (ts.map Trigger.choice))) := by
  rw [merge, hn, choices_of_triggers hn h]
  rfl

end Group

lemma Declaration.Built.exists_triggers {g : Group} (h : (Declaration.group g).Built) :
    ∃ ts, g.triggers = .ok ts := by
  obtain ⟨a, branches, hg⟩ := h.exists_freezeGroup
  simp only [Draft.freezeGroup, bind_eq_ok_iff, guard_eq_ok_iff, pure_eq_ok_iff] at hg
  obtain ⟨s, -, u, -, -, members, -, ts, ht, v, -, rfl⟩ := hg
  exact ⟨ts, ht⟩

def bobOrElseSettings : List Setting :=
  [.name "users_tr", .on "users", .after [.ok .insert], .generated true, .bind "who" "bob",
    .branch [.name "bob_tr", .when "NEW.name = '\x7bwho\x7d'",
      .body ["UPDATE groups SET bob_count = bob_count + 1"]],
    .branch [.name "else_tr", .body ["SELECT 1;"]]]

def bobOrElse : Group where
  name := some "users_tr"
  table := "users"
  timing := .after
  events := .ofList [.insert]
  columns := []
  granularity := .row
  security := none
  declarations := []
  bindings := .ofList [("who", "bob")]
  members := [
    .leaf ⟨some "bob_tr", some "NEW.name = '\x7bwho\x7d'", [], .empty⟩
      ["UPDATE groups SET bob_count = bob_count + 1;"],
    .leaf ⟨some "else_tr", none, [], .empty⟩ ["SELECT 1;"]]
  compatibility := 1
  generated := true

lemma bobOrElse_built : (Declaration.group bobOrElse).Built := ⟨.ofSettings bobOrElseSettings, by rfl⟩

end Merge

end SqlTriggers
