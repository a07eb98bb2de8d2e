import Mathlib.Data.List.Forall2
import Mathlib.Data.List.Infix
import SqlTriggers.Declaration.Group
import SqlTriggers.Proofs.OrderedMap
import SqlTriggers.Proofs.Placeholder
import SqlTriggers.Proofs.Result

/-! The triggers of a group, place by place. What stands at a place depends on the group's own settings
and on the heads on the way to it, and on nothing else in the group. -/

namespace SqlTriggers

open Placeholder (holes filled)

/-- Where a member stands: its index at every level from the outside in, the heads on the way to it with
its own as the last, and its body, which a member that only nests has not. -/
structure Place where
  address : List Nat
  path : List MemberHead
  body : Option (List String)

mutual

def Member.places (address : List Nat) (enclosing : List MemberHead) : Member → List Place
  | .leaf head body => [⟨address, enclosing ++ [head], some body⟩]
  | .nest head members =>
    ⟨address, enclosing ++ [head], none⟩ :: Member.placesFrom address (enclosing ++ [head]) 0 members

def Member.placesFrom (address : List Nat) (enclosing : List MemberHead) (i : Nat) :
    List Member → List Place
  | [] => []
  | m :: ms =>
    m.places (address ++ [i]) enclosing ++ Member.placesFrom address enclosing (i + 1) ms

end

def Member.editAt (f : MemberHead → MemberHead) : List Nat → Member → Member
  | [], .leaf head body => .leaf (f head) body
  | [], .nest head members => .nest (f head) members
  | _ :: _, .leaf head body => .leaf head body
  | i :: address, .nest head members =>
    .nest head (members.modify i fun m => m.editAt f address)

namespace Group

variable (g : Group)

def places : List Place := Member.placesFrom [] [] 0 g.members

def leaves : List Place := g.places.filter fun p => p.body.isSome

def scopeAt (path : List MemberHead) : Bindings :=
  path.foldl (fun scope head => scope.override head.bindings) g.bindings

def conditionAt (path : List MemberHead) : Option String :=
  (path.getLast?.bind MemberHead.condition).map (filled (g.scopeAt path))

def conditionsAlong (path : List MemberHead) : List String :=
  path.inits.filterMap g.conditionAt

def triggerAt (p : Place) : Trigger :=
  let condition := conjunction (g.conditionsAlong p.path)
  g.trigger ((p.path.getLast?.bind MemberHead.name).getD (g.defaultName condition)) condition
    (g.declarations ++ p.path.flatMap MemberHead.declarations) (p.body.getD [])

def LacksFirst (path : List MemberHead) (condition hole : String) : Prop :=
  path.getLast?.bind MemberHead.condition = some condition ∧
    (holes condition).find? (fun hole => !(g.scopeAt path).contains hole) = some hole

def Bound (path : List MemberHead) : Prop :=
  ∀ condition ∈ path.getLast?.bind MemberHead.condition, ∀ hole ∈ holes condition,
    ∃ value, (g.scopeAt path).get? hole = some value

instance (path : List MemberHead) : Decidable (g.Bound path) :=
  decidable_of_iff (∀ condition ∈ path.getLast?.bind MemberHead.condition,
    ∀ hole ∈ holes condition, (g.scopeAt path).contains hole = true)
    (by simp only [Bound, OrderedMap.contains_iff])

def editAt (f : MemberHead → MemberHead) : List Nat → Group
  | [] => g
  | i :: address => { g with members := g.members.modify i fun m => m.editAt f address }

end Group

section Walk

namespace Group

variable {g : Group} {path : List MemberHead}

lemma bound_or_lacksFirst (g : Group) (path : List MemberHead) :
    g.Bound path ∨ ∃ condition hole, g.LacksFirst path condition hole := by
  cases hc : path.getLast?.bind MemberHead.condition with
  | none => exact .inl fun condition h => by simp [hc] at h
  | some condition =>
    cases hf : (holes condition).find? fun hole => !(g.scopeAt path).contains hole with
    | some hole => exact .inr ⟨condition, hole, hc, hf⟩
    | none =>
      refine .inl fun condition' h hole hm => ?_
      obtain rfl : condition = condition' := by simpa [hc] using h
      exact OrderedMap.contains_iff.mp (by simpa using List.find?_eq_none.mp hf hole hm)

lemma Bound.not_lacksFirst (h : g.Bound path) {condition hole : String} :
    ¬ g.LacksFirst path condition hole := by
  rintro ⟨hc, hf⟩
  have hvalue := h condition hc hole (List.mem_of_find?_eq_some hf)
  simpa [OrderedMap.contains_iff.mpr hvalue] using List.find?_some hf

lemma scopeAt_concat (enclosing : List MemberHead) (head : MemberHead) :
    g.scopeAt (enclosing ++ [head]) = head.scope (g.scopeAt enclosing) := by
  rw [scopeAt, List.foldl_append]
  rfl

lemma conditionsAlong_concat (enclosing : List MemberHead) (head : MemberHead) :
    g.conditionsAlong (enclosing ++ [head]) =
      g.conditionsAlong enclosing ++ (g.conditionAt (enclosing ++ [head])).toList := by
  rw [conditionsAlong, List.inits_append, List.filterMap_append]
  cases h : g.conditionAt (enclosing ++ [head]) <;> simp [conditionsAlong, h]

lemma filledCondition_of_bound {enclosing : List MemberHead} {head : MemberHead}
    (h : g.Bound (enclosing ++ [head])) :
    head.filledCondition (head.scope (g.scopeAt enclosing)) =
      .ok (g.conditionAt (enclosing ++ [head])) := by
  rw [← scopeAt_concat, MemberHead.filledCondition]
  cases hc : head.condition with
  | none => simp [conditionAt, hc]
  | some condition =>
    have hf : (holes condition).find? (fun hole =>
        !(g.scopeAt (enclosing ++ [head])).contains hole) = none := by
      refine List.find?_eq_none.mpr fun hole hm => ?_
      simp [OrderedMap.contains_iff.mpr (h condition (by simp [hc]) hole hm)]
    simp [conditionAt, hc, fillHoles_of_bound hf, Except.map]

lemma filledCondition_of_lacksFirst {enclosing : List MemberHead} {head : MemberHead}
    {condition hole : String} (h : g.LacksFirst (enclosing ++ [head]) condition hole) :
    head.filledCondition (head.scope (g.scopeAt enclosing)) =
      .error (.unresolvedPlaceholder hole condition) := by
  obtain ⟨hc, hf⟩ := h
  have hc : head.condition = some condition := by simpa using hc
  simp only [← scopeAt_concat, MemberHead.filledCondition, hc, fillHoles_of_find? hf, Except.map]

/-- What the triggers of places are: one for every body, or the first hole that has no value. -/
structure Yields (g : Group) (ps : List Place) (r : Except Error (List Trigger)) : Prop where
  ok : (∀ p ∈ ps, g.Bound p.path) → r = .ok ((ps.filter fun p => p.body.isSome).map g.triggerAt)
  error : ∀ {front p rest condition hole}, ps = front ++ p :: rest →
    (∀ q ∈ front, g.Bound q.path) → g.LacksFirst p.path condition hole →
      r = .error (.unresolvedPlaceholder hole condition)

namespace Yields

variable {p : Place} {ps qs : List Place} {r s : Except Error (List Trigger)}

lemma nil : g.Yields [] (.ok []) :=
  ⟨fun _ => rfl, fun h => by simp at h⟩

lemma of_lacksFirst {condition hole : String} (h : g.LacksFirst p.path condition hole)
    (ps : List Place) : g.Yields (p :: ps) (.error (.unresolvedPlaceholder hole condition)) := by
  refine ⟨fun hb => absurd h (hb p List.mem_cons_self).not_lacksFirst, ?_⟩
  intro front q rest condition' hole' hps hb hl
  cases front with
  | nil =>
    obtain ⟨rfl, -⟩ := List.cons.inj hps
    obtain rfl : condition = condition' := Option.some.inj (h.1.symm.trans hl.1)
    obtain rfl : hole = hole' := Option.some.inj (h.2.symm.trans hl.2)
    rfl
  | cons x front =>
    obtain ⟨rfl, -⟩ := List.cons.inj hps
    exact absurd h (hb p List.mem_cons_self).not_lacksFirst

lemma cons (hp : g.Bound p.path) (hn : p.body = none) (h : g.Yields ps r) :
    g.Yields (p :: ps) r := by
  refine ⟨fun hb => ?_, fun {front q rest condition hole} hps hb hl => ?_⟩
  · rw [h.ok fun q hq => hb q (List.mem_cons_of_mem p hq), List.filter_cons_of_neg (by simp [hn])]
  · cases front with
    | nil =>
      obtain ⟨rfl, -⟩ := List.cons.inj hps
      exact absurd hl hp.not_lacksFirst
    | cons x front =>
      have hrest : ps = front ++ q :: rest := (List.cons.inj hps).2
      exact h.error hrest (fun q hq => hb q (List.mem_cons_of_mem _ hq)) hl

lemma leaf (hp : g.Bound p.path) {body : List String} (hb : p.body = some body) :
    g.Yields [p] (.ok [g.triggerAt p]) := by
  refine ⟨fun _ => by rw [List.filter_cons_of_pos (by simp [hb])]; rfl, ?_⟩
  intro front q rest condition hole hps hq hl
  have hmem : q ∈ [p] := by simp [hps]
  rw [List.mem_singleton.mp hmem] at hl
  exact absurd hl hp.not_lacksFirst

lemma append (hp : g.Yields ps r) (hq : g.Yields qs s) :
    g.Yields (ps ++ qs) (do let ts ← r; let us ← s; return ts ++ us) := by
  refine ⟨fun hb => ?_, fun {front p rest condition hole} hps hb hl => ?_⟩
  · obtain ⟨hbp, hbq⟩ := List.forall_mem_append.mp hb
    rw [hp.ok hbp, hq.ok hbq, List.filter_append, List.map_append]
    rfl
  · rcases List.append_eq_append_iff.mp hps with ⟨mid, rfl, hmid⟩ | ⟨mid, rfl, hmid⟩
    · obtain ⟨hbp, hbm⟩ := List.forall_mem_append.mp hb
      rw [hp.ok hbp, hq.error hmid hbm hl]
      rfl
    · cases mid with
      | nil =>
        have hqs : qs = [] ++ p :: rest := hmid.symm
        rw [hp.ok (by simpa using hb), hq.error hqs (fun q hq => absurd hq List.not_mem_nil) hl]
        rfl
      | cons x mid =>
        obtain ⟨rfl, -⟩ := List.cons.inj hmid
        rw [hp.error rfl hb hl]
        rfl

end Yields

mutual

lemma yields_memberTriggers (g : Group) (address : List Nat) (enclosing : List MemberHead)
    (m : Member) : g.Yields (m.places address enclosing)
      (memberTriggers g (g.scopeAt enclosing) (g.conditionsAlong enclosing)
        (g.declarations ++ enclosing.flatMap MemberHead.declarations) m) := by
  cases m with
  | leaf head body =>
    rw [Member.places, memberTriggers]
    rcases g.bound_or_lacksFirst (enclosing ++ [head]) with hb | ⟨condition, hole, hl⟩
    · rw [filledCondition_of_bound hb]
      have ht := Yields.leaf (p := ⟨address, enclosing ++ [head], some body⟩) hb rfl
      simpa [triggerAt, conditionsAlong_concat] using ht
    · rw [filledCondition_of_lacksFirst hl]
      exact .of_lacksFirst hl []
  | nest head members =>
    rw [Member.places, memberTriggers]
    rcases g.bound_or_lacksFirst (enclosing ++ [head]) with hb | ⟨condition, hole, hl⟩
    · rw [filledCondition_of_bound hb]
      have hms := yields_membersTriggers g address (enclosing ++ [head]) 0 members
      rw [scopeAt_concat, conditionsAlong_concat, List.flatMap_append, List.flatMap_singleton,
        ← List.append_assoc] at hms
      exact hms.cons hb rfl
    · rw [filledCondition_of_lacksFirst hl]
      exact .of_lacksFirst hl _

lemma yields_membersTriggers (g : Group) (address : List Nat) (enclosing : List MemberHead)
    (i : Nat) (ms : List Member) : g.Yields (Member.placesFrom address enclosing i ms)
      (membersTriggers g (g.scopeAt enclosing) (g.conditionsAlong enclosing)
        (g.declarations ++ enclosing.flatMap MemberHead.declarations) ms) := by
  cases ms with
  | nil => exact .nil
  | cons m ms =>
    rw [Member.placesFrom, membersTriggers]
    exact (yields_memberTriggers g (address ++ [i]) enclosing m).append
      (yields_membersTriggers g address enclosing (i + 1) ms)

end

lemma yields_triggers (g : Group) : g.Yields g.places g.triggers := by
  have h := yields_membersTriggers g [] [] 0 g.members
  rw [List.flatMap_nil, List.append_nil] at h
  exact h

lemma triggers_of_bound (h : ∀ p ∈ g.places, g.Bound p.path) :
    g.triggers = .ok (g.leaves.map g.triggerAt) :=
  g.yields_triggers.ok h

lemma triggers_of_not_bound {front rest : List Place} {p : Place}
    (hps : g.places = front ++ p :: rest) (hb : ∀ q ∈ front, g.Bound q.path)
    (hp : ¬ g.Bound p.path) : ∃ condition hole, g.LacksFirst p.path condition hole ∧
      g.triggers = .error (.unresolvedPlaceholder hole condition) := by
  obtain ⟨condition, hole, hl⟩ := (g.bound_or_lacksFirst p.path).resolve_left hp
  exact ⟨condition, hole, hl, g.yields_triggers.error hps hb hl⟩

lemma bound_of_triggers {ts : List Trigger} (h : g.triggers = .ok ts) :
    ∀ p ∈ g.places, g.Bound p.path := by
  by_contra hn
  have hsome : (g.places.find? fun p => !decide (g.Bound p.path)).isSome := by
    simpa [List.find?_isSome] using hn
  obtain ⟨p, hp⟩ := Option.isSome_iff_exists.mp hsome
  obtain ⟨hnot, front, rest, hps, hfront⟩ := List.find?_eq_some_iff_append.mp hp
  obtain ⟨_, _, _, herr⟩ := triggers_of_not_bound hps
    (fun q hq => by simpa using hfront q hq) (by simpa using hnot)
  cases h.symm.trans herr

lemma eq_of_triggers {ts : List Trigger} (h : g.triggers = .ok ts) :
    ts = g.leaves.map g.triggerAt :=
  Except.ok.inj (h.symm.trans (triggers_of_bound (bound_of_triggers h)))

end Group

end Walk

section Scope

end Scope

section Edit

structure Place.AgreesOutside (a : List Nat) (p q : Place) : Prop where
  address : p.address = q.address
  body : p.body = q.body
  same : ¬ a <+: p.address → p = q

lemma Place.AgreesOutside.refl (a : List Nat) (p : Place) : p.AgreesOutside a p :=
  ⟨rfl, rfl, fun _ => rfl⟩

namespace Member

variable {f : MemberHead → MemberHead}

mutual

lemma places_agree (c : List Nat) (e e' : List MemberHead) (a : List Nat) (ha : a <+: c)
    (m : Member) : List.Forall₂ (Place.AgreesOutside a) (m.places c e) (m.places c e') := by
  cases m with
  | leaf head body =>
    rw [places, places]
    exact .cons ⟨rfl, rfl, fun h => absurd ha h⟩ .nil
  | nest head members =>
    rw [places, places]
    exact .cons ⟨rfl, rfl, fun h => absurd ha h⟩ (placesFrom_agree c _ _ a ha 0 members)

lemma placesFrom_agree (c : List Nat) (e e' : List MemberHead) (a : List Nat) (ha : a <+: c)
    (i : Nat) (ms : List Member) :
    List.Forall₂ (Place.AgreesOutside a) (placesFrom c e i ms) (placesFrom c e' i ms) := by
  cases ms with
  | nil => exact .nil
  | cons m ms =>
    rw [placesFrom, placesFrom]
    exact List.rel_append (places_agree _ e e' a (ha.trans (List.prefix_append c [i])) m)
      (placesFrom_agree c e e' a ha (i + 1) ms)

end

end Member

namespace Group

variable (g : Group)

end Group

end Edit

end SqlTriggers
