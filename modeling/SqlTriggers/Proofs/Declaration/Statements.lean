import SqlTriggers.Proofs.Declaration.Built
import SqlTriggers.Proofs.Declaration.Paths
import SqlTriggers.Proofs.Trigger.Statement

/-! The statements of a frozen declaration are canonical, at whatever depth of a group they stand,
and so are those of the triggers that an engine has for it. -/

namespace SqlTriggers

open Statement (Made made_of_mem_canonicalList)

structure Trigger.Canonical (t : Trigger) : Prop where
  body : ∀ s ∈ t.body, Statement.Canonical s
  declarations : ∀ s ∈ t.declarations, Statement.Canonical s

structure Trigger.Made (t : Trigger) : Prop where
  body : ∀ s ∈ t.body, Statement.Made s
  declarations : ∀ s ∈ t.declarations, Statement.Made s

lemma Trigger.Made.canonical {t : Trigger} (h : t.Made) : t.Canonical :=
  ⟨fun s hs => (h.body s hs).canonical, fun s hs => (h.declarations s hs).canonical⟩

def MemberHead.Frozen (head : MemberHead) : Prop := ∃ a, head = Draft.freezeHead a

lemma MemberHead.Frozen.declarations {head : MemberHead} (h : head.Frozen) :
    ∀ s ∈ head.declarations, Made s := by
  obtain ⟨a, rfl⟩ := h
  exact fun s => made_of_mem_canonicalList

inductive Member.Frozen : Member → Prop
  | leaf {head : MemberHead} {body : List String} (hh : head.Frozen)
      (hb : ∀ s ∈ body, Made s) : Frozen (.leaf head body)
  | nest {head : MemberHead} {members : List Member} (hh : head.Frozen) (hn : members ≠ [])
      (hm : ∀ m ∈ members, Frozen m) : Frozen (.nest head members)

lemma Member.Frozen.head {m : Member} (h : m.Frozen) : m.head.Frozen := by
  cases h with
  | leaf hh _ => exact hh
  | nest hh _ _ => exact hh

mutual

lemma freezeMember_frozen {group : String} {s : Attributes.Common} {d : Draft} {m : Member}
    (h : Draft.freezeMember group s d = .ok m) : m.Frozen := by
  cases d with
  | mk a branches =>
    cases branches with
    | nil =>
      simp only [Draft.freezeMember, bind_eq_ok_iff, guard_eq_ok_iff, pure_eq_ok_iff] at h
      obtain ⟨u, -, v, -, -, rfl⟩ := h
      exact .leaf ⟨a, rfl⟩ fun s => made_of_mem_canonicalList
    | cons b bs =>
      simp only [Draft.freezeMember, bind_eq_ok_iff, guard_eq_ok_iff, pure_eq_ok_iff] at h
      obtain ⟨u, -, v, -, -, first, hf, others, ho, rfl⟩ := h
      exact .nest ⟨a, rfl⟩ (List.cons_ne_nil first others)
        (List.forall_mem_cons.mpr ⟨freezeMember_frozen hf, freezeMembers_frozen ho⟩)

lemma freezeMembers_frozen {group : String} {s : Attributes.Common} {ds : List Draft}
    {ms : List Member} (h : Draft.freezeMembers group s ds = .ok ms) : ∀ m ∈ ms, m.Frozen := by
  cases ds with
  | nil =>
    obtain rfl := Except.ok.inj h
    exact fun m hm => absurd hm List.not_mem_nil
  | cons d ds =>
    simp only [Draft.freezeMembers, bind_eq_ok_iff, pure_eq_ok_iff] at h
    obtain ⟨first, hf, others, ho, rfl⟩ := h
    exact List.forall_mem_cons.mpr ⟨freezeMember_frozen hf, freezeMembers_frozen ho⟩

end

structure Place.Frozen (p : Place) : Prop where
  path : ∀ head ∈ p.path, head.Frozen
  body : ∀ s ∈ p.body.getD [], Made s

namespace Member

mutual

lemma places_frozen {m : Member} (hm : m.Frozen) (address : List Nat) {enclosing : List MemberHead}
    (he : ∀ head ∈ enclosing, head.Frozen) : ∀ p ∈ m.places address enclosing, p.Frozen := by
  cases hm with
  | @leaf head body hh hb =>
    rw [places, List.forall_mem_singleton]
    exact ⟨List.forall_mem_append.mpr ⟨he, List.forall_mem_singleton.mpr hh⟩, hb⟩
  | @nest head members hh _ hm =>
    have hpath := List.forall_mem_append.mpr ⟨he, List.forall_mem_singleton.mpr hh⟩
    rw [places, List.forall_mem_cons]
    exact ⟨⟨hpath, fun s hs => absurd hs List.not_mem_nil⟩,
      placesFrom_frozen hm address hpath 0⟩

lemma placesFrom_frozen {ms : List Member} (hms : ∀ m ∈ ms, m.Frozen) (address : List Nat)
    {enclosing : List MemberHead} (he : ∀ head ∈ enclosing, head.Frozen) (i : Nat) :
    ∀ p ∈ placesFrom address enclosing i ms, p.Frozen := by
  cases ms with
  | nil => exact fun p hp => absurd hp List.not_mem_nil
  | cons m ms =>
    obtain ⟨hm, hms⟩ := List.forall_mem_cons.mp hms
    rw [placesFrom, List.forall_mem_append]
    exact ⟨places_frozen hm (address ++ [i]) he, placesFrom_frozen hms address he (i + 1)⟩

end

end Member

namespace Group

structure Frozen (g : Group) : Prop where
  declarations : ∀ s ∈ g.declarations, Made s
  members : ∀ m ∈ g.members, m.Frozen

variable {g : Group}

lemma Frozen.places (h : g.Frozen) : ∀ p ∈ g.places, p.Frozen :=
  Member.placesFrom_frozen h.members [] (fun _ hm => absurd hm List.not_mem_nil) 0

lemma Frozen.everyDeclaration (h : g.Frozen) : ∀ s ∈ g.everyDeclaration, Made s := by
  refine List.forall_mem_append.mpr ⟨h.declarations, fun s hs => ?_⟩
  obtain ⟨m, hm, hs⟩ := List.mem_flatMap.mp hs
  exact (h.members m hm).head.declarations s hs

lemma Frozen.triggers (h : g.Frozen) {ts : List Trigger} (ht : g.triggers = .ok ts) :
    ∀ t ∈ ts, t.Made := by
  rw [eq_of_triggers ht]
  intro t htm
  obtain ⟨p, hp, rfl⟩ := List.mem_map.mp htm
  have hplace := h.places p (List.mem_filter.mp hp).1
  refine ⟨hplace.body, List.forall_mem_append.mpr ⟨h.declarations, fun s hs => ?_⟩⟩
  obtain ⟨head, hm, hs⟩ := List.mem_flatMap.mp hs
  exact (hplace.path head hm).declarations s hs

end Group

lemma freezeGroup_frozen {a : Attributes} {branches : List Draft} {g : Group}
    (h : Draft.freezeGroup a branches = .ok g) : g.Frozen := by
  simp only [Draft.freezeGroup, bind_eq_ok_iff, guard_eq_ok_iff, pure_eq_ok_iff] at h
  obtain ⟨s, -, u, -, -, members, hm, triggers, -, v, -, rfl⟩ := h
  exact ⟨fun s => made_of_mem_canonicalList, freezeMembers_frozen hm⟩

lemma freezeTrigger_made {a : Attributes} {t : Trigger}
    (h : Draft.freezeTrigger a = .ok t) : t.Made := by
  simp only [Draft.freezeTrigger, bind_eq_ok_iff, pure_eq_ok_iff] at h
  obtain ⟨s, -, condition, -, u, -, body, -, rfl⟩ := h
  exact ⟨fun s => made_of_mem_canonicalList, fun s => made_of_mem_canonicalList⟩

namespace Declaration.Built

lemma frozen {g : Group} (h : (Declaration.group g).Built) : g.Frozen := by
  obtain ⟨a, branches, hg⟩ := h.exists_freezeGroup
  exact freezeGroup_frozen hg

lemma canonical {d : Declaration} (hd : d.Built) {engine : Engine}
    (he : engine.manyPerSlot = true) {ts : List Trigger} (h : engine.triggersOf d = .ok ts) :
    ∀ t ∈ ts, t.Canonical := by
  intro t ht
  refine Trigger.Made.canonical ?_
  rcases hd.cases with ⟨a, u, hu, rfl⟩ | ⟨a, branches, g, hg, rfl⟩
  · obtain rfl := Except.ok.inj h
    obtain rfl := List.mem_singleton.mp ht
    exact freezeTrigger_made hu
  · rw [Engine.triggersOf, if_pos he] at h
    exact (freezeGroup_frozen hg).triggers h t ht

end Declaration.Built

end SqlTriggers
