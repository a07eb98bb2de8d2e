import SqlTriggers.Proofs.Declaration.FirstMatch
import SqlTriggers.Proofs.Declaration.Slots

/-! Which declarations an engine can have all together, and what the others are rejected for. A nested
group is found before a name that is taken twice, and that before a slot. -/

namespace SqlTriggers

instance : Std.TransOrd Timing := inferInstanceAs (Std.TransCmp (compareOn Timing.ctorIdx))

instance : Std.LawfulEqOrd Timing where
  eq_of_compare {a b} h := by
    cases a <;> cases b <;> first | rfl | exact absurd h (by decide)

instance : Std.TransOrd Event := inferInstanceAs (Std.TransCmp (compareOn Event.ctorIdx))

instance : Std.LawfulEqOrd Event where
  eq_of_compare {a b} h := by
    cases a <;> cases b <;> first | rfl | exact absurd h (by decide)

namespace Slot

instance : Std.TransOrd Slot :=
  inferInstanceAs (Std.TransCmp
    (compareLex (compareOn table) (compareLex (compareOn timing) (compareOn event))))

instance : Std.LawfulEqOrd Slot where
  eq_of_compare {a b} h := by
    have h' : compareLex (compareOn Slot.table)
        (compareLex (compareOn Slot.timing) (compareOn Slot.event)) a b = .eq := h
    simp only [compareLex, compareOn, Ordering.then_eq_eq] at h'
    obtain ⟨ht, hm, he⟩ := h'
    cases a; cases b
    simp_all

end Slot

section Conflict

variable {ts : List Trigger} {s s' : Slot} {names names' : List String}

def slotHolders (ts : List Trigger) (s : Slot) : List String :=
  (ts.filter fun t => s ∈ t.slots).map Trigger.name

structure LeastConflict (ts : List Trigger) (s : Slot) (names : List String) : Prop where
  holders : names = slotHolders ts s
  shared : 1 < names.length
  least : ∀ s', 1 < (slotHolders ts s').length → (compare s s').isLE

lemma LeastConflict.unique (h : LeastConflict ts s names) (h' : LeastConflict ts s' names') :
    s = s' ∧ names = names' := by
  have hle := h.least s' (h'.holders ▸ h'.shared)
  have hge := h'.least s (h.holders ▸ h.shared)
  obtain rfl : s = s' := Std.LawfulEqCmp.eq_of_compare (Std.OrientedCmp.isLE_antisymm hle hge)
  exact ⟨rfl, h.holders.trans h'.holders.symm⟩

lemma holders_of_trigger (t : Trigger) (s : Slot) :
    ((t.slots.map fun s => (s, t.name)).filter fun e => e.1 = s).map (·.2) =
      if s ∈ t.slots then [t.name] else [] := by
  have hone : t.slots.filter (fun s' => s' = s) = if s ∈ t.slots then [s] else [] := by
    rw [List.filter_eq, t.slots_nodup.count]
    split <;> rfl
  have hslots : (fun e : Slot × String => decide (e.1 = s)) ∘ (fun s => (s, t.name)) =
      fun s' => decide (s' = s) := rfl
  rw [List.filter_map, hslots, hone]
  split <;> rfl

lemma holders_takenSlots (ts : List Trigger) (s : Slot) :
    ((takenSlots ts).filter fun e => e.1 = s).map (·.2) = slotHolders ts s := by
  induction ts with
  | nil => rfl
  | cons t ts ih =>
    rw [takenSlots, List.flatMap_cons, List.filter_append, List.map_append, holders_of_trigger,
      ← takenSlots, ih, slotHolders, slotHolders, List.filter_cons]
    simp only [decide_eq_true_eq]
    split <;> rfl

lemma mem_takenSlots_of_shared (h : 1 < (slotHolders ts s).length) :
    ∃ e ∈ takenSlots ts, e.1 = s := by
  have hne : (takenSlots ts).filter (fun e => e.1 = s) ≠ [] := by
    intro hnil
    rw [← holders_takenSlots, hnil] at h
    exact absurd h (by simp)
  obtain ⟨e, he⟩ := List.exists_mem_of_ne_nil _ hne
  obtain ⟨hm, hs⟩ := List.mem_filter.mp he
  exact ⟨e, hm, by simpa using hs⟩

namespace Engine

lemma slotConflict?_eq (ts : List Trigger) :
    slotConflict? ts = (sortOn (·.1) (takenSlots ts)).findSome? fun e =>
      if 1 < (slotHolders ts e.1).length then some (e.1, slotHolders ts e.1) else none := by
  simp only [← holders_takenSlots]
  rfl

lemma leastConflict_of_slotConflict? (h : slotConflict? ts = some (s, names)) :
    LeastConflict ts s names := by
  rw [slotConflict?_eq] at h
  obtain ⟨front, e, behind, hsplit, he, hfront⟩ := List.findSome?_eq_some_iff.mp h
  simp only [Option.ite_none_right_eq_some, Option.some.injEq, Prod.mk.injEq, ite_eq_right_iff,
    reduceCtorEq, imp_false] at he hfront
  obtain ⟨hshared, rfl, rfl⟩ := he
  refine ⟨rfl, hshared, fun s' hs' => ?_⟩
  obtain ⟨e', ht, rfl⟩ := mem_takenSlots_of_shared hs'
  have hm : e' ∈ sortOn (fun e => e.1) (takenSlots ts) := mem_sortOn.mpr ht
  have hsorted := sortOn_sorted (fun e : Slot × String => e.1) (takenSlots ts)
  rw [hsplit] at hm hsorted
  -- A shared slot is not in front, where each has one holder at most.
  rcases List.mem_append.mp hm with hm | hm
  · exact absurd hs' (hfront e' hm)
  rcases List.mem_cons.mp hm with rfl | hm
  · exact Std.ReflCmp.isLE_rfl
  · exact (List.pairwise_cons.mp (List.pairwise_append.mp hsorted).2.1).1 e' hm

lemma slotConflict?_eq_some_iff :
    slotConflict? ts = some (s, names) ↔ LeastConflict ts s names := by
  refine ⟨leastConflict_of_slotConflict?, fun h => ?_⟩
  cases hc : slotConflict? ts with
  | some c =>
    obtain ⟨rfl, rfl⟩ := h.unique (leastConflict_of_slotConflict? hc)
    rfl
  | none =>
    have hcount := List.nodup_iff_count_le_one.mp
      (onePerSlot_iff_nodup.mp (slotConflict?_eq_none_iff.mp hc)) s
    rw [← length_holders, holders_takenSlots, ← h.holders] at hcount
    exact absurd h.shared (Nat.not_lt.mpr hcount)

lemma manyPerSlot_eq_false_iff {engine : Engine} : engine.manyPerSlot = false ↔ engine = .inline := by
  cases engine <;> decide

lemma requireFreeSlots_eq_error_iff {engine : Engine} {e : Error} :
    engine.requireFreeSlots ts = .error e ↔ engine = .inline ∧
      ∃ s names, LeastConflict ts s names ∧ e = .duplicateSlot engine s names := by
  simp only [← slotConflict?_eq_some_iff, ← manyPerSlot_eq_false_iff, requireFreeSlots]
  cases engine.manyPerSlot with
  | true => simp
  | false =>
    rcases slotConflict? ts with - | ⟨s, names⟩
    · simp
    · simp [and_assoc, @eq_comm _ _ e]

end Engine

end Conflict

section Expansion

lemma firstRepeated?_eq_some_iff {seen : List TriggerKey} {ts : List Trigger} {t : Trigger} :
    firstRepeated? seen ts = some t ↔ ∃ front behind, ts = front ++ t :: behind ∧
      firstRepeated? seen front = none ∧ (t.key ∈ seen ∨ t.key ∈ front.map Trigger.key) := by
  induction ts generalizing seen with
  | nil => simp [firstRepeated?]
  | cons u us ih =>
    rw [firstRepeated?]
    split
    · rename_i hu
      constructor
      · rintro ⟨⟩
        exact ⟨[], us, rfl, rfl, .inl hu⟩
      · rintro ⟨_ | ⟨v, front⟩, behind, hts, hnone, -⟩
        · rw [(List.cons.inj hts).1]
        · obtain ⟨rfl, -⟩ := List.cons.inj hts
          simp [firstRepeated?, hu] at hnone
    · rename_i hu
      rw [ih]
      constructor
      · rintro ⟨front, behind, rfl, hnone, hkey⟩
        refine ⟨u :: front, behind, rfl, by rw [firstRepeated?, if_neg hu, hnone], ?_⟩
        simpa [or_assoc, or_left_comm] using hkey
      · rintro ⟨_ | ⟨v, front⟩, behind, hts, hnone, hkey⟩
        · obtain ⟨rfl, -⟩ := List.cons.inj hts
          exact absurd (hkey.resolve_right List.not_mem_nil) hu
        · obtain ⟨rfl, rfl⟩ := List.cons.inj hts
          rw [firstRepeated?, if_neg hu] at hnone
          refine ⟨front, behind, rfl, hnone, ?_⟩
          simpa [or_assoc, or_left_comm] using hkey

def FirstRepeated (ts : List Trigger) (t : Trigger) : Prop :=
  ∃ front behind, ts = front ++ t :: behind ∧ (front.map Trigger.key).Nodup ∧
    t.key ∈ front.map Trigger.key

lemma requireDistinctKeys_eq_error_iff {ts : List Trigger} {e : Error} :
    requireDistinctKeys ts = .error e ↔
      ∃ t, FirstRepeated ts t ∧ e = .duplicateName t.table t.name := by
  have hfirst : ∀ t, FirstRepeated ts t ↔ firstRepeated? [] ts = some t := by
    simp [FirstRepeated, firstRepeated?_eq_some_iff, firstRepeated?_eq_none_iff]
  simp only [hfirst, requireDistinctKeys]
  split
  · rename_i t ht
    simp [ht, eq_comm]
  · rename_i ht
    simp [ht]

/-- Groups come out of drafts only, so that their holes are known to be filled. -/
def GroupsBuilt (ds : List Declaration) : Prop :=
  ∀ g, .group g ∈ ds → (Declaration.group g).Built

namespace Engine

variable {engine : Engine} {ds : List Declaration} {d : Declaration} {ts : List Trigger} {e : Error}

def Expands (engine : Engine) (ds : List Declaration) (tss : List (List Trigger)) : Prop :=
  List.Forall₂ (fun d ts => engine.triggersOf d = .ok ts) ds tss

lemma Expands.unique {tss uss : List (List Trigger)} (h : engine.Expands ds tss)
    (h' : engine.Expands ds uss) : tss = uss :=
  List.right_unique_forall₂' (fun _ _ _ ht hu => Except.ok.inj (ht.symm.trans hu)) h h'

lemma triggersOfAll_eq_ok_iff :
    engine.triggersOfAll ds = .ok ts ↔ ∃ tss, engine.Expands ds tss ∧ ts = tss.flatten := by
  induction ds generalizing ts with
  | nil => simp [triggersOfAll, Expands, eq_comm]
  | cons d ds ih =>
    simp only [triggersOfAll, bind_eq_ok_iff, pure_eq_ok_iff, ih, Expands,
      List.forall₂_cons_left_iff]
    constructor
    · rintro ⟨us, hu, _, ⟨tss, ht, rfl⟩, rfl⟩
      exact ⟨_, ⟨us, tss, hu, ht, rfl⟩, rfl⟩
    · rintro ⟨_, ⟨us, tss, hu, ht, rfl⟩, rfl⟩
      exact ⟨us, hu, _, ⟨tss, ht, rfl⟩, rfl⟩

lemma triggersOf_eq_error_iff (hd : ∀ g, d = .group g → d.Built) :
    engine.triggersOf d = .error e ↔ engine = .inline ∧
      ∃ g, d = .group g ∧ g.hasNest = true ∧ e = .nestedGroup engine g.displayName := by
  cases d with
  | trigger t => simp [triggersOf]
  | group g =>
    obtain ⟨ts, ht⟩ := (hd g rfl).exists_triggers
    rw [triggersOf, ht, ← manyPerSlot_eq_false_iff]
    cases engine.manyPerSlot with
    | true => simp
    | false =>
      cases hn : g.hasNest with
      | true =>
        have hmerge : g.merge engine = .error (.nestedGroup engine g.displayName) := by
          rw [Group.merge, hn]
          rfl
        simp [hmerge, Except.map, hn, @eq_comm _ _ e]
      | false =>
        simp [Group.merge_of_triggers engine hn ht, Except.map, hn]

lemma exists_triggersOf_iff (hd : ∀ g, d = .group g → d.Built) :
    (∃ ts, engine.triggersOf d = .ok ts) ↔
      (engine = .inline → ∀ g, d = .group g → g.hasNest = false) := by
  cases h : engine.triggersOf d with
  | error e =>
    obtain ⟨rfl, g, rfl, hn, -⟩ := (triggersOf_eq_error_iff hd).mp h
    simp [hn]
  | ok ts =>
    refine iff_of_true ⟨ts, rfl⟩ fun hi g hg => Bool.eq_false_iff.mpr fun hn => ?_
    rw [(triggersOf_eq_error_iff hd).mpr ⟨hi, g, hg, hn, rfl⟩] at h
    cases h

lemma exists_expands_iff_forall :
    (∃ tss, engine.Expands ds tss) ↔ ∀ d ∈ ds, ∃ ts, engine.triggersOf d = .ok ts := by
  induction ds with
  | nil => simp [Expands]
  | cons d ds ih =>
    rw [List.forall_mem_cons, ← ih]
    constructor
    · rintro ⟨_, h⟩
      obtain ⟨ts, tss, ht, htss, rfl⟩ := List.forall₂_cons_left_iff.mp h
      exact ⟨⟨ts, ht⟩, tss, htss⟩
    · rintro ⟨⟨ts, ht⟩, tss, htss⟩
      exact ⟨ts :: tss, .cons ht htss⟩

lemma exists_expands_iff (hb : GroupsBuilt ds) : (∃ tss, engine.Expands ds tss) ↔
    (engine = .inline → ∀ g, .group g ∈ ds → g.hasNest = false) := by
  have hone : ∀ d ∈ ds, (∃ ts, engine.triggersOf d = .ok ts) ↔
      (engine = .inline → ∀ g, d = .group g → g.hasNest = false) :=
    fun d hd => exists_triggersOf_iff fun g hg => hg ▸ hb g (hg ▸ hd)
  rw [exists_expands_iff_forall]
  constructor
  · exact fun h hi g hg => (hone _ hg).mp (h _ hg) hi g rfl
  · exact fun h d hd => (hone d hd).mpr fun hi g hg => h hi g (hg ▸ hd)

lemma triggersOfAll_eq_error_iff : engine.triggersOfAll ds = .error e ↔
    ∃ front d behind, ds = front ++ d :: behind ∧ (∃ tss, engine.Expands front tss) ∧
      engine.triggersOf d = .error e := by
  induction ds with
  | nil => simp [triggersOfAll]
  | cons d ds ih =>
    simp only [triggersOfAll, bind_eq_error_iff, ih]
    constructor
    · rintro (he | ⟨ts, ht, ⟨front, d', behind, rfl, ⟨tss, htss⟩, he⟩ | ⟨us, -, he⟩⟩)
      · exact ⟨[], d, ds, rfl, ⟨[], .nil⟩, he⟩
      · exact ⟨d :: front, d', behind, rfl, ⟨ts :: tss, .cons ht htss⟩, he⟩
      · cases he
    · rintro ⟨_ | ⟨f, front⟩, d', behind, hds, ⟨tss, htss⟩, he⟩
      · obtain ⟨rfl, -⟩ := List.cons.inj hds
        exact .inl he
      · obtain ⟨rfl, rfl⟩ := List.cons.inj hds
        obtain ⟨ts, uss, ht, huss, rfl⟩ := List.forall₂_cons_left_iff.mp htss
        exact .inr ⟨ts, ht, .inl ⟨front, d', behind, rfl, ⟨uss, huss⟩, he⟩⟩

/-- Triggers that an engine can have side by side. -/
structure Legal (engine : Engine) (ts : List Trigger) : Prop where
  distinct : (ts.map Trigger.key).Nodup
  free : engine = .inline → OnePerSlot ts

lemma legal_iff {u v : Unit} :
    engine.Legal ts ↔ requireDistinctKeys ts = .ok u ∧ engine.requireFreeSlots ts = .ok v := by
  have hfree : engine.requireFreeSlots ts = .ok v ↔ (engine = .inline → OnePerSlot ts) := by
    rw [← manyPerSlot_eq_false_iff]
    cases hm : engine.manyPerSlot with
    | true => simp [requireFreeSlots, hm]
    | false => simp [requireFreeSlots_eq_ok_iff hm]
  rw [requireDistinctKeys_eq_ok_iff, hfree]
  exact ⟨fun h => ⟨h.distinct, h.free⟩, fun h => ⟨h.1, h.2⟩⟩

lemma Legal.perm {us : List Trigger} (h : engine.Legal ts) (hp : ts.Perm us) : engine.Legal us :=
  ⟨(hp.map Trigger.key).nodup_iff.mp h.distinct, fun hi => (h.free hi).perm hp⟩

/-- What declarations are rejected for. Each reason is the first of its kind, and leaves room for none
of the kinds before it. -/
inductive Rejects (engine : Engine) (ds : List Declaration) : Error → Prop
  | nested {front behind : List Declaration} {g : Group} (inline : engine = .inline)
      (split : ds = front ++ .group g :: behind)
      (first : ∀ f, .group f ∈ front → f.hasNest = false) (nest : g.hasNest = true) :
      Rejects engine ds (.nestedGroup engine g.displayName)
  | repeated {tss : List (List Trigger)} {t : Trigger} (expands : engine.Expands ds tss)
      (first : FirstRepeated tss.flatten t) : Rejects engine ds (.duplicateName t.table t.name)
  | shared {tss : List (List Trigger)} {s : Slot} {names : List String}
      (expands : engine.Expands ds tss) (distinct : (tss.flatten.map Trigger.key).Nodup)
      (inline : engine = .inline) (least : LeastConflict tss.flatten s names) :
      Rejects engine ds (.duplicateSlot engine s names)

lemma triggersOfAll_eq_error_iff_nested (hb : GroupsBuilt ds) : engine.triggersOfAll ds = .error e ↔
    engine = .inline ∧ ∃ front g behind, ds = front ++ .group g :: behind ∧
      (∀ f, .group f ∈ front → f.hasNest = false) ∧ g.hasNest = true ∧
      e = .nestedGroup engine g.displayName := by
  rw [triggersOfAll_eq_error_iff]
  constructor
  · rintro ⟨front, d, behind, rfl, hfront, he⟩
    have hd : ∀ g, d = .group g → d.Built := fun g hg => hg ▸ hb g (by simp [hg])
    obtain ⟨hi, g, rfl, hn, rfl⟩ := (triggersOf_eq_error_iff hd).mp he
    have hbuilt : GroupsBuilt front := fun f hf => hb f (List.mem_append_left _ hf)
    exact ⟨hi, front, g, behind, rfl, (exists_expands_iff hbuilt).mp hfront hi, hn, rfl⟩
  · rintro ⟨hi, front, g, behind, rfl, hfront, hn, rfl⟩
    have hbuilt : GroupsBuilt front := fun f hf => hb f (List.mem_append_left _ hf)
    refine ⟨front, .group g, behind, rfl, (exists_expands_iff hbuilt).mpr fun _ => hfront, ?_⟩
    exact (triggersOf_eq_error_iff fun _ _ => hb g (by simp)).mpr ⟨hi, g, rfl, hn, rfl⟩

end Engine

variable {engine : Engine} {ds : List Declaration} {rs : List Trigger} {e : Error}

lemma expansion_eq_ok_iff : expansion engine ds = .ok rs ↔
    ∃ tss, engine.Expands ds tss ∧ engine.Legal tss.flatten ∧ rs = sortOn Trigger.key tss.flatten := by
  simp only [expansion, bind_eq_ok_iff, pure_eq_ok_iff, Engine.triggersOfAll_eq_ok_iff]
  constructor
  · rintro ⟨_, ⟨tss, ht, rfl⟩, u, hd, v, hf, rfl⟩
    exact ⟨tss, ht, Engine.legal_iff.mpr ⟨hd, hf⟩, rfl⟩
  · rintro ⟨tss, ht, hl, rfl⟩
    obtain ⟨hd, hf⟩ := Engine.legal_iff (u := ()) (v := ()) |>.mp hl
    exact ⟨_, ⟨tss, ht, rfl⟩, (), hd, (), hf, rfl⟩

lemma expansion_eq_error_iff (hb : GroupsBuilt ds) :
    expansion engine ds = .error e ↔ engine.Rejects ds e := by
  simp only [expansion, bind_eq_error_iff, Engine.triggersOfAll_eq_error_iff_nested hb,
    Engine.triggersOfAll_eq_ok_iff, requireDistinctKeys_eq_error_iff,
    Engine.requireFreeSlots_eq_error_iff, requireDistinctKeys_eq_ok_iff]
  constructor
  · rintro (⟨hi, front, g, behind, hds, hfront, hn, rfl⟩ |
      ⟨_, ⟨tss, ht, rfl⟩, ⟨t, hfirst, rfl⟩ | ⟨u, hd, ⟨hi, s, names, hl, rfl⟩ | ⟨v, -, he⟩⟩⟩)
    · exact .nested hi hds hfront hn
    · exact .repeated ht hfirst
    · exact .shared ht hd hi hl
    · cases he
  · rintro (⟨hi, hds, hfront, hn⟩ | ⟨ht, hfirst⟩ | ⟨ht, hd, hi, hl⟩)
    · exact .inl ⟨hi, _, _, _, hds, hfront, hn, rfl⟩
    · exact .inr ⟨_, ⟨_, ht, rfl⟩, .inl ⟨_, hfirst, rfl⟩⟩
    · exact .inr ⟨_, ⟨_, ht, rfl⟩, .inr ⟨(), hd, .inl ⟨hi, _, _, hl, rfl⟩⟩⟩

theorem expansion_legal_or_rejected (engine : Engine) (hb : GroupsBuilt ds) :
    ((∃ tss, engine.Expands ds tss) ↔
        (engine = .inline → ∀ g, .group g ∈ ds → g.hasNest = false)) ∧
      ((∃ rs, expansion engine ds = .ok rs) ↔
        ∃ tss, engine.Expands ds tss ∧ engine.Legal tss.flatten) ∧
      (∀ rs tss, expansion engine ds = .ok rs → engine.Expands ds tss →
        rs.Perm tss.flatten ∧ rs.Pairwise fun t u => compare t.key u.key = .lt) ∧
      ∀ e, expansion engine ds = .error e ↔ engine.Rejects ds e := by
  refine ⟨Engine.exists_expands_iff hb, ?_, ?_, fun e => expansion_eq_error_iff hb⟩
  · simp only [expansion_eq_ok_iff]
    exact ⟨fun ⟨rs, tss, ht, hl, hrs⟩ => ⟨tss, ht, hl⟩, fun ⟨tss, ht, hl⟩ => ⟨_, tss, ht, hl, rfl⟩⟩
  · intro rs tss hrs ht
    obtain ⟨uss, hu, hl, rfl⟩ := expansion_eq_ok_iff.mp hrs
    obtain rfl := hu.unique ht
    exact ⟨sortOn_perm Trigger.key _, sortOn_strictly_sorted Trigger.key hl.distinct⟩

theorem rejected_bobOrElse :
    let ds : List Declaration := [.group bobOrElse, .trigger (bobCounter "SELECT 1;" 1 true)]
    GroupsBuilt ds ∧ Engine.lightweight.Rejects ds (.duplicateName "users" "bob_tr") ∧
      Engine.inline.Rejects ds
        (.duplicateSlot .inline ⟨"users", .after, .insert⟩ ["users_tr", "bob_tr"]) := by
  intro ds
  have hb : GroupsBuilt ds := by
    intro g hg
    simp only [ds, List.mem_cons, Declaration.group.injEq, reduceCtorEq, List.not_mem_nil,
      or_false] at hg
    exact hg ▸ bobOrElse_built
  have hname : expansion .lightweight ds = .error (.duplicateName "users" "bob_tr") := by
    rfl
  have hslot : expansion .inline ds =
      .error (.duplicateSlot .inline ⟨"users", .after, .insert⟩ ["users_tr", "bob_tr"]) := by
    rfl
  obtain ⟨-, -, -, hlightweight⟩ := expansion_legal_or_rejected .lightweight hb
  obtain ⟨-, -, -, hinline⟩ := expansion_legal_or_rejected .inline hb
  exact ⟨hb, (hlightweight _).mp hname, (hinline _).mp hslot⟩

end Expansion

end SqlTriggers
