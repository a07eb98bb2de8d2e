import SqlTriggers.Proofs.Declaration.FirstMatch
import SqlTriggers.Proofs.Declaration.Statements

/-! Blank conditions. A trigger by itself has none. A member's condition is seen to say something before
its holes are filled, and so may be blank once blank values are in them. -/

namespace SqlTriggers

open Text Placeholder

namespace Placeholder

def Vanishes (bindings : Bindings) (condition : String) : Prop :=
  ∀ p ∈ pieces condition.toList, isBlankText (p.fill bindings) = true

lemma filled_eq_empty_iff {bindings : Bindings} {condition : String} :
    filled bindings condition = "" ↔ Vanishes bindings condition := by
  rw [filled, trimmed_eq_empty_iff, String.toList_ofList, isBlankText, List.all_flatMap,
    List.all_eq_true]
  rfl

lemma pieces_of_holes_eq_nil {cs : List Char} (h : (pieces cs).filterMap Piece.name? = []) :
    pieces cs = cs.map Piece.char := by
  induction cs with
  | nil => rfl
  | cons c cs ih =>
    rw [pieces, piecesFrom] at h ⊢
    split at h
    · cases h
    · exact congrArg (Piece.char c :: ·) (ih h)

lemma holes_ne_nil_of_vanishes {bindings : Bindings} {condition : String}
    (ht : trimmed condition = condition) (hn : condition ≠ "") (h : Vanishes bindings condition) :
    holes condition ≠ [] := by
  intro hh
  refine hn (ht ▸ trimmed_eq_empty_iff.mpr (List.all_eq_true.mpr fun c hc => ?_))
  have hpiece : Piece.char c ∈ pieces condition.toList := by
    rw [pieces_of_holes_eq_nil hh]
    exact List.mem_map_of_mem hc
  simpa [isBlankText, Piece.fill] using h (.char c) hpiece

lemma blank_of_mem_holes {bindings : Bindings} {condition hole value : String}
    (h : Vanishes bindings condition) (hm : hole ∈ holes condition)
    (hv : bindings.get? hole = some value) : isBlankText value.toList = true := by
  obtain ⟨p, hp, hname⟩ := List.mem_filterMap.mp hm
  cases p with
  | char c => cases hname
  | hole name =>
    obtain rfl := Option.some.inj hname
    have hblank := h _ hp
    rwa [Piece.fill, hv, Option.getD_some] at hblank

end Placeholder

lemma conjunction_blank {cs : List String} {c : String} (h : conjunction cs = some c)
    (hc : isBlankText c.toList = true) : cs = [c] := by
  cases cs with
  | nil => cases h
  | cons a cs =>
    cases cs with
    | nil => exact congrArg (· :: []) (Option.some.inj h)
    | cons b cs =>
      obtain rfl := Option.some.inj h
      simp [String.toList_intercalate, isBlankText] at hc
      exact absurd hc.1 (by decide)

namespace Member

mutual

lemma exists_place_along (m : Member) (address : List Nat) (enclosing : List MemberHead) :
    ∀ p ∈ m.places address enclosing, ∀ path, path <+: p.path →
      path <+: enclosing ∨ ∃ q ∈ m.places address enclosing, q.path = path := by
  cases m with
  | leaf head body =>
    rw [places, List.forall_mem_singleton]
    intro path h
    rcases List.prefix_concat_iff.mp h with rfl | h
    · exact .inr ⟨_, List.mem_cons_self, rfl⟩
    · exact .inl h
  | nest head members =>
    have hown : ∀ path, path <+: enclosing ++ [head] → path <+: enclosing ∨
        ∃ q ∈ (nest head members).places address enclosing, q.path = path := by
      intro path h
      rcases List.prefix_concat_iff.mp h with rfl | h
      · exact .inr ⟨_, List.mem_cons_self, rfl⟩
      · exact .inl h
    rw [places] at hown ⊢
    refine List.forall_mem_cons.mpr ⟨hown, fun p hp path h => ?_⟩
    rcases exists_place_alongFrom members address (enclosing ++ [head]) 0 p hp path h with
      h | ⟨q, hq, hpath⟩
    · exact hown path h
    · exact .inr ⟨q, List.mem_cons_of_mem _ hq, hpath⟩

lemma exists_place_alongFrom (ms : List Member) (address : List Nat)
    (enclosing : List MemberHead) (i : Nat) : ∀ p ∈ placesFrom address enclosing i ms, ∀ path,
      path <+: p.path → path <+: enclosing ∨
        ∃ q ∈ placesFrom address enclosing i ms, q.path = path := by
  cases ms with
  | nil => exact fun p hp => absurd hp List.not_mem_nil
  | cons m ms =>
    intro p hp path h
    rw [placesFrom] at hp ⊢
    simp only [List.mem_append, or_and_right, exists_or]
    rcases List.mem_append.mp hp with hp | hp
    · exact (exists_place_along m (address ++ [i]) enclosing p hp path h).imp_right .inl
    · exact (exists_place_alongFrom ms address enclosing (i + 1) p hp path h).imp_right .inr

end

lemma exists_own_place (m : Member) (address : List Nat) (enclosing : List MemberHead) :
    ∃ p ∈ m.places address enclosing, p.path = enclosing ++ [m.head] := by
  cases m <;> exact ⟨_, List.mem_cons_self, rfl⟩

mutual

lemma exists_leaf_below {m : Member} (hm : m.Frozen) (address : List Nat)
    (enclosing : List MemberHead) : ∀ p ∈ m.places address enclosing,
      ∃ q ∈ m.places address enclosing, q.body.isSome = true ∧ p.path <+: q.path := by
  cases hm with
  | @leaf head body _ _ =>
    rw [places]
    intro p hp
    obtain rfl := List.mem_singleton.mp hp
    exact ⟨_, List.mem_cons_self, rfl, List.prefix_rfl⟩
  | @nest head members _ hn hm =>
    have hbelow := exists_leaf_belowFrom hm address (enclosing ++ [head]) 0
    rw [places]
    refine List.forall_mem_cons.mpr ⟨?_, fun p hp => ?_⟩
    · obtain ⟨m, ms, rfl⟩ := List.exists_cons_of_ne_nil hn
      obtain ⟨p, hp, hpath⟩ := m.exists_own_place (address ++ [0]) (enclosing ++ [head])
      obtain ⟨q, hq, hbody, hprefix⟩ := hbelow p (List.mem_append_left _ hp)
      refine ⟨q, List.mem_cons_of_mem _ hq, hbody, ?_⟩
      exact (List.prefix_append (enclosing ++ [head]) [m.head]).trans (hpath ▸ hprefix)
    · obtain ⟨q, hq, h⟩ := hbelow p hp
      exact ⟨q, List.mem_cons_of_mem _ hq, h⟩

lemma exists_leaf_belowFrom {ms : List Member} (hms : ∀ m ∈ ms, m.Frozen) (address : List Nat)
    (enclosing : List MemberHead) (i : Nat) : ∀ p ∈ placesFrom address enclosing i ms,
      ∃ q ∈ placesFrom address enclosing i ms, q.body.isSome = true ∧ p.path <+: q.path := by
  cases ms with
  | nil => exact fun p hp => absurd hp List.not_mem_nil
  | cons m ms =>
    obtain ⟨hm, hms⟩ := List.forall_mem_cons.mp hms
    rw [placesFrom]
    intro p hp
    rcases List.mem_append.mp hp with hp | hp
    · obtain ⟨q, hq, h⟩ := exists_leaf_below hm (address ++ [i]) enclosing p hp
      exact ⟨q, List.mem_append_left _ hq, h⟩
    · obtain ⟨q, hq, h⟩ := exists_leaf_belowFrom hms address enclosing (i + 1) p hp
      exact ⟨q, List.mem_append_right _ hq, h⟩

end

lemma eq_singleton_of_isNest {ms : List Member} (h : ∀ m ∈ ms, m.isNest = false)
    (address : List Nat) (i : Nat) : ∀ p ∈ placesFrom address [] i ms,
      ∃ head, p.path = [head] ∧ p.body.isSome = true := by
  induction ms generalizing i with
  | nil => exact fun p hp => absurd hp List.not_mem_nil
  | cons m ms ih =>
    obtain ⟨hm, hms⟩ := List.forall_mem_cons.mp h
    cases m with
    | nest head members => cases hm
    | leaf head body =>
      rw [placesFrom, places]
      exact List.forall_mem_cons.mpr ⟨⟨head, rfl, rfl⟩, ih hms (i + 1)⟩

end Member

lemma MemberHead.Frozen.condition {head : MemberHead} (h : head.Frozen) {c : String}
    (hc : head.condition = some c) : trimmed c = c ∧ c ≠ "" := by
  obtain ⟨a, rfl⟩ := h
  obtain ⟨hmap, hne⟩ := Option.filter_eq_some_iff.mp hc
  obtain ⟨r, -, rfl⟩ := Option.map_eq_some_iff.mp hmap
  exact ⟨trimmed_trimmed r, by simpa using hne⟩

lemma eq_empty_of_isBlankText {c : String} (ht : trimmed c = c)
    (h : isBlankText c.toList = true) : c = "" :=
  ht.symm.trans (trimmed_eq_empty_iff.mpr h)

lemma freezeTrigger_condition {a : Attributes} {t : Trigger} (h : Draft.freezeTrigger a = .ok t) :
    ∀ c ∈ t.condition, isBlankText c.toList = false := by
  simp only [Draft.freezeTrigger, bind_eq_ok_iff, pure_eq_ok_iff] at h
  obtain ⟨s, -, condition, hc, u, -, body, -, rfl⟩ := h
  intro c hm
  obtain rfl : condition = some c := hm
  rw [Draft.freezeCondition] at hc
  split at hc
  · cases hc
  · simp only [bind_eq_ok_iff, pure_eq_ok_iff] at hc
    obtain ⟨filled, hfill, hc⟩ := hc
    split at hc
    · cases hc
    · rename_i hne
      obtain rfl := Option.some.inj hc
      have htrimmed : trimmed filled = filled := by
        rw [eq_filled_of_fillHoles hfill]
        exact trimmed_trimmed _
      by_contra hb
      exact hne (by simp [eq_empty_of_isBlankText htrimmed (by simpa using hb)])

namespace Group

variable {g : Group}

def VanishesAt (g : Group) (path : List MemberHead) : Prop :=
  ∃ condition, path.getLast?.bind MemberHead.condition = some condition ∧
    Vanishes (g.scopeAt path) condition

lemma conditionAt_eq_some_empty_iff {path : List MemberHead} :
    g.conditionAt path = some "" ↔ g.VanishesAt path := by
  simp only [conditionAt, Option.map_eq_some_iff, filled_eq_empty_iff, VanishesAt]

lemma vanishesAt_of_isBlankText {path : List MemberHead} {c : String}
    (h : g.conditionAt path = some c) (hc : isBlankText c.toList = true) : g.VanishesAt path := by
  obtain ⟨condition, -, rfl⟩ := Option.map_eq_some_iff.mp h
  have hempty := eq_empty_of_isBlankText (trimmed_trimmed _) hc
  exact conditionAt_eq_some_empty_iff.mp (hempty ▸ h)

lemma mem_conditionsAlong {path : List MemberHead} {c : String} :
    c ∈ g.conditionsAlong path ↔ ∃ front, front <+: path ∧ g.conditionAt front = some c := by
  simp only [conditionsAlong, List.mem_filterMap, List.mem_inits]

lemma exists_vanishing_place {p : Place} (hp : p ∈ g.places) {c : String}
    (hc : c ∈ g.conditionsAlong p.path) (hb : isBlankText c.toList = true) :
    ∃ q ∈ g.places, g.VanishesAt q.path := by
  obtain ⟨front, hfront, hcond⟩ := mem_conditionsAlong.mp hc
  rcases Member.exists_place_alongFrom g.members [] [] 0 p hp front hfront with
    h | ⟨q, hq, rfl⟩
  · rw [List.prefix_nil.mp h] at hcond
    cases hcond
  · exact ⟨q, hq, vanishesAt_of_isBlankText hcond hb⟩

lemma Frozen.exists_blank_value (hg : g.Frozen) {p : Place} (hp : p ∈ g.places)
    (hb : g.Bound p.path) (hv : g.VanishesAt p.path) :
    ∃ condition hole value, p.path.getLast?.bind MemberHead.condition = some condition ∧
      hole ∈ holes condition ∧ (g.scopeAt p.path).get? hole = some value ∧
        isBlankText value.toList = true := by
  obtain ⟨condition, hc, hv⟩ := hv
  obtain ⟨head, hlast, hhead⟩ := Option.bind_eq_some_iff.mp hc
  have hfrozen := (hg.places p hp).path head (List.mem_of_getLast? hlast)
  obtain ⟨htrimmed, hne⟩ := hfrozen.condition hhead
  obtain ⟨hole, hm⟩ := List.exists_mem_of_ne_nil _ (holes_ne_nil_of_vanishes htrimmed hne hv)
  obtain ⟨value, hvalue⟩ := hb condition hc hole hm
  exact ⟨condition, hole, value, hc, hm, hvalue, blank_of_mem_holes hv hm hvalue⟩

end Group

/-- Somewhere an engine is made to test a blank condition: as the condition of a trigger, as a conjunct
of one, or in a header of a merged body. -/
inductive TestsBlank (engine : Engine) : Declaration → Prop
  | condition {d : Declaration} {ts : List Trigger} {t : Trigger} {c : String}
      (hts : engine.triggersOf d = .ok ts) (ht : t ∈ ts) (hc : t.condition = some c)
      (hb : isBlankText c.toList = true) : TestsBlank engine d
  | conjunct {g : Group} {ts : List Trigger} {p : Place} {c : String}
      (hts : engine.triggersOf (.group g) = .ok ts) (hp : p ∈ g.leaves) (ht : g.triggerAt p ∈ ts)
      (hc : c ∈ g.conditionsAlong p.path) (hb : isBlankText c.toList = true) :
      TestsBlank engine (.group g)
  | header {g : Group} {t : Trigger} {choices : List Choice} {choice : Choice} {c : String}
      (he : engine.manyPerSlot = false) (hts : engine.triggersOf (.group g) = .ok [t])
      (hcs : g.choices = .ok choices) (ht : t.body = choiceBody choices) (hm : choice ∈ choices)
      (hc : choice.condition = some c) (hb : isBlankText c.toList = true) :
      TestsBlank engine (.group g)

namespace Group

variable {g : Group} {ts : List Trigger}

lemma exists_vanishing_place_of_trigger (hts : g.triggers = .ok ts) {t : Trigger} (ht : t ∈ ts)
    {c : String} (hc : t.condition = some c) (hb : isBlankText c.toList = true) :
    ∃ p ∈ g.places, g.VanishesAt p.path := by
  rw [eq_of_triggers hts] at ht
  obtain ⟨p, hp, rfl⟩ := List.mem_map.mp ht
  have hsingle := conjunction_blank hc hb
  exact exists_vanishing_place (List.mem_filter.mp hp).1 (hsingle ▸ List.mem_cons_self) hb

lemma exists_trigger_of_vanishesAt (hts : g.triggers = .ok ts) (hn : g.hasNest = false) {p : Place}
    (hp : p ∈ g.places) (hv : g.VanishesAt p.path) : ∃ t ∈ ts, t.condition = some "" := by
  have hms : ∀ m ∈ g.members, m.isNest = false := by simpa [hasNest] using hn
  obtain ⟨head, hpath, hbody⟩ := Member.eq_singleton_of_isNest hms [] 0 p hp
  have hempty := conditionAt_eq_some_empty_iff.mpr hv
  have hone : g.conditionsAlong [head] = (g.conditionAt [head]).toList :=
    g.conditionsAlong_concat [] head
  rw [hpath] at hempty
  rw [eq_of_triggers hts]
  refine ⟨g.triggerAt p, List.mem_map_of_mem (List.mem_filter.mpr ⟨hp, hbody⟩), ?_⟩
  rw [triggerAt, hpath, hone, hempty]
  rfl

end Group

namespace Declaration.Built

variable {g : Group} (hg : (Declaration.group g).Built) {engine : Engine} {ts : List Trigger}
  (h : engine.triggersOf (.group g) = .ok ts)

include hg h

lemma vanishing_place_of_testsBlank (ht : TestsBlank engine (.group g)) :
    ∃ p ∈ g.places, g.VanishesAt p.path := by
  obtain ⟨us, hus⟩ := hg.exists_triggers
  generalize hd : Declaration.group g = d at ht
  cases ht with
  | @condition _ ts' t c hts' ht hc hb =>
    subst hd
    rw [Engine.triggersOf] at hts'
    split at hts'
    · exact Group.exists_vanishing_place_of_trigger hts' ht hc hb
    · obtain ⟨u, hm, rfl⟩ := map_eq_ok_iff.mp hts'
      obtain rfl := List.mem_singleton.mp ht
      have hmerge := Group.merge_of_triggers engine (Group.hasNest_of_merge hm) hus
      obtain rfl := Except.ok.inj (hmerge.symm.trans hm)
      cases hc
  | conjunct hts hp ht hc hb =>
    obtain rfl := Declaration.group.inj hd
    exact Group.exists_vanishing_place (List.mem_filter.mp hp).1 hc hb
  | header he hts hcs ht hm hc hb =>
    obtain rfl := Declaration.group.inj hd
    rw [Engine.triggersOf, if_neg (by simp [he])] at h
    obtain ⟨t, hmerge, -⟩ := map_eq_ok_iff.mp h
    have hchoices := Group.choices_of_triggers (Group.hasNest_of_merge hmerge) hus
    obtain rfl := Except.ok.inj (hchoices.symm.trans hcs)
    obtain ⟨u, hu, rfl⟩ := List.mem_map.mp hm
    exact Group.exists_vanishing_place_of_trigger hus hu hc hb

lemma testsBlank_of_vanishesAt {p : Place} (hp : p ∈ g.places) (hv : g.VanishesAt p.path) :
    TestsBlank engine (.group g) := by
  obtain ⟨us, hus⟩ := hg.exists_triggers
  have hblank : isBlankText "".toList = true := rfl
  by_cases he : engine.manyPerSlot = true
  · obtain ⟨q, hq, hbody, hprefix⟩ :=
      Member.exists_leaf_belowFrom hg.frozen.members [] [] 0 p hp
    have hleaf : q ∈ g.leaves := List.mem_filter.mpr ⟨hq, hbody⟩
    have hempty := Group.conditionAt_eq_some_empty_iff.mpr hv
    have hkept : engine.triggersOf (.group g) = .ok us := by rw [Engine.triggersOf, if_pos he, hus]
    exact .conjunct hkept hleaf (Group.eq_of_triggers hus ▸ List.mem_map_of_mem hleaf)
      (Group.mem_conditionsAlong.mpr ⟨p.path, hprefix, hempty⟩) hblank
  · have hmap := h
    rw [Engine.triggersOf, if_neg he] at hmap
    obtain ⟨t, ht, rfl⟩ := map_eq_ok_iff.mp hmap
    have hn := Group.hasNest_of_merge ht
    have hmerge := Group.merge_of_triggers engine hn hus
    have hbody := congrArg Trigger.body (Except.ok.inj (ht.symm.trans hmerge))
    obtain ⟨u, hu, hc⟩ := Group.exists_trigger_of_vanishesAt hus hn hp hv
    exact .header (by simpa using he) h (Group.choices_of_triggers hn hus) hbody
      (List.mem_map_of_mem hu) hc hblank

omit hg h

/-- A frozen declaration has a blank condition tested if and only if it is a group in which some member's
condition vanishes, and that takes a blank value in one of its holes. -/
theorem testsBlank_iff {d : Declaration} (hd : d.Built) {engine : Engine} {ts : List Trigger}
    (h : engine.triggersOf d = .ok ts) :
    (TestsBlank engine d ↔ ∃ g, d = .group g ∧ ∃ p ∈ g.places, g.VanishesAt p.path) ∧
    ∀ g, d = .group g → ∀ p ∈ g.places, g.VanishesAt p.path → ∃ condition hole value,
      p.path.getLast?.bind MemberHead.condition = some condition ∧ hole ∈ holes condition ∧
        (g.scopeAt p.path).get? hole = some value ∧ isBlankText value.toList = true := by
  rcases hd.cases with ⟨a, t, ht, rfl⟩ | ⟨a, branches, g, hg, rfl⟩
  · have hnone : ∀ g, Declaration.trigger t ≠ .group g := by simp
    refine ⟨iff_of_false (fun hb => ?_) (by simp), fun g hg => absurd hg (hnone g)⟩
    cases hb with
    | condition hts hmem hc hb =>
      obtain rfl := Except.ok.inj hts
      obtain rfl := List.mem_singleton.mp hmem
      simp [freezeTrigger_condition ht _ hc] at hb
  · obtain ⟨us, hus⟩ := hd.exists_triggers
    refine ⟨⟨fun hb => ⟨g, rfl, hd.vanishing_place_of_testsBlank h hb⟩, ?_⟩, ?_⟩
    · rintro ⟨g', hg', p, hp, hv⟩
      obtain rfl := Declaration.group.inj hg'
      exact hd.testsBlank_of_vanishesAt h hp hv
    · rintro g' hg' p hp hv
      obtain rfl := Declaration.group.inj hg'
      exact hd.frozen.exists_blank_value hp (Group.bound_of_triggers hus p hp) hv

end Declaration.Built

def emptyBoundSettings : List Setting :=
  [.name "g", .on "t", .after [.ok .insert],
    .branch [.name "a", .when "\x7bx\x7d", .bind "x" "", .body ["y"]]]

def emptyBound : Group where
  name := some "g"
  table := "t"
  timing := .after
  events := .ofList [.insert]
  columns := []
  granularity := .row
  security := none
  declarations := []
  bindings := .empty
  members := [.leaf ⟨some "a", some "\x7bx\x7d", [], .ofList [("x", "")]⟩ ["y;"]]
  compatibility := 1
  generated := false

lemma emptyBound_built : (Declaration.group emptyBound).Built :=
  ⟨.ofSettings emptyBoundSettings, by rfl⟩

theorem emptyBound_conditions : (Declaration.group emptyBound).Built ∧
    (∀ engine : Engine, engine.manyPerSlot = true → ∃ t,
      engine.triggersOf (.group emptyBound) = .ok [t] ∧ t.condition = some "") ∧
    (∃ t, Engine.inline.triggersOf (.group emptyBound) = .ok [t] ∧
      t.body = ["IF () THEN\n    y;\nEND IF;"]) ∧
    ∀ engine : Engine, TestsBlank engine (.group emptyBound) := by
  have hkept : ∀ engine : Engine, engine.manyPerSlot = true → ∃ t,
      engine.triggersOf (.group emptyBound) = .ok [t] ∧ t.condition = some "" := by
    intro engine he
    rw [Engine.triggersOf, if_pos he]
    exact ⟨_, rfl, rfl⟩
  refine ⟨emptyBound_built, hkept, ⟨_, rfl, by decide +kernel⟩, fun engine => ?_⟩
  by_cases he : engine.manyPerSlot = true
  · obtain ⟨t, ht, hc⟩ := hkept engine he
    exact .condition ht List.mem_cons_self hc rfl
  · have hmerged : ∃ t, engine.triggersOf (.group emptyBound) = .ok [t] ∧
        t.body = choiceBody [⟨some "", ["y;"]⟩] := by
      rw [Engine.triggersOf, if_neg he]
      exact ⟨_, rfl, rfl⟩
    obtain ⟨t, ht, hbody⟩ := hmerged
    have hchoices : emptyBound.choices = .ok [⟨some "", ["y;"]⟩] := rfl
    exact .header (by simpa using he) ht hchoices hbody List.mem_cons_self rfl rfl

theorem testsBlank_iff_bobOrElse : (Declaration.group bobOrElse).Built ∧
    (∃ ts, Engine.inline.triggersOf (.group bobOrElse) = .ok ts) ∧
    ¬ TestsBlank .inline (.group bobOrElse) ∧
    (∃ ts, Engine.inline.triggersOf (.group emptyBound) = .ok ts) ∧
    TestsBlank .inline (.group emptyBound) := by
  obtain ⟨ts, hts⟩ : ∃ ts, Engine.inline.triggersOf (.group bobOrElse) = .ok ts := ⟨_, rfl⟩
  obtain ⟨us, hus⟩ : ∃ us, Engine.inline.triggersOf (.group emptyBound) = .ok us := ⟨_, rfl⟩
  have hnone : ∀ p ∈ bobOrElse.places, bobOrElse.conditionAt p.path ≠ some "" := by decide +kernel
  have hsome : ∃ p ∈ emptyBound.places, emptyBound.conditionAt p.path = some "" := by
    decide +kernel
  refine ⟨bobOrElse_built, ⟨ts, hts⟩, fun hb => ?_, ⟨us, hus⟩, ?_⟩
  · obtain ⟨g, hg, p, hp, hv⟩ := (bobOrElse_built.testsBlank_iff hts).1.mp hb
    obtain rfl := Declaration.group.inj hg
    exact hnone p hp (Group.conditionAt_eq_some_empty_iff.mpr hv)
  · obtain ⟨p, hp, hv⟩ := hsome
    exact (emptyBound_built.testsBlank_iff hus).1.mpr
      ⟨emptyBound, rfl, p, hp, Group.conditionAt_eq_some_empty_iff.mp hv⟩

end SqlTriggers
