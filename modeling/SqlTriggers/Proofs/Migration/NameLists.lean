import SqlTriggers.Proofs.Declaration.Built
import SqlTriggers.Proofs.Migration.Name
import SqlTriggers.Proofs.Migration.Plan
import SqlTriggers.Proofs.Text.Blank

/-! What a migration's name says about its diff. Updates are found by identity, but all other
changes by name alone: a trigger with the name of an updated one is left out, whatever its table. -/

namespace SqlTriggers

open Text

namespace Diff

def hasPartner (ts : List Trigger) (t : Trigger) : Bool :=
  ts.any fun u => u.identity = t.identity

section Lists

variable (d : Diff)

def updated : List Trigger := d.removed.filter (hasPartner d.added)

def created : List Trigger := d.added.filter fun t => !hasPartner d.removed t

def dropped : List Trigger := d.removed.filter fun t => !hasPartner d.added t

def account : List (String × List String) :=
  [("update", d.updated.map Trigger.name), ("create", d.created.map Trigger.name),
    ("drop", d.dropped.map Trigger.name)]

def isVisible (t : Trigger) : Bool :=
  !(d.updated.map Trigger.name).contains t.name

variable {d} {t u : Trigger} {ts us : List Trigger}

lemma hasPartner_iff : hasPartner ts t = true ↔ ∃ u ∈ ts, u.identity = t.identity := by
  simp [hasPartner]

lemma isVisible_iff : d.isVisible t = true ↔ ∀ u ∈ d.updated, u.name ≠ t.name := by
  simp [isVisible]

lemma key_eq_of_identity_eq (h : t.identity = u.identity) : t.key = u.key :=
  congrArg (fun i : Identity => TriggerKey.mk i.table i.name) h

lemma map_replaced (d : Diff) :
    d.replaced.map (fun p => p.1.name) = d.updated.map Trigger.name := by
  rw [replaced, updated]
  generalize d.removed = ts
  induction ts with
  | nil => rfl
  | cons t ts ih =>
    rw [List.filterMap_cons, List.filter_cons]
    cases hf : d.added.find? fun u => u.identity = t.identity with
    | none =>
      have hnone : hasPartner d.added t = false := by
        simpa [hasPartner] using hf
      rw [hnone]
      exact ih
    | some u =>
      have hsome : hasPartner d.added t = true :=
        hasPartner_iff.mpr ⟨u, List.mem_of_find?_eq_some hf, by simpa using List.find?_some hf⟩
      rw [hsome]
      exact congrArg (t.name :: ·) ih

lemma filter_isVisible (h : ∀ t ∈ ts, hasPartner us t = true → ∃ u ∈ d.updated, u.name = t.name) :
    ts.filter d.isVisible = (ts.filter fun t => !hasPartner us t).filter d.isVisible := by
  rw [List.filter_filter]
  refine List.filter_congr fun t ht => ?_
  cases hp : hasPartner us t with
  | false => simp
  | true =>
    obtain ⟨u, hu, hn⟩ := h t ht hp
    have hhidden : d.isVisible t = false :=
      Bool.eq_false_iff.mpr fun hv => isVisible_iff.mp hv u hu hn
    simp [hhidden]

lemma nameLists_eq (d : Diff) : d.nameLists = [("update", d.updated.map Trigger.name),
    ("create", (d.created.filter d.isVisible).map Trigger.name),
    ("drop", (d.dropped.filter d.isVisible).map Trigger.name)] := by
  have hothers : ∀ ts : List Trigger,
      (ts.map Trigger.name).filter (fun n => !(d.updated.map Trigger.name).contains n) =
        (ts.filter d.isVisible).map Trigger.name := fun ts => List.filter_map
  have hadded : d.added.filter d.isVisible = d.created.filter d.isVisible := by
    refine filter_isVisible fun t ht hp => ?_
    obtain ⟨u, hu, hi⟩ := hasPartner_iff.mp hp
    have hup : u ∈ d.updated := List.mem_filter.mpr ⟨hu, hasPartner_iff.mpr ⟨t, ht, hi.symm⟩⟩
    exact ⟨u, hup, congrArg Identity.name hi⟩
  have hremoved : d.removed.filter d.isVisible = d.dropped.filter d.isVisible :=
    filter_isVisible fun t ht hp => ⟨t, List.mem_filter.mpr ⟨ht, hp⟩, rfl⟩
  simp only [nameLists, map_replaced, hothers, hadded, hremoved]

lemma map_filter_eq_map_iff {p : Trigger → Bool} :
    (ts.filter p).map Trigger.name = ts.map Trigger.name ↔ ∀ t ∈ ts, p t = true := by
  constructor
  · intro h
    have hlen := congrArg List.length h
    rw [List.length_map, List.length_map] at hlen
    exact List.length_filter_eq_length_iff.mp hlen
  · exact fun h => by rw [List.filter_eq_self.mpr h]

lemma nameLists_eq_account_iff : d.nameLists = d.account ↔
    ∀ t ∈ d.created ++ d.dropped, d.isVisible t = true := by
  rw [nameLists_eq, account, List.forall_mem_append]
  simp [map_filter_eq_map_iff]

lemma isEmpty_iff_account :
    d.isEmpty = true ↔ d.updated = [] ∧ d.created = [] ∧ d.dropped = [] := by
  rw [isEmpty, Bool.and_eq_true, List.isEmpty_iff, List.isEmpty_iff]
  constructor
  · rintro ⟨ha, hr⟩
    simp [updated, created, dropped, ha, hr]
  · rintro ⟨hu, hc, hd⟩
    have hremoved : d.removed = [] := by
      refine List.eq_nil_iff_forall_not_mem.mpr fun t ht => ?_
      have hpartner := List.filter_eq_nil_iff.mp hu t ht
      simpa [hpartner] using List.filter_eq_nil_iff.mp hd t ht
    rw [created, hremoved] at hc
    exact ⟨by simpa [hasPartner] using hc, hremoved⟩

lemma all_isEmpty_nameLists (d : Diff) :
    (d.nameLists.all fun p => p.2.isEmpty) = d.isEmpty := by
  refine Bool.eq_iff_iff.mpr ?_
  rw [isEmpty_iff_account, nameLists_eq]
  simp only [List.all_cons, List.all_nil, Bool.and_true, Bool.and_eq_true, List.isEmpty_iff,
    List.map_eq_nil_iff]
  refine and_congr_right fun hu => ?_
  have hvisible : ∀ t, d.isVisible t = true := fun t =>
    isVisible_iff.mpr fun u hm => absurd (hu ▸ hm) List.not_mem_nil
  have hall : ∀ ts : List Trigger, ts.filter d.isVisible = ts := fun ts =>
    List.filter_eq_self.mpr fun t _ => hvisible t
  rw [hall, hall]

lemma table_ne_of_hidden (ha : (d.added.map Trigger.key).Nodup)
    (hr : (d.removed.map Trigger.key).Nodup) (ht : t ∈ d.updated)
    (hu : u ∈ d.created ++ d.dropped) (hn : t.name = u.name) : t.table ≠ u.table := by
  intro htable
  have hkey : t.key = u.key := congrArg₂ TriggerKey.mk htable hn
  obtain ⟨htr, hp⟩ := List.mem_filter.mp ht
  obtain ⟨v, hv, hi⟩ := hasPartner_iff.mp hp
  rcases List.mem_append.mp hu with hu | hu
  · obtain ⟨hua, hnone⟩ := List.mem_filter.mp hu
    obtain rfl : v = u := eq_of_key_eq ha hv hua ((key_eq_of_identity_eq hi).trans hkey)
    rw [hasPartner_iff.mpr ⟨t, htr, hi.symm⟩] at hnone
    exact Bool.noConfusion hnone
  · obtain ⟨hur, hnone⟩ := List.mem_filter.mp hu
    obtain rfl : t = u := eq_of_key_eq hr htr hur hkey
    rw [hp] at hnone
    exact Bool.noConfusion hnone

end Lists

section Name

variable {d : Diff}

lemma exists_prefix_fullName (h : d.isEmpty = false) :
    ∃ v ∈ ["update", "create", "drop"], v.toList <+: d.fullName.toList := by
  rw [← all_isEmpty_nameLists, List.all_eq_false] at h
  obtain ⟨p, hp, hne⟩ := h
  have hfull : p ∈ d.nameLists.filter fun p => !p.2.isEmpty :=
    List.mem_filter.mpr ⟨hp, by simpa using hne⟩
  obtain ⟨q, qs, hq⟩ := List.exists_cons_of_ne_nil (List.ne_nil_of_mem hfull)
  have hmem : q ∈ d.nameLists := List.mem_of_mem_filter (hq ▸ List.mem_cons_self)
  refine ⟨q.1, (exists_of_mem_nameLists hmem).1, ?_⟩
  rw [fullName, hq, List.map_cons, String.toList_intercalate, List.map_cons,
    intercalate_cons_eq_append, nameClause, String.toList_append, String.toList_append,
    List.append_assoc, List.append_assoc]
  exact List.prefix_append _ _

lemma prefix_shortName (d : Diff) : d.shortName <+: d.fullName.toList :=
  (prefix_dropEndWhile _ _).trans (List.take_prefix _ _)

lemma shortName_ne_noop (h : d.isEmpty = false) : d.shortName ≠ "noop".toList := by
  obtain ⟨v, hv, hprefix⟩ := exists_prefix_fullName h
  have hverbs : ∀ v ∈ ["update", "create", "drop"],
      "noop".toList.length ≤ v.toList.length ∧ ¬ "noop".toList <+: v.toList := by decide
  obtain ⟨hlen, hno⟩ := hverbs v hv
  intro hnoop
  exact hno (List.prefix_of_prefix_length_le (hnoop ▸ prefix_shortName d) hprefix hlen)

lemma utf8ByteSize_shortName_le (ha : ∀ t ∈ d.added, t.Checked) (hr : ∀ t ∈ d.removed, t.Checked) :
    (String.ofList d.shortName).utf8ByteSize ≤ migrationNameLimit := by
  have hchars : ∀ c ∈ d.shortName, isIdentChar c = true := fun c hc =>
    isIdentChar_of_mem_fullName ha hr ((prefix_shortName d).subset hc)
  rw [utf8ByteSize_of_isIdentChar hchars]
  exact (prefix_dropEndWhile _ _).length_le.trans (List.length_take_le _ _)

lemma getLast?_shortName_ne (d : Diff) : d.shortName.getLast? ≠ some '_' := by
  intro h
  simpa using getLast?_dropEndWhile _ h

lemma exists_migrationName (ha : ∀ t ∈ d.added, t.Checked) (hr : ∀ t ∈ d.removed, t.Checked) :
    ∃ name, d.migrationName = some name ∧ name.utf8ByteSize ≤ migrationNameLimit ∧
      name.toList.getLast? ≠ some '_' ∧ (name = "noop" ↔ d.isEmpty = true) ∧
      (d.isEmpty = false → name.toList = d.shortName) := by
  have hname := migrationName_eq ha hr
  rw [all_isEmpty_nameLists] at hname
  cases he : d.isEmpty with
  | true =>
    rw [he, if_pos rfl] at hname
    exact ⟨"noop", hname, by decide, by decide, iff_of_true rfl rfl, nofun⟩
  | false =>
    rw [he, if_neg Bool.noConfusion] at hname
    refine ⟨_, hname, utf8ByteSize_shortName_le ha hr, ?_, iff_of_false (fun h => ?_)
      Bool.noConfusion, fun _ => String.toList_ofList⟩
    · rw [String.toList_ofList]
      exact getLast?_shortName_ne d
    · exact shortName_ne_noop he (by rw [← h, String.toList_ofList])

end Name

theorem migrationName_accounts (engine : Engine) {declared applied : List Trigger}
    (hd : (declared.map Trigger.key).Nodup) (ha : (applied.map Trigger.key).Nodup)
    (cd : ∀ t ∈ declared, t.Checked) (ca : ∀ a ∈ applied, a.Checked) :
    let d := between engine declared applied
    (∃ name, d.migrationName = some name ∧ name.utf8ByteSize ≤ migrationNameLimit ∧
        name.toList.getLast? ≠ some '_' ∧ (name = "noop" ↔ d.isEmpty = true) ∧
        (d.isEmpty = false → name.toList = d.shortName)) ∧
      d.nameLists = [("update", d.updated.map Trigger.name),
        ("create", (d.created.filter d.isVisible).map Trigger.name),
        ("drop", (d.dropped.filter d.isVisible).map Trigger.name)] ∧
      (d.nameLists = d.account ↔
        ∀ t ∈ d.updated, ∀ u ∈ d.created ++ d.dropped, t.name ≠ u.name) ∧
      ∀ t ∈ d.updated, ∀ u ∈ d.created ++ d.dropped, t.name = u.name → t.table ≠ u.table := by
  intro d
  have hname := exists_migrationName (d := d) (fun t ht => checked_of_mem_added cd ht)
    fun t ht => ca t (mem_applied_of_mem_removed ht)
  have haccount : d.nameLists = d.account ↔
      ∀ t ∈ d.updated, ∀ u ∈ d.created ++ d.dropped, t.name ≠ u.name := by
    simp only [nameLists_eq_account_iff, isVisible_iff]
    exact ⟨fun h t ht u hu => h u hu t ht, fun h u hu t ht => h t ht u hu⟩
  have hadded := nodup_of_sorted (added_sorted engine applied hd)
  have hremoved := nodup_of_sorted (removed_sorted engine declared ha)
  exact ⟨hname, nameLists_eq d, haccount, fun t ht u hu => table_ne_of_hidden hadded hremoved ht hu⟩

def bobLike (name table statement : String) : Trigger :=
  { bobCounter statement 1 true with name := name, table := table }

lemma bobLike_built : ∀ e ∈ [("a_tr", "users", "SELECT 1;"), ("a_tr", "users", "SELECT 2;"),
      ("b_tr", "users", "SELECT 1;"), ("c_tr", "users", "SELECT 1;"),
      ("a_tr", "groups", "SELECT 1;")],
    (Declaration.trigger (bobLike e.1 e.2.1 e.2.2)).Built := by
  intro e he
  refine ⟨.ofSettings (bobCounterSettings e.2.2 ++ [.name e.1, .on e.2.1]), ?_⟩
  simp only [List.mem_cons, List.not_mem_nil, or_false] at he
  rcases he with rfl | rfl | rfl | rfl | rfl <;> rfl

lemma between_oneTable : between .lightweight
    [bobLike "a_tr" "users" "SELECT 2;", bobLike "b_tr" "users" "SELECT 1;"]
    [bobLike "a_tr" "users" "SELECT 1;", bobLike "c_tr" "users" "SELECT 1;"] =
      ⟨[bobLike "a_tr" "users" "SELECT 2;", bobLike "b_tr" "users" "SELECT 1;"],
        [bobLike "a_tr" "users" "SELECT 1;", bobLike "c_tr" "users" "SELECT 1;"]⟩ := by
  rfl

theorem migrationName_accounts_oneTable :
    let declared := [bobLike "a_tr" "users" "SELECT 2;", bobLike "b_tr" "users" "SELECT 1;"]
    let applied := [bobLike "a_tr" "users" "SELECT 1;", bobLike "c_tr" "users" "SELECT 1;"]
    let d := between .lightweight declared applied
    (declared.map Trigger.key).Nodup ∧ (applied.map Trigger.key).Nodup ∧
      (∀ t ∈ declared, t.Checked) ∧ (∀ a ∈ applied, a.Checked) ∧ d.nameLists = d.account ∧
      d.migrationName =
        some "update_trigger_a_tr_and_create_trigger_b_tr_and_drop_trigger_c_tr" := by
  intro declared applied d
  have hbuilt : ∀ t ∈ declared ++ applied, (Declaration.trigger t).Built := by
    simp only [declared, applied, List.cons_append, List.nil_append, List.forall_mem_cons]
    exact ⟨bobLike_built (_, _, _) (by simp), bobLike_built (_, _, _) (by simp),
      bobLike_built (_, _, _) (by simp), bobLike_built (_, _, _) (by simp),
      fun t ht => absurd ht List.not_mem_nil⟩
  have hchecked : ∀ t ∈ declared ++ applied, t.Checked := by
    intro t ht
    have hone : Engine.lightweight.triggersOf (.trigger t) = .ok [t] := rfl
    exact ((hbuilt t ht).triggersOf hone t List.mem_cons_self).1
  obtain ⟨cd, ca⟩ := List.forall_mem_append.mp hchecked
  have hd : (declared.map Trigger.key).Nodup := by decide
  have ha : (applied.map Trigger.key).Nodup := by decide
  obtain ⟨-, -, haccount, -⟩ := migrationName_accounts .lightweight hd ha cd ca
  refine ⟨hd, ha, cd, ca, haccount.mpr ?_, ?_⟩
  · rw [show between .lightweight declared applied = _ from between_oneTable]
    decide
  · rw [show d = _ from between_oneTable]
    decide

lemma between_twoTables : between .lightweight
    [bobLike "a_tr" "users" "SELECT 2;", bobLike "a_tr" "groups" "SELECT 1;"]
    [bobLike "a_tr" "users" "SELECT 1;"] =
      ⟨[bobLike "a_tr" "groups" "SELECT 1;", bobLike "a_tr" "users" "SELECT 2;"],
        [bobLike "a_tr" "users" "SELECT 1;"]⟩ := by
  rfl

/-- The edit on one table hides the new trigger on the other. -/
theorem update_hides_create :
    let declared := [bobLike "a_tr" "users" "SELECT 2;", bobLike "a_tr" "groups" "SELECT 1;"]
    let applied := [bobLike "a_tr" "users" "SELECT 1;"]
    let d := between .lightweight declared applied
    (∀ t ∈ declared ++ applied, (Declaration.trigger t).Built) ∧
      (declared.map Trigger.key).Nodup ∧ (applied.map Trigger.key).Nodup ∧
      d.created = [bobLike "a_tr" "groups" "SELECT 1;"] ∧
      d.migrationName = some "update_trigger_a_tr" ∧ d.nameLists ≠ d.account := by
  intro declared applied d
  have hbuilt : ∀ t ∈ declared ++ applied, (Declaration.trigger t).Built := by
    simp only [declared, applied, List.cons_append, List.nil_append, List.forall_mem_cons]
    exact ⟨bobLike_built (_, _, _) (by simp), bobLike_built (_, _, _) (by simp),
      bobLike_built (_, _, _) (by simp), fun t ht => absurd ht List.not_mem_nil⟩
  have hdiff : d = _ := between_twoTables
  refine ⟨hbuilt, by decide, by decide, ?_⟩
  rw [hdiff]
  decide

end Diff

end SqlTriggers
