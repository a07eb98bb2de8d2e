import SqlTriggers.Migration.Plan
import SqlTriggers.Proofs.Text.Lines
import SqlTriggers.Proofs.Trigger.Checked

/-! A migration of checked triggers can always be named: its name is ASCII, and so the limit does
not fall inside a character. -/

namespace SqlTriggers

open Text

namespace Diff

lemma cutBytes?_eq_take {cs : List Char} (h : ∀ c ∈ cs, isIdentChar c = true) (n : Nat) :
    cutBytes? n cs = some (cs.take n) := by
  induction cs generalizing n with
  | nil => simp [cutBytes?]
  | cons c cs ih =>
    have hc := utf8Size_of_isIdentChar (h c List.mem_cons_self)
    cases n with
    | zero => rfl
    | succ n =>
      rw [cutBytes?, if_neg (Nat.succ_ne_zero n), hc, if_pos (Nat.le_add_left 1 n),
        Nat.add_sub_cancel, ih (fun d hd => h d (List.mem_cons_of_mem _ hd))]
      rfl

variable {d : Diff}

lemma exists_of_mem_nameLists {p : String × List String} (hp : p ∈ d.nameLists) :
    p.1 ∈ ["update", "create", "drop"] ∧
      ∀ n ∈ p.2, ∃ t, (t ∈ d.added ∨ t ∈ d.removed) ∧ t.name = n := by
  simp only [nameLists, List.mem_cons, List.not_mem_nil, or_false] at hp
  rcases hp with rfl | rfl | rfl
  · refine ⟨by simp, fun n hn => ?_⟩
    obtain ⟨q, hq, rfl⟩ := List.mem_map.mp hn
    obtain ⟨t, ht, hm⟩ := List.mem_filterMap.mp hq
    obtain ⟨u, -, rfl⟩ := Option.map_eq_some_iff.mp hm
    exact ⟨t, .inr ht, rfl⟩
  · refine ⟨by simp, fun n hn => ?_⟩
    obtain ⟨t, ht, rfl⟩ := List.mem_map.mp (List.mem_of_mem_filter hn)
    exact ⟨t, .inl ht, rfl⟩
  · refine ⟨by simp, fun n hn => ?_⟩
    obtain ⟨t, ht, rfl⟩ := List.mem_map.mp (List.mem_of_mem_filter hn)
    exact ⟨t, .inr ht, rfl⟩

lemma isIdentChar_of_mem_nameClause {verb : String} {names : List String} {c : Char}
    (hv : verb ∈ ["update", "create", "drop"])
    (hn : ∀ n ∈ names, ∀ c ∈ n.toList, isIdentChar c = true)
    (h : c ∈ (nameClause verb names).toList) : isIdentChar c = true := by
  simp only [nameClause, String.toList_append, String.toList_intercalate, List.mem_append] at h
  rcases h with (h | h) | h
  · have hall : ∀ v ∈ ["update", "create", "drop"], v.toList.all isIdentChar = true := by decide
    exact List.all_eq_true.mp (hall verb hv) c h
  · split_ifs at h
    · exact List.all_eq_true.mp (by decide) c h
    · exact List.all_eq_true.mp (by decide) c h
  · rcases mem_intercalate h with h | ⟨l, hl, h⟩
    · exact List.all_eq_true.mp (by decide) c h
    · obtain ⟨n, hm, rfl⟩ := List.mem_map.mp hl
      exact hn n hm c h

lemma isIdentChar_of_mem_fullName (ha : ∀ t ∈ d.added, t.Checked) (hr : ∀ t ∈ d.removed, t.Checked)
    {c : Char} (h : c ∈ d.fullName.toList) : isIdentChar c = true := by
  rw [fullName, String.toList_intercalate] at h
  rcases mem_intercalate h with h | ⟨l, hl, h⟩
  · exact List.all_eq_true.mp (by decide) c h
  · obtain ⟨clause, hc, rfl⟩ := List.mem_map.mp hl
    obtain ⟨p, hp, rfl⟩ := List.mem_map.mp hc
    obtain ⟨hv, hn⟩ := exists_of_mem_nameLists (List.mem_of_mem_filter hp)
    refine isIdentChar_of_mem_nameClause hv (fun n hm => ?_) h
    obtain ⟨t, ht, rfl⟩ := hn n hm
    rcases ht with ht | ht
    · exact (ha t ht).isIdentifier.chars
    · exact (hr t ht).isIdentifier.chars

def shortName (d : Diff) : List Char :=
  dropEndWhile (· = '_') (d.fullName.toList.take migrationNameLimit)

lemma migrationName_eq (ha : ∀ t ∈ d.added, t.Checked) (hr : ∀ t ∈ d.removed, t.Checked) :
    d.migrationName = some (if d.nameLists.all fun p => p.2.isEmpty then "noop"
      else String.ofList d.shortName) := by
  rw [migrationName]
  split
  · rfl
  · rw [cutBytes?_eq_take fun c hc => isIdentChar_of_mem_fullName ha hr hc]
    rfl

lemma exists_migrationName_eq (ha : ∀ t ∈ d.added, t.Checked) (hr : ∀ t ∈ d.removed, t.Checked) :
    ∃ name, d.migrationName = some name :=
  ⟨_, migrationName_eq ha hr⟩

end Diff

lemma Plan.exists_toMigration?_eq (engine : Engine) {d : Diff} (ha : ∀ t ∈ d.added, t.Checked)
    (hr : ∀ t ∈ d.removed, t.Checked) (version : UInt64) :
    ∃ name, (Plan.ofDiff engine d).toMigration? version = some
      (Migration.ofOperations version name engine (Plan.ofDiff engine d).operations) := by
  obtain ⟨name, hn⟩ := Diff.exists_migrationName_eq ha hr
  refine ⟨name, ?_⟩
  rw [toMigration?, ofDiff, hn]
  rfl

end SqlTriggers
