import SqlTriggers.Engine.Clauses
import SqlTriggers.Proofs.Identifier
import SqlTriggers.Proofs.Text.Lines

/-! Triggers whose names, table, columns and account are such as a declaration may have. Their
headline is one line, and one that tells the table and the name. -/

namespace SqlTriggers

open Text

structure Trigger.Checked (t : Trigger) : Prop where
  name : checkIdentifier "trigger name" t.name = .ok ()
  table : checkTableName t.table = .ok ()
  columns : ∀ c ∈ t.columns, checkColumnName c = .ok ()
  principal : ∀ account, t.security = some (.principal account) → checkPrincipal account = .ok ()

namespace Trigger.Checked

variable {t u : Trigger}

lemma isIdentifier (h : t.Checked) : IsIdentifier t.name.toList :=
  (checkIdentifier_eq_ok_iff _ _).mp h.name

lemma isTableName (h : t.Checked) : IsTableName t.table.toList :=
  (checkTableName_eq_ok_iff _).mp h.table

lemma isToken (h : t.Checked) {account : String} (ha : t.security = some (.principal account)) :
    IsToken account.toList :=
  (checkPrincipal_eq_ok_iff _).mp (h.principal account ha)

lemma notMem_name (h : t.Checked) {c : Char} (hc : isIdentChar c = false) : c ∉ t.name.toList :=
  fun hm => ne_of_isIdentChar (h.isIdentifier.chars c hm) hc rfl

lemma trimmed_name (h : t.Checked) : trimmed t.name = t.name := by
  have hblank : ∀ c ∈ t.name.toList, isBlank c = false :=
    fun c hc => isBlank_of_isIdentChar (h.isIdentifier.chars c hc)
  rw [trimmed, trim_of_forall hblank, String.ofList_toList]

lemma notMem_table (h : t.Checked) {c : Char} (hc : isTableChar c = false) :
    c ∉ t.table.toList := by
  intro hm
  simp [h.isTableName.chars c hm] at hc

lemma notMem_column (h : t.Checked) {s : String} (hs : s ∈ t.columns) {c : Char}
    (hc : isIdentChar c = false) : c ∉ s.toList :=
  fun hm => ne_of_isIdentChar
    (((checkIdentifier_eq_ok_iff _ _).mp (h.columns s hs)).chars c hm) hc rfl

lemma withCompatibility (h : t.Checked) (c : UInt32) : (t.withCompatibility c).Checked :=
  ⟨h.name, h.table, h.columns, h.principal⟩

lemma newline_notMem_eventText (h : t.Checked) (e : Event) : '\n' ∉ (t.eventText e).toList := by
  cases e with
  | update =>
    simp only [eventText]
    split
    · decide
    · simp only [String.toList_append, String.toList_intercalate, List.mem_append, not_or]
      refine ⟨by decide, fun hm => ?_⟩
      rcases mem_intercalate hm with hm | ⟨l, hl, hm⟩
      · exact absurd hm (by decide)
      · obtain ⟨s, hs, rfl⟩ := List.mem_map.mp hl
        exact h.notMem_column hs (by decide) hm
  | insert => simp [eventText, Event.sql]
  | delete => simp [eventText, Event.sql]
  | truncate => simp [eventText, Event.sql]

lemma newline_notMem_eventList (h : t.Checked) : '\n' ∉ t.eventList.toList := by
  intro hm
  rw [eventList, String.toList_intercalate] at hm
  rcases mem_intercalate hm with hm | ⟨l, hl, hm⟩
  · exact absurd hm (by decide)
  · obtain ⟨s, hs, rfl⟩ := List.mem_map.mp hl
    obtain ⟨e, _, rfl⟩ := List.mem_map.mp hs
    exact h.newline_notMem_eventText e hm

lemma newline_notMem_headline (h : t.Checked) : '\n' ∉ t.headline.toList := by
  have ht : '\n' ∉ t.timing.sql.toList := by cases t.timing <;> decide
  simp only [headline, String.toList_append, List.mem_append, not_or]
  exact ⟨⟨⟨⟨⟨⟨h.notMem_name (by decide), by decide⟩, ht⟩, by decide⟩,
    h.newline_notMem_eventList⟩, by decide⟩, h.notMem_table (by decide)⟩

lemma exists_headline_eq_name (t : Trigger) :
    ∃ rest, t.headline.toList = t.name.toList ++ ' ' :: rest :=
  ⟨(t.timing.sql ++ " " ++ t.eventList ++ " ON " ++ t.table).toList, by simp [headline]⟩

lemma exists_headline_eq_table (t : Trigger) :
    ∃ front, t.headline.toList = front ++ ' ' :: t.table.toList :=
  ⟨(t.name ++ " " ++ t.timing.sql ++ " " ++ t.eventList ++ " ON").toList, by simp [headline]⟩

lemma key_eq_of_headline_eq (ht : t.Checked) (hu : u.Checked) (h : t.headline = u.headline) :
    t.key = u.key := by
  obtain ⟨m, hm⟩ := exists_headline_eq_name t
  obtain ⟨n, hn⟩ := exists_headline_eq_name u
  obtain ⟨f, hf⟩ := exists_headline_eq_table t
  obtain ⟨g, hg⟩ := exists_headline_eq_table u
  have hb : isIdentChar ' ' = false := by decide
  have hc : isTableChar ' ' = false := by decide
  have hn' : t.name.toList ++ ' ' :: m = u.name.toList ++ ' ' :: n := by rw [← hm, ← hn, h]
  have ht' : f ++ ' ' :: t.table.toList = g ++ ' ' :: u.table.toList := by rw [← hf, ← hg, h]
  have hname := (cut_unique (ht.notMem_name hb) (hu.notMem_name hb) hn').1
  have htable := (cut_unique_last (ht.notMem_table hc) (hu.notMem_table hc) ht').2
  rw [key, key, String.toList_inj.mp hname, String.toList_inj.mp htable]

end Trigger.Checked

def bobCounter (statement : String) (compatibility : UInt32) (generated : Bool) : Trigger where
  name := "bob_tr"
  table := "users"
  timing := .after
  events := ⟨true, false, false, false⟩
  columns := []
  granularity := .row
  condition := some "NEW.name = 'bob'"
  security := none
  declarations := []
  body := [statement]
  compatibility := compatibility
  generated := generated

lemma bobCounter_checked (statement : String) (compatibility : UInt32) (generated : Bool) :
    (bobCounter statement compatibility generated).Checked := by
  have hn : checkIdentifier "trigger name" "bob_tr" = .ok () := by decide
  have ht : checkTableName "users" = .ok () := by decide
  exact ⟨hn, ht, by simp [bobCounter], by simp [bobCounter]⟩

def counter (name statement : String) (generated : Bool) : Trigger :=
  { bobCounter statement 1 generated with name := name }

end SqlTriggers
