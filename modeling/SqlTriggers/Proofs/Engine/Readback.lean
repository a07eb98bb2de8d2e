import SqlTriggers.Proofs.Catalog.Execution
import SqlTriggers.Proofs.Declaration.Built

/-! The first line of the statement that creates a trigger, read back from left to right. -/

namespace SqlTriggers

open Text

def cutAtSpaces (line : List Char) : List String := (line.splitOn ' ').map String.ofList

def Timing.ofSql? (s : String) : Option Timing := Timing.all.find? fun t => t.sql = s

def Event.ofSql? (s : String) : Option Event := Event.all.find? fun e => e.sql = s

structure Headline where
  name : String
  timing : Timing
  events : List Event
  columns : List String
  table : String
  deriving DecidableEq, Repr

namespace Headline

inductive Expected where
  | event
  | column
  | link

/-- Reads on from the timing. A comma after a column stands for one more column, so that a column may
have the name of any word that links. -/
def readOn? (h : Headline) : Expected → List String → Option Headline
  | _, [] => none
  | .event, w :: ws => do
    let event ← Event.ofSql? w
    readOn? { h with events := h.events ++ [event] } .link ws
  | .column, w :: ws =>
    if w.toList.getLast? = some ',' then
      readOn? { h with columns := h.columns ++ [String.ofList w.toList.dropLast] } .column ws
    else readOn? { h with columns := h.columns ++ [w] } .link ws
  | .link, w :: ws =>
    if w = "OF" then h.readOn? .column ws
    else if w = "OR" then h.readOn? .event ws
    else if w = "ON" then ws.head?.map fun table => { h with table := table }
    else none

def readNamed? (name timing : String) (ws : List String) : Option Headline := do
  let timing ← Timing.ofSql? timing
  readOn? ⟨name, timing, [], [], ""⟩ .event ws

def read? (line : List Char) : Option Headline :=
  match cutAtSpaces line with
  | "CREATE" :: "TRIGGER" :: name :: timing :: ws => readNamed? name timing ws
  | "CREATE" :: "DEFINER" :: "=" :: _ :: "TRIGGER" :: name :: timing :: ws => readNamed? name timing ws
  | _ => none

lemma cutAtSpaces_of_notMem {w : String} (h : ' ' ∉ w.toList) : cutAtSpaces w.toList = [w] := by
  rw [cutAtSpaces, List.splitOn_eq_singleton h, List.map_singleton, String.ofList_toList]

lemma cutAtSpaces_append (w : String) (rest : List Char) (h : ' ' ∉ w.toList) :
    cutAtSpaces (w.toList ++ ' ' :: rest) = w :: cutAtSpaces rest := by
  rw [cutAtSpaces, List.splitOn_append_cons_self, List.map_append, ← cutAtSpaces, ← cutAtSpaces,
    cutAtSpaces_of_notMem h, List.singleton_append]

section Reading

variable {h : Headline} {rest : List Char}

lemma readOn?_last_column {c : String} (hc : checkColumnName c = .ok ()) :
    h.readOn? .column (cutAtSpaces (c.toList ++ ' ' :: rest)) =
      readOn? { h with columns := h.columns ++ [c] } .link (cutAtSpaces rest) := by
  have hident := ((checkIdentifier_eq_ok_iff _ _).mp hc).chars
  have hblank : ' ' ∉ c.toList := fun hm => ne_of_isIdentChar (hident _ hm) (by decide) rfl
  have hcomma : c.toList.getLast? ≠ some ',' := fun hl =>
    ne_of_isIdentChar (hident _ (List.mem_of_getLast? hl)) (by decide) rfl
  rw [cutAtSpaces_append c rest hblank, readOn?, if_neg hcomma]

lemma readOn?_next_column {c : String} (hc : checkColumnName c = .ok ()) :
    h.readOn? .column (cutAtSpaces (c.toList ++ ", ".toList ++ rest)) =
      readOn? { h with columns := h.columns ++ [c] } .column (cutAtSpaces rest) := by
  have hident := ((checkIdentifier_eq_ok_iff _ _).mp hc).chars
  have hblank : ' ' ∉ (c ++ ",").toList := by
    simpa using fun hm => ne_of_isIdentChar (hident _ hm) (by decide) rfl
  have hword : c.toList ++ ", ".toList ++ rest = (c ++ ",").toList ++ ' ' :: rest := by simp
  have hcomma : (c ++ ",").toList.getLast? = some ',' := by simp
  have hcolumn : String.ofList (c ++ ",").toList.dropLast = c := by simp
  rw [hword, cutAtSpaces_append _ rest hblank, readOn?, if_pos hcomma, hcolumn]

lemma readOn?_columns {c : String} {cs : List String}
    (hc : ∀ x ∈ c :: cs, checkColumnName x = .ok ()) :
    h.readOn? .column (cutAtSpaces (c.toList ++ (Trigger.columnsBehind cs ++ ' ' :: rest))) =
      readOn? { h with columns := h.columns ++ c :: cs } .link (cutAtSpaces rest) := by
  induction cs generalizing h c with
  | nil => exact readOn?_last_column (hc c List.mem_cons_self)
  | cons d cs ih =>
    obtain ⟨hfirst, hothers⟩ := List.forall_mem_cons.mp hc
    have hwords : c.toList ++ (Trigger.columnsBehind (d :: cs) ++ ' ' :: rest) =
        c.toList ++ ", ".toList ++ (d.toList ++ (Trigger.columnsBehind cs ++ ' ' :: rest)) := by
      simp [Trigger.columnsBehind]
    rw [hwords, readOn?_next_column hfirst, ih hothers, List.append_assoc, List.singleton_append]

variable {t : Trigger}

def columnsWith (t : Trigger) (e : Event) : List String := if e = .update then t.columns else []

lemma readOn?_event (ht : t.Checked) (e : Event) :
    h.readOn? .event (cutAtSpaces ((t.eventText e).toList ++ ' ' :: rest)) =
      readOn? { h with events := h.events ++ [e], columns := h.columns ++ columnsWith t e } .link
        (cutAtSpaces rest) := by
  have hword : ∀ rest : List Char, h.readOn? .event (cutAtSpaces (e.sql.toList ++ ' ' :: rest)) =
      readOn? { h with events := h.events ++ [e] } .link (cutAtSpaces rest) := by
    intro rest
    have hblank : ' ' ∉ e.sql.toList := by cases e <;> decide
    have hread : Event.ofSql? e.sql = some e := by cases e <;> decide
    rw [cutAtSpaces_append e.sql rest hblank, readOn?, hread]
    rfl
  by_cases he : e = .update
  · subst he
    cases hc : t.columns with
    | nil =>
      rw [Trigger.eventText_update_of_nil hc, columnsWith, if_pos rfl, hc, List.append_nil]
      exact hword rest
    | cons c cs =>
      have hof : (t.eventText .update).toList ++ ' ' :: rest = Event.update.sql.toList ++ ' ' ::
          ("OF".toList ++ ' ' :: (c.toList ++ (Trigger.columnsBehind cs ++ ' ' :: rest))) := by
        simp [Trigger.eventText_update_of_cons hc, Event.sql]
      rw [hof, hword, cutAtSpaces_append "OF" _ (by decide), readOn?, if_pos rfl,
        readOn?_columns (hc ▸ ht.columns), columnsWith, if_pos rfl, hc]
  · rw [Trigger.eventText_of_ne he, hword, columnsWith, if_neg he, List.append_nil]

lemma readOn?_events (ht : t.Checked) (e : Event) (es : List Event) :
    h.readOn? .event (cutAtSpaces ((t.eventText e).toList ++ (t.eventsBehind es ++ ' ' :: rest))) =
      readOn? { h with
        events := h.events ++ e :: es
        columns := h.columns ++ (e :: es).flatMap (columnsWith t) } .link (cutAtSpaces rest) := by
  induction es generalizing h e with
  | nil => simpa [Trigger.eventsBehind] using readOn?_event ht e
  | cons f es ih =>
    have hor : (t.eventText e).toList ++ (t.eventsBehind (f :: es) ++ ' ' :: rest) =
        (t.eventText e).toList ++ ' ' :: ("OR".toList ++ ' ' ::
          ((t.eventText f).toList ++ (t.eventsBehind es ++ ' ' :: rest))) := by
      simp [Trigger.eventsBehind]
    rw [hor, readOn?_event ht, cutAtSpaces_append "OR" _ (by decide), readOn?, if_neg (by decide),
      if_pos rfl, ih]
    simp

end Reading

def ofTrigger (t : Trigger) : Headline := ⟨t.name, t.timing, t.events.toList, t.columns, t.table⟩

section Readback

variable {t : Trigger}

lemma flatMap_columnsWith (hu : t.columns ≠ [] → t.events.contains .update = true) :
    t.events.toList.flatMap (columnsWith t) = t.columns := by
  have honce : ∀ (s : EventSet) (cs : List String), s.contains .update = true →
      s.toList.flatMap (fun e => if e = .update then cs else []) = cs := by
    rintro ⟨i, u, d, t⟩ cs hu
    obtain rfl : u = true := hu
    cases i <;> cases d <;> cases t <;>
      simp [EventSet.toList, Event.all, EventSet.contains, List.filter_cons]
  by_cases hc : t.columns = []
  · have hnone : columnsWith t = fun _ => [] := by
      funext e
      simp [columnsWith, hc]
    rw [hnone, hc, List.flatMap_eq_nil_iff]
    exact fun e _ => rfl
  · exact honce t.events t.columns (hu hc)

def reactionWords (t : Trigger) : List String :=
  cutAtSpaces (t.eventList.toList ++ ' ' :: ("ON".toList ++ ' ' :: t.table.toList))

lemma readOn?_reactionWords (ht : t.Checked) (hc : t.common.Checked) (h : Headline) :
    h.readOn? .event (reactionWords t) = some { h with
      events := h.events ++ t.events.toList
      columns := h.columns ++ t.columns
      table := t.table } := by
  have hevents : t.events.toList ≠ [] := by simpa [EventSet.isEmpty, Trigger.common] using hc.events
  obtain ⟨e, es, he⟩ := List.exists_cons_of_ne_nil hevents
  have hblank : ' ' ∉ t.table.toList := ht.notMem_table (by decide)
  rw [reactionWords, Trigger.toList_eventList_of_cons he, List.append_assoc, readOn?_events ht, ← he,
    flatMap_columnsWith hc.updates, cutAtSpaces_append "ON" _ (by decide),
    cutAtSpaces_of_notMem hblank, readOn?, if_neg (by decide), if_neg (by decide), if_pos rfl]
  rfl

lemma cutAtSpaces_headline (ht : t.Checked) :
    cutAtSpaces t.headline.toList = t.name :: t.timing.sql :: reactionWords t := by
  have htiming : ' ' ∉ t.timing.sql.toList := by cases t.timing <;> decide
  have hwords : t.headline.toList = t.name.toList ++ ' ' :: (t.timing.sql.toList ++ ' ' ::
      (t.eventList.toList ++ ' ' :: ("ON".toList ++ ' ' :: t.table.toList))) := by
    simp [Trigger.headline]
  rw [hwords, cutAtSpaces_append _ _ (ht.notMem_name (by decide)), cutAtSpaces_append _ _ htiming,
    reactionWords]

lemma readNamed?_reactionWords (ht : t.Checked) (hc : t.common.Checked) :
    readNamed? t.name t.timing.sql (reactionWords t) = some (ofTrigger t) := by
  have htiming : Timing.ofSql? t.timing.sql = some t.timing := by cases t.timing <;> decide
  rw [readNamed?, htiming]
  exact readOn?_reactionWords ht hc _

lemma read?_create (ht : t.Checked) (hc : t.common.Checked) :
    read? ("CREATE TRIGGER ".toList ++ t.headline.toList) = some (ofTrigger t) := by
  have hwords : cutAtSpaces ("CREATE TRIGGER ".toList ++ t.headline.toList) =
      "CREATE" :: "TRIGGER" :: t.name :: t.timing.sql :: reactionWords t := by
    have hsplit : "CREATE TRIGGER ".toList ++ t.headline.toList =
        "CREATE".toList ++ ' ' :: ("TRIGGER".toList ++ ' ' :: t.headline.toList) := by simp
    rw [hsplit, cutAtSpaces_append _ _ (by decide), cutAtSpaces_append _ _ (by decide),
      cutAtSpaces_headline ht]
  rw [read?, hwords]
  exact readNamed?_reactionWords ht hc

lemma read?_createDefiner (ht : t.Checked) (hc : t.common.Checked) {account : String}
    (ha : ' ' ∉ account.toList) :
    read? ("CREATE DEFINER = ".toList ++ account.toList ++ " TRIGGER ".toList ++ t.headline.toList) =
      some (ofTrigger t) := by
  have hwords : cutAtSpaces ("CREATE DEFINER = ".toList ++ account.toList ++ " TRIGGER ".toList ++
      t.headline.toList) = "CREATE" :: "DEFINER" :: "=" :: account :: "TRIGGER" :: t.name ::
        t.timing.sql :: reactionWords t := by
    have hsplit : "CREATE DEFINER = ".toList ++ account.toList ++ " TRIGGER ".toList ++
        t.headline.toList = "CREATE".toList ++ ' ' :: ("DEFINER".toList ++ ' ' :: ("=".toList ++
          ' ' :: (account.toList ++ ' ' :: ("TRIGGER".toList ++ ' ' :: t.headline.toList)))) := by
      simp
    rw [hsplit, cutAtSpaces_append _ _ (by decide), cutAtSpaces_append _ _ (by decide),
      cutAtSpaces_append _ _ (by decide), cutAtSpaces_append _ _ ha,
      cutAtSpaces_append _ _ (by decide), cutAtSpaces_headline ht]
  rw [read?, hwords]
  exact readNamed?_reactionWords ht hc

lemma head?_rows (ht : t.Checked) {text : String} {front rest : List Char} (hf : '\n' ∉ front)
    (h : text.toList = front ++ t.headline.toList ++ '\n' :: rest) :
    (rows text).head? = some (front ++ t.headline.toList) := by
  have hn : '\n' ∉ front ++ t.headline.toList := by
    simpa using ⟨hf, ht.newline_notMem_headline⟩
  rw [rows, h, List.splitOn_append_cons_self, List.splitOn_eq_singleton hn]
  rfl

lemma read?_triggerText (ht : t.Checked) (hc : t.common.Checked) (engine : Engine) :
    (rows (engine.triggerText t)).head?.bind read? = some (ofTrigger t) := by
  cases engine with
  | functionBacked =>
    obtain ⟨rest, hr⟩ := t.executingText_toList
    rw [Engine.triggerText, head?_rows ht (by decide) hr, Option.bind_some, read?_create ht hc]
  | lightweight =>
    obtain ⟨rest, hr⟩ := t.lightweightText_toList
    rw [Engine.triggerText, head?_rows ht (by decide) hr, Option.bind_some, read?_create ht hc]
  | inline =>
    obtain ⟨rest, hr⟩ := t.inlineText_toList
    rcases ht.definerClause_eq with hd | ⟨account, ha, hd⟩
    · have hfirst : t.inlineText.toList =
          "CREATE TRIGGER ".toList ++ t.headline.toList ++ '\n' :: rest := by
        simp [hr, hd]
      rw [Engine.triggerText, head?_rows ht (by decide) hfirst, Option.bind_some, read?_create ht hc]
    · have hn : '\n' ∉ account.toList := fun hm => absurd (ha.chars _ hm) (by decide)
      have hfirst : t.inlineText.toList = "CREATE DEFINER = ".toList ++ account.toList ++
          " TRIGGER ".toList ++ t.headline.toList ++ '\n' :: rest := by
        simp [hr, hd]
      rw [Engine.triggerText, head?_rows ht (by simp [hn]) hfirst, Option.bind_some,
        read?_createDefiner ht hc ha.blank_notMem]

end Readback

end Headline

end SqlTriggers
