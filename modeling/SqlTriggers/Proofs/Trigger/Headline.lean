import SqlTriggers.Proofs.Trigger.Checked

/-! A headline tells the name, the table, the timing, the events and the columns of its trigger. -/

namespace SqlTriggers

open Text

def Event.initial : Event → Char
  | .insert => 'I'
  | .update => 'U'
  | .delete => 'D'
  | .truncate => 'T'

lemma Event.initial_injective : Function.Injective Event.initial := by
  intro e f h
  cases e <;> cases f <;> first | rfl | exact absurd h (by decide)

namespace Trigger

variable {t u : Trigger}

def columnsBehind (cs : List String) : List Char :=
  cs.flatMap fun c => ", ".toList ++ c.toList

def EndsColumns (r : List Char) : Prop := ∀ c ∈ r.head?, c = ' '

lemma isIdentChar_of_columnsBehind {cs : List String} {r : List Char} (hr : EndsColumns r) :
    ∀ c ∈ (columnsBehind cs ++ r).head?, isIdentChar c = false := by
  intro c hc
  cases cs with
  | nil =>
    rw [hr c hc]
    decide
  | cons d cs =>
    obtain rfl : ',' = c := by simpa [columnsBehind] using hc
    decide

lemma columns_unique {c d : String} {cs ds : List String} {r s : List Char}
    (hc : ∀ x ∈ c :: cs, checkColumnName x = .ok ()) (hd : ∀ x ∈ d :: ds, checkColumnName x = .ok ())
    (hr : EndsColumns r) (hs : EndsColumns s)
    (h : c.toList ++ (columnsBehind cs ++ r) = d.toList ++ (columnsBehind ds ++ s)) :
    c :: cs = d :: ds ∧ r = s := by
  have hident : ∀ {x : String}, checkColumnName x = .ok () → ∀ y ∈ x.toList, isIdentChar y = true :=
    fun hx => ((checkIdentifier_eq_ok_iff _ _).mp hx).chars
  induction cs generalizing c d ds with
  | nil =>
    obtain ⟨hcd, hrest⟩ := run_unique (hident (hc c List.mem_cons_self))
      (hident (hd d List.mem_cons_self)) (isIdentChar_of_columnsBehind hr)
      (isIdentChar_of_columnsBehind hs) h
    cases ds with
    | nil => exact ⟨by rw [String.toList_inj.mp hcd], hrest⟩
    | cons e ds =>
      obtain rfl : r = columnsBehind (e :: ds) ++ s := hrest
      exact absurd (hr ',' rfl) (by decide)
  | cons e cs ih =>
    obtain ⟨hcd, hrest⟩ := run_unique (hident (hc c List.mem_cons_self))
      (hident (hd d List.mem_cons_self)) (isIdentChar_of_columnsBehind hr)
      (isIdentChar_of_columnsBehind hs) h
    cases ds with
    | nil =>
      obtain rfl : columnsBehind (e :: cs) ++ r = s := hrest
      exact absurd (hs ',' rfl) (by decide)
    | cons f ds =>
      simp only [columnsBehind, List.flatMap_cons, List.append_assoc,
        List.append_cancel_left_eq] at hrest
      obtain ⟨hcols, hrs⟩ := ih (fun x hx => hc x (List.mem_cons_of_mem c hx))
        (fun x hx => hd x (List.mem_cons_of_mem d hx)) hrest
      exact ⟨by rw [String.toList_inj.mp hcd, hcols], hrs⟩

def eventsBehind (t : Trigger) (es : List Event) : List Char :=
  es.flatMap fun e => " OR ".toList ++ (t.eventText e).toList

lemma eventsBehind_eq_cons (t : Trigger) (es : List Event) : t.eventsBehind es = [] ∨
    ∃ rest, t.eventsBehind es = ' ' :: 'O' :: 'R' :: rest := by
  cases es with
  | nil => exact .inl rfl
  | cons e es => exact .inr ⟨_, rfl⟩

lemma endsColumns_eventsBehind (t : Trigger) (es : List Event) :
    EndsColumns (t.eventsBehind es) := by
  rcases t.eventsBehind_eq_cons es with h | ⟨rest, h⟩
  · simp [EndsColumns, h]
  · simp [EndsColumns, h]

lemma eventText_update_of_nil (h : t.columns = []) : (t.eventText .update).toList = "UPDATE".toList := by
  simp [eventText, h]

lemma eventText_update_of_cons {c : String} {cs : List String} (h : t.columns = c :: cs) :
    (t.eventText .update).toList = "UPDATE OF ".toList ++ (c.toList ++ columnsBehind cs) := by
  simp [eventText, h, String.toList_intercalate, intercalate_cons_eq_append, columnsBehind,
    List.flatMap_map]

lemma Checked.update_unique (ht : t.Checked) (hu : u.Checked) {es fs : List Event}
    (h : (t.eventText .update).toList ++ t.eventsBehind es =
      (u.eventText .update).toList ++ u.eventsBehind fs) :
    t.columns = u.columns ∧ t.eventsBehind es = u.eventsBehind fs := by
  have hend := endsColumns_eventsBehind t es
  have hend' := endsColumns_eventsBehind u fs
  cases hc : t.columns with
  | nil =>
    rw [eventText_update_of_nil hc] at h
    cases hd : u.columns with
    | nil =>
      rw [eventText_update_of_nil hd] at h
      exact ⟨rfl, List.append_cancel_left h⟩
    | cons d ds =>
      rw [eventText_update_of_cons hd] at h
      rcases t.eventsBehind_eq_cons es with hb | ⟨rest, hb⟩ <;> simp [hb] at h
  | cons c cs =>
    rw [eventText_update_of_cons hc] at h
    cases hd : u.columns with
    | nil =>
      rw [eventText_update_of_nil hd] at h
      rcases u.eventsBehind_eq_cons fs with hb | ⟨rest, hb⟩ <;> simp [hb] at h
    | cons d ds =>
      rw [eventText_update_of_cons hd] at h
      simp only [List.append_assoc, List.append_cancel_left_eq] at h
      exact columns_unique (hc ▸ ht.columns) (hd ▸ hu.columns) hend hend' h

lemma exists_eventText_eq_cons (t : Trigger) (e : Event) :
    ∃ rest, (t.eventText e).toList = e.initial :: rest := by
  cases e with
  | update => cases hc : t.columns <;> simp [eventText, hc, Event.initial]
  | insert => simp [eventText, Event.sql, Event.initial]
  | delete => simp [eventText, Event.sql, Event.initial]
  | truncate => simp [eventText, Event.sql, Event.initial]

lemma eventText_of_ne {e : Event} (h : e ≠ .update) (t : Trigger) : t.eventText e = e.sql := by
  cases e with
  | update => exact absurd rfl h
  | insert => rfl
  | delete => rfl
  | truncate => rfl

lemma Checked.event_unique (ht : t.Checked) (hu : u.Checked) {e f : Event} {es fs : List Event}
    (h : (t.eventText e).toList ++ t.eventsBehind es =
      (u.eventText f).toList ++ u.eventsBehind fs) :
    e = f ∧ (e = .update → t.columns = u.columns) ∧ t.eventsBehind es = u.eventsBehind fs := by
  obtain ⟨x, hx⟩ := t.exists_eventText_eq_cons e
  obtain ⟨y, hy⟩ := u.exists_eventText_eq_cons f
  obtain rfl : e = f := by
    rw [hx, hy] at h
    exact Event.initial_injective (List.cons.inj h).1
  by_cases hup : e = .update
  · subst hup
    obtain ⟨hc, hrest⟩ := ht.update_unique hu h
    exact ⟨rfl, fun _ => hc, hrest⟩
  · rw [eventText_of_ne hup, eventText_of_ne hup] at h
    exact ⟨rfl, fun he => absurd he hup, List.append_cancel_left h⟩

lemma Checked.events_unique (ht : t.Checked) (hu : u.Checked) {es fs : List Event}
    (h : t.eventsBehind es = u.eventsBehind fs) :
    es = fs ∧ (.update ∈ es → t.columns = u.columns) := by
  induction es generalizing fs with
  | nil =>
    cases fs with
    | nil => simp
    | cons f fs => simp [eventsBehind] at h
  | cons e es ih =>
    cases fs with
    | nil => simp [eventsBehind] at h
    | cons f fs =>
      simp only [eventsBehind, List.flatMap_cons, List.append_assoc,
        List.append_cancel_left_eq] at h
      obtain ⟨rfl, hc, hrest⟩ := ht.event_unique hu h
      obtain ⟨rfl, hcs⟩ := ih hrest
      refine ⟨rfl, fun hm => ?_⟩
      rcases List.mem_cons.mp hm with he | hm
      · exact hc he.symm
      · exact hcs hm

lemma toList_eventList_of_cons {e : Event} {es : List Event} (h : t.events.toList = e :: es) :
    t.eventList.toList = (t.eventText e).toList ++ t.eventsBehind es := by
  simp [eventList, h, String.toList_intercalate, intercalate_cons_eq_append, eventsBehind,
    List.flatMap_map]

lemma Checked.eventList_unique (ht : t.Checked) (hu : u.Checked) (h : t.eventList = u.eventList) :
    t.events = u.events ∧ (t.events.contains .update = true → t.columns = u.columns) := by
  have hevents : t.events.toList = u.events.toList ∧
      (.update ∈ t.events.toList → t.columns = u.columns) := by
    have hnil : ∀ {v : Trigger}, v.events.toList = [] → v.eventList.toList = [] := by
      intro v hv
      simp [eventList, hv]
    cases he : t.events.toList with
    | nil =>
      refine ⟨?_, by simp⟩
      cases hf : u.events.toList with
      | nil => rfl
      | cons f fs =>
        obtain ⟨rest, hrest⟩ := u.exists_eventText_eq_cons f
        have hlist := toList_eventList_of_cons hf
        rw [← h, hnil he, hrest] at hlist
        exact absurd hlist (by simp)
    | cons e es =>
      have hlist := toList_eventList_of_cons he
      cases hf : u.events.toList with
      | nil =>
        obtain ⟨rest, hrest⟩ := t.exists_eventText_eq_cons e
        rw [h, hnil hf, hrest] at hlist
        exact absurd hlist (by simp)
      | cons f fs =>
        rw [h, toList_eventList_of_cons hf] at hlist
        refine ht.events_unique hu ?_
        simp only [eventsBehind, List.flatMap_cons, List.append_assoc,
          List.append_cancel_left_eq]
        exact hlist.symm
  refine ⟨?_, fun hup => hevents.2 ?_⟩
  · rw [← EventSet.ofList_toList t.events, hevents.1, EventSet.ofList_toList]
  · exact List.mem_filter.mpr ⟨by simp [Event.all], hup⟩

lemma Checked.of_headline_eq (ht : t.Checked) (hu : u.Checked) (h : t.headline = u.headline) :
    t.timing = u.timing ∧ t.events = u.events ∧
      (t.events.contains .update = true → t.columns = u.columns) := by
  have hkey := ht.key_eq_of_headline_eq hu h
  have hname : t.name = u.name := congrArg TriggerKey.name hkey
  have htable : t.table = u.table := congrArg TriggerKey.table hkey
  have hmiddle : t.timing.sql.toList ++ (' ' :: t.eventList.toList) =
      u.timing.sql.toList ++ (' ' :: u.eventList.toList) := by
    have hl := congrArg String.toList h
    simp only [headline, String.toList_append, hname, htable, List.append_assoc,
      List.append_cancel_left_eq] at hl
    simp only [← List.append_assoc] at hl
    simpa using List.append_cancel_right (List.append_cancel_right hl)
  have hblank : ∀ {v : Trigger}, ' ' ∉ v.timing.sql.toList := by
    intro v
    cases v.timing <;> decide
  obtain ⟨htiming, hlist⟩ := cut_unique hblank hblank hmiddle
  refine ⟨?_, ht.eventList_unique hu (String.toList_inj.mp hlist)⟩
  cases ht' : t.timing <;> cases hu' : u.timing <;> simp_all [Timing.sql]

end Trigger

end SqlTriggers
