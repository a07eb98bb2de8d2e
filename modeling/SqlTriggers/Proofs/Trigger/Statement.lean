import SqlTriggers.Proofs.Text.Lines
import SqlTriggers.Trigger.Statement

/-! Statements in their canonical form. Indenting them loses nothing. -/

namespace SqlTriggers

open Text

namespace Statement

/-- Such a text is made of its lines, and indenting it only moves them. -/
structure Canonical (s : String) : Prop where
  unreturned : Unreturned s.toList
  closed : s.toList.getLast? = some ';'

lemma flush_bare (cs : List Char) : Flush (bare cs) := by
  have hlines : Flush (stack ((lines cs).map trimEnd)) := by
    refine flush_stack ?_ ?_
    · intro l hl
      obtain ⟨m, hm, rfl⟩ := List.mem_map.mp hl
      exact fun hn => newline_notMem_of_mem_lines cs m hm ((dropEndWhile_sublist _ m).subset hn)
    · intro l hl c hc
      obtain ⟨m, hm, rfl⟩ := List.mem_map.mp hl
      exact getLast?_dropEndWhile isBlank hc
  refine hlines.of_infix ((prefix_dropEndWhile isBlank _).isInfix.trans ?_)
  exact (prefix_dropEndWhile _ _).isInfix.trans (infix_trim _)

lemma canonical?_eq_none_iff {s : String} : canonical? s = none ↔ bare s.toList = [] := by
  rw [canonical?]
  split <;> simp_all

lemma canonical?_eq_some_iff {s c : String} :
    canonical? s = some c ↔ bare s.toList ≠ [] ∧ c.toList = bare s.toList ++ [';'] := by
  rw [canonical?]
  split
  · simp_all
  · rename_i h
    rw [and_iff_right h, Option.some.injEq, ← String.toList_inj, String.toList_ofList, eq_comm]

def Made (s : String) : Prop := ∃ r, canonical? r = some s

lemma made_of_mem_canonicalList {ss : List String} {s : String} (h : s ∈ canonicalList ss) :
    Made s := by
  obtain ⟨r, -, hr⟩ := List.mem_filterMap.mp h
  exact ⟨r, hr⟩

structure Tidy (s : String) : Prop where
  nonblank : isBlankText s.toList = false
  trimmed : SqlTriggers.trimmed s = s
  closed : s.toList.getLast? = some ';'

lemma tidy_of_ends {s : String} {c : Char} (hf : s.toList.head? = some c) (hc : isBlank c = false)
    (hl : s.toList.getLast? = some ';') : Tidy s := by
  refine ⟨?_, trimmed_eq_self hf hl hc (by decide), hl⟩
  exact List.all_eq_false.mpr ⟨c, List.mem_of_head? hf, by simp [hc]⟩

lemma Made.tidy {s : String} (h : Made s) : Tidy s := by
  obtain ⟨r, h⟩ := h
  obtain ⟨hbare, hs⟩ := canonical?_eq_some_iff.mp h
  obtain ⟨c, cs, hcs⟩ := List.exists_cons_of_ne_nil hbare
  have hprefix : bare r.toList <+: trim (stack ((lines r.toList).map trimEnd)) :=
    (prefix_dropEndWhile isBlank _).trans (prefix_dropEndWhile _ _)
  have hhead : (bare r.toList).head? = some c := by simp [hcs]
  exact tidy_of_ends (by simp [hs, hcs]) (isBlank_head?_trim hprefix hhead) (by simp [hs])

lemma Made.flush {s : String} (h : Made s) : Flush s.toList := by
  obtain ⟨r, h⟩ := h
  rw [(canonical?_eq_some_iff.mp h).2]
  refine List.isChain_append.mpr ⟨flush_bare r.toList, .singleton _, ?_⟩
  rintro c - d hd rfl
  simp at hd

lemma Made.canonical {s : String} (h : Made s) : Canonical s :=
  ⟨h.flush.unreturned, h.tidy.closed⟩

lemma Canonical.lines_eq {s : String} (h : Canonical s) : lines s.toList = rows s :=
  lines_eq_splitOn h.unreturned h.closed (by decide)

lemma Canonical.rows_indent {s : String} (h : Canonical s) :
    rows (indent s) = (rows s).map padded := by
  have hlines := h.lines_eq
  have hnewline := newline_notMem_of_mem_lines s.toList
  rw [hlines] at hnewline
  rw [rows, toList_indent, hlines, splitOn_stack_padded hnewline (rows_ne_nil s)]

def indentedRows (ss : List String) : List (List Char) :=
  ss.flatMap fun s => rows (indent s)

lemma indented_of_mem_indentedRows {ss : List String} {l : List Char} (h : l ∈ indentedRows ss) :
    Indented l := by
  obtain ⟨s, -, hl⟩ := List.mem_flatMap.mp h
  exact indented_of_mem_rows_indent s l hl

lemma notMem_indentedRows (ss : List String) {l : List Char} (h : ¬ Indented l) :
    l ∉ indentedRows ss :=
  fun hm => h (indented_of_mem_indentedRows hm)

lemma indentedRows_ne_nil (s : String) (ss : List String) : indentedRows (s :: ss) ≠ [] := by
  simp [indentedRows, rows_ne_nil]

lemma indentedRows_eq_map {ss : List String} (hn : ss ≠ []) (hs : ∀ s ∈ ss, Canonical s) :
    indentedRows ss = (rows (stacked ss)).map padded := by
  rw [rows_stacked hn, List.map_flatMap]
  exact List.flatMap_congr fun s h => (hs s h).rows_indent

lemma stacked_ne_empty {s : String} (h : Canonical s) (ss : List String) :
    stacked (s :: ss) ≠ stacked [] := by
  intro he
  have hs : s.toList ≠ [] := by
    intro hn
    have hc := h.closed
    simp [hn] at hc
  have hl := congrArg String.toList he
  cases ss with
  | nil => simp [stacked, hs] at hl
  | cons r ss => simp [stacked, hs] at hl

lemma indentedRows_eq_iff {ss rs : List String} (hs : ∀ s ∈ ss, Canonical s)
    (hr : ∀ r ∈ rs, Canonical r) : indentedRows ss = indentedRows rs ↔ stacked ss = stacked rs := by
  cases ss with
  | nil =>
    cases rs with
    | nil => simp
    | cons r rs =>
      have hr := stacked_ne_empty (hr r List.mem_cons_self) rs
      exact iff_of_false (indentedRows_ne_nil r rs).symm hr.symm
  | cons s ss =>
    cases rs with
    | nil =>
      have hs := stacked_ne_empty (hs s List.mem_cons_self) ss
      exact iff_of_false (indentedRows_ne_nil s ss) hs
    | cons r rs =>
      rw [indentedRows_eq_map (by simp) hs, indentedRows_eq_map (by simp) hr,
        padded_injective.list_map.eq_iff, rows_injective.eq_iff]

end Statement

end SqlTriggers
