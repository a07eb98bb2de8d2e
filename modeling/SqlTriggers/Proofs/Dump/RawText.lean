import SqlTriggers.Dump.Writer
import SqlTriggers.Proofs.Dump.Reader
import SqlTriggers.Proofs.OrderedMap
import SqlTriggers.Proofs.Text.Words

/-! Raw texts in a dump. Writing one down keeps all that texts are compared by, so that it makes no
difference whether the database hands out its texts as they are or as they would be written. -/

namespace SqlTriggers

open Text

lemma isBlank_getLast?_of_mem_blockLines {l cs : List Char} (h : l ∈ blockLines cs) :
    ∀ c ∈ l.getLast?, isBlank c = false := by
  intro c hc
  have htrim : dropEndWhile isBlank l = l := (of_mem_blockLines h).2.2
  rw [← htrim] at hc
  exact getLast?_dropEndWhile isBlank hc

lemma lines_rawText (s : String) : lines (rawText s).toList = blockLines s.toList := by
  rw [rawText, String.toList_ofList]
  exact lines_stack (fun l hl => (of_mem_blockLines hl).2.1) (fun l hl => (of_mem_blockLines hl).1)
    fun l hl => isBlank_getLast?_of_mem_blockLines hl

lemma eq_nil_or_mem_of_mem_rows_rawText {s : String} {l : List Char} (h : l ∈ rows (rawText s)) :
    l = [] ∨ l ∈ blockLines s.toList := by
  rw [rows, rawText, String.toList_ofList] at h
  by_cases hnil : blockLines s.toList = []
  · rw [hnil] at h
    exact .inl (by simpa using h)
  · rw [stack, List.splitOn_intercalate '\n' (fun m hm => (of_mem_blockLines hm).2.1) hnil] at h
    exact .inr h

lemma blockLines_eq_lines {cs : List Char} (he : ∀ l ∈ lines cs, l ≠ [])
    (hb : ∀ l ∈ lines cs, ∀ c ∈ l.getLast?, isBlank c = false) : blockLines cs = lines cs := by
  have htrim : ∀ l ∈ lines cs, trimEnd l = l := fun l hl => dropEndWhile_eq_self isBlank (hb l hl)
  rw [blockLines, List.map_congr_left htrim, List.map_id', List.filter_eq_self]
  intro l hl
  simpa using he l hl

lemma rawText_rawText (s : String) : rawText (rawText s) = rawText s := by
  have hlines := lines_rawText s
  have hself : blockLines (rawText s).toList = lines (rawText s).toList := by
    apply blockLines_eq_lines
    · rw [hlines]
      exact fun l hl => (of_mem_blockLines hl).1
    · rw [hlines]
      exact fun l hl => isBlank_getLast?_of_mem_blockLines hl
  rw [rawText, hself, hlines, rawText]

lemma words_rawText (s : String) : words (rawText s).toList = words s.toList := by
  rw [rawText, String.toList_ofList, words_stack, blockLines, flatMap_words_filter,
    flatMap_words_map_trimEnd, flatMap_words_lines]

lemma normalizeStatement_rawText (s : String) :
    normalizeStatement (rawText s) = normalizeStatement s := by
  rw [normalizeStatement, normalForm, words_rawText, normalizeStatement, normalForm]

namespace Dumper

variable (d : Dumper)

lemma entry_rawText (cs : List Trigger) (name ddl : String) :
    d.entry cs name (rawText ddl) = d.entry cs name ddl := by
  have hrecognise : d.recognise cs name (rawText ddl) = d.recognise cs name ddl := by
    rw [recognise, normalizeStatement_rawText, recognise]
  rw [entry, hrecognise, rawEntry, rawText_rawText, entry, rawEntry]

lemma render_rawText (snapshot : Snapshot) (previous : Option Dump) :
    d.render (snapshot.mapValues rawText) previous = d.render snapshot previous := by
  have hentries : (snapshot.mapValues rawText).entries =
      snapshot.entries.map fun e => (e.1, rawText e.2) := rfl
  simp only [render, hentries, List.map_map, Function.comp_def, entry_rawText]

lemma dump_rawText (snapshot : Snapshot) (previous : Option String) :
    d.dump (snapshot.mapValues rawText) previous = d.dump snapshot previous := by
  cases previous with
  | none => exact congrArg Except.ok (d.render_rawText snapshot none)
  | some text =>
    rw [dump, dump]
    congr 1
    exact funext fun p => d.render_rawText snapshot (some p)

end Dumper

/-- A raw text has no blank line and no white space at a line's end, and is a raw text again. It is
compared like the text it stands for, and so a dump of raw texts is the dump. -/
theorem rawText_keeps :
    (∀ ddl : String,
      (∀ l ∈ lines (rawText ddl).toList, isBlankText l = false) ∧
      (∀ l ∈ rows (rawText ddl), ∀ c ∈ l.getLast?, isBlank c = false) ∧
      rawText (rawText ddl) = rawText ddl ∧
      normalizeStatement (rawText ddl) = normalizeStatement ddl) ∧
    ∀ (d : Dumper) (snapshot : Snapshot) (previous : Option String),
      d.dump (snapshot.mapValues rawText) previous = d.dump snapshot previous := by
  refine ⟨fun ddl => ⟨?_, ?_, rawText_rawText ddl, normalizeStatement_rawText ddl⟩,
    Dumper.dump_rawText⟩
  · intro l hl
    rw [lines_rawText] at hl
    have he := (of_mem_blockLines hl).1
    have hb := isBlank_getLast?_of_mem_blockLines hl _ (List.getLast?_eq_some_getLast he)
    exact List.all_eq_false.mpr ⟨_, List.getLast_mem he, by simp [hb]⟩
  · intro l hl
    rcases eq_nil_or_mem_of_mem_rows_rawText hl with rfl | hl
    · exact fun c hc => nomatch hc
    · exact isBlank_getLast?_of_mem_blockLines hl

def scatteredAudit : String :=
  "\r\n\x0c\nCREATE\tTRIGGER audit\u00a0\r\n \t\n  BEGIN\x0bEND ;\u2028\r\n;\n\n"

theorem rawText_keeps_scattered :
    rawText scatteredAudit = "CREATE\tTRIGGER audit\n  BEGIN\x0bEND ;\n;" ∧
    (∀ l ∈ rows "CREATE\tTRIGGER audit\n  BEGIN\x0bEND ;\n;", ∀ c ∈ l.getLast?, isBlank c = false) ∧
    normalizeStatement scatteredAudit = normalizeStatement (rawText scatteredAudit) ∧
    ∀ (d : Dumper) (previous : Option String),
      d.dump (.ofList [("audit", rawText scatteredAudit)]) previous =
        d.dump (.ofList [("audit", scatteredAudit)]) previous := by
  have hraw : rawText scatteredAudit = "CREATE\tTRIGGER audit\n  BEGIN\x0bEND ;\n;" := by
    decide +kernel
  obtain ⟨-, hrows, -, hnormal⟩ := rawText_keeps.1 scatteredAudit
  rw [hraw] at hrows
  exact ⟨hraw, hrows, hnormal.symm, fun d previous =>
    rawText_keeps.2 d (.ofList [("audit", scatteredAudit)]) previous⟩

end SqlTriggers
