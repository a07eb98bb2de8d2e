import SqlTriggers.Dump.Normal
import SqlTriggers.Dump.Reader
import SqlTriggers.Proofs.Text.Lines
import SqlTriggers.Proofs.Trigger.Json

/-! What each line of a dump adds to what is read. -/

namespace SqlTriggers

open Text

lemma of_mem_blockLines {l cs : List Char} (h : l ∈ blockLines cs) :
    l ≠ [] ∧ '\n' ∉ l ∧ trimEnd l = l := by
  obtain ⟨hm, hne⟩ := List.mem_filter.mp h
  obtain ⟨m, hline, rfl⟩ := List.mem_map.mp hm
  refine ⟨by simpa using hne, fun hn => ?_, dropEndWhile_dropEndWhile isBlank m⟩
  exact newline_notMem_of_mem_lines cs m hline ((dropEndWhile_sublist isBlank m).subset hn)

namespace Dump

lemma behind?_append (front : String) (cs : List Char) :
    behind? front (front.toList ++ cs) = some cs := by
  have hp : front.toList.isPrefixOf (front.toList ++ cs) = true := by
    simp [List.isPrefixOf_iff_prefix]
  rw [behind?, if_pos hp, ← String.length_toList, List.drop_left]

lemma read_ne_blank {cs : List Char} (h : cs ≠ []) : Line.read cs ≠ .blank := by
  rw [Line.read, if_neg (by simpa using h)]
  split
  · exact Line.noConfusion
  · split
    · exact Line.noConfusion
    · split <;> exact Line.noConfusion

lemma read_version (text : List Char) :
    Line.read (versionMark.toList ++ text) = .version (trim text) := by
  have hne : (versionMark.toList ++ text).isEmpty = false := rfl
  rw [Line.read, hne, behind?_append]
  rfl

lemma read_declaration (json : List Char) :
    Line.read (declarationPrefix.toList ++ json) = .declaration json := by
  have hne : (declarationPrefix.toList ++ json).isEmpty = false := rfl
  have hversion : behind? versionMark (declarationPrefix.toList ++ json) = none := rfl
  rw [Line.read, hne, hversion, behind?_append]
  rfl

lemma read_raw (name : List Char) : Line.read (rawPrefix.toList ++ name) = .raw (trim name) := by
  have hne : (rawPrefix.toList ++ name).isEmpty = false := rfl
  have hversion : behind? versionMark (rawPrefix.toList ++ name) = none := rfl
  have hdeclaration : behind? declarationPrefix (rawPrefix.toList ++ name) = none := rfl
  rw [Line.read, hne, hversion, hdeclaration, behind?_append]
  rfl

lemma readLines_trimEnd (n : Nat) (inBlock : Bool) (d : Dump) (ls : List (List Char)) :
    readLines n inBlock d (ls.map trimEnd) = readLines n inBlock d ls := by
  induction ls generalizing n inBlock d with
  | nil => rfl
  | cons l ls ih =>
    have hl : trimEnd (trimEnd l) = trimEnd l := dropEndWhile_dropEndWhile isBlank l
    simp only [List.map_cons, readLines, hl, ih]

variable (n : Nat) (d : Dump) (ls : List (List Char))

lemma readLines_blank (inBlock : Bool) :
    readLines n inBlock d ([] :: ls) = readLines (n + 1) false d ls := by
  cases inBlock <;> rfl

lemma readLines_block {block : List (List Char)} (h : ∀ l ∈ block, trimEnd l ≠ []) :
    readLines n true d (block ++ ls) = readLines (n + block.length) true d ls := by
  induction block generalizing n with
  | nil => rfl
  | cons l block ih =>
    have hl := read_ne_blank (h l List.mem_cons_self)
    have hblock := ih (n + 1) fun m hm => h m (List.mem_cons_of_mem l hm)
    have hstep : readLines n true d (l :: (block ++ ls)) =
        readLines (n + 1) true d (block ++ ls) := by
      cases hr : Line.read (trimEnd l) with
      | blank => exact absurd hr hl
      | version text => simp only [readLines, hr]
      | declaration json => simp only [readLines, hr]
      | raw name => simp only [readLines, hr]
      | other => simp only [readLines, hr]
    rw [List.cons_append, hstep, hblock, List.length_cons, Nat.add_right_comm, Nat.add_assoc]

lemma parseDigits_eq {cs : List Char} (hd : ∀ c ∈ cs, c.isDigit = true) (m : Nat)
    (h : cs.foldl (fun m c => m * 10 + (c.toNat - 48)) m < UInt64.size) :
    parseDigits m cs = .ok (cs.foldl (fun m c => m * 10 + (c.toNat - 48)) m) := by
  induction cs generalizing m with
  | nil => rfl
  | cons c cs ih =>
    have hc := hd c List.mem_cons_self
    have hle := le_foldl_digits cs (m * 10 + (c.toNat - 48))
    have hlt : ¬ UInt64.size ≤ m * 10 + (c.toNat - 48) := by
      rw [List.foldl_cons] at h
      omega
    simp only [parseDigits, hc, Bool.not_true, Bool.false_eq_true, if_false, hlt]
    exact ih (fun d hm => hd d (List.mem_cons_of_mem c hm)) _ h

lemma parseVersion_toString (v : UInt64) : parseVersion (toString v).toList = .ok v := by
  have hparse := parseDigits_eq (fun _ h => isDigit_of_mem_toDigits h) 0
    (by rw [foldl_toDigits]; exact v.toNat_lt)
  obtain ⟨c, cs, hc, hdigit⟩ := toDigits_eq_cons v.toNat
  have hplus : c ≠ '+' := ne_of_isDigit hdigit (by decide)
  rw [foldl_toDigits, hc] at hparse
  rw [toList_toString, hc]
  simp [parseVersion, hplus, hparse, Except.map]

lemma trim_toString (v : UInt64) : trim (' ' :: (toString v).toList) = (toString v).toList := by
  rw [trim_blank_cons _ (by decide), toList_toString]
  exact trim_of_forall fun c hc => isBlank_of_isDigit (isDigit_of_mem_toDigits hc)

lemma readLines_version (v : UInt64) :
    readLines n false d ((versionMark ++ " " ++ toString v).toList :: ls) =
      readLines (n + 1) false { d with version := some v } ls := by
  have hs : (versionMark ++ " " ++ toString v).toList =
      versionMark.toList ++ (' ' :: (toString v).toList) := by simp
  have hr : Line.read (trimEnd (versionMark ++ " " ++ toString v).toList) =
      .version (toString v).toList := by
    rw [hs, trimEnd_append rfl (by decide), read_version, trim_trimEnd, trim_toString]
  simp only [readLines, hr, parseVersion_toString]

lemma readLines_declaration (t : Trigger) :
    readLines n false d ((declarationPrefix ++ t.toJson.compactText).toList :: ls) =
      readLines (n + 1) false { d with triggers := d.triggers ++ [t] } ls := by
  have hlast : ∃ cs, t.toJson.compact = cs ++ ['}'] := ⟨_, rfl⟩
  have hr : Line.read (trimEnd (declarationPrefix ++ t.toJson.compactText).toList) =
      .declaration t.toJson.compact := by
    obtain ⟨cs, hc⟩ := hlast
    rw [String.toList_append, Json.compactText, String.toList_ofList, hc, ← List.append_assoc,
      trimEnd, dropEndWhile_concat isBlank _ (by decide), List.append_assoc, read_declaration]
  have ht : Trigger.read? (String.ofList t.toJson.compact) = some t := t.read?_compactText
  simp only [readLines, hr, ht]

lemma readLines_raw (name : String) :
    readLines n false d ((rawPrefix ++ " " ++ name).toList :: ls) =
      readLines (n + 1) true { d with raw := d.raw ++ [trimmed name] } ls := by
  have hs : (rawPrefix ++ " " ++ name).toList = rawPrefix.toList ++ (' ' :: name.toList) := by simp
  have hr : Line.read (trimEnd (rawPrefix ++ " " ++ name).toList) = .raw (trim name.toList) := by
    rw [hs, trimEnd_append rfl (by decide), read_raw, trim_trimEnd, trim_blank_cons _ (by decide)]
  simp only [readLines, hr, trimmed]

end Dump

end SqlTriggers
