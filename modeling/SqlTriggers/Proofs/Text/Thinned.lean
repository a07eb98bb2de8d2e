import SqlTriggers.Proofs.Text.Lines

/-! White space taken out where more white space, or nothing, stands behind it. Trimming lines at their
ends does no more than that. -/

namespace SqlTriggers.Text

inductive Thinned : List Char → List Char → Prop
  | nil : Thinned [] []
  | keep (c : Char) {cs ds : List Char} : Thinned cs ds → Thinned (c :: cs) (c :: ds)
  | drop {b : Char} {cs ds : List Char} : isBlank b = true → (∀ c ∈ ds.head?, isBlank c = true) →
      Thinned cs ds → Thinned cs (b :: ds)

namespace Thinned

variable {cs ds : List Char}

lemma mem_iff (h : Thinned cs ds) {c : Char} (hc : isBlank c = false) : c ∈ cs ↔ c ∈ ds := by
  induction h with
  | nil => rfl
  | keep d _ ih => rw [List.mem_cons, List.mem_cons, ih]
  | drop hb _ _ ih =>
    rw [ih, List.mem_cons, or_iff_right]
    rintro rfl
    simp [hb] at hc

lemma trimEnd (cs : List Char) : Thinned (trimEnd cs) cs := by
  induction cs with
  | nil => exact .nil
  | cons c cs ih =>
    rw [Text.trimEnd, dropEndWhile_cons]
    split
    · rename_i h
      rw [Text.trimEnd, h.1] at ih
      refine .drop h.2 (fun d hd => ?_) ih
      exact (dropEndWhile_eq_nil_iff isBlank).mp h.1 d (List.mem_of_mem_head? hd)
    · exact ih.keep c

end Thinned

lemma isBlank_head?_of_lines {cs l : List Char} {ls : List (List Char)} (h : lines cs = l :: ls)
    (hl : ∀ c ∈ l, isBlank c = true) : ∀ c ∈ cs.head?, isBlank c = true := by
  intro c hc
  fun_cases lines cs with
  | case1 => simp at hc
  | case2 rest =>
    obtain rfl : '\n' = c := by simpa using hc
    decide
  | case3 rest =>
    obtain rfl : '\r' = c := by simpa using hc
    decide
  | case4 d rest hn hr hrest =>
    obtain rfl : d = c := by simpa using hc
    rw [lines, hrest] at h
    · exact hl d (by simp [← (List.cons.inj h).1])
    · exact hn
    · exact hr
  | case5 d rest hn hr m ms hrest =>
    obtain rfl : d = c := by simpa using hc
    rw [lines, hrest] at h
    · exact hl d (by simp [← (List.cons.inj h).1])
    · exact hn
    · exact hr

lemma Thinned.newline {cs : List Char} (h : Thinned (stack ((lines cs).map Text.trimEnd)) cs) :
    Thinned (stack ([] :: (lines cs).map Text.trimEnd)) ('\n' :: cs) := by
  cases hl : lines cs with
  | nil =>
    rw [lines_eq_nil_iff.mp hl]
    exact .drop (by decide) (by simp) .nil
  | cons l ls =>
    rw [hl] at h
    exact h.keep '\n'

lemma thinned_lines (cs : List Char) : Thinned (stack ((lines cs).map trimEnd)) cs := by
  fun_induction lines cs with
  | case1 => exact .nil
  | case2 cs ih => exact ih.newline
  | case3 cs ih => exact .drop (by decide) (by simp; decide) ih.newline
  | case4 c cs hn hr hl ih =>
    rw [lines_eq_nil_iff.mp hl, List.map_singleton, stack_singleton]
    exact Thinned.trimEnd [c]
  | case5 c cs hn hr l ls hl ih =>
    rw [hl, List.map_cons] at ih
    rw [List.map_cons, trimEnd, dropEndWhile_cons]
    split
    · rename_i h
      rw [trimEnd, h.1] at ih
      exact .drop h.2 (isBlank_head?_of_lines hl ((dropEndWhile_eq_nil_iff isBlank).mp h.1)) ih
    · rw [stack_cons_append c]
      exact ih.keep c

lemma mem_trim_iff {cs : List Char} {c : Char} (hc : isBlank c = false) :
    c ∈ trim cs ↔ c ∈ cs := by
  rw [trim, (Thinned.trimEnd _).mem_iff hc]
  refine ⟨fun h => (List.dropWhile_suffix isBlank).subset h, fun h => ?_⟩
  rw [← List.takeWhile_append_dropWhile (p := isBlank) (l := cs), List.mem_append] at h
  refine h.resolve_left fun hm => ?_
  simp [List.mem_takeWhile_imp hm] at hc

end SqlTriggers.Text
