import SqlTriggers.Proofs.Text.Lines

/-! The words of a text. White space parts them and does nothing else. -/

namespace SqlTriggers.Text

lemma splitOnP_cons_of_not_blank {c : Char} (hc : ¬ isBlank c = true) {cs p : List Char}
    {ps : List (List Char)} (h : cs.splitOnP isBlank = p :: ps) :
    (c :: cs).splitOnP isBlank = (c :: p) :: ps := by
  rw [List.splitOnP_cons_eq_if_modifyHead, if_neg hc, h]
  rfl

lemma splitOnP_blank_cons {b : Char} (hb : isBlank b = true) (cs : List Char) :
    (b :: cs).splitOnP isBlank = [] :: cs.splitOnP isBlank := by
  rw [List.splitOnP_cons_eq_if_modifyHead, if_pos hb]

lemma words_eq (cs : List Char) :
    words cs = (cs.splitOnP isBlank).filter fun w => !w.isEmpty := by
  fun_induction words cs with
  | case1 => rfl
  | case2 b cs hb ih => simp [splitOnP_blank_cons hb, ih]
  | case3 c hc => simp [splitOnP_cons_of_not_blank hc List.splitOnP_nil]
  | case4 c hc b cs hb ih =>
    rw [splitOnP_cons_of_not_blank hc (splitOnP_blank_cons hb cs), ih, splitOnP_blank_cons hb]
    rfl
  | case5 c hc d cs hd hnil ih =>
    -- A text that starts with a word has one.
    obtain ⟨p, ps, hp⟩ := List.exists_cons_of_ne_nil (List.splitOnP_ne_nil isBlank cs)
    rw [hnil, splitOnP_cons_of_not_blank hd hp] at ih
    exact nomatch ih
  | case6 c hc d cs hd w ws hw ih =>
    obtain ⟨p, ps, hp⟩ := List.exists_cons_of_ne_nil (List.splitOnP_ne_nil isBlank cs)
    rw [hw, splitOnP_cons_of_not_blank hd hp] at ih
    obtain ⟨rfl, rfl⟩ := List.cons.inj ih
    rw [hw, splitOnP_cons_of_not_blank hc (splitOnP_cons_of_not_blank hd hp)]
    rfl

lemma words_append_blank (cs ds : List Char) {b : Char} (hb : isBlank b = true) :
    words (cs ++ b :: ds) = words cs ++ words ds := by
  rw [words_eq, words_eq, words_eq, List.splitOnP_append_cons cs ds hb, List.filter_append]

lemma words_of_blank {cs : List Char} (h : ∀ c ∈ cs, isBlank c = true) : words cs = [] := by
  induction cs with
  | nil => rfl
  | cons c cs ih =>
    have hcs := ih fun d hd => h d (List.mem_cons_of_mem c hd)
    exact (words_append_blank [] cs (h c List.mem_cons_self)).trans hcs

lemma words_append_of_blank (cs : List Char) {ds : List Char} (h : ∀ c ∈ ds, isBlank c = true) :
    words (cs ++ ds) = words cs := by
  cases ds with
  | nil => rw [List.append_nil]
  | cons d ds =>
    have hds := words_of_blank fun c hc => h c (List.mem_cons_of_mem d hc)
    rw [words_append_blank cs ds (h d List.mem_cons_self), hds, List.append_nil]

lemma words_trimEnd (cs : List Char) : words (trimEnd cs) = words cs := by
  obtain ⟨ds, hds, hblank⟩ := exists_eq_dropEndWhile_append isBlank cs
  calc words (trimEnd cs) = words (trimEnd cs ++ ds) := (words_append_of_blank _ hblank).symm
    _ = words cs := congrArg words hds.symm

lemma words_intercalate {b : Char} (hb : isBlank b = true) (ls : List (List Char)) :
    words ([b].intercalate ls) = ls.flatMap words := by
  induction ls with
  | nil => rfl
  | cons l ls ih =>
    cases ls with
    | nil => simp
    | cons m ls =>
      rw [List.intercalate_cons_cons, List.append_assoc, List.singleton_append,
        words_append_blank _ _ hb, ih, ← List.flatMap_cons]

lemma words_stack (ls : List (List Char)) : words (stack ls) = ls.flatMap words :=
  words_intercalate (by decide) ls

lemma words_of_not_blank {w : List Char} (hw : w ≠ []) (h : ∀ c ∈ w, isBlank c = false) :
    words w = [w] := by
  have hcut : w.splitOnP isBlank = [w] := List.splitOnP_eq_singleton fun c hc => by simp [h c hc]
  simp [words_eq, hcut, hw]

lemma not_blank_of_mem_splitOnP {cs w : List Char} (h : w ∈ cs.splitOnP isBlank) :
    ∀ c ∈ w, isBlank c = false := by
  induction cs generalizing w with
  | nil =>
    obtain rfl : w = [] := by simpa using h
    exact fun c hc => nomatch hc
  | cons d cs ih =>
    obtain ⟨p, ps, hp⟩ := List.exists_cons_of_ne_nil (List.splitOnP_ne_nil isBlank cs)
    by_cases hd : isBlank d = true
    · rw [splitOnP_blank_cons hd] at h
      rcases List.mem_cons.mp h with rfl | h
      · exact fun c hc => nomatch hc
      · exact ih h
    · rw [splitOnP_cons_of_not_blank hd hp] at h
      rcases List.mem_cons.mp h with rfl | h
      · exact List.forall_mem_cons.mpr ⟨by simpa using hd, ih (hp ▸ List.mem_cons_self)⟩
      · exact ih (hp ▸ List.mem_cons_of_mem p h)

lemma of_mem_words {cs w : List Char} (h : w ∈ words cs) : w ≠ [] ∧ ∀ c ∈ w, isBlank c = false := by
  rw [words_eq, List.mem_filter] at h
  exact ⟨by simpa using h.2, not_blank_of_mem_splitOnP h.1⟩

lemma flatMap_words_words (cs : List Char) : (words cs).flatMap words = words cs := by
  have hwords : ∀ w ∈ words cs, words w = [w] := fun w hw =>
    words_of_not_blank (of_mem_words hw).1 (of_mem_words hw).2
  rw [List.flatMap_congr hwords, List.flatMap_singleton']

lemma exists_last_blank (cs : List Char) : (∀ c ∈ cs, isBlank c = false) ∨
    ∃ front b last, cs = front ++ b :: last ∧ isBlank b = true ∧ ∀ c ∈ last, isBlank c = false := by
  induction cs using List.reverseRecOn with
  | nil => exact .inl fun c hc => nomatch hc
  | append_singleton cs c ih =>
    cases hc : isBlank c with
    | true => exact .inr ⟨cs, c, [], rfl, hc, fun d hd => nomatch hd⟩
    | false =>
      rcases ih with h | ⟨front, b, last, rfl, hb, hlast⟩
      · exact .inl (List.forall_mem_append.mpr ⟨h, by simpa using hc⟩)
      · refine .inr ⟨front, b, last ++ [c], by simp, hb, ?_⟩
        exact List.forall_mem_append.mpr ⟨hlast, by simpa using hc⟩

section Lines

lemma flatMap_words_map_trimEnd (ls : List (List Char)) :
    (ls.map trimEnd).flatMap words = ls.flatMap words := by
  rw [List.flatMap_map]
  exact List.flatMap_congr fun l _ => words_trimEnd l

lemma flatMap_words_filter (ls : List (List Char)) :
    (ls.filter fun l => !l.isEmpty).flatMap words = ls.flatMap words := by
  induction ls with
  | nil => rfl
  | cons l ls ih =>
    cases l with
    | nil => exact ih
    | cons c l => rw [List.filter_cons_of_pos rfl, List.flatMap_cons, List.flatMap_cons, ih]

lemma flatMap_words_lines (cs : List Char) : (lines cs).flatMap words = words cs := by
  obtain ⟨last, hlast, hrows⟩ := map_trimEnd_splitOn cs
  have hempty : last.flatMap words = [] := by
    rcases hlast with rfl | rfl <;> rfl
  calc (lines cs).flatMap words = ((cs.splitOn '\n').map trimEnd).flatMap words := by
        rw [hrows, List.flatMap_append, hempty, List.append_nil, flatMap_words_map_trimEnd]
    _ = words (stack (cs.splitOn '\n')) := by rw [flatMap_words_map_trimEnd, words_stack]
    _ = words cs := congrArg words (List.intercalate_splitOn '\n')

end Lines

lemma words_padded (l : List Char) : words (padded l) = words l := by
  rw [padded]
  split
  · rename_i h
    rw [List.isEmpty_iff.mp h]
  · exact words_append_blank "   ".toList l (by decide)

lemma words_indent (s : String) : words (indent s).toList = words s.toList := by
  rw [toList_indent, words_stack, List.flatMap_map]
  simp only [words_padded, flatMap_words_lines]

end SqlTriggers.Text
