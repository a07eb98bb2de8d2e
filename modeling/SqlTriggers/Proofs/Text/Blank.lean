import Mathlib.Data.List.Basic
import Mathlib.Data.List.DropRight
import Mathlib.Tactic.Common
import SqlTriggers.Text.Blank

/-! Trimming, at the end, at the front and at both. -/

namespace SqlTriggers

namespace Text

section DropEnd

variable (p : Char → Bool)

lemma dropEndWhile_cons (c : Char) (cs : List Char) :
    dropEndWhile p (c :: cs) =
      if dropEndWhile p cs = [] ∧ p c = true then [] else c :: dropEndWhile p cs := by
  rw [dropEndWhile]
  cases hd : dropEndWhile p cs with
  | nil => by_cases hc : p c = true <;> simp [hc]
  | cons d ds => simp

lemma dropEndWhile_append_cons (cs ds : List Char) {c : Char} (hc : p c = false) :
    dropEndWhile p (cs ++ c :: ds) = cs ++ c :: dropEndWhile p ds := by
  induction cs with
  | nil => simp [dropEndWhile_cons, hc]
  | cons d cs ih => simp [dropEndWhile_cons, ih]

lemma dropEndWhile_concat (cs : List Char) {c : Char} (hc : p c = false) :
    dropEndWhile p (cs ++ [c]) = cs ++ [c] :=
  dropEndWhile_append_cons p cs [] hc

lemma dropEndWhile_eq_nil_iff {cs : List Char} :
    dropEndWhile p cs = [] ↔ ∀ c ∈ cs, p c = true := by
  induction cs with
  | nil => simp [dropEndWhile]
  | cons c cs ih => rw [dropEndWhile_cons, List.forall_mem_cons, ← ih, and_comm (a := p c = true)]; simp

lemma dropEndWhile_dropEndWhile (cs : List Char) :
    dropEndWhile p (dropEndWhile p cs) = dropEndWhile p cs := by
  induction cs with
  | nil => rfl
  | cons c cs ih =>
    rw [dropEndWhile_cons]
    split
    · rfl
    · rename_i h
      rw [dropEndWhile_cons, ih, if_neg h]

lemma prefix_dropEndWhile (cs : List Char) : dropEndWhile p cs <+: cs := by
  induction cs with
  | nil => exact List.prefix_rfl
  | cons c cs ih =>
    rw [dropEndWhile_cons]
    split
    · exact List.nil_prefix
    · exact List.prefix_cons_inj c |>.mpr ih

lemma dropEndWhile_sublist (cs : List Char) : (dropEndWhile p cs).Sublist cs :=
  (prefix_dropEndWhile p cs).sublist

lemma getLast?_dropEndWhile {cs : List Char} {c : Char}
    (h : (dropEndWhile p cs).getLast? = some c) : p c = false := by
  induction cs with
  | nil => simp [dropEndWhile] at h
  | cons d cs ih =>
    rw [dropEndWhile_cons] at h
    split at h
    · simp at h
    · rename_i hd
      cases he : dropEndWhile p cs with
      | nil =>
        rw [he] at h hd
        obtain rfl : d = c := by simpa using h
        simpa using hd
      | cons e es =>
        rw [he, List.getLast?_cons_cons, ← he] at h
        exact ih h

lemma dropEndWhile_eq_self {cs : List Char} (h : ∀ c ∈ cs.getLast?, p c = false) :
    dropEndWhile p cs = cs := by
  cases hl : cs.getLast? with
  | none =>
    rw [List.getLast?_eq_none_iff.mp hl]
    rfl
  | some c =>
    obtain ⟨front, rfl⟩ := List.getLast?_eq_some_iff.mp hl
    exact dropEndWhile_concat p front (h c (by simp))

lemma dropEndWhile_append (cs : List Char) {ds : List Char} (h : ∀ c ∈ ds, p c = true) :
    dropEndWhile p (cs ++ ds) = dropEndWhile p cs := by
  induction cs with
  | nil => exact (dropEndWhile_eq_nil_iff p).mpr h
  | cons c cs ih => rw [List.cons_append, dropEndWhile_cons, dropEndWhile_cons, ih]

lemma exists_eq_dropEndWhile_append (cs : List Char) :
    ∃ ds, cs = dropEndWhile p cs ++ ds ∧ ∀ c ∈ ds, p c = true := by
  induction cs with
  | nil => exact ⟨[], rfl, by simp⟩
  | cons c cs ih =>
    obtain ⟨ds, hds, hp⟩ := ih
    rw [dropEndWhile_cons]
    split
    · rename_i h
      rw [h.1, List.nil_append] at hds
      subst hds
      exact ⟨c :: cs, rfl, List.forall_mem_cons.mpr ⟨h.2, hp⟩⟩
    · exact ⟨ds, by rw [List.cons_append, ← hds], hp⟩

end DropEnd

lemma trimEnd_append {front : List Char} {c : Char} (hl : front.getLast? = some c)
    (hc : isBlank c = false) (cs : List Char) : trimEnd (front ++ cs) = front ++ trimEnd cs := by
  obtain ⟨ds, rfl⟩ := List.getLast?_eq_some_iff.mp hl
  rw [List.append_assoc, List.append_assoc]
  exact dropEndWhile_append_cons isBlank ds cs hc

lemma trimEnd_cons_congr {cs ds : List Char} (c : Char) (h : trimEnd cs = trimEnd ds) :
    trimEnd (c :: cs) = trimEnd (c :: ds) := by
  rw [trimEnd, trimEnd] at h ⊢
  rw [dropEndWhile_cons, dropEndWhile_cons, h]

lemma trimStart_cons (cs : List Char) {c : Char} (hc : isBlank c = false) :
    trimStart (c :: cs) = c :: cs := by
  rw [trimStart, List.dropWhile_cons_of_neg (by simp [hc])]

lemma trimStart_blank_cons (cs : List Char) {c : Char} (hc : isBlank c = true) :
    trimStart (c :: cs) = trimStart cs := by
  rw [trimStart, List.dropWhile_cons_of_pos hc, trimStart]

lemma trimStart_trimEnd (cs : List Char) : trimStart (trimEnd cs) = trimEnd (trimStart cs) := by
  induction cs with
  | nil => rfl
  | cons c cs ih =>
    by_cases hc : isBlank c = true
    · rw [trimStart_blank_cons cs hc, ← ih, trimEnd, dropEndWhile_cons, trimEnd]
      split
      · rename_i h
        rw [h.1]
      · exact trimStart_blank_cons _ hc
    · have hc : isBlank c = false := by simpa using hc
      have he : trimEnd (c :: cs) = c :: trimEnd cs := dropEndWhile_append_cons isBlank [] cs hc
      rw [trimStart_cons cs hc, he, trimStart_cons _ hc]

lemma trim_trimEnd (cs : List Char) : trim (trimEnd cs) = trim cs := by
  rw [trim, trimStart_trimEnd, trimEnd, trimEnd, dropEndWhile_dropEndWhile, trim, trimEnd]

lemma trim_trim (cs : List Char) : trim (trim cs) = trim cs := by
  have hstart : trimStart (trimStart cs) = trimStart cs := List.dropWhile_idempotent isBlank cs
  calc trim (trim cs) = trim (trimStart cs) := trim_trimEnd _
    _ = trim cs := by rw [trim, hstart, trim]

lemma trim_blank_cons (cs : List Char) {c : Char} (hc : isBlank c = true) :
    trim (c :: cs) = trim cs := by
  rw [trim, trimStart_blank_cons cs hc, trim]

lemma trim_eq_self {cs : List Char} {c d : Char} (hf : cs.head? = some c)
    (hl : cs.getLast? = some d) (hc : isBlank c = false) (hd : isBlank d = false) :
    trim cs = cs := by
  obtain ⟨rest, hr⟩ := List.head?_eq_some_iff.mp hf
  obtain ⟨front, hb⟩ := List.getLast?_eq_some_iff.mp hl
  rw [trim, hr, trimStart_cons rest hc, ← hr, hb, trimEnd, dropEndWhile_concat isBlank front hd]

lemma trim_of_forall {cs : List Char} (h : ∀ c ∈ cs, isBlank c = false) : trim cs = cs := by
  by_cases hn : cs = []
  · rw [hn]
    rfl
  · exact trim_eq_self (List.head?_eq_some_head hn) (List.getLast?_eq_some_getLast hn)
      (h _ (List.head_mem hn)) (h _ (List.getLast_mem hn))

lemma isBlank_head?_trim {cs ds : List Char} (h : ds <+: trim cs) {c : Char}
    (hc : ds.head? = some c) : isBlank c = false := by
  obtain ⟨rest, hr⟩ := h.trans (prefix_dropEndWhile isBlank _)
  have hstart := List.head?_dropWhile_not isBlank cs
  have hhead : (cs.dropWhile isBlank).head? = some c := by
    rw [← trimStart, ← hr, List.head?_append, hc]
    rfl
  rwa [hhead] at hstart

lemma trim_eq_nil_iff {cs : List Char} : trim cs = [] ↔ isBlankText cs = true := by
  rw [trim, trimEnd, dropEndWhile_eq_nil_iff, isBlankText, List.all_eq_true]
  constructor
  · intro h
    have hhead := List.head?_dropWhile_not isBlank cs
    rw [trimStart] at h
    cases hs : cs.dropWhile isBlank with
    | nil => exact List.dropWhile_eq_nil_iff.mp hs
    | cons c rest =>
      simp [hs, h c (hs ▸ List.mem_cons_self)] at hhead
  · exact fun h c hc => h c ((List.dropWhile_suffix isBlank).subset hc)

lemma infix_trim (cs : List Char) : trim cs <:+: cs :=
  (prefix_dropEndWhile isBlank _).isInfix.trans (List.dropWhile_suffix isBlank).isInfix

end Text

lemma trimmed_eq_self {s : String} {c d : Char} (hf : s.toList.head? = some c)
    (hl : s.toList.getLast? = some d) (hc : Text.isBlank c = false) (hd : Text.isBlank d = false) :
    trimmed s = s := by
  rw [trimmed, Text.trim_eq_self hf hl hc hd, String.ofList_toList]

lemma trimmed_eq_empty_iff {s : String} : trimmed s = "" ↔ Text.isBlankText s.toList = true := by
  rw [trimmed, ← String.toList_inj, String.toList_ofList, ← Text.trim_eq_nil_iff]
  rfl

lemma trimmed_trimmed (s : String) : trimmed (trimmed s) = trimmed s := by
  rw [trimmed, trimmed, String.toList_ofList, Text.trim_trim]

lemma trimmed_append (first middle last : String) {c d : Char} (hf : first.toList.head? = some c)
    (hl : last.toList.getLast? = some d) (hc : Text.isBlank c = false)
    (hd : Text.isBlank d = false) :
    trimmed (first ++ middle ++ last) = first ++ middle ++ last := by
  have hfirst : (first ++ middle ++ last).toList.head? = some c := by simp [hf]
  have hlast : (first ++ middle ++ last).toList.getLast? = some d := by simp [hl]
  exact trimmed_eq_self hfirst hlast hc hd

end SqlTriggers
