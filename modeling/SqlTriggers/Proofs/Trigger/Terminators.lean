import SqlTriggers.Proofs.Text.Thinned
import SqlTriggers.Proofs.Trigger.Statement

/-! The terminators at a statement's end. One run of them is cut off, so the canonical form is a normal
form unless white space stands between them. -/

namespace SqlTriggers.Statement

open Text

def isEnding (c : Char) : Bool := isBlank c || c = ';'

lemma forall_isEnding_iff {cs : List Char} :
    (∀ c ∈ cs, isEnding c = true) ↔ ∀ c, isBlank c = false → c ∈ cs → c = ';' := by
  simp only [isEnding, Bool.or_eq_true, decide_eq_true_eq]
  refine forall_congr' fun c => ?_
  cases isBlank c <;> simp

structure SpacedEnd (cs : List Char) : Prop where
  blank : cs.head?.any isBlank = true
  again : ';' ∈ cs
  ending : ∀ c ∈ cs, isEnding c = true

instance : DecidablePred SpacedEnd := fun cs =>
  decidable_of_iff (cs.head?.any isBlank = true ∧ ';' ∈ cs ∧ cs.all isEnding = true)
    ⟨fun ⟨h, h', h''⟩ => ⟨h, h', List.all_eq_true.mp h''⟩,
      fun ⟨h, h', h''⟩ => ⟨h, h', List.all_eq_true.mpr h''⟩⟩

/-- White space stands between the terminators at the end. -/
def Interrupted (cs : List Char) : Prop :=
  ∃ front rest, cs = front ++ ';' :: rest ∧ SpacedEnd rest

lemma interrupted_cons {c : Char} {cs : List Char} :
    Interrupted (c :: cs) ↔ (c = ';' ∧ SpacedEnd cs) ∨ Interrupted cs := by
  constructor
  · rintro ⟨front, rest, he, h⟩
    cases front with
    | nil =>
      obtain ⟨rfl, rfl⟩ := List.cons.inj he
      exact .inl ⟨rfl, h⟩
    | cons d front =>
      obtain ⟨-, rfl⟩ := List.cons.inj he
      exact .inr ⟨front, rest, rfl, h⟩
  · rintro (⟨rfl, h⟩ | ⟨front, rest, rfl, h⟩)
    · exact ⟨[], cs, rfl, h⟩
    · exact ⟨c :: front, rest, rfl, h⟩

lemma not_interrupted_nil : ¬ Interrupted [] := by
  rintro ⟨front, rest, he, -⟩
  simp at he

instance decidableInterrupted : DecidablePred Interrupted
  | [] => .isFalse not_interrupted_nil
  | _ :: cs =>
    have := decidableInterrupted cs
    decidable_of_iff _ interrupted_cons.symm

lemma interrupted_blank_cons {b : Char} (hb : isBlank b = true) (cs : List Char) :
    Interrupted (b :: cs) ↔ Interrupted cs := by
  rw [interrupted_cons, or_iff_right]
  rintro ⟨rfl, -⟩
  exact absurd hb (by decide)

lemma interrupted_trimStart (cs : List Char) : Interrupted (trimStart cs) ↔ Interrupted cs := by
  induction cs with
  | nil => rfl
  | cons c cs ih =>
    cases hc : isBlank c with
    | true => rw [trimStart_blank_cons cs hc, ih, interrupted_blank_cons hc]
    | false => rw [trimStart_cons cs hc]

lemma isBlank_terminator : isBlank ';' = false := by decide

lemma ne_of_isBlank {b : Char} (hb : isBlank b = true) : b ≠ ';' := by
  rintro rfl
  exact absurd hb (by decide)

lemma spacedEnd_blank_cons {b : Char} {cs : List Char} (hb : isBlank b = true)
    (hn : ∀ c ∈ cs.head?, isBlank c = true) : SpacedEnd (b :: cs) ↔ SpacedEnd cs := by
  constructor
  · rintro ⟨-, hagain, hending⟩
    obtain rfl | hagain := List.mem_cons.mp hagain
    · exact absurd hb (by decide)
    · obtain ⟨c, rest, rfl⟩ := List.exists_cons_of_ne_nil (List.ne_nil_of_mem hagain)
      exact ⟨hn c rfl, hagain, (List.forall_mem_cons.mp hending).2⟩
  · rintro ⟨-, hagain, hending⟩
    refine ⟨hb, List.mem_cons_of_mem b hagain, List.forall_mem_cons.mpr ⟨?_, hending⟩⟩
    simp [isEnding, hb]

section Thinned

variable {cs ds : List Char} (h : Thinned cs ds)

include h

lemma forall_isEnding_iff_of_thinned :
    (∀ c ∈ cs, isEnding c = true) ↔ ∀ c ∈ ds, isEnding c = true := by
  rw [forall_isEnding_iff, forall_isEnding_iff]
  exact forall₂_congr fun c hc => by rw [h.mem_iff hc]

lemma spacedEnd_iff_of_thinned : SpacedEnd cs ↔ SpacedEnd ds := by
  induction h with
  | nil => rfl
  | keep c h =>
    have hmem := (h.keep c).mem_iff isBlank_terminator
    have hending := forall_isEnding_iff_of_thinned (h.keep c)
    constructor
    · exact fun hs => ⟨hs.blank, hmem.mp hs.again, hending.mp hs.ending⟩
    · exact fun hs => ⟨hs.blank, hmem.mpr hs.again, hending.mpr hs.ending⟩
  | drop hb hn _ ih => rw [ih, spacedEnd_blank_cons hb hn]

lemma interrupted_iff_of_thinned : Interrupted cs ↔ Interrupted ds := by
  induction h with
  | nil => rfl
  | keep c h ih => rw [interrupted_cons, interrupted_cons, spacedEnd_iff_of_thinned h, ih]
  | drop hb _ _ ih => rw [ih, interrupted_blank_cons hb]

end Thinned

def laidOut (cs : List Char) : List Char := trim (stack ((lines cs).map trimEnd))

lemma bare_eq (cs : List Char) : bare cs = trimEnd (dropEndWhile (· = ';') (laidOut cs)) := rfl

lemma interrupted_laidOut (cs : List Char) : Interrupted (laidOut cs) ↔ Interrupted cs := by
  rw [laidOut, trim, interrupted_iff_of_thinned (.trimEnd _), interrupted_trimStart,
    interrupted_iff_of_thinned (thinned_lines cs)]

lemma mem_laidOut_iff {cs : List Char} {c : Char} (hc : isBlank c = false) :
    c ∈ laidOut cs ↔ c ∈ cs := by
  rw [laidOut, mem_trim_iff hc, (thinned_lines cs).mem_iff hc]

lemma cut_eq_self_iff {cs : List Char} (hcs : ∀ c ∈ cs.getLast?, isBlank c = false) :
    trimEnd (dropEndWhile (· = ';') cs) = cs ↔ cs.getLast? ≠ some ';' := by
  constructor
  · intro he hlast
    have hcut : cs <+: dropEndWhile (· = ';') cs := by
      nth_rewrite 1 [← he]
      exact prefix_dropEndWhile isBlank _
    have hkept := hcut.eq_of_length_le (prefix_dropEndWhile _ _).length_le
    rw [hkept] at hlast
    exact absurd (getLast?_dropEndWhile _ hlast) (by decide)
  · intro hlast
    have hkept : dropEndWhile (· = ';') cs = cs :=
      dropEndWhile_eq_self _ fun d hd => decide_eq_false fun he => hlast (he ▸ hd)
    rw [hkept]
    exact dropEndWhile_eq_self isBlank hcs

lemma getLast?_of_interrupted {cs : List Char} (h : Interrupted cs) :
    (trimEnd (dropEndWhile (· = ';') cs)).getLast? = some ';' := by
  obtain ⟨front, rest, rfl, hblank, -, hending⟩ := h
  obtain ⟨b, hb, hbb⟩ : ∃ b, rest.head? = some b ∧ isBlank b = true := by
    simpa [Option.any_eq_true] using hblank
  obtain ⟨rest, rfl⟩ := List.head?_eq_some_iff.mp hb
  have hne : decide (b = ';') = false := by
    refine decide_eq_false fun h => ?_
    rw [h] at hbb
    exact absurd hbb (by decide)
  have hcut : dropEndWhile (· = ';') (front ++ ';' :: b :: rest) =
      front ++ ';' :: b :: dropEndWhile (· = ';') rest := by
    simpa using dropEndWhile_append_cons (· = ';') (front ++ [';']) rest hne
  rw [hcut, trimEnd, dropEndWhile_append_cons isBlank front _ isBlank_terminator]
  cases hl : (dropEndWhile isBlank (b :: dropEndWhile (· = ';') rest)).getLast? with
  | none => simp [List.getLast?_eq_none_iff.mp hl]
  | some c =>
    have hc := getLast?_dropEndWhile isBlank hl
    have hm : c ∈ b :: rest := by
      have hm := (dropEndWhile_sublist isBlank _).subset (List.mem_of_getLast? hl)
      exact ((dropEndWhile_sublist (· = ';') rest).cons_cons b).subset hm
    have he : c = ';' := by simpa [isEnding, hc] using hending c hm
    simp [List.getLast?_append, List.getLast?_cons, hl, he]

lemma interrupted_of_getLast? {cs : List Char} (hcs : ∀ c ∈ cs.getLast?, isBlank c = false)
    (h : (trimEnd (dropEndWhile (· = ';') cs)).getLast? = some ';') : Interrupted cs := by
  obtain ⟨ends, hends, he⟩ := exists_eq_dropEndWhile_append (· = ';') cs
  obtain ⟨gap, hgap, hg⟩ := exists_eq_dropEndWhile_append isBlank (dropEndWhile (· = ';') cs)
  obtain ⟨front, hfront⟩ := List.getLast?_eq_some_iff.mp h
  rw [trimEnd] at hfront
  rw [hfront] at hgap
  have hgapped : gap ≠ [] := by
    rintro rfl
    have hlast : (dropEndWhile (· = ';') cs).getLast? = some ';' := by simp [hgap]
    exact absurd (getLast?_dropEndWhile _ hlast) (by decide)
  obtain ⟨b, gap, rfl⟩ := List.exists_cons_of_ne_nil hgapped
  have hended : ends ≠ [] := by
    rintro rfl
    have hlast : cs.getLast? = (b :: gap).getLast? := by
      rw [hends, hgap, List.append_nil]
      simp [List.getLast?_append, List.getLast?_cons]
    have hm := List.mem_of_getLast? (List.getLast?_eq_some_getLast hgapped)
    rw [List.getLast?_eq_some_getLast hgapped] at hlast
    exact absurd (hg _ hm) (by simp [hcs _ hlast])
  obtain ⟨d, ends, rfl⟩ := List.exists_cons_of_ne_nil hended
  refine ⟨front, b :: gap ++ d :: ends, ?_, ?_, ?_, ?_⟩
  · rw [hends, hgap]
    simp
  · exact hg b List.mem_cons_self
  · have hd : d = ';' := by simpa using he d List.mem_cons_self
    simp [hd]
  · intro c hc
    rcases List.mem_append.mp hc with hc | hc
    · simp [isEnding, hg c hc]
    · simpa [isEnding] using Or.inr (of_decide_eq_true (he c hc))

lemma interrupted_iff_getLast?_bare (cs : List Char) :
    Interrupted cs ↔ (bare cs).getLast? = some ';' := by
  rw [bare_eq, ← interrupted_laidOut]
  exact ⟨getLast?_of_interrupted,
    interrupted_of_getLast? fun _ hc => getLast?_dropEndWhile isBlank hc⟩

lemma isBlank_getLast?_bare {cs : List Char} {c : Char} (hc : (bare cs).getLast? = some c) :
    isBlank c = false :=
  getLast?_dropEndWhile isBlank hc

lemma bare_eq_nil_iff {cs : List Char} :
    bare cs = [] ↔ (∀ c ∈ cs, isEnding c = true) ∧ ¬ Interrupted cs := by
  rw [interrupted_iff_getLast?_bare, forall_isEnding_iff]
  constructor
  · intro h
    refine ⟨fun c hc hm => ?_, by simp [h]⟩
    obtain ⟨ends, hends, he⟩ := exists_eq_dropEndWhile_append (· = ';') (laidOut cs)
    rw [bare_eq, trimEnd, dropEndWhile_eq_nil_iff] at h
    rw [← mem_laidOut_iff hc, hends, List.mem_append] at hm
    rcases hm with hm | hm
    · simp [h c hm] at hc
    · exact of_decide_eq_true (he c hm)
  · rintro ⟨hending, hlast⟩
    cases hl : (bare cs).getLast? with
    | none => exact List.getLast?_eq_none_iff.mp hl
    | some c =>
      have hc := isBlank_getLast?_bare hl
      have hkept : bare cs <+: laidOut cs :=
        (prefix_dropEndWhile isBlank _).trans (prefix_dropEndWhile _ _)
      have hm := (mem_laidOut_iff hc).mp (hkept.subset (List.mem_of_getLast? hl))
      exact absurd (hl.trans (congrArg some (hending c hc hm))) hlast

lemma Made.trimEnd_row {s : String} (h : Made s) : ∀ l ∈ rows s, trimEnd l = l := by
  refine h.flush.trimEnd_row fun c hc => ?_
  rw [h.tidy.closed] at hc
  obtain rfl := Option.some.inj hc
  exact isBlank_terminator

lemma Made.laidOut {s : String} (h : Made s) : laidOut s.toList = s.toList := by
  have hrows : (rows s).map trimEnd = rows s :=
    (List.map_congr_left h.trimEnd_row).trans (List.map_id' _)
  have htrim := congrArg String.toList h.tidy.trimmed
  rw [trimmed, String.toList_ofList] at htrim
  rw [Statement.laidOut, h.canonical.lines_eq, hrows, rows, stack, List.intercalate_splitOn, htrim]

def EndsOnce (s : String) : Prop :=
  ∃ front last, s.toList = front ++ [last, ';'] ∧ isEnding last = false

section Canonical

variable {s c : String} (h : canonical? s = some c)

include h

lemma endsOnce_iff : EndsOnce c ↔ ¬ Interrupted s.toList := by
  obtain ⟨hbare, hc⟩ := canonical?_eq_some_iff.mp h
  obtain ⟨front, last, hl⟩ := (List.eq_nil_or_concat' (bare s.toList)).resolve_left hbare
  have hlast : (bare s.toList).getLast? = some last := by simp [hl]
  have hb := isBlank_getLast?_bare hlast
  have hends : EndsOnce c ↔ isEnding last = false := by
    constructor
    · rintro ⟨front', last', hc', he⟩
      rw [hc, hl, List.append_assoc] at hc'
      obtain ⟨-, htail⟩ := List.append_inj' hc' rfl
      obtain ⟨rfl, -⟩ := List.cons.inj htail
      exact he
    · intro he
      exact ⟨front, last, by simp [hc, hl], he⟩
  rw [hends, interrupted_iff_getLast?_bare, hlast, Option.some.injEq]
  simp [isEnding, hb]

lemma canonical?_again_iff : canonical? c = some c ↔ ¬ Interrupted s.toList := by
  have hmade : Made c := ⟨s, h⟩
  obtain ⟨hbare, hc⟩ := canonical?_eq_some_iff.mp h
  have hagain : bare c.toList = trimEnd (dropEndWhile (· = ';') (bare s.toList)) := by
    rw [bare_eq, hmade.laidOut, hc, dropEndWhile_append _ _ (by simp)]
  have hfixed : canonical? c = some c ↔ bare c.toList = bare s.toList := by
    constructor
    · intro hs
      exact List.append_cancel_right ((canonical?_eq_some_iff.mp hs).2.symm.trans hc)
    · intro he
      rw [canonical?_eq_some_iff, he]
      exact ⟨hbare, hc⟩
  rw [hfixed, hagain, interrupted_iff_getLast?_bare]
  exact cut_eq_self_iff fun d hd => isBlank_getLast?_bare hd

end Canonical

/-- A statement's canonical form is a normal form just where no white space stands between the
terminators at the statement's end. -/
theorem normal_iff_not_interrupted (s : String) :
    (canonical? s = none ↔ (∀ c ∈ s.toList, isEnding c = true) ∧ ¬ Interrupted s.toList) ∧
      ∀ c, canonical? s = some c →
        (trimmed c = c ∧ (∀ l ∈ rows c, trimEnd l = l) ∧ c.toList.getLast? = some ';') ∧
        (EndsOnce c ↔ ¬ Interrupted s.toList) ∧
        (canonical? c = some c ↔ ¬ Interrupted s.toList) := by
  refine ⟨canonical?_eq_none_iff.trans bare_eq_nil_iff, fun c h => ?_⟩
  have hmade : Made c := ⟨s, h⟩
  exact ⟨⟨hmade.tidy.trimmed, hmade.trimEnd_row, hmade.tidy.closed⟩, endsOnce_iff h,
    canonical?_again_iff h⟩

theorem normal_of_update :
    let s := "UPDATE t  \r\n  SET a = 1 ;;\n"
    let c := "UPDATE t\n  SET a = 1;"
    canonical? s = some c ∧ ¬ Interrupted s.toList ∧ EndsOnce c ∧ canonical? c = some c := by
  intro s c
  have hc : canonical? s = some c := by decide +kernel
  have hn : ¬ Interrupted s.toList := by decide +kernel
  obtain ⟨-, honce, hagain⟩ := (normal_iff_not_interrupted s).2 c hc
  exact ⟨hc, hn, honce.mpr hn, hagain.mpr hn⟩

theorem not_normal_of_interrupted :
    canonical? "SELECT 1; ;" = some "SELECT 1;;" ∧ ¬ EndsOnce "SELECT 1;;" ∧
      canonical? "SELECT 1;;" = some "SELECT 1;" ∧
      (∀ c ∈ "; ;".toList, isEnding c = true) ∧ canonical? "; ;" = some ";;" := by
  have hending : "; ;".toList.all isEnding = true := by decide +kernel
  refine ⟨by decide +kernel, ?_, by decide +kernel, List.all_eq_true.mp hending,
    by decide +kernel⟩
  rintro ⟨front, last, hs, hl⟩
  have hlast : some ';' = some last := by
    simpa using congrArg (fun cs => cs.dropLast.getLast?) hs
  obtain rfl := Option.some.inj hlast
  exact absurd hl (by decide)

end SqlTriggers.Statement
