import Mathlib.Logic.Relation
import SqlTriggers.Proofs.Dump.Provenance
import SqlTriggers.Proofs.Engine.Rendering
import SqlTriggers.Proofs.Text.Words
import SqlTriggers.Proofs.Trigger.Terminators

/-! The form that live texts are compared in. It does not see how much white space stands where there
is some. Of the terminators at the end it drops one run, and so it sees those that white space parts
from the last. -/

namespace SqlTriggers

open Text Statement

def collapsed (cs : List Char) : List Char := [' '].intercalate (words cs)

def endsBlank (cs : List Char) : Bool := cs.getLast?.any isBlank

def gapBehind (cs : List Char) : List Char :=
  if endsBlank cs = true ∧ words cs ≠ [] then [' '] else []

lemma normalForm_eq (cs : List Char) :
    normalForm cs = trimEnd (dropEndWhile (· = ';') (collapsed cs)) := rfl

lemma collapsed_collapsed (cs : List Char) : collapsed (collapsed cs) = collapsed cs := by
  rw [collapsed, collapsed, words_intercalate (by decide), flatMap_words_words]

lemma endsBlank_iff {cs : List Char} :
    endsBlank cs = true ↔ ∃ front b, cs = front ++ [b] ∧ isBlank b = true := by
  simp only [endsBlank, Option.any_eq_true, List.getLast?_eq_some_iff]
  constructor
  · rintro ⟨b, ⟨front, rfl⟩, hb⟩
    exact ⟨front, b, rfl, hb⟩
  · rintro ⟨front, b, rfl, hb⟩
    exact ⟨b, ⟨front, rfl⟩, hb⟩

section Concat

variable {cs : List Char} {b c : Char}

lemma collapsed_concat_blank (cs : List Char) (hb : isBlank b = true) :
    collapsed (cs ++ [b]) = collapsed cs := by
  rw [collapsed, words_append_of_blank cs (by simpa using hb), collapsed]

lemma words_concat_of_endsBlank (he : endsBlank cs = true) (hc : isBlank c = false) :
    words (cs ++ [c]) = words cs ++ [[c]] := by
  obtain ⟨front, b, rfl, hb⟩ := endsBlank_iff.mp he
  have hword : words [c] = [[c]] := words_of_not_blank (by simp) (by simpa using hc)
  rw [List.append_assoc, List.singleton_append, words_append_blank front [c] hb, hword,
    words_append_of_blank front (by simpa using hb)]

lemma exists_words_concat_eq (he : endsBlank cs = false) (hn : cs ≠ []) (hc : isBlank c = false) :
    ∃ ws w, words cs = ws ++ [w] ∧ words (cs ++ [c]) = ws ++ [w ++ [c]] := by
  have hword : ∀ w : List Char, w ≠ [] → (∀ d ∈ w, isBlank d = false) →
      words w = [w] ∧ words (w ++ [c]) = [w ++ [c]] := by
    intro w hw h
    refine ⟨words_of_not_blank hw h, words_of_not_blank (by simp) ?_⟩
    exact List.forall_mem_append.mpr ⟨h, by simpa using hc⟩
  rcases exists_last_blank cs with h | ⟨front, d, last, rfl, hd, hlast⟩
  · obtain ⟨hw, hwc⟩ := hword cs hn h
    exact ⟨[], cs, hw, hwc⟩
  · have hne : last ≠ [] := by
      rintro rfl
      simp [endsBlank, hd] at he
    obtain ⟨hw, hwc⟩ := hword last hne hlast
    refine ⟨words front, last, ?_, ?_⟩
    · rw [words_append_blank front last hd, hw]
    · rw [List.append_assoc, List.cons_append, words_append_blank front (last ++ [c]) hd, hwc]

lemma collapsed_concat (cs : List Char) (hc : isBlank c = false) :
    collapsed (cs ++ [c]) = collapsed cs ++ (gapBehind cs ++ [c]) := by
  cases he : endsBlank cs with
  | true =>
    rw [collapsed, words_concat_of_endsBlank he hc, collapsed, gapBehind]
    by_cases hw : words cs = []
    · simp [hw]
    · rw [intercalate_concat _ _ hw, if_pos ⟨he, hw⟩]
  | false =>
    have hgap : gapBehind cs = [] := if_neg (by simp [he])
    rw [hgap, List.nil_append, collapsed, collapsed]
    by_cases hn : cs = []
    · have hword : words [c] = [[c]] := words_of_not_blank (by simp) (by simpa using hc)
      rw [hn, List.nil_append, hword]
      rfl
    · obtain ⟨ws, w, hw, hwc⟩ := exists_words_concat_eq he hn hc
      rw [hw, hwc]
      by_cases hws : ws = []
      · simp [hws]
      · rw [intercalate_concat _ _ hws, intercalate_concat _ _ hws]
        simp

lemma getLast?_collapsed (cs : List Char) : (collapsed cs).getLast? = (trimEnd cs).getLast? := by
  induction cs using List.reverseRecOn with
  | nil => rfl
  | append_singleton cs c ih =>
    cases hc : isBlank c with
    | true =>
      have htrim : trimEnd (cs ++ [c]) = trimEnd cs :=
        dropEndWhile_append isBlank cs (by simpa using hc)
      rw [collapsed_concat_blank cs hc, ih, htrim]
    | false =>
      have htrim : trimEnd (cs ++ [c]) = cs ++ [c] := dropEndWhile_concat isBlank cs hc
      rw [collapsed_concat cs hc, htrim, ← List.append_assoc]
      simp

lemma isBlank_getLast?_collapsed (cs : List Char) :
    ∀ c ∈ (collapsed cs).getLast?, isBlank c = false := by
  rw [getLast?_collapsed]
  exact fun _ hc => getLast?_dropEndWhile isBlank hc

end Concat

section Step

variable {cs : List Char} {b c : Char}

lemma normalForm_eq_collapsed_iff (cs : List Char) :
    normalForm cs = collapsed cs ↔ (collapsed cs).getLast? ≠ some ';' :=
  cut_eq_self_iff (isBlank_getLast?_collapsed cs)

lemma normalForm_concat_blank (cs : List Char) (hb : isBlank b = true) :
    normalForm (cs ++ [b]) = normalForm cs := by
  rw [normalForm_eq, collapsed_concat_blank cs hb, normalForm_eq]

lemma normalForm_concat_of_not_ending (cs : List Char) (hc : isEnding c = false) :
    normalForm (cs ++ [c]) = collapsed (cs ++ [c]) := by
  obtain ⟨hb, ht⟩ : isBlank c = false ∧ c ≠ ';' := by simpa [isEnding] using hc
  rw [normalForm_eq_collapsed_iff, collapsed_concat cs hb, ← List.append_assoc]
  simpa using ht

lemma normalForm_concat_terminator (cs : List Char) :
    normalForm (cs ++ [';']) = if endsBlank cs = true then collapsed cs else normalForm cs := by
  have hcut : normalForm (cs ++ [';']) =
      trimEnd (dropEndWhile (· = ';') (collapsed cs ++ gapBehind cs)) := by
    rw [normalForm_eq, collapsed_concat cs isBlank_terminator, ← List.append_assoc,
      dropEndWhile_append _ _ (by simp)]
  rw [hcut, gapBehind]
  by_cases hw : words cs = []
  · have hnil : collapsed cs = [] := by rw [collapsed, hw]; rfl
    simp [normalForm_eq, hw, hnil, trimEnd, dropEndWhile]
  · cases he : endsBlank cs with
    | true =>
      -- What is dropped is the new terminator alone, and those in front of the gap stay.
      have hblank : isBlank ' ' = true := by decide
      have htrim : trimEnd (collapsed cs ++ [' ']) = collapsed cs := by
        rw [trimEnd, dropEndWhile_append isBlank _ (by simpa using hblank)]
        exact dropEndWhile_eq_self isBlank (isBlank_getLast?_collapsed cs)
      rw [if_pos ⟨rfl, hw⟩, if_pos rfl, dropEndWhile_concat _ _ (by decide), htrim]
    | false => simp [normalForm_eq]

lemma normalForm_prefix_concat (cs : List Char) (hc : isEnding c = true) :
    normalForm cs <+: normalForm (cs ++ [c]) := by
  cases hb : isBlank c with
  | true => exact (normalForm_concat_blank cs hb).symm ▸ List.prefix_rfl
  | false =>
    obtain rfl : c = ';' := by simpa [isEnding, hb] using hc
    rw [normalForm_concat_terminator]
    split
    · exact (prefix_dropEndWhile isBlank _).trans (prefix_dropEndWhile _ _)
    · exact List.prefix_rfl

def Gapped (cs : List Char) : Prop :=
  ∃ front gap, cs = front ++ ';' :: gap ∧ gap ≠ [] ∧ ∀ b ∈ gap, isBlank b = true

lemma gapped_iff :
    Gapped cs ↔ endsBlank cs = true ∧ (collapsed cs).getLast? = some ';' := by
  rw [getLast?_collapsed]
  constructor
  · rintro ⟨front, gap, rfl, hgap, hblank⟩
    have htrim : trimEnd (front ++ ';' :: gap) = front ++ [';'] := by
      rw [trimEnd, dropEndWhile_append_cons isBlank front gap isBlank_terminator,
        (dropEndWhile_eq_nil_iff isBlank).mpr hblank]
    obtain ⟨gap, b, rfl⟩ := (List.eq_nil_or_concat' gap).resolve_left hgap
    exact ⟨endsBlank_iff.mpr ⟨front ++ ';' :: gap, b, by simp, hblank b (by simp)⟩, by simp [htrim]⟩
  · rintro ⟨he, hlast⟩
    obtain ⟨gap, hgap, hblank⟩ := exists_eq_dropEndWhile_append isBlank cs
    obtain ⟨front, hfront⟩ := List.getLast?_eq_some_iff.mp hlast
    rw [← trimEnd, hfront, List.append_assoc] at hgap
    refine ⟨front, gap, hgap, ?_, hblank⟩
    rintro rfl
    simp [hgap, endsBlank, isBlank_terminator] at he

instance : DecidablePred Gapped := fun _ => decidable_of_iff _ gapped_iff.symm

lemma normalForm_concat_terminator_eq_iff :
    normalForm (cs ++ [';']) = normalForm cs ↔ ¬ Gapped cs := by
  rw [normalForm_concat_terminator, gapped_iff]
  cases he : endsBlank cs with
  | true => simpa [eq_comm] using normalForm_eq_collapsed_iff cs
  | false => simp

end Step

section Interrupted

variable {cs : List Char} {c : Char}

lemma interrupted_concat : Interrupted (cs ++ [c]) ↔
    isEnding c = true ∧ (Interrupted cs ∨ c = ';' ∧ Gapped cs) := by
  constructor
  · rintro ⟨front, rest, he, hblank, hagain, hending⟩
    obtain ⟨rest, d, rfl⟩ := (List.eq_nil_or_concat' rest).resolve_left (List.ne_nil_of_mem hagain)
    rw [← List.cons_append, ← List.append_assoc] at he
    obtain ⟨rfl, hd⟩ := List.append_inj' he rfl
    obtain rfl : c = d := by simpa using hd
    obtain ⟨hrest, hc⟩ := List.forall_mem_append.mp hending
    refine ⟨hc c List.mem_cons_self, ?_⟩
    by_cases hm : ';' ∈ rest
    · have hhead : (rest ++ [c]).head? = rest.head? :=
        List.head?_append_of_ne_nil rest (List.ne_nil_of_mem hm)
      exact .inl ⟨front, rest, rfl, hhead ▸ hblank, hm, hrest⟩
    · obtain rfl : ';' = c := by simpa [hm] using hagain
      refine .inr ⟨rfl, front, rest, rfl, ?_, fun b hb => ?_⟩
      · rintro rfl
        simp [isBlank_terminator] at hblank
      · have hne : b ≠ ';' := fun h => hm (h ▸ hb)
        simpa [isEnding, hne] using hrest b hb
  · rintro ⟨hc, ⟨front, rest, rfl, hblank, hagain, hending⟩ | ⟨rfl, front, gap, rfl, hgap, hblank⟩⟩
    · have hhead : (rest ++ [c]).head? = rest.head? :=
        List.head?_append_of_ne_nil rest (List.ne_nil_of_mem hagain)
      refine ⟨front, rest ++ [c], by simp, hhead ▸ hblank, by simp [hagain], ?_⟩
      exact List.forall_mem_append.mpr ⟨hending, by simpa using hc⟩
    · obtain ⟨b, gap, rfl⟩ := List.exists_cons_of_ne_nil hgap
      refine ⟨front, b :: gap ++ [';'], by simp, by simp [hblank b], by simp, ?_⟩
      refine List.forall_mem_append.mpr ⟨fun d hd => ?_, by simpa using hc⟩
      simp [isEnding, hblank d hd]

lemma interrupted_iff_getLast?_normalForm (cs : List Char) :
    Interrupted cs ↔ (normalForm cs).getLast? = some ';' := by
  induction cs using List.reverseRecOn with
  | nil => exact iff_of_false not_interrupted_nil (by decide)
  | append_singleton cs c ih =>
    rw [interrupted_concat, ih]
    cases hc : isEnding c with
    | false =>
      obtain ⟨hb, ht⟩ : isBlank c = false ∧ c ≠ ';' := by simpa [isEnding] using hc
      rw [normalForm_concat_of_not_ending cs hc, collapsed_concat cs hb, ← List.append_assoc]
      simpa using ht
    | true =>
      cases hb : isBlank c with
      | true =>
        have hne : c ≠ ';' := ne_of_isBlank hb
        simp [normalForm_concat_blank cs hb, hne]
      | false =>
        obtain rfl : c = ';' := by simpa [isEnding, hb] using hc
        rw [normalForm_concat_terminator, gapped_iff]
        cases he : endsBlank cs with
        | false => simp
        | true =>
          -- If nothing is dropped, the last of what is kept is the last of the text.
          have hkept : (normalForm cs).getLast? = some ';' → (collapsed cs).getLast? = some ';' := by
            intro hlast
            by_contra hne
            rw [(normalForm_eq_collapsed_iff cs).mpr hne] at hlast
            exact hne hlast
          simpa using hkept

lemma exists_collapsed_eq (cs : List Char) : ∃ ds, normalForm cs = collapsed ds := by
  induction cs using List.reverseRecOn with
  | nil => exact ⟨[], rfl⟩
  | append_singleton cs c ih =>
    cases hb : isBlank c with
    | true => rwa [normalForm_concat_blank cs hb]
    | false =>
      by_cases hc : c = ';'
      · rw [hc, normalForm_concat_terminator]
        split
        · exact ⟨cs, rfl⟩
        · exact ih
      · exact ⟨_, normalForm_concat_of_not_ending cs (by simp [isEnding, hb, hc])⟩

lemma normalForm_normalForm_iff (cs : List Char) :
    normalForm (normalForm cs) = normalForm cs ↔ ¬ Interrupted cs := by
  obtain ⟨ds, hds⟩ := exists_collapsed_eq cs
  have hself : collapsed (normalForm cs) = normalForm cs := by rw [hds, collapsed_collapsed]
  have hsettled := normalForm_eq_collapsed_iff (normalForm cs)
  rw [hself] at hsettled
  rw [hsettled, interrupted_iff_getLast?_normalForm]

end Interrupted

section Append

variable {cs tail : List Char}

/-- Some terminator of the tail comes behind a gap. -/
def Reopens (cs tail : List Char) : Prop :=
  ∃ front back, tail = front ++ ';' :: back ∧ Gapped (cs ++ front)

lemma not_reopens_nil (cs : List Char) : ¬ Reopens cs [] := by
  rintro ⟨front, back, he, -⟩
  simp at he

lemma reopens_cons (c : Char) :
    Reopens cs (c :: tail) ↔ c = ';' ∧ Gapped cs ∨ Reopens (cs ++ [c]) tail := by
  constructor
  · rintro ⟨front, back, he, hgap⟩
    cases front with
    | nil =>
      obtain ⟨rfl, -⟩ := List.cons.inj he
      exact .inl ⟨rfl, by simpa using hgap⟩
    | cons d front =>
      obtain ⟨rfl, rfl⟩ := List.cons.inj he
      exact .inr ⟨front, back, rfl, by simpa using hgap⟩
  · rintro (⟨rfl, hgap⟩ | ⟨front, back, rfl, hgap⟩)
    · exact ⟨[], tail, rfl, by simpa using hgap⟩
    · exact ⟨c :: front, back, rfl, by simpa using hgap⟩

instance decidableReopens (cs : List Char) : DecidablePred (Reopens cs)
  | [] => .isFalse (not_reopens_nil cs)
  | c :: tail =>
    have := decidableReopens (cs ++ [c]) tail
    decidable_of_iff _ (reopens_cons c).symm

lemma normalForm_prefix_append (cs : List Char) (h : ∀ c ∈ tail, isEnding c = true) :
    normalForm cs <+: normalForm (cs ++ tail) := by
  induction tail generalizing cs with
  | nil => simp
  | cons c tail ih =>
    obtain ⟨hc, htail⟩ := List.forall_mem_cons.mp h
    have hrest := ih (cs ++ [c]) htail
    rw [List.append_assoc, List.singleton_append] at hrest
    exact (normalForm_prefix_concat cs hc).trans hrest

lemma normalForm_concat_eq_iff {c : Char} (hc : isEnding c = true) :
    normalForm (cs ++ [c]) = normalForm cs ↔ ¬ (c = ';' ∧ Gapped cs) := by
  cases hb : isBlank c with
  | true => simp [normalForm_concat_blank cs hb, ne_of_isBlank hb]
  | false =>
    obtain rfl : c = ';' := by simpa [isEnding, hb] using hc
    simpa using normalForm_concat_terminator_eq_iff

lemma normalForm_append_eq_iff (h : ∀ c ∈ tail, isEnding c = true) :
    normalForm (cs ++ tail) = normalForm cs ↔ ¬ Reopens cs tail := by
  induction tail generalizing cs with
  | nil => simp [not_reopens_nil]
  | cons c tail ih =>
    obtain ⟨hc, htail⟩ := List.forall_mem_cons.mp h
    have hfirst := normalForm_prefix_concat cs hc
    have hrest := normalForm_prefix_append (cs ++ [c]) htail
    have hsplit : cs ++ c :: tail = cs ++ [c] ++ tail := by simp
    rw [reopens_cons, not_or, ← normalForm_concat_eq_iff hc, ← ih htail, hsplit]
    constructor
    · intro he
      rw [he] at hrest
      have hsame := hfirst.eq_of_length_le hrest.length_le
      exact ⟨hsame.symm, he.trans hsame⟩
    · rintro ⟨hone, hall⟩
      rw [hall, hone]

end Append

inductive Widens : List Char → List Char → Prop
  | before {b c : Char} (front back : List Char) : isBlank b = true → isBlank c = true →
      Widens (front ++ b :: back) (front ++ c :: b :: back)
  | behind {b c : Char} (front back : List Char) : isBlank b = true → isBlank c = true →
      Widens (front ++ b :: back) (front ++ b :: c :: back)

/-- White space put in and taken out beside other white space, any number of times. -/
def Respaced : List Char → List Char → Prop := Relation.EqvGen Widens

lemma Widens.words_eq {cs ds : List Char} (h : Widens cs ds) : words cs = words ds := by
  have hcons : ∀ {d : Char} (es : List Char), isBlank d = true → words (d :: es) = words es :=
    fun es hd => words_append_blank [] es hd
  cases h with
  | before front back hb hc =>
    rw [words_append_blank front back hb, words_append_blank front _ hc, hcons back hb]
  | behind front back hb hc =>
    rw [words_append_blank front back hb, words_append_blank front _ hb, hcons back hc]

lemma Respaced.words_eq {cs ds : List Char} (h : Respaced cs ds) : words cs = words ds := by
  induction h with
  | rel _ _ hw => exact hw.words_eq
  | refl _ => rfl
  | symm _ _ _ ih => exact ih.symm
  | trans _ _ _ _ _ ih ih' => exact ih.trans ih'

namespace Engine

lemma closed_rendering {engine : Engine} (he : engine ≠ .inline) (t : Trigger) :
    (engine.rendering t).toList.getLast? = some ';' := by
  cases engine with
  | functionBacked =>
    have hcall : t.callText.toList.getLast? = some ';' := by
      rw [Trigger.callText, String.toList_append, List.getLast?_append]
      rfl
    refine getLast?_stacked [t.functionText] t.executingText ?_
    exact getLast?_stacked (["CREATE TRIGGER " ++ t.headline, t.forEach] ++
      t.condition.toList.map fun c => "WHEN (" ++ c ++ ")") t.callText hcall
  | inline => exact absurd rfl he
  | lightweight => exact (getLast?_stacked [] t.lightweightText (getLast?_stacked _ "END;" rfl))

lemma not_reads_of_terminated {engine : Engine} (he : engine ≠ .inline) (t : Trigger) :
    ¬ engine.Reads t t.name (engine.rendering t ++ "\n;") := by
  rintro ⟨-, hreads⟩
  obtain ⟨front, hfront⟩ := List.getLast?_eq_some_iff.mp (closed_rendering he t)
  have hblank : isBlank '\n' = true := by decide
  have hgap : Gapped ((engine.rendering t).toList ++ ['\n']) :=
    ⟨front, ['\n'], by simp [hfront], by simp, by simpa using hblank⟩
  have hending : ∀ c ∈ "\n;".toList, isEnding c = true := List.all_eq_true.mp (by decide +kernel)
  have hopen : Reopens (engine.rendering t).toList "\n;".toList := ⟨['\n'], [], rfl, hgap⟩
  rw [normalizeStatement, normalizeStatement, String.ofList_inj, String.toList_append] at hreads
  exact (normalForm_append_eq_iff hending).mp hreads.symm hopen

end Engine

/-- The form of a text does not change with the amount of its white space. It is its own form just
where no white space stands between the terminators at the text's end, and white space and
terminators put behind the text are not seen just where no terminator of them comes behind a gap. -/
theorem normalizeStatement_ignores_iff (ddl : String) :
    (∀ other : String, Respaced ddl.toList other.toList →
      normalizeStatement other = normalizeStatement ddl) ∧
    (normalizeStatement (normalizeStatement ddl) = normalizeStatement ddl ↔
      ¬ Interrupted ddl.toList) ∧
    ∀ tail : String, (∀ c ∈ tail.toList, isEnding c = true) →
      (normalizeStatement (ddl ++ tail) = normalizeStatement ddl ↔
        ¬ Reopens ddl.toList tail.toList) := by
  refine ⟨fun other h => ?_, ?_, fun tail h => ?_⟩
  · rw [normalizeStatement, normalForm, ← h.words_eq, normalizeStatement, normalForm]
  · rw [normalizeStatement, normalizeStatement, String.toList_ofList, String.ofList_inj,
      normalForm_normalForm_iff]
  · rw [normalizeStatement, normalizeStatement, String.ofList_inj, String.toList_append,
      normalForm_append_eq_iff h]

theorem normalizeStatement_ignores_iff_spaced :
    let ddl := "DROP  TRIGGER bob_tr ;;"
    let other := "DROP TRIGGER bob_tr\n ;;"
    let tail := ";\u00a0\r\n"
    Respaced ddl.toList other.toList ∧ ¬ Interrupted ddl.toList ∧
      (∀ c ∈ tail.toList, isEnding c = true) ∧ ¬ Reopens ddl.toList tail.toList ∧
      normalizeStatement other = normalizeStatement ddl ∧
      normalizeStatement (normalizeStatement ddl) = normalizeStatement ddl ∧
      normalizeStatement (ddl ++ tail) = normalizeStatement ddl := by
  intro ddl other tail
  have hrespaced : Respaced ddl.toList other.toList := by
    have hfrom : ddl.toList = "DROP".toList ++ ' ' :: ' ' :: "TRIGGER bob_tr ;;".toList := by
      decide +kernel
    have hmid : "DROP".toList ++ ' ' :: "TRIGGER bob_tr ;;".toList =
        "DROP TRIGGER bob_tr".toList ++ ' ' :: ";;".toList := by decide +kernel
    have hto : other.toList = "DROP TRIGGER bob_tr".toList ++ '\n' :: ' ' :: ";;".toList := by
      decide +kernel
    rw [hfrom, hto]
    refine .trans _ _ _ (.symm _ _ (.rel _ _ (.behind _ _ rfl rfl))) ?_
    rw [hmid]
    exact .rel _ _ (.before _ _ rfl rfl)
  have hkept : ¬ Interrupted ddl.toList := by decide +kernel
  have hending : ∀ c ∈ tail.toList, isEnding c = true := List.all_eq_true.mp (by decide +kernel)
  have hclosed : ¬ Reopens ddl.toList tail.toList := by decide +kernel
  obtain ⟨hspace, hagain, hbehind⟩ := normalizeStatement_ignores_iff ddl
  exact ⟨hrespaced, hkept, hending, hclosed, hspace other hrespaced, hagain.mpr hkept,
    (hbehind tail hending).mpr hclosed⟩

theorem normalizeStatement_reopened :
    normalizeStatement "SELECT 1; ;" = "SELECT 1;" ∧ normalizeStatement "SELECT 1;" = "SELECT 1" ∧
    (∀ c ∈ "; ;".toList, isEnding c = true) ∧
    normalizeStatement ("SELECT 1" ++ "; ;") ≠ normalizeStatement "SELECT 1" ∧
    ∀ t : Trigger, ¬ Engine.lightweight.Reads t t.name (Engine.lightweight.rendering t ++ "\n;") := by
  have hending : "; ;".toList.all isEnding = true := by decide +kernel
  exact ⟨by decide +kernel, by decide +kernel, List.all_eq_true.mp hending, by decide +kernel,
    Engine.not_reads_of_terminated (by decide)⟩

end SqlTriggers
