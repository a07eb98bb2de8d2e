import Mathlib.Data.List.Basic
import Mathlib.Data.List.Chain
import Mathlib.Tactic.Common
import SqlTriggers.Proofs.Text.Blank
import SqlTriggers.Text.Lines

/-! Cutting texts at line feeds. What stands before the first of a kind is determined. -/

namespace SqlTriggers.Text

lemma cut_unique {α : Type} {x : α} {a b r s : List α} (ha : x ∉ a) (hb : x ∉ b)
    (h : a ++ x :: r = b ++ x :: s) : a = b ∧ r = s := by
  induction a generalizing b with
  | nil =>
    cases b with
    | nil => simpa using h
    | cons z b =>
      obtain ⟨rfl, _⟩ := List.cons.inj h
      exact absurd List.mem_cons_self hb
  | cons y a ih =>
    cases b with
    | nil =>
      obtain ⟨rfl, _⟩ := List.cons.inj h
      exact absurd List.mem_cons_self ha
    | cons z b =>
      obtain ⟨rfl, ht⟩ := List.cons.inj h
      obtain ⟨rfl, rfl⟩ := ih (List.not_mem_of_not_mem_cons ha) (List.not_mem_of_not_mem_cons hb) ht
      exact ⟨rfl, rfl⟩

lemma cut_unique_last {α : Type} {x : α} {a b r s : List α} (hr : x ∉ r) (hs : x ∉ s)
    (h : a ++ x :: r = b ++ x :: s) : a = b ∧ r = s := by
  have hh := congrArg List.reverse h
  simp only [List.reverse_append, List.reverse_cons, List.append_assoc, List.singleton_append] at hh
  obtain ⟨hrs, hab⟩ := cut_unique (by simpa using hr) (by simpa using hs) hh
  exact ⟨List.reverse_injective hab, List.reverse_injective hrs⟩

lemma run_unique {p : Char → Bool} {a b r s : List Char} (ha : ∀ c ∈ a, p c = true)
    (hb : ∀ c ∈ b, p c = true) (hr : ∀ c ∈ r.head?, p c = false) (hs : ∀ c ∈ s.head?, p c = false)
    (h : a ++ r = b ++ s) : a = b ∧ r = s := by
  have hrun : ∀ {x y : List Char}, (∀ c ∈ x, p c = true) → (∀ c ∈ y.head?, p c = false) →
      (x ++ y).takeWhile p = x := by
    intro x y hx hy
    rw [List.takeWhile_append_of_pos hx]
    cases y with
    | nil => simp
    | cons c y => simp [hy c rfl]
  have hab : a = b := by rw [← hrun ha hr, h, hrun hb hs]
  subst hab
  exact ⟨rfl, List.append_cancel_left h⟩

lemma mem_intercalate {α : Type} {x : α} {sep : List α} {ls : List (List α)}
    (h : x ∈ sep.intercalate ls) : x ∈ sep ∨ ∃ l ∈ ls, x ∈ l := by
  induction ls with
  | nil => simp at h
  | cons l ls ih =>
    cases ls with
    | nil => exact .inr ⟨l, by simp, by simpa using h⟩
    | cons m ls =>
      rw [List.intercalate_cons_cons, List.append_assoc, List.mem_append, List.mem_append] at h
      rcases h with h | h | h
      · exact .inr ⟨l, by simp, h⟩
      · exact .inl h
      · rcases ih h with h | ⟨k, hk, hx⟩
        · exact .inl h
        · exact .inr ⟨k, List.mem_cons_of_mem _ hk, hx⟩

lemma intercalate_cons_eq_append (sep l : List Char) (ls : List (List Char)) :
    sep.intercalate (l :: ls) = l ++ ls.flatMap (sep ++ ·) := by
  induction ls generalizing l with
  | nil => simp
  | cons m ls ih =>
    rw [List.intercalate_cons_cons, ih, List.flatMap_cons, List.append_assoc, List.append_assoc]

lemma intercalate_concat (sep l : List Char) {ls : List (List Char)} (h : ls ≠ []) :
    sep.intercalate (ls ++ [l]) = sep.intercalate ls ++ (sep ++ l) := by
  obtain ⟨m, ms, rfl⟩ := List.exists_cons_of_ne_nil h
  rw [List.cons_append, intercalate_cons_eq_append, intercalate_cons_eq_append, List.flatMap_append,
    List.flatMap_singleton, List.append_assoc]

@[simp] lemma stack_nil : stack [] = [] := rfl

@[simp] lemma stack_singleton (l : List Char) : stack [l] = l := by simp [stack]

@[simp] lemma stack_cons_cons (l m : List Char) (ls : List (List Char)) :
    stack (l :: m :: ls) = l ++ '\n' :: stack (m :: ls) := by
  simp [stack]

lemma stack_cons_append (c : Char) (l : List Char) (ls : List (List Char)) :
    stack ((c :: l) :: ls) = c :: stack (l :: ls) := by
  cases ls <;> simp

lemma stack_append {ls ms : List (List Char)} (hl : ls ≠ []) (hm : ms ≠ []) :
    stack (ls ++ ms) = stack ls ++ '\n' :: stack ms := by
  induction ls with
  | nil => exact absurd rfl hl
  | cons l ls ih =>
    obtain ⟨m, ms', rfl⟩ := List.exists_cons_of_ne_nil hm
    cases ls with
    | nil => simp
    | cons l' ls => simpa using ih (by simp)

lemma getLast?_stack (ls : List (List Char)) {l : List Char} {c : Char}
    (h : l.getLast? = some c) : (stack (ls ++ [l])).getLast? = some c := by
  cases ls with
  | nil => simpa using h
  | cons m ls =>
    rw [stack_append (by simp) (by simp)]
    simp [List.getLast?_cons, h]

lemma splitOn_stack {ls : List (List Char)} (hl : ls ≠ []) :
    (stack ls).splitOn '\n' = ls.flatMap fun l => l.splitOn '\n' := by
  induction ls with
  | nil => exact absurd rfl hl
  | cons l ls ih =>
    cases ls with
    | nil => simp
    | cons m ls =>
      rw [stack_cons_cons, List.splitOn_append_cons_self, ih (by simp)]
      rfl

lemma exists_splitOn_eq_cons (cs : List Char) : ∃ p ps, cs.splitOn '\n' = p :: ps :=
  List.exists_cons_of_ne_nil (List.splitOn_ne_nil '\n' cs)

lemma splitOn_newline_cons (cs : List Char) :
    ('\n' :: cs).splitOn '\n' = [] :: cs.splitOn '\n' :=
  List.splitOn_append_cons_self [] cs

lemma splitOn_cons_of_ne {c : Char} (hc : c ≠ '\n') {cs p : List Char} {ps : List (List Char)}
    (h : cs.splitOn '\n' = p :: ps) : (c :: cs).splitOn '\n' = (c :: p) :: ps := by
  rw [List.splitOn_cons_eq_if_modifyHead, h, if_neg (by simpa using hc)]
  rfl

lemma lines_eq_nil_iff {cs : List Char} : lines cs = [] ↔ cs = [] := by
  fun_cases lines cs <;> simp_all

lemma newline_notMem_of_mem_lines (cs : List Char) : ∀ l ∈ lines cs, '\n' ∉ l := by
  fun_induction lines cs with
  | case1 => simp
  | case2 cs ih => simpa using ih
  | case3 cs ih => simpa using ih
  | case4 c cs hn _ hl ih => simpa using fun h : '\n' = c => hn h.symm
  | case5 c cs hn _ l ls hl ih =>
    rw [hl] at ih
    simp only [List.mem_cons, forall_eq_or_imp] at ih ⊢
    exact ⟨by simpa [ih.1] using fun h : '\n' = c => hn h.symm, ih.2⟩

def terminated (ls : List (List Char)) : List Char :=
  ls.flatMap (· ++ ['\n'])

@[simp] lemma terminated_nil : terminated [] = [] := rfl

@[simp] lemma terminated_cons (l : List Char) (ls : List (List Char)) :
    terminated (l :: ls) = l ++ '\n' :: terminated ls := by
  simp [terminated]

@[simp] lemma terminated_append (ls ms : List (List Char)) :
    terminated (ls ++ ms) = terminated ls ++ terminated ms :=
  List.flatMap_append

lemma terminated_flatMap {α : Type} (xs : List α) (f : α → List (List Char)) :
    terminated (xs.flatMap f) = xs.flatMap fun x => terminated (f x) :=
  List.flatMap_assoc

lemma terminated_stack {ls : List (List Char)} (hn : ls ≠ []) :
    terminated ls = stack ls ++ ['\n'] := by
  induction ls with
  | nil => exact absurd rfl hn
  | cons l ls ih =>
    cases ls with
    | nil => simp
    | cons m ls =>
      have h := ih (List.cons_ne_nil m ls)
      rw [terminated_cons, h, stack_cons_cons, List.append_assoc, List.cons_append]

lemma lines_cons {c : Char} {cs : List Char} (hc : c ≠ '\n')
    (hr : c = '\r' → cs.head? ≠ some '\n') {l : List Char} {ls : List (List Char)}
    (h : lines cs = l :: ls) : lines (c :: cs) = (c :: l) :: ls := by
  rw [lines, h]
  · exact hc
  · rintro ds rfl rfl
    exact hr rfl rfl

lemma lines_append_newline {l : List Char} (hn : '\n' ∉ l) (cs : List Char) :
    ∃ m, lines (l ++ '\n' :: cs) = m :: lines cs ∧ trimEnd m = trimEnd l := by
  induction l with
  | nil => exact ⟨[], by simp [lines], rfl⟩
  | cons c l ih =>
    have hc : c ≠ '\n' := fun h => hn (h ▸ List.mem_cons_self)
    have hl : '\n' ∉ l := fun h => hn (List.mem_cons_of_mem c h)
    by_cases hcut : c = '\r' ∧ l = []
    · obtain ⟨rfl, rfl⟩ := hcut
      exact ⟨[], by simp [lines], by decide⟩
    · obtain ⟨m, hm, ht⟩ := ih hl
      refine ⟨c :: m, lines_cons hc (fun hr => ?_) hm, trimEnd_cons_congr c ht⟩
      cases l with
      | nil => exact absurd ⟨hr, rfl⟩ hcut
      | cons d l => simpa using fun h : d = '\n' => hl (h ▸ List.mem_cons_self)

lemma lines_terminated {ls : List (List Char)} (h : ∀ l ∈ ls, '\n' ∉ l) :
    (lines (terminated ls)).map trimEnd = ls.map trimEnd := by
  induction ls with
  | nil => rfl
  | cons l ls ih =>
    obtain ⟨m, hm, ht⟩ := lines_append_newline (h l List.mem_cons_self) (terminated ls)
    have hls := ih fun k hk => h k (List.mem_cons_of_mem l hk)
    rw [terminated_cons, hm, List.map_cons, List.map_cons, ht, hls]

lemma map_trimEnd_splitOn (cs : List Char) : ∃ last, (last = [] ∨ last = [[]]) ∧
    (cs.splitOn '\n').map trimEnd = (lines cs).map trimEnd ++ last := by
  fun_induction lines cs with
  | case1 => exact ⟨[[]], .inr rfl, rfl⟩
  | case2 cs ih =>
    obtain ⟨last, hlast, heq⟩ := ih
    refine ⟨last, hlast, ?_⟩
    rw [splitOn_newline_cons, List.map_cons, heq, List.map_cons, List.cons_append]
  | case3 cs ih =>
    obtain ⟨last, hlast, heq⟩ := ih
    refine ⟨last, hlast, ?_⟩
    have hrows := splitOn_cons_of_ne (c := '\r') (by decide) (splitOn_newline_cons cs)
    have hreturn : trimEnd ['\r'] = trimEnd [] := by decide
    rw [hrows, List.map_cons, heq, hreturn, List.map_cons, List.cons_append]
  | case4 c cs hn hr hl ih =>
    rw [lines_eq_nil_iff.mp hl, splitOn_cons_of_ne hn (List.splitOn_nil '\n')]
    exact ⟨[], .inl rfl, rfl⟩
  | case5 c cs hn hr l ls hl ih =>
    obtain ⟨last, hlast, heq⟩ := ih
    refine ⟨last, hlast, ?_⟩
    obtain ⟨p, ps, hp⟩ := exists_splitOn_eq_cons cs
    rw [hp, hl, List.map_cons, List.map_cons, List.cons_append] at heq
    obtain ⟨hfirst, hrest⟩ := List.cons.inj heq
    rw [splitOn_cons_of_ne hn hp, List.map_cons, trimEnd_cons_congr c hfirst, hrest, List.map_cons,
      List.cons_append]

def Unreturned (cs : List Char) : Prop := cs.IsChain fun c d => d = '\n' → c ≠ '\r'

def Flush (cs : List Char) : Prop := cs.IsChain fun c d => d = '\n' → isBlank c = true → c = '\n'

lemma Flush.unreturned {cs : List Char} (h : Flush cs) : Unreturned cs := by
  refine List.IsChain.imp (fun c d hcd hd hc => ?_) h
  rw [hc] at hcd
  exact absurd (hcd hd (by decide)) (by decide)

lemma Flush.of_infix {cs ds : List Char} (h : Flush cs) (hi : ds <:+: cs) : Flush ds :=
  List.IsChain.infix h hi

lemma flush_of_newline_notMem {l : List Char} (h : '\n' ∉ l) : Flush l := by
  refine List.isChain_iff_forall_rel_of_append_cons_cons.mpr ?_
  rintro c d front rest rfl rfl
  simp at h

lemma flush_stack {ls : List (List Char)} (hn : ∀ l ∈ ls, '\n' ∉ l)
    (hb : ∀ l ∈ ls, ∀ c ∈ l.getLast?, isBlank c = false) : Flush (stack ls) := by
  induction ls with
  | nil => exact .nil
  | cons l ls ih =>
    have hl := flush_of_newline_notMem (hn l List.mem_cons_self)
    cases ls with
    | nil => simpa using hl
    | cons m ls =>
      have hls := ih (fun k hk => hn k (List.mem_cons_of_mem l hk))
        fun k hk => hb k (List.mem_cons_of_mem l hk)
      rw [stack_cons_cons]
      refine List.isChain_append.mpr ⟨hl, List.isChain_cons.mpr ⟨fun d _ _ _ => rfl, hls⟩, ?_⟩
      intro c hc d _ _ hblank
      rw [hb l List.mem_cons_self c hc] at hblank
      exact nomatch hblank

lemma eq_newline_of_splitOn {d : Char} {cs : List Char} {ps : List (List Char)}
    (h : (d :: cs).splitOn '\n' = [] :: ps) : d = '\n' := by
  by_contra hd
  obtain ⟨q, qs, hq⟩ := exists_splitOn_eq_cons cs
  rw [splitOn_cons_of_ne hd hq] at h
  exact nomatch h

lemma Flush.trimEnd_row {cs : List Char} (h : Flush cs)
    (hb : ∀ c ∈ cs.getLast?, isBlank c = false) : ∀ l ∈ cs.splitOn '\n', trimEnd l = l := by
  induction cs with
  | nil => simp [trimEnd, dropEndWhile]
  | cons c cs ih =>
    obtain ⟨hfirst, hrest⟩ := List.isChain_cons.mp h
    have hrows : ∀ l ∈ cs.splitOn '\n', trimEnd l = l := by
      refine ih hrest fun d hd => hb d ?_
      cases cs with
      | nil => simp at hd
      | cons e cs => simpa using hd
    by_cases hn : c = '\n'
    · rw [hn, splitOn_newline_cons]
      exact List.forall_mem_cons.mpr ⟨rfl, hrows⟩
    · obtain ⟨p, ps, hp⟩ := exists_splitOn_eq_cons cs
      rw [hp] at hrows
      obtain ⟨hfront, hbehind⟩ := List.forall_mem_cons.mp hrows
      rw [splitOn_cons_of_ne hn hp]
      refine List.forall_mem_cons.mpr ⟨?_, hbehind⟩
      rw [trimEnd] at hfront ⊢
      rw [dropEndWhile_cons, hfront, if_neg]
      rintro ⟨rfl, hc⟩
      cases cs with
      | nil => simp [hb c rfl] at hc
      | cons d cs =>
        obtain rfl := eq_newline_of_splitOn hp
        exact hn (hfirst '\n' rfl rfl hc)

lemma lines_eq_splitOn {cs : List Char} (hc : Unreturned cs) {d : Char} (hl : cs.getLast? = some d)
    (hd : d ≠ '\n') : lines cs = cs.splitOn '\n' := by
  induction cs with
  | nil => simp at hl
  | cons c cs ih =>
    cases cs with
    | nil =>
      obtain rfl : c = d := by simpa using hl
      rw [List.splitOn_eq_singleton (by simpa using hd.symm)]
      simp [lines]
    | cons e cs =>
      rw [List.getLast?_cons_cons] at hl
      obtain ⟨hfirst, hrest⟩ := List.isChain_cons.mp hc
      have hlines := ih hrest hl
      by_cases hn : c = '\n'
      · rw [hn, lines, hlines, splitOn_newline_cons]
      · obtain ⟨p, ps, hp⟩ := exists_splitOn_eq_cons (e :: cs)
        have hreturn : c = '\r' → (e :: cs).head? ≠ some '\n' := by
          intro hr he
          exact hfirst '\n' he rfl hr
        rw [lines_cons hn hreturn (hlines.trans hp), splitOn_cons_of_ne hn hp]

lemma lines_stack {ls : List (List Char)} (hn : ∀ l ∈ ls, '\n' ∉ l) (he : ∀ l ∈ ls, l ≠ [])
    (hb : ∀ l ∈ ls, ∀ c ∈ l.getLast?, isBlank c = false) : lines (stack ls) = ls := by
  rcases List.eq_nil_or_concat ls with rfl | ⟨front, l, rfl⟩
  · rfl
  · rw [List.concat_eq_append] at hn he hb ⊢
    have hlast := List.getLast?_eq_some_getLast (he l (by simp))
    have hne : l.getLast (he l (by simp)) ≠ '\n' :=
      fun h => hn l (by simp) (h ▸ List.getLast_mem (he l (by simp)))
    rw [lines_eq_splitOn (flush_stack hn hb).unreturned (getLast?_stack front hlast) hne]
    exact List.splitOn_intercalate '\n' hn (by simp)

end SqlTriggers.Text

namespace SqlTriggers

open Text

@[simp] lemma stacked_singleton (s : String) : stacked [s] = s :=
  String.intercalate_singleton

@[simp] lemma toList_stacked (ls : List String) :
    (stacked ls).toList = stack (ls.map String.toList) := by
  simp [stacked, stack]

def Indented (l : List Char) : Prop := l = [] ∨ ∃ rest, l = ' ' :: rest

instance : DecidablePred Indented
  | [] => .isTrue (.inl rfl)
  | c :: l => decidable_of_iff (c = ' ') (by simp [Indented])

def rows (s : String) : List (List Char) := s.toList.splitOn '\n'

lemma rows_injective : Function.Injective rows := by
  intro s r h
  have hj := congrArg (['\n'].intercalate ·) h
  simp only [rows, List.intercalate_splitOn] at hj
  exact String.toList_inj.mp hj

lemma rows_ne_nil (s : String) : rows s ≠ [] := List.splitOn_ne_nil '\n' s.toList

lemma rows_eq_singleton {s : String} (h : '\n' ∉ s.toList) : rows s = [s.toList] :=
  List.splitOn_eq_singleton h

lemma rows_stacked {ss : List String} (h : ss ≠ []) : rows (stacked ss) = ss.flatMap rows := by
  rw [rows, toList_stacked, splitOn_stack (by simpa using h), List.flatMap_map]
  rfl

lemma head?_stacked (s : String) (ss : List String) {c : Char} (h : s.toList.head? = some c) :
    (stacked (s :: ss)).toList.head? = some c := by
  cases ss <;> simp [h]

lemma getLast?_stacked (ss : List String) (s : String) {c : Char} (h : s.toList.getLast? = some c) :
    (stacked (ss ++ [s])).toList.getLast? = some c := by
  rw [toList_stacked, List.map_append]
  exact getLast?_stack _ h

lemma trimmed_stacked (first last : String) (ls : List String) {c d : Char}
    (hf : first.toList.head? = some c) (hl : last.toList.getLast? = some d)
    (hc : isBlank c = false) (hd : isBlank d = false) :
    trimmed (stacked (first :: (ls ++ [last]))) = stacked (first :: (ls ++ [last])) := by
  have hlast := getLast?_stacked (first :: ls) last hl
  rw [List.cons_append] at hlast
  exact trimmed_eq_self (head?_stacked first _ hf) hlast hc hd

def padded (l : List Char) : List Char := if l.isEmpty then [] else "    ".toList ++ l

lemma padded_injective : Function.Injective padded := by
  intro l m h
  cases l <;> cases m <;> simp_all [padded]

lemma toList_indent (s : String) :
    (indent s).toList = stack ((lines s.toList).map padded) := by
  simp only [indent, linesOf, toList_stacked, List.map_map]
  congr 1
  apply List.map_congr_left
  intro l _
  cases l with
  | nil => rfl
  | cons c l => simp [padded]

lemma splitOn_stack_padded {ls : List (List Char)} (hn : ∀ l ∈ ls, '\n' ∉ l) (he : ls ≠ []) :
    (stack (ls.map padded)).splitOn '\n' = ls.map padded := by
  refine List.splitOn_intercalate '\n' (fun l hl => ?_) (by simpa using he)
  obtain ⟨m, hm, rfl⟩ := List.mem_map.mp hl
  have hm := hn m hm
  rw [padded]
  split <;> simp [hm]

lemma indented_of_mem_rows_indent (s : String) : ∀ l ∈ rows (indent s), Indented l := by
  intro l hl
  rw [rows, toList_indent] at hl
  by_cases he : lines s.toList = []
  · rw [he] at hl
    exact .inl (by simpa using hl)
  · rw [splitOn_stack_padded (newline_notMem_of_mem_lines s.toList) he] at hl
    obtain ⟨m, _, rfl⟩ := List.mem_map.mp hl
    rw [padded]
    split
    · exact .inl rfl
    · exact .inr ⟨_, rfl⟩

end SqlTriggers
