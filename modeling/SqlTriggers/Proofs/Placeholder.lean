import Mathlib.Data.List.Forall2
import Mathlib.Data.List.Infix
import SqlTriggers.Placeholder
import SqlTriggers.Proofs.OrderedMap
import SqlTriggers.Proofs.Text.Lines

/-! Filling the holes of a condition. The holes are those that a scan from the left cuts out, and a value
that is put into one is not looked at again. -/

namespace SqlTriggers

open Text

namespace Placeholder

def Piece.name? : Piece → Option String
  | .char _ => none
  | .hole name => some (String.ofList name)

def holes (condition : String) : List String :=
  (pieces condition.toList).filterMap Piece.name?

def filled (bindings : Bindings) (condition : String) : String :=
  trimmed (String.ofList ((pieces condition.toList).flatMap (Piece.fill bindings)))

lemma findSome?_unbound (bindings : Bindings) (ps : List Piece) :
    ps.findSome? (Piece.unbound? bindings) =
      (ps.filterMap Piece.name?).find? fun hole => !bindings.contains hole := by
  induction ps with
  | nil => rfl
  | cons p ps ih =>
    cases p with
    | char c => exact ih
    | hole name =>
      have hcons : (Piece.hole name :: ps).filterMap Piece.name? =
          String.ofList name :: ps.filterMap Piece.name? := rfl
      rw [hcons, List.findSome?_cons, List.find?_cons, ih, Piece.unbound?]
      cases bindings.contains (String.ofList name) <;> rfl

def IsName (name : List Char) : Prop :=
  ∃ c cs, name = c :: cs ∧ isIdentStart c = true ∧ ∀ d ∈ cs, isIdentChar d = true

def braced (name : List Char) : List Char := '{' :: (name ++ ['}'])

structure Cut where
  text : List Char
  name : List Char

/-- The cut is at the first hole: none starts further left. -/
structure FirstCut (cs : List Char) (cut : Cut) (rest : List Char) : Prop where
  isName : IsName cut.name
  eq : cs = cut.text ++ (braced cut.name ++ rest)
  first : ∀ text name rest', IsName name → cs = text ++ (braced name ++ rest') →
    cut.text.length ≤ text.length

/-- Cutting from the left, hole by hole, leaves these cuts and this last text. -/
inductive Scans : List Char → List Cut → List Char → Prop
  | last {cs : List Char} : (∀ name, IsName name → ¬ braced name <:+: cs) → Scans cs [] cs
  | next {cs : List Char} {cut : Cut} {rest : List Char} {cuts : List Cut} {last : List Char} :
      FirstCut cs cut rest → Scans rest cuts last → Scans cs (cut :: cuts) last

lemma isIdentChar_of_isIdentStart {c : Char} (h : isIdentStart c = true) : isIdentChar c = true := by
  simp only [isIdentStart, isIdentChar, Char.isAlphanum, Bool.or_eq_true] at h ⊢
  tauto

lemma IsName.chars {name : List Char} (h : IsName name) : ∀ c ∈ name, isIdentChar c = true := by
  obtain ⟨c, cs, rfl, hc, hcs⟩ := h
  exact List.forall_mem_cons.mpr ⟨isIdentChar_of_isIdentStart hc, hcs⟩

lemma IsName.brace_notMem {name : List Char} (h : IsName name) : '}' ∉ name := fun hm =>
  absurd (h.chars '}' hm) (by decide)

section Pieces

variable {cs rest name : List Char}

lemma holeName?_append (rest : List Char) (h : IsName name) :
    holeName? (name ++ '}' :: rest) = some name := by
  have hrun : (name ++ '}' :: rest).takeWhile isIdentChar = name := by
    rw [List.takeWhile_append_of_pos h.chars, List.takeWhile_cons_of_neg (by decide),
      List.append_nil]
  obtain ⟨c, cs, rfl, hc, -⟩ := h
  rw [holeName?, hrun]
  simp [hc]

lemma exists_of_holeName? (h : holeName? cs = some name) :
    IsName name ∧ ∃ rest, cs = name ++ '}' :: rest := by
  rw [holeName?] at h
  split at h
  · exact nomatch h
  · rename_i c ds hrun
    split_ifs at h with hc
    obtain rfl := Option.some.inj h
    simp only [Bool.and_eq_true, decide_eq_true_eq] at hc
    have hcs : cs = (c :: ds) ++ cs.dropWhile isIdentChar := by
      rw [← hrun, List.takeWhile_append_dropWhile]
    have hds : ∀ d ∈ c :: ds, isIdentChar d = true := by
      rw [← hrun]
      exact fun d hd => List.mem_takeWhile_imp hd
    have hdrop : cs.drop (ds.length + 1) = cs.dropWhile isIdentChar := by
      conv_lhs => rw [hcs]
      exact List.drop_left' (by simp)
    rw [hdrop] at hc
    obtain ⟨rest, hrest⟩ := List.head?_eq_some_iff.mp hc.2
    exact ⟨⟨c, ds, rfl, hc.1, fun d hd => hds d (List.mem_cons_of_mem c hd)⟩, rest, hrest ▸ hcs⟩

lemma piecesFrom_append (skipped rest : List Char) :
    piecesFrom skipped.length (skipped ++ rest) = pieces rest := by
  induction skipped with
  | nil => rfl
  | cons c cs ih => exact ih

lemma pieces_braced (rest : List Char) (h : IsName name) :
    pieces (braced name ++ rest) = .hole name :: pieces rest := by
  have hbehind : piecesFrom (name.length + 1) (name ++ '}' :: rest) = pieces rest := by
    have hskip := piecesFrom_append (name ++ ['}']) rest
    rwa [List.append_assoc, List.length_append] at hskip
  have hname : (if '{' = '{' then holeName? (name ++ '}' :: rest) else none) = some name := by
    rw [if_pos rfl, holeName?_append rest h]
  rw [braced, List.cons_append, List.append_assoc, List.singleton_append, pieces, piecesFrom, hname]
  exact congrArg (Piece.hole name :: ·) hbehind

lemma pieces_cons {c : Char} (h : ∀ name, IsName name → ¬ braced name <+: c :: cs) :
    pieces (c :: cs) = .char c :: pieces cs := by
  have hnone : (if c = '{' then holeName? cs else none) = none := by
    split_ifs with hc
    · refine Option.eq_none_iff_forall_ne_some.mpr fun name hname => ?_
      obtain ⟨hn, rest, rfl⟩ := exists_of_holeName? hname
      exact h name hn ⟨rest, by simp [braced, hc]⟩
    · rfl
  rw [pieces, piecesFrom, hnone, pieces]

lemma pieces_eq_map (h : ∀ name, IsName name → ¬ braced name <:+: cs) :
    pieces cs = cs.map Piece.char := by
  induction cs with
  | nil => rfl
  | cons c cs ih =>
    have hcs := ih fun name hn hi => h name hn (hi.trans (List.suffix_cons c cs).isInfix)
    rw [pieces_cons fun name hn hp => h name hn hp.isInfix, hcs, List.map_cons]

end Pieces

section Scan

variable {cs cs' rest rest' text name last last' : List Char} {cut cut' : Cut} {cuts cuts' : List Cut}

lemma firstCut_cons_iff {c : Char} : FirstCut (c :: cs) ⟨c :: text, name⟩ rest ↔
    (∀ name', IsName name' → ¬ braced name' <+: c :: cs) ∧ FirstCut cs ⟨text, name⟩ rest := by
  constructor
  · intro h
    refine ⟨fun name' hn => ?_, h.isName, (List.cons.inj h.eq).2, fun t n r hn heq => ?_⟩
    · rintro ⟨r, hr⟩
      exact absurd (h.first [] name' r hn hr.symm) (by simp)
    · exact Nat.le_of_succ_le_succ (h.first (c :: t) n r hn (congrArg (c :: ·) heq))
  · rintro ⟨hnone, h⟩
    refine ⟨h.isName, congrArg (c :: ·) h.eq, fun t n r hn heq => ?_⟩
    cases t with
    | nil => exact absurd ⟨r, heq.symm⟩ (hnone n hn)
    | cons d t => exact Nat.succ_le_succ (h.first t n r hn (List.cons.inj heq).2)

lemma FirstCut.unique (h : FirstCut cs cut rest) (h' : FirstCut cs cut' rest') :
    cut = cut' ∧ rest = rest' := by
  obtain ⟨text, name⟩ := cut
  obtain ⟨text', name'⟩ := cut'
  have hlen : text.length = text'.length :=
    Nat.le_antisymm (h.first _ _ _ h'.isName h'.eq) (h'.first _ _ _ h.isName h.eq)
  obtain ⟨rfl, hbraced⟩ := List.append_inj (h.eq.symm.trans h'.eq) hlen
  have hcut : name ++ '}' :: rest = name' ++ '}' :: rest' := by simpa [braced] using hbraced
  obtain ⟨rfl, rfl⟩ := cut_unique h.isName.brace_notMem h'.isName.brace_notMem hcut
  exact ⟨rfl, rfl⟩

lemma firstCut_or_no_hole (cs : List Char) :
    (∀ name, IsName name → ¬ braced name <:+: cs) ∨ ∃ cut rest, FirstCut cs cut rest := by
  induction cs with
  | nil => exact .inl fun name _ hi => nomatch List.infix_nil.mp hi
  | cons c cs ih =>
    by_cases hhere : ∃ name, IsName name ∧ braced name <+: c :: cs
    · obtain ⟨name, hn, rest, hrest⟩ := hhere
      exact .inr ⟨⟨[], name⟩, rest, hn, hrest.symm, fun _ _ _ _ _ => Nat.zero_le _⟩
    · have hhere' : ∀ name, IsName name → ¬ braced name <+: c :: cs := fun name hn hp =>
        hhere ⟨name, hn, hp⟩
      rcases ih with hnone | ⟨cut, rest, hcut⟩
      · exact .inl fun name hn hi =>
          (List.infix_cons_iff.mp hi).elim (hhere' name hn) (hnone name hn)
      · exact .inr ⟨⟨c :: cut.text, cut.name⟩, rest, firstCut_cons_iff.mpr ⟨hhere', hcut⟩⟩

lemma FirstCut.length_lt (h : FirstCut cs cut rest) : rest.length < cs.length := by
  rw [h.eq, List.length_append, List.length_append]
  simp only [braced, List.length_cons]
  omega

lemma exists_scans (cs : List Char) : ∃ cuts last, Scans cs cuts last := by
  rcases firstCut_or_no_hole cs with hnone | ⟨cut, rest, hcut⟩
  · exact ⟨[], cs, .last hnone⟩
  · have := hcut.length_lt
    obtain ⟨cuts, last, h⟩ := exists_scans rest
    exact ⟨cut :: cuts, last, .next hcut h⟩
termination_by cs.length

lemma FirstCut.isInfix (h : FirstCut cs cut rest) : braced cut.name <:+: cs :=
  ⟨cut.text, rest, by rw [h.eq, List.append_assoc]⟩

lemma Scans.unique (h : Scans cs cuts last) (h' : Scans cs cuts' last') :
    cuts = cuts' ∧ last = last' := by
  induction h generalizing cuts' last' with
  | last hnone =>
    cases h' with
    | last _ => exact ⟨rfl, rfl⟩
    | next hcut _ => exact absurd hcut.isInfix (hnone _ hcut.isName)
  | next hcut _ ih =>
    cases h' with
    | last hnone => exact absurd hcut.isInfix (hnone _ hcut.isName)
    | next hcut' hs =>
      obtain ⟨rfl, rfl⟩ := hcut.unique hcut'
      obtain ⟨rfl, rfl⟩ := ih hs
      exact ⟨rfl, rfl⟩

lemma pieces_of_firstCut (h : FirstCut cs cut rest) :
    pieces cs = cut.text.map Piece.char ++ .hole cut.name :: pieces rest := by
  obtain ⟨text, name⟩ := cut
  induction text generalizing cs with
  | nil => rw [h.eq]; exact pieces_braced rest h.isName
  | cons c text ih =>
    obtain rfl : cs = c :: (text ++ (braced name ++ rest)) := h.eq
    obtain ⟨hnone, htail⟩ := firstCut_cons_iff.mp h
    rw [pieces_cons hnone, ih htail, List.map_cons, List.cons_append]

def Cut.pieces (cut : Cut) : List Piece :=
  cut.text.map Piece.char ++ [.hole cut.name]

lemma pieces_of_scans (h : Scans cs cuts last) :
    pieces cs = cuts.flatMap Cut.pieces ++ last.map Piece.char := by
  induction h with
  | last hnone => exact pieces_eq_map hnone
  | next hcut _ ih =>
    rw [pieces_of_firstCut hcut, ih, List.flatMap_cons, Cut.pieces, List.append_assoc,
      List.append_assoc, List.singleton_append]

end Scan

section Filling

def Cut.hole (cut : Cut) : String := String.ofList cut.name

def refilled (cuts : List Cut) (values : List String) (last : List Char) : List Char :=
  (List.zipWith (fun cut value => cut.text ++ value.toList) cuts values).flatten ++ last

def FirstUnbound (bindings : Bindings) (cuts : List Cut) (cut : Cut) : Prop :=
  ∃ front back, cuts = front ++ cut :: back ∧ bindings.get? cut.hole = none ∧
    ∀ c ∈ front, ∃ value, bindings.get? c.hole = some value

def Values (bindings : Bindings) : List Cut → List String → Prop :=
  List.Forall₂ fun cut value => bindings.get? cut.hole = some value

variable {bindings bindings' : Bindings} {cuts : List Cut} {values : List String}

lemma holes_of_scans {condition : String} {last : List Char} (h : Scans condition.toList cuts last) :
    holes condition = cuts.map Cut.hole := by
  have hchars (cs : List Char) : (cs.map Piece.char).filterMap Piece.name? = [] := by
    rw [List.filterMap_map]
    exact List.filterMap_eq_nil_iff.mpr fun c _ => rfl
  have hcut (cut : Cut) : cut.pieces.filterMap Piece.name? = [cut.hole] := by
    rw [Cut.pieces, List.filterMap_append, hchars]
    rfl
  rw [holes, pieces_of_scans h, List.filterMap_append, hchars, List.append_nil,
    List.filterMap_flatMap, List.map_eq_flatMap]
  exact congrArg (cuts.flatMap ·) (funext hcut)

lemma flatMap_fill (hv : Values bindings cuts values) (last : List Char) :
    (cuts.flatMap Cut.pieces ++ last.map Piece.char).flatMap (Piece.fill bindings) =
      refilled cuts values last := by
  have hchars (cs : List Char) : (cs.map Piece.char).flatMap (Piece.fill bindings) = cs := by
    rw [List.flatMap_map]
    exact List.flatMap_singleton' cs
  induction hv with
  | nil => exact hchars last
  | @cons cut value cuts values hvalue _ ih =>
    have hcut : cut.pieces.flatMap (Piece.fill bindings) = cut.text ++ value.toList := by
      rw [Cut.pieces, List.flatMap_append, hchars, List.flatMap_singleton, Piece.fill]
      exact congrArg (fun v => cut.text ++ (Option.getD v "").toList) hvalue
    rw [List.flatMap_cons, List.append_assoc, List.flatMap_append, ih, hcut]
    simp only [refilled, List.zipWith_cons_cons, List.flatten_cons, List.append_assoc]

lemma Values.exists_of_mem (hv : Values bindings cuts values) {cut : Cut} (hcut : cut ∈ cuts) :
    ∃ value, bindings.get? cut.hole = some value := by
  induction hv with
  | nil => exact nomatch hcut
  | cons hvalue _ ih => exact (List.mem_cons.mp hcut).elim (fun h => ⟨_, h ▸ hvalue⟩) ih

lemma find?_unbound_eq_none_iff (bindings : Bindings) (cuts : List Cut) :
    (cuts.map Cut.hole).find? (fun hole => !bindings.contains hole) = none ↔
      ∃ values, Values bindings cuts values := by
  simp only [List.find?_map, Option.map_eq_none_iff, List.find?_eq_none, Function.comp_apply,
    Bool.not_eq_true, Bool.not_eq_false', OrderedMap.contains_iff]
  constructor
  · intro h
    refine ⟨cuts.map fun cut => (bindings.get? cut.hole).getD "", ?_⟩
    refine List.forall₂_map_right_iff.mpr (List.forall₂_same.mpr fun cut hcut => ?_)
    obtain ⟨value, hvalue⟩ := h cut hcut
    rw [hvalue, Option.getD_some]
  · rintro ⟨values, hv⟩ cut hcut
    exact hv.exists_of_mem hcut

lemma find?_unbound_eq_some_iff (bindings : Bindings) (cuts : List Cut) {hole : String} :
    (cuts.map Cut.hole).find? (fun hole => !bindings.contains hole) = some hole ↔
      ∃ cut, FirstUnbound bindings cuts cut ∧ cut.hole = hole := by
  have hunbound (hole : String) :
      (!bindings.contains hole) = true ↔ bindings.get? hole = none := by
    simp [OrderedMap.contains]
  have hbound (hole : String) : (!(!bindings.contains hole)) = true ↔
      ∃ value, bindings.get? hole = some value := by
    rw [Bool.not_not, OrderedMap.contains_iff]
  simp only [List.find?_map, Option.map_eq_some_iff, List.find?_eq_some_iff_append,
    Function.comp_apply, hunbound, hbound]
  constructor
  · rintro ⟨cut, ⟨hnone, front, back, hcuts, hfront⟩, hhole⟩
    exact ⟨cut, ⟨front, back, hcuts, hnone, hfront⟩, hhole⟩
  · rintro ⟨cut, ⟨front, back, hcuts, hnone, hfront⟩, hhole⟩
    exact ⟨cut, ⟨hnone, front, back, hcuts, hfront⟩, hhole⟩

lemma FirstUnbound.congr {cut : Cut} (h : FirstUnbound bindings cuts cut)
    (hb : ∀ c ∈ cuts, bindings'.get? c.hole = bindings.get? c.hole) :
    FirstUnbound bindings' cuts cut := by
  obtain ⟨front, back, rfl, hnone, hfront⟩ := h
  rw [List.forall_mem_append, List.forall_mem_cons] at hb
  obtain ⟨hbfront, hbcut, -⟩ := hb
  refine ⟨front, back, rfl, hbcut.trans hnone, fun c hc => ?_⟩
  rw [hbfront c hc]
  exact hfront c hc

lemma Values.congr (hv : Values bindings cuts values)
    (hb : ∀ c ∈ cuts, bindings'.get? c.hole = bindings.get? c.hole) :
    Values bindings' cuts values := by
  induction hv with
  | nil => exact .nil
  | cons hvalue _ ih =>
    obtain ⟨hbcut, hbcuts⟩ := List.forall_mem_cons.mp hb
    exact .cons (hbcut.trans hvalue) (ih hbcuts)

end Filling

end Placeholder

open Placeholder

lemma fillHoles_of_find? {condition : String} {bindings : Bindings} {hole : String}
    (h : (holes condition).find? (fun hole => !bindings.contains hole) = some hole) :
    fillHoles condition bindings = .error (.unresolvedPlaceholder hole condition) := by
  rw [holes, ← Placeholder.findSome?_unbound] at h
  simp only [fillHoles, h]

lemma fillHoles_of_bound {condition : String} {bindings : Bindings}
    (h : (holes condition).find? (fun hole => !bindings.contains hole) = none) :
    fillHoles condition bindings = .ok (filled bindings condition) := by
  rw [holes, ← Placeholder.findSome?_unbound] at h
  simp only [fillHoles, h, filled, trimmed, String.toList_ofList]

lemma eq_filled_of_fillHoles {condition c : String} {bindings : Bindings}
    (h : fillHoles condition bindings = .ok c) : c = filled bindings condition := by
  cases hf : (holes condition).find? fun hole => !bindings.contains hole with
  | some hole => cases (fillHoles_of_find? hf).symm.trans h
  | none => exact Except.ok.inj (h.symm.trans (fillHoles_of_bound hf))

section Outcome

variable {condition : String} {bindings bindings' : Bindings} {cuts : List Cut} {last : List Char}

lemma fillHoles_eq_error_iff (h : Scans condition.toList cuts last) {e : Error} :
    fillHoles condition bindings = .error e ↔
      ∃ cut, FirstUnbound bindings cuts cut ∧ e = .unresolvedPlaceholder cut.hole condition := by
  constructor
  · intro he
    cases hf : (holes condition).find? fun hole => !bindings.contains hole with
    | none => cases (fillHoles_of_bound hf).symm.trans he
    | some hole =>
      have herror := Except.error.inj (he.symm.trans (fillHoles_of_find? hf))
      rw [holes_of_scans h] at hf
      obtain ⟨cut, hcut, rfl⟩ := (find?_unbound_eq_some_iff bindings cuts).mp hf
      exact ⟨cut, hcut, herror⟩
  · rintro ⟨cut, hcut, rfl⟩
    have hf := (find?_unbound_eq_some_iff bindings cuts).mpr ⟨cut, hcut, rfl⟩
    rw [← holes_of_scans h] at hf
    exact fillHoles_of_find? hf

lemma fillHoles_of_values (h : Scans condition.toList cuts last) {values : List String}
    (hv : Values bindings cuts values) :
    fillHoles condition bindings =
      .ok (trimmed (String.ofList (refilled cuts values last))) := by
  have hf := (find?_unbound_eq_none_iff bindings cuts).mpr ⟨values, hv⟩
  rw [← holes_of_scans h] at hf
  rw [fillHoles_of_bound hf, filled, pieces_of_scans h, flatMap_fill hv]

lemma fillHoles_eq_ok_iff (h : Scans condition.toList cuts last) {s : String} :
    fillHoles condition bindings = .ok s ↔
      ∃ values, Values bindings cuts values ∧
        s = trimmed (String.ofList (refilled cuts values last)) := by
  constructor
  · intro hs
    cases hf : (holes condition).find? fun hole => !bindings.contains hole with
    | some hole => cases (fillHoles_of_find? hf).symm.trans hs
    | none =>
      rw [holes_of_scans h] at hf
      obtain ⟨values, hv⟩ := (find?_unbound_eq_none_iff bindings cuts).mp hf
      exact ⟨values, hv, Except.ok.inj (hs.symm.trans (fillHoles_of_values h hv))⟩
  · rintro ⟨values, hv, rfl⟩
    exact fillHoles_of_values h hv

lemma fillHoles_congr (h : Scans condition.toList cuts last)
    (hb : ∀ c ∈ cuts, bindings'.get? c.hole = bindings.get? c.hole) :
    fillHoles condition bindings' = fillHoles condition bindings := by
  cases hf : fillHoles condition bindings with
  | error e =>
    obtain ⟨cut, hcut, he⟩ := (fillHoles_eq_error_iff h).mp hf
    exact (fillHoles_eq_error_iff h).mpr ⟨cut, hcut.congr hb, he⟩
  | ok s =>
    obtain ⟨values, hv, hs⟩ := (fillHoles_eq_ok_iff h).mp hf
    exact (fillHoles_eq_ok_iff h).mpr ⟨values, hv.congr hb, hs⟩

end Outcome

/-- Every condition has one scan. Filling it fails just when a hole of the scan has no value, and names
the first such hole. Otherwise every hole gives way to its value as it is, and the rest stays. Only the
values of the holes count. -/
theorem fillHoles_by_scan (condition : String) :
    ∃ cuts last, Scans condition.toList cuts last ∧
      (∀ cuts' last', Scans condition.toList cuts' last' → cuts' = cuts ∧ last' = last) ∧
      ∀ bindings : Bindings,
        (∀ e, fillHoles condition bindings = .error e ↔ ∃ cut,
          FirstUnbound bindings cuts cut ∧ e = .unresolvedPlaceholder cut.hole condition) ∧
        (∀ s, fillHoles condition bindings = .ok s ↔ ∃ values,
          Values bindings cuts values ∧
            s = trimmed (String.ofList (refilled cuts values last))) ∧
        ∀ bindings' : Bindings,
          (∀ cut ∈ cuts, bindings'.get? cut.hole = bindings.get? cut.hole) →
            fillHoles condition bindings' = fillHoles condition bindings := by
  obtain ⟨cuts, last, h⟩ := exists_scans condition.toList
  refine ⟨cuts, last, h, fun _ _ h' => h'.unique h, fun bindings => ⟨?_, ?_, ?_⟩⟩
  · exact fun e => fillHoles_eq_error_iff h
  · exact fun s => fillHoles_eq_ok_iff h
  · exact fun bindings' => fillHoles_congr h

def bracedText : String :=
  "\x7bb\x7da\x7d \x7b\x7ba\x7d\x7d \x7b\x7d \x7b9\x7d \x7ba-b\x7d \x7bb"

def bracedValues : Bindings := .ofList [("a", "\x7bb\x7d"), ("b", " \x7b")]

def bracedFilled : String :=
  "\x7ba\x7d \x7b\x7bb\x7d\x7d \x7b\x7d \x7b9\x7d \x7ba-b\x7d \x7bb"

theorem fillHoles_by_scan_braces :
    ∃ cuts last, Scans bracedText.toList cuts last ∧ cuts.map Cut.hole = ["b", "a"] ∧
      (∃ values, Values bracedValues cuts values ∧
        bracedFilled = trimmed (String.ofList (refilled cuts values last))) ∧
      (∃ cut, FirstUnbound .empty cuts cut ∧
        Error.unresolvedPlaceholder "b" bracedText = .unresolvedPlaceholder cut.hole bracedText) ∧
      fillHoles bracedText (bracedValues.insert "x" "1") = .ok bracedFilled := by
  obtain ⟨cuts, last, h, -, hfill⟩ := fillHoles_by_scan bracedText
  obtain ⟨-, hok, hcongr⟩ := hfill bracedValues
  have hcuts : cuts.map Cut.hole = ["b", "a"] := (holes_of_scans h).symm.trans (by decide +kernel)
  have hfilled : fillHoles bracedText bracedValues = .ok bracedFilled := by rfl
  refine ⟨cuts, last, h, hcuts, (hok _).mp hfilled, ((hfill .empty).1 _).mp (by rfl), ?_⟩
  refine (hcongr _ fun cut hcut => ?_).trans hfilled
  have hhole : cut.hole ∈ ["b", "a"] := hcuts ▸ List.mem_map_of_mem hcut
  have hother : ∀ hole ∈ ["b", "a"],
      (bracedValues.insert "x" "1").get? hole = bracedValues.get? hole := by decide +kernel
  exact hother cut.hole hhole

end SqlTriggers
