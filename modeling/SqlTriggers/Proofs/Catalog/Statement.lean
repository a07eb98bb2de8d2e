import SqlTriggers.Catalog.Statement
import SqlTriggers.Proofs.Engine.Rendering
import SqlTriggers.Proofs.Text.Word

/-! A catalog reads the engines' statements for what they are. -/

namespace SqlTriggers

open Text

namespace CatalogStatement

lemma afterKeywordGap_append (k : String) (rest : List Char) {c : Char} (hc : isBlank c = false) :
    afterKeywordGap k (k.toList ++ ' ' :: c :: rest) = some (c :: rest) := by
  rw [afterKeywordGap, afterKeyword_append]
  exact afterGap_cons rest hc

lemma isRoutineChar_of_isTableChar {c : Char} (h : isTableChar c = true) :
    isRoutineChar c = true := by
  simp only [isTableChar, Bool.or_eq_true, decide_eq_true_eq] at h
  rcases h with h | rfl
  · simp [isRoutineChar, isWordChar_of_isIdentChar h]
  · decide

lemma isRoutineChar_of_isIdentChar {c : Char} (h : isIdentChar c = true) :
    isRoutineChar c = true := by
  simp [isRoutineChar, isWordChar_of_isIdentChar h]

def keywordText (ks : List String) : List Char :=
  ks.flatMap fun k => k.toList ++ [' ']

lemma afterKeywords_append {ks : List String} (rest : List Char) {c : Char}
    (hk : ∀ k ∈ ks, ∃ d ds, k.toList = d :: ds ∧ isBlank d = false) (hc : isBlank c = false) :
    afterKeywords ks (keywordText ks ++ c :: rest) = some (c :: rest) := by
  induction ks with
  | nil => rfl
  | cons k ks ih =>
    have hrest : ∀ l ∈ ks, ∃ d ds, l.toList = d :: ds ∧ isBlank d = false := fun l hl =>
      hk l (List.mem_cons_of_mem _ hl)
    have hcons : ∃ d ds, keywordText ks ++ c :: rest = d :: ds ∧ isBlank d = false := by
      cases ks with
      | nil => exact ⟨c, rest, rfl, hc⟩
      | cons l ls =>
        obtain ⟨d, ds, hl, hd⟩ := hrest l List.mem_cons_self
        exact ⟨d, ds ++ ' ' :: keywordText ls ++ c :: rest, by simp [keywordText, hl], hd⟩
    obtain ⟨d, ds, hds, hd⟩ := hcons
    have htext : keywordText (k :: ks) ++ c :: rest = k.toList ++ ' ' :: d :: ds := by
      rw [← hds]
      simp [keywordText]
    rw [afterKeywords, htext, afterKeywordGap_append k ds hd, Option.bind_some, ← hds, ih hrest]

lemma timing_of_append (t : Timing) (rest : List Char) :
    (afterKeywordGap "BEFORE" (t.sql.toList ++ ' ' :: rest)).or
      (afterKeywordGap "AFTER" (t.sql.toList ++ ' ' :: rest)) = some (trimStart rest) := by
  have hblank : isBlank ' ' = true := by decide
  cases t with
  | before =>
    rw [Timing.sql, afterKeywordGap, afterKeyword_append, Option.bind_some, afterGap,
      if_pos hblank, Option.some_or]
  | after =>
    have hb : afterKeywordGap "BEFORE" (Timing.after.sql.toList ++ ' ' :: rest) = none := rfl
    rw [hb, Option.none_or, Timing.sql, afterKeywordGap, afterKeyword_append, Option.bind_some,
      afterGap, if_pos hblank]

lemma afterDefiner_append {account : List Char} (ha : IsToken account) (rest : List Char) {c : Char}
    (hc : isBlank c = false) :
    afterDefiner ("DEFINER".toList ++ ' ' :: '=' :: ' ' :: (account ++ ' ' :: c :: rest)) =
      some (c :: rest) := by
  have hblank : isBlank ' ' = true := by decide
  have hequals : trimStart (' ' :: '=' :: ' ' :: (account ++ ' ' :: c :: rest)) =
      '=' :: ' ' :: (account ++ ' ' :: c :: rest) := by
    rw [trimStart, List.dropWhile_cons_of_pos hblank]
    exact trimStart_cons _ (by decide)
  have haccount : trimStart (' ' :: (account ++ ' ' :: c :: rest)) =
      account ++ ' ' :: c :: rest := by
    obtain ⟨d, ds, rfl⟩ := List.exists_cons_of_ne_nil ha.nonempty
    rw [trimStart, List.dropWhile_cons_of_pos hblank]
    exact trimStart_cons _ (ha.chars d List.mem_cons_self)
  have hrun : takeRun (fun c => !isBlank c) (account ++ ' ' :: c :: rest) =
      some (account, ' ' :: c :: rest) :=
    takeRun_append _ ha.nonempty (fun d hd => by simp [ha.chars d hd]) (by decide)
  rw [afterDefiner, afterKeyword_append]
  simp only [Option.bind_eq_bind, Option.bind_some]
  rw [hequals, afterChar, if_pos rfl, Option.bind_some, haccount, hrun, Option.bind_some]
  exact afterGap_cons rest hc

lemma afterOn_append {table : List Char} (ht : IsTableName table) :
    afterOn (' ' :: ("ON ".toList ++ table ++ [';'])) = some [';'] := by
  obtain ⟨c, cs, rfl, hi, -⟩ := ht.exists_cons
  have hc : isBlank c = false := isBlank_of_isIdentChar hi
  have hon : afterGap (' ' :: ("ON ".toList ++ c :: cs ++ [';'])) =
      some ("ON".toList ++ ' ' :: c :: (cs ++ [';'])) :=
    afterGap_cons _ (by decide)
  have hrun : takeRoutine (c :: cs ++ [';']) = some (c :: cs, [';']) :=
    takeRun_append [] (List.cons_ne_nil c cs)
      (fun d hd => isRoutineChar_of_isTableChar (ht.chars d hd)) (by decide)
  rw [afterOn, hon]
  simp only [Option.bind_eq_bind, Option.bind_some]
  rw [afterKeywordGap_append "ON" _ hc, Option.bind_some, ← List.cons_append, hrun]
  rfl

section Identifier

variable {name : List Char} (hn : IsIdentifier name)

include hn

lemma exists_cons_of_isIdentifier : ∃ c rest, name = c :: rest ∧ isBlank c = false := by
  obtain ⟨c, rest, rfl⟩ := List.exists_cons_of_ne_nil hn.nonempty
  exact ⟨c, rest, rfl, isBlank_of_isIdentChar (hn.chars c List.mem_cons_self)⟩

lemma afterGap_identifier (rest : List Char) :
    afterGap (' ' :: (name ++ rest)) = some (name ++ rest) := by
  obtain ⟨c, cs, rfl, hc⟩ := exists_cons_of_isIdentifier hn
  exact afterGap_cons (cs ++ rest) hc

lemma afterKeywordGap_identifier (k : String) (rest : List Char) :
    afterKeywordGap k (k.toList ++ ' ' :: (name ++ rest)) = some (name ++ rest) := by
  rw [afterKeywordGap, afterKeyword_append]
  exact afterGap_identifier hn rest

lemma takeRoutine_identifier (rest : List Char) {c : Char} (hc : isRoutineChar c = false) :
    takeRoutine (name ++ c :: rest) = some (name, c :: rest) :=
  takeRun_append rest hn.nonempty (fun d hd => isRoutineChar_of_isIdentChar (hn.chars d hd)) hc

lemma takeWord_identifier (rest : List Char) {c : Char} (hc : isWordChar c = false) :
    takeWord (name ++ c :: rest) = some (name, c :: rest) :=
  takeRun_append rest hn.nonempty (fun d hd => isWordChar_of_isIdentChar (hn.chars d hd)) hc

lemma read?_createFunction (rest : List Char) :
    read? ("CREATE OR REPLACE FUNCTION ".toList ++ name ++ "()".toList ++ rest) =
      some (.createFunction name) := by
  have hhead : "CREATE OR REPLACE FUNCTION ".toList ++ name ++ "()".toList ++ rest =
      "CREATE".toList ++ ' ' :: 'O' :: ("R REPLACE FUNCTION ".toList ++ name ++ "()".toList ++
        rest) := by simp
  have hreplace : 'O' :: ("R REPLACE FUNCTION ".toList ++ name ++ "()".toList ++ rest) =
      "OR".toList ++ ' ' :: 'R' :: ("EPLACE FUNCTION ".toList ++ name ++ "()".toList ++ rest) := by
    simp
  have hfunction : 'R' :: ("EPLACE FUNCTION ".toList ++ name ++ "()".toList ++ rest) =
      "REPLACE".toList ++ ' ' :: 'F' :: ("UNCTION ".toList ++ name ++ "()".toList ++ rest) := by
    simp
  have hname : 'F' :: ("UNCTION ".toList ++ name ++ "()".toList ++ rest) =
      "FUNCTION".toList ++ ' ' :: (name ++ '(' :: ')' :: rest) := by simp
  have hopt : optionally (afterKeywords ["OR", "REPLACE"])
      ('O' :: ("R REPLACE FUNCTION ".toList ++ name ++ "()".toList ++ rest)) =
      'F' :: ("UNCTION ".toList ++ name ++ "()".toList ++ rest) := by
    rw [optionally, afterKeywords, hreplace, afterKeywordGap_append "OR" _ (by decide),
      Option.bind_some, afterKeywords, hfunction, afterKeywordGap_append "REPLACE" _ (by decide)]
    rfl
  have hf : createFunction? ("CREATE OR REPLACE FUNCTION ".toList ++ name ++ "()".toList ++ rest) =
      some (.createFunction name) := by
    rw [createFunction?, hhead, afterKeywordGap_append "CREATE" _ (by decide)]
    simp only [Option.bind_eq_bind, Option.bind_some]
    rw [hopt, hname, afterKeywordGap_identifier hn "FUNCTION", Option.bind_some,
      takeRoutine_identifier hn _ (by decide)]
    rfl
  rw [read?, hf]
  rfl

lemma createTrigger?_append (t : Timing) {c : Char} {cs rest : List Char}
    (hc : isBlank c = false) (ho : optionally afterDefiner (c :: cs) =
      "TRIGGER".toList ++ ' ' :: (name ++ ' ' :: (t.sql.toList ++ ' ' :: rest))) :
    createTrigger? ("CREATE".toList ++ ' ' :: c :: cs) = some (.createTrigger name) := by
  have hgap : afterGap (' ' :: (t.sql.toList ++ ' ' :: rest)) =
      some (t.sql.toList ++ ' ' :: rest) := by
    cases t with
    | before => exact afterGap_cons _ (by decide)
    | after => exact afterGap_cons _ (by decide)
  rw [createTrigger?, afterKeywordGap_append "CREATE" _ hc]
  simp only [Option.bind_eq_bind, Option.bind_some]
  rw [ho, afterKeywordGap_identifier hn "TRIGGER", Option.bind_some,
    takeWord_identifier hn _ (by decide), Option.bind_some, hgap, Option.bind_some,
    timing_of_append]
  rfl

lemma read?_createTrigger (t : Timing) (rest : List Char) :
    read? ("CREATE TRIGGER ".toList ++ name ++ ' ' :: (t.sql.toList ++ ' ' :: rest)) =
      some (.createTrigger name) := by
  have hf : createFunction?
      ("CREATE TRIGGER ".toList ++ name ++ ' ' :: (t.sql.toList ++ ' ' :: rest)) = none := rfl
  have ho : optionally afterDefiner
      ('T' :: ("RIGGER ".toList ++ name ++ ' ' :: (t.sql.toList ++ ' ' :: rest))) =
      "TRIGGER".toList ++ ' ' :: (name ++ ' ' :: (t.sql.toList ++ ' ' :: rest)) := by
    simp [optionally, afterDefiner, afterKeyword, sameLetter]
  have ht := createTrigger?_append hn t (by decide) ho
  have he : "CREATE TRIGGER ".toList ++ name ++ ' ' :: (t.sql.toList ++ ' ' :: rest) =
      "CREATE".toList ++ ' ' :: 'T' :: ("RIGGER ".toList ++ name ++
        ' ' :: (t.sql.toList ++ ' ' :: rest)) := by simp
  rw [read?, hf, Option.none_or, he, ht, Option.some_or]

lemma read?_createDefinerTrigger {account : List Char} (ha : IsToken account) (t : Timing)
    (rest : List Char) :
    read? ("CREATE DEFINER = ".toList ++ account ++ " TRIGGER ".toList ++ name ++
      ' ' :: (t.sql.toList ++ ' ' :: rest)) = some (.createTrigger name) := by
  have hf : createFunction? ("CREATE DEFINER = ".toList ++ account ++ " TRIGGER ".toList ++ name ++
      ' ' :: (t.sql.toList ++ ' ' :: rest)) = none := rfl
  have hd := afterDefiner_append ha
    ("RIGGER ".toList ++ (name ++ ' ' :: (t.sql.toList ++ ' ' :: rest)))
    (by decide : isBlank 'T' = false)
  have ho : optionally afterDefiner ('D' :: ("EFINER = ".toList ++ account ++ " TRIGGER ".toList ++
      name ++ ' ' :: (t.sql.toList ++ ' ' :: rest))) =
      "TRIGGER".toList ++ ' ' :: (name ++ ' ' :: (t.sql.toList ++ ' ' :: rest)) := by
    have hs : 'D' :: ("EFINER = ".toList ++ account ++ " TRIGGER ".toList ++ name ++
        ' ' :: (t.sql.toList ++ ' ' :: rest)) =
        "DEFINER".toList ++ ' ' :: '=' :: ' ' :: (account ++ ' ' :: 'T' ::
          ("RIGGER ".toList ++ (name ++ ' ' :: (t.sql.toList ++ ' ' :: rest)))) := by simp
    rw [optionally, hs, hd]
    rfl
  have ht := createTrigger?_append hn t (by decide) ho
  have he : "CREATE DEFINER = ".toList ++ account ++ " TRIGGER ".toList ++ name ++
      ' ' :: (t.sql.toList ++ ' ' :: rest) = "CREATE".toList ++ ' ' :: 'D' :: ("EFINER = ".toList ++
        account ++ " TRIGGER ".toList ++ name ++ ' ' :: (t.sql.toList ++ ' ' :: rest)) := by simp
  rw [read?, hf, Option.none_or, he, ht, Option.some_or]

lemma afterKeywords_identifier {ks : List String} (rest : List Char)
    (hk : ∀ k ∈ ks, ∃ d ds, k.toList = d :: ds ∧ isBlank d = false) :
    afterKeywords ks (keywordText ks ++ (name ++ rest)) = some (name ++ rest) := by
  obtain ⟨c, cs, rfl, hc⟩ := exists_cons_of_isIdentifier hn
  exact afterKeywords_append (cs ++ rest) hk hc

lemma read?_dropTrigger : read? ("DROP TRIGGER IF EXISTS ".toList ++ name ++ [';']) =
    some (.dropTrigger name) := by
  have hf : createFunction? ("DROP TRIGGER IF EXISTS ".toList ++ name ++ [';']) = none := rfl
  have ht : createTrigger? ("DROP TRIGGER IF EXISTS ".toList ++ name ++ [';']) = none := rfl
  have he : "DROP TRIGGER IF EXISTS ".toList ++ name ++ [';'] =
      keywordText ["DROP", "TRIGGER", "IF", "EXISTS"] ++ (name ++ [';']) := by
    simp [keywordText]
  have hd : dropTrigger? ("DROP TRIGGER IF EXISTS ".toList ++ name ++ [';']) =
      some (.dropTrigger name) := by
    rw [dropTrigger?, he, afterKeywords_identifier hn _ (by simp; decide)]
    simp only [Option.bind_eq_bind, Option.bind_some]
    rw [takeWord_identifier hn _ (by decide)]
    rfl
  rw [read?, hf, ht, Option.none_or, Option.none_or, hd, Option.some_or]

lemma read?_dropTriggerOn {table : List Char} (ht : IsTableName table) :
    read? ("DROP TRIGGER IF EXISTS ".toList ++ name ++ " ON ".toList ++ table ++ [';']) =
      some (.dropTrigger name) := by
  have hf : createFunction? ("DROP TRIGGER IF EXISTS ".toList ++ name ++ " ON ".toList ++ table ++
      [';']) = none := rfl
  have hc : createTrigger? ("DROP TRIGGER IF EXISTS ".toList ++ name ++ " ON ".toList ++ table ++
      [';']) = none := rfl
  have he : "DROP TRIGGER IF EXISTS ".toList ++ name ++ " ON ".toList ++ table ++ [';'] =
      keywordText ["DROP", "TRIGGER", "IF", "EXISTS"] ++
        (name ++ ' ' :: ("ON ".toList ++ table ++ [';'])) := by
    simp [keywordText]
  have hd : dropTrigger? ("DROP TRIGGER IF EXISTS ".toList ++ name ++ " ON ".toList ++ table ++
      [';']) = some (.dropTrigger name) := by
    rw [dropTrigger?, he, afterKeywords_identifier hn _ (by simp; decide)]
    simp only [Option.bind_eq_bind, Option.bind_some]
    rw [takeWord_identifier hn _ (by decide), Option.bind_some, optionally, afterOn_append ht]
    rfl
  rw [read?, hf, hc, Option.none_or, Option.none_or, hd, Option.some_or]

lemma read?_dropFunction : read? ("DROP FUNCTION IF EXISTS ".toList ++ name ++ "();".toList) =
    some (.dropFunction name) := by
  have hf : createFunction? ("DROP FUNCTION IF EXISTS ".toList ++ name ++ "();".toList) = none :=
    rfl
  have hc : createTrigger? ("DROP FUNCTION IF EXISTS ".toList ++ name ++ "();".toList) = none := rfl
  have ht : dropTrigger? ("DROP FUNCTION IF EXISTS ".toList ++ name ++ "();".toList) = none := rfl
  have he : "DROP FUNCTION IF EXISTS ".toList ++ name ++ "();".toList =
      keywordText ["DROP", "FUNCTION", "IF", "EXISTS"] ++ (name ++ '(' :: [')', ';']) := by
    simp [keywordText]
  have hd : dropFunction? ("DROP FUNCTION IF EXISTS ".toList ++ name ++ "();".toList) =
      some (.dropFunction name) := by
    rw [dropFunction?, he, afterKeywords_identifier hn _ (by simp; decide)]
    simp only [Option.bind_eq_bind, Option.bind_some]
    rw [takeRoutine_identifier hn _ (by decide)]
    rfl
  rw [read?, hf, hc, ht, Option.none_or, Option.none_or, Option.none_or, hd]

end Identifier

section Call

lemma called?_eq_none {cs : List Char} (h : ∀ suffix, suffix <:+ cs → calledHere? suffix = none) :
    called? cs = none := by
  induction cs with
  | nil => rfl
  | cons c cs ih =>
    rw [called?, h _ List.suffix_rfl, Option.none_or]
    exact ih fun suffix hs => h suffix (hs.trans (List.suffix_cons c cs))

lemma called?_append {front call f : List Char} (hf : calledHere? call = some f)
    (h : ∀ suffix, suffix <:+ front ++ call → calledHere? suffix ≠ none → suffix = call) :
    called? (front ++ call) = some f := by
  induction front with
  | nil =>
    cases call with
    | nil => exact nomatch hf
    | cons c cs => rw [List.nil_append, called?, hf, Option.some_or]
  | cons c front ih =>
    have hhere : calledHere? (c :: (front ++ call)) = none := by
      by_contra hne
      have heq := congrArg List.length (h _ List.suffix_rfl hne)
      simp only [List.length_cons, List.length_append] at heq
      omega
    rw [List.cons_append, called?, hhere, Option.none_or]
    exact ih fun suffix hs => h suffix (hs.trans (List.suffix_cons c _))

end Call

end CatalogStatement

end SqlTriggers
