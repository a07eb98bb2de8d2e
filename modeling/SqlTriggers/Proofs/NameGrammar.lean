import SqlTriggers.Proofs.Identifier

/-! The checks of names as a grammar. A text outside the grammar is always answered with what is wrong
with it, and quoting the text there never cuts through a character. -/

namespace SqlTriggers

open Text

def IsPlainName (cs : List Char) : Prop :=
  ∃ c rest, cs = c :: rest ∧ isIdentStart c = true ∧ (∀ d ∈ rest, isIdentChar d = true) ∧
    rest.length ≤ 62

def IsQualifiedName (cs : List Char) : Prop :=
  IsPlainName cs ∨ ∃ schema table, cs = schema ++ '.' :: table ∧ IsPlainName schema ∧
    IsPlainName table

section Grammar

variable {cs : List Char}

lemma isIdentStart_of_isDigit {c : Char} (h : c.isDigit = true) : isIdentStart c = false := by
  have hd : 48 ≤ c.val.toNat ∧ c.val.toNat ≤ 57 := Char.isDigit_iff_toNat.mp h
  have hne : c ≠ '_' := by
    rintro rfl
    exact absurd h (by decide)
  have hstart : isIdentStart c = ((decide ((65 : UInt32) ≤ c.val ∧ c.val ≤ 90) ||
      (decide ((97 : UInt32) ≤ c.val) && decide (c.val ≤ 122))) || decide (c = '_')) := rfl
  simp only [hstart, hne, Bool.or_eq_false_iff, Bool.and_eq_false_iff, decide_eq_false_iff_not,
    UInt32.le_iff_toNat_le, UInt32.reduceToNat, not_false_eq_true, and_true]
  omega

lemma isIdentStart_iff (c : Char) :
    isIdentStart c = true ↔ isIdentChar c = true ∧ c.isDigit = false := by
  cases hd : c.isDigit with
  | true => simp [isIdentStart_of_isDigit hd]
  | false => simp [isIdentStart, isIdentChar, Char.isAlphanum, hd]

lemma isIdentifier_iff : IsIdentifier cs ↔ IsPlainName cs := by
  constructor
  · intro h
    obtain ⟨c, rest, rfl⟩ := List.exists_cons_of_ne_nil h.nonempty
    obtain ⟨hc, hrest⟩ := List.forall_mem_cons.mp h.chars
    exact ⟨c, rest, rfl, (isIdentStart_iff c).mpr ⟨hc, h.head c rfl⟩, hrest,
      Nat.le_of_succ_le_succ h.short⟩
  · rintro ⟨c, rest, rfl, hc, hrest, hshort⟩
    obtain ⟨hc, hd⟩ := (isIdentStart_iff c).mp hc
    exact ⟨List.cons_ne_nil c rest, List.forall_mem_cons.mpr ⟨hc, hrest⟩, by simpa using hd,
      Nat.succ_le_succ hshort⟩

lemma IsIdentifier.splitOn_eq (h : IsIdentifier cs) : cs.splitOn '.' = [cs] :=
  List.splitOn_eq_singleton fun hm => absurd (h.chars '.' hm) (by decide)

lemma isTableName_iff : IsTableName cs ↔ IsQualifiedName cs := by
  simp only [IsQualifiedName, ← isIdentifier_iff]
  constructor
  · rintro ⟨hparts, hfew⟩
    have hjoin : ['.'].intercalate (cs.splitOn '.') = cs := List.intercalate_splitOn '.'
    match hs : cs.splitOn '.' with
    | [] => exact absurd hs (List.splitOn_ne_nil '.' cs)
    | [name] =>
      rw [hs] at hparts hjoin
      obtain rfl : name = cs := by simpa using hjoin
      exact .inl (hparts name List.mem_cons_self)
    | [schema, table] =>
      rw [hs] at hparts hjoin
      exact .inr ⟨schema, table, by simpa using hjoin.symm, hparts schema (by simp),
        hparts table (by simp)⟩
    | _ :: _ :: _ :: _ =>
      rw [hs] at hfew
      simp at hfew
  · rintro (h | ⟨schema, table, rfl, hschema, htable⟩)
    · have hsplit := h.splitOn_eq
      exact ⟨by simpa [hsplit] using h, by simp [hsplit]⟩
    · have hsplit : (schema ++ '.' :: table).splitOn '.' = [schema, table] := by
        rw [List.splitOn_append_cons_self, hschema.splitOn_eq, htable.splitOn_eq]
        rfl
      exact ⟨by simp [hsplit, hschema, htable], by simp [hsplit]⟩

end Grammar

section Bytes

variable {s : String}

/-- The front of a text up to a byte. There is none if the byte is behind the end or inside a
character. -/
def frontTo? (s : String) (p : String.Pos.Raw) : Option String :=
  if h : p.IsValid s then some (s.sliceTo (s.pos p h)).copy else none

def characterStart? (s : String) (n : Nat) : Option String.Pos.Raw :=
  if n < s.length then some (String.ofList (s.toList.take n)).rawEndPos else none

def escaped (s : String) : String :=
  String.ofList (s.toList.flatMap fun c =>
    match c with
    | '\x00' => ['\\', '0']
    | '\n' => ['\\', 'n']
    | '\r' => ['\\', 'r']
    | c => [c])

def printableFromBytes? (s : String) : Option String :=
  match characterStart? s 50 with
  | some p => (frontTo? s p).map fun front => escaped (front ++ "...")
  | none => some (escaped s)

def NameFault.quotedFromBytes? : NameFault → String → Option String
  | .tooLong, s =>
    (frontTo? s ⟨20⟩).map fun front => front ++ "... (" ++ toString s.utf8ByteSize ++ " chars)"
  | .notOneToken, s => some s
  | _, s => printableFromBytes? s

lemma frontTo?_append (front back : String) :
    frontTo? (front ++ back) front.rawEndPos = some front := by
  have hvalid : front.rawEndPos.IsValid (front ++ back) :=
    String.Pos.Raw.isValid_iff_exists_append.mpr ⟨front, back, rfl, rfl⟩
  have hsplits : ((front ++ back).pos front.rawEndPos hvalid).Splits front back := ⟨rfl, rfl⟩
  rw [frontTo?, dif_pos hvalid, hsplits.copy_sliceTo_eq]

lemma frontTo?_take (s : String) (n : Nat) :
    frontTo? s (String.ofList (s.toList.take n)).rawEndPos =
      some (String.ofList (s.toList.take n)) := by
  have hsplit : s = String.ofList (s.toList.take n) ++ String.ofList (s.toList.drop n) := by
    rw [← String.ofList_append, List.take_append_drop, String.ofList_toList]
  conv_lhs => arg 1; rw [hsplit]
  exact frontTo?_append _ _

lemma printable_eq (s : String) :
    printable s =
      escaped (if 50 < s.length then String.ofList (s.toList.take 50) ++ "..." else s) := by
  rw [printable, escaped, String.length_toList]
  split
  · rw [String.toList_append, String.toList_ofList]
    rfl
  · rfl

lemma printableFromBytes?_eq (s : String) : printableFromBytes? s = some (printable s) := by
  rw [printableFromBytes?, characterStart?, printable_eq]
  by_cases h : 50 < s.length
  · simp only [if_pos h, frontTo?_take, Option.map_some]
  · simp only [if_neg h]

lemma frontTo?_of_tooLong (h : identifierFault? s.toList = some .tooLong) :
    frontTo? s ⟨20⟩ = some (String.ofList (s.toList.take 20)) := by
  obtain ⟨hchars, hlong⟩ : (∀ c ∈ s.toList, isIdentChar c = true) ∧
      identifierLimit < s.toList.length := by
    cases hs : s.toList with
    | nil => simp [hs, identifierFault?] at h
    | cons c cs =>
      rw [hs, identifierFault?] at h
      split_ifs at h with hc hd hl
      · cases h
      · cases h
      · exact ⟨by simpa using hc, hl⟩
  have hbytes : (String.ofList (s.toList.take 20)).utf8ByteSize = 20 := by
    rw [utf8ByteSize_of_isIdentChar fun c hc => hchars c (List.mem_of_mem_take hc),
      List.length_take]
    simp only [identifierLimit] at hlong
    omega
  have hend : (⟨20⟩ : String.Pos.Raw) = (String.ofList (s.toList.take 20)).rawEndPos :=
    congrArg String.Pos.Raw.mk hbytes.symm
  rw [hend, frontTo?_take]

lemma quotedFromBytes?_eq {fault : NameFault}
    (h : fault = .tooLong → identifierFault? s.toList = some .tooLong) :
    fault.quotedFromBytes? s = some (fault.quoted s) := by
  cases fault with
  | tooLong => rw [NameFault.quotedFromBytes?, frontTo?_of_tooLong (h rfl)]; rfl
  | notOneToken => rfl
  | empty | badCharacter | leadingDigit | tooManyParts | badPart => exact printableFromBytes?_eq s

end Bytes

/-- The check takes just the names that fit. It refuses any other one with what is wrong with it, and
can always quote it. -/
structure Decides (check : Except Error Unit) (parameter name : String) (fits : Prop) : Prop where
  accepts : check = .ok () ↔ fits
  refuses : ¬ fits → ∃ fault, check = .error (.invalidIdentifier parameter name fault) ∧
    fault.quotedFromBytes? name = some (fault.quoted name)

lemma checkIdentifier_decides (parameter name : String) :
    Decides (checkIdentifier parameter name) parameter name (IsPlainName name.toList) where
  accepts := (checkIdentifier_eq_ok_iff parameter name).trans isIdentifier_iff
  refuses := by
    rw [← isIdentifier_iff, ← identifierFault?_eq_none_iff]
    intro h
    obtain ⟨fault, hfault⟩ := Option.ne_none_iff_exists'.mp h
    refine ⟨fault, by rw [checkIdentifier, hfault], quotedFromBytes?_eq ?_⟩
    rintro rfl
    exact hfault

lemma checkTableName_decides (name : String) :
    Decides (checkTableName name) "table" name (IsQualifiedName name.toList) where
  accepts := (checkTableName_eq_ok_iff name).trans isTableName_iff
  refuses := by
    rw [← isTableName_iff, ← tableNameFault?_eq_none_iff]
    intro h
    obtain ⟨fault, hfault⟩ := Option.ne_none_iff_exists'.mp h
    refine ⟨fault, by rw [checkTableName, hfault], quotedFromBytes?_eq ?_⟩
    rintro rfl
    simp only [tableNameFault?] at hfault
    split_ifs at hfault
    · cases hfault
    · cases hfault

/-- Names are told from other texts by their grammar alone, whatever characters a text is made of. -/
theorem checks_decide_grammar :
    (∀ parameter name : String,
      Decides (checkIdentifier parameter name) parameter name (IsPlainName name.toList)) ∧
    ∀ name : String, Decides (checkTableName name) "table" name (IsQualifiedName name.toList) :=
  ⟨checkIdentifier_decides, checkTableName_decides⟩

def euros : String := String.ofList (List.replicate 70 '€')

theorem checks_decide_grammar_euros :
    checkTableName "public.users" = .ok () ∧
    (∃ fault, checkIdentifier "column" euros = .error (.invalidIdentifier "column" euros fault) ∧
      fault.quotedFromBytes? euros = some (fault.quoted euros)) ∧
    NameFault.tooLong.quotedFromBytes? euros = none := by
  obtain ⟨hplain, htable⟩ := checks_decide_grammar
  have hqualified : IsQualifiedName "public.users".toList := by
    refine .inr ⟨"public".toList, "users".toList, by decide +kernel, ?_, ?_⟩
    · exact ⟨'p', "ublic".toList, by decide, by decide, List.all_eq_true.mp (by decide), by decide⟩
    · exact ⟨'u', "sers".toList, by decide, by decide, List.all_eq_true.mp (by decide), by decide⟩
  have hforeign : ¬ IsPlainName euros.toList := by
    rintro ⟨c, rest, he, hc, -⟩
    have hlist : euros.toList = List.replicate 70 '€' := String.toList_ofList
    have hm : c ∈ List.replicate 70 '€' := hlist ▸ he ▸ List.mem_cons_self
    rw [List.eq_of_mem_replicate hm] at hc
    exact absurd hc (by decide)
  refine ⟨(htable _).accepts.mpr hqualified, (hplain _ _).refuses hforeign, ?_⟩
  decide +kernel

end SqlTriggers
