import Mathlib.Data.List.Basic
import Mathlib.Tactic.Common
import SqlTriggers.Identifier

/-! What names are made of that pass their checks. -/

namespace SqlTriggers

open Text

lemma isIdentChar_iff (c : Char) :
    isIdentChar c = true ↔ 48 ≤ c.toNat ∧ c.toNat ≤ 57 ∨ 65 ≤ c.toNat ∧ c.toNat ≤ 90 ∨
      c.toNat = 95 ∨ 97 ≤ c.toNat ∧ c.toNat ≤ 122 := by
  have hu : c = '_' ↔ c.toNat = 95 := ⟨fun h => h ▸ rfl, fun h => Char.toNat_inj.mp h⟩
  have hchar : isIdentChar c = (((decide ((65 : UInt32) ≤ c.val ∧ c.val ≤ 90) ||
      (decide ((97 : UInt32) ≤ c.val) && decide (c.val ≤ 122))) ||
      (decide ((48 : UInt32) ≤ c.val) && decide (c.val ≤ 57))) || decide (c = '_')) := rfl
  have hn : c.val.toNat = c.toNat := rfl
  rw [hchar]
  simp only [Bool.or_eq_true, Bool.and_eq_true, decide_eq_true_eq, hu, UInt32.le_iff_toNat_le, hn,
    UInt32.reduceToNat]
  omega

lemma ne_of_isIdentChar {c d : Char} (hc : isIdentChar c = true) (hd : isIdentChar d = false) :
    c ≠ d := by
  rintro rfl
  simp [hc] at hd

lemma toNat_lt_of_isIdentChar {c : Char} (hc : isIdentChar c = true) : c.toNat < 128 := by
  have h := (isIdentChar_iff c).mp hc
  omega

lemma utf8Size_of_isIdentChar {c : Char} (hc : isIdentChar c = true) : c.utf8Size = 1 := by
  have hlt : c.val.toNat < 128 := toNat_lt_of_isIdentChar hc
  have hle : c.val ≤ 0x7f := UInt32.le_iff_toNat_le.mpr (by simpa using Nat.le_of_lt_succ hlt)
  exact if_pos hle

lemma utf8ByteSize_of_isIdentChar {cs : List Char} (h : ∀ c ∈ cs, isIdentChar c = true) :
    (String.ofList cs).utf8ByteSize = cs.length := by
  induction cs with
  | nil => rfl
  | cons c cs ih =>
    have hc := utf8Size_of_isIdentChar (h c List.mem_cons_self)
    have hcs := ih fun d hd => h d (List.mem_cons_of_mem c hd)
    rw [String.ofList_cons, String.utf8ByteSize_append, String.utf8ByteSize_singleton, hc, hcs,
      List.length_cons, Nat.add_comm]

lemma isBlank_of_isIdentChar {c : Char} (hc : isIdentChar c = true) : isBlank c = false := by
  have h := (isIdentChar_iff c).mp hc
  simp only [isBlank, Bool.or_eq_false_iff, Bool.and_eq_false_iff, decide_eq_false_iff_not]
  omega

lemma isWordChar_of_isIdentChar {c : Char} (hc : isIdentChar c = true) : isWordChar c = true := by
  rw [isWordChar, if_pos (toNat_lt_of_isIdentChar hc), hc]

structure IsIdentifier (cs : List Char) : Prop where
  nonempty : cs ≠ []
  chars : ∀ c ∈ cs, isIdentChar c = true
  head : ∀ c ∈ cs.head?, c.isDigit = false
  short : cs.length ≤ identifierLimit

lemma identifierFault?_eq_none_iff (cs : List Char) :
    identifierFault? cs = none ↔ IsIdentifier cs := by
  cases cs with
  | nil => exact ⟨fun h => by simp [identifierFault?] at h, fun h => absurd rfl h.nonempty⟩
  | cons c cs =>
    constructor
    · intro h
      simp only [identifierFault?] at h
      split_ifs at h with hc hd hl
      refine ⟨List.cons_ne_nil c cs, ?_, ?_, Nat.le_of_not_lt hl⟩
      · simpa using hc
      · simpa using hd
    · intro h
      have hc : (c :: cs).all isIdentChar = true := List.all_eq_true.mpr h.chars
      have hl : ¬ identifierLimit < (c :: cs).length := Nat.not_lt.mpr h.short
      simp only [identifierFault?, hc, h.head c rfl, hl]
      rfl

lemma checkIdentifier_eq_ok_iff (parameter name : String) :
    checkIdentifier parameter name = .ok () ↔ IsIdentifier name.toList := by
  rw [← identifierFault?_eq_none_iff, checkIdentifier]
  split <;> simp_all

lemma mem_splitOn_of_mem {α : Type} [BEq α] [LawfulBEq α] {x c : α} {cs : List α} (hc : c ∈ cs)
    (hx : c ≠ x) : ∃ p ∈ cs.splitOn x, c ∈ p := by
  induction cs with
  | nil => simp at hc
  | cons d cs ih =>
    obtain ⟨p, ps, hp⟩ := List.exists_cons_of_ne_nil (List.splitOn_ne_nil x cs)
    rw [List.splitOn_cons_eq_if_modifyHead, hp]
    rw [hp] at ih
    rcases List.mem_cons.mp hc with rfl | hc
    · simp [hx]
    · obtain ⟨q, hq, hcq⟩ := ih hc
      split
      · exact ⟨q, List.mem_cons_of_mem _ hq, hcq⟩
      · rcases List.mem_cons.mp hq with rfl | hq
        · exact ⟨d :: q, by simp, List.mem_cons_of_mem _ hcq⟩
        · exact ⟨q, by simp [hq], hcq⟩

def isTableChar (c : Char) : Bool :=
  isIdentChar c || c = '.'

structure IsTableName (cs : List Char) : Prop where
  parts : ∀ p ∈ cs.splitOn '.', IsIdentifier p
  few : (cs.splitOn '.').length ≤ 2

namespace IsTableName

variable {cs : List Char}

lemma chars (h : IsTableName cs) : ∀ c ∈ cs, isTableChar c = true := by
  intro c hc
  by_cases hd : c = '.'
  · simp [isTableChar, hd]
  · obtain ⟨p, hp, hcp⟩ := mem_splitOn_of_mem hc hd
    simp [isTableChar, (h.parts p hp).chars c hcp]

lemma exists_cons (h : IsTableName cs) :
    ∃ c rest, cs = c :: rest ∧ isIdentChar c = true ∧ c.isDigit = false := by
  have hn := h.parts
  cases cs with
  | nil => exact absurd rfl (hn [] (by simp)).nonempty
  | cons c rest =>
    obtain ⟨p, ps, hp⟩ := List.exists_cons_of_ne_nil (List.splitOn_ne_nil '.' rest)
    rw [List.splitOn_cons_eq_if_modifyHead, hp] at hn
    split_ifs at hn with hc
    · exact absurd rfl (hn [] List.mem_cons_self).nonempty
    · have hf := hn (c :: p) (by simp)
      exact ⟨c, rest, rfl, hf.chars c List.mem_cons_self, hf.head c rfl⟩

end IsTableName

lemma tableNameFault?_eq_none_iff (cs : List Char) : tableNameFault? cs = none ↔ IsTableName cs := by
  constructor
  · intro h
    simp only [tableNameFault?] at h
    split_ifs at h with hl hp
    exact ⟨fun p hm => (identifierFault?_eq_none_iff p).mp
      (Option.isNone_iff_eq_none.mp (List.all_eq_true.mp hp p hm)), Nat.le_of_not_lt hl⟩
  · intro h
    have hp : (cs.splitOn '.').all (fun p => (identifierFault? p).isNone) = true :=
      List.all_eq_true.mpr fun p hm =>
        Option.isNone_iff_eq_none.mpr ((identifierFault?_eq_none_iff p).mpr (h.parts p hm))
    simp [tableNameFault?, hp, Nat.not_lt.mpr h.few]

lemma checkTableName_eq_ok_iff (name : String) :
    checkTableName name = .ok () ↔ IsTableName name.toList := by
  rw [← tableNameFault?_eq_none_iff, checkTableName]
  split <;> simp_all

structure IsToken (cs : List Char) : Prop where
  nonempty : cs ≠ []
  chars : ∀ c ∈ cs, isBlank c = false

lemma IsToken.blank_notMem {cs : List Char} (h : IsToken cs) : ' ' ∉ cs :=
  fun hm => absurd (h.chars _ hm) (by decide)

lemma checkPrincipal_eq_ok_iff (account : String) :
    checkPrincipal account = .ok () ↔ IsToken account.toList := by
  rw [checkPrincipal]
  constructor
  · intro h
    split_ifs at h with hc
    simp only [Bool.or_eq_true, not_or, String.isEmpty_iff, List.any_eq_true, not_exists,
      not_and] at hc
    exact ⟨by simpa using hc.1, by simpa using hc.2⟩
  · intro h
    have hn : account ≠ "" := by
      rintro rfl
      exact h.nonempty rfl
    have hb : account.toList.any isBlank = false := by simpa using h.chars
    simp [hn, hb]

end SqlTriggers
