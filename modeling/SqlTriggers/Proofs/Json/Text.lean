import Mathlib.Tactic.Common
import SqlTriggers.Json.Reader
import SqlTriggers.Proofs.Text.Digits

/-! A string literal that was escaped is read as a whole, and stands for what was escaped. -/

namespace SqlTriggers.Json

open Text

inductive Escaped : Char → List Char → Prop
  | letter {c e : Char} : unescapeLetter? e = some c → e ≠ 'u' → Escaped c ['\\', e]
  | code {c a b : Char} : hexUnit? '0' '0' a b = some c.toNat → c.toNat < 32 →
      Escaped c ['\\', 'u', '0', '0', a, b]
  | plain {c : Char} : c ≠ '"' → c ≠ '\\' → 32 ≤ c.toNat → Escaped c [c]

lemma escaped_escapeChar (c : Char) : Escaped c (escapeChar c) := by
  unfold escapeChar
  split
  · exact .letter rfl (by decide)
  · exact .letter rfl (by decide)
  · exact .letter rfl (by decide)
  · exact .letter rfl (by decide)
  · exact .letter rfl (by decide)
  · exact .letter rfl (by decide)
  · exact .letter rfl (by decide)
  · split
    · rename_i h
      exact .code (hexUnit?_hexDigit h) h
    · rename_i hq hb _ _ _ _ _ h
      exact .plain hq hb (Nat.le_of_not_lt h)

lemma readLiteral_escaped {c : Char} {e : List Char} (h : Escaped c e) (cs : List Char) :
    readLiteral (e ++ cs) = (readLiteral cs).map fun p => (e ++ p.1, p.2) := by
  cases h with
  | letter hl hu => simp [readLiteral, hl, hu]
  | code hc _ => simp [readLiteral, hc]
  | plain hq hb hn => simp [readLiteral, hb, Nat.not_lt.mpr hn]

lemma readLiteral_escape (cs rest : List Char) :
    readLiteral (escape cs ++ '"' :: rest) = some (escape cs, rest) := by
  induction cs with
  | nil => rfl
  | cons c cs ih =>
    rw [escape, List.flatMap_cons, List.append_assoc, readLiteral_escaped (escaped_escapeChar c)]
    rw [escape] at ih
    rw [ih, Option.map_some]

lemma unescapeFrom?_escaped {c : Char} {e : List Char} (h : Escaped c e) (cs : List Char) :
    unescapeFrom? none (e ++ cs) = (unescapeFrom? none cs).map (c :: ·) := by
  cases h with
  | letter hl hu => simp [unescapeFrom?, hl, hu]
  | code hc hn =>
    have hh : isHighSurrogate c.toNat = false := by simp [isHighSurrogate]; omega
    have hl : isLowSurrogate c.toNat = false := by simp [isLowSurrogate]; omega
    simp [unescapeFrom?, hc, hh, hl]
  | plain hq hb hn => simp [unescapeFrom?, hb]

lemma unescape?_escape (cs : List Char) : unescape? (escape cs) = some cs := by
  induction cs with
  | nil => rfl
  | cons c cs ih =>
    rw [unescape?, escape, List.flatMap_cons, unescapeFrom?_escaped (escaped_escapeChar c)]
    rw [unescape?, escape] at ih
    rw [ih, Option.map_some]

lemma unescape?_plain {cs : List Char} (h : escape cs = cs) : unescape? cs = some cs := by
  have hu := unescape?_escape cs
  rwa [h] at hu

lemma newline_notMem_escaped {c : Char} {e : List Char} (h : Escaped c e) : '\n' ∉ e := by
  cases h with
  | letter hl _ =>
    simp only [List.mem_cons, List.not_mem_nil, or_false, not_or]
    refine ⟨by decide, ?_⟩
    rintro rfl
    exact nomatch hl
  | code hc _ =>
    simp only [List.mem_cons, List.not_mem_nil, or_false, not_or]
    refine ⟨by decide, by decide, by decide, by decide, ?_, ?_⟩
    · rintro rfl
      exact nomatch hc
    · rintro rfl
      simp [hexUnit?, hexValue?] at hc
  | plain _ _ hn =>
    simp only [List.mem_singleton]
    rintro rfl
    exact absurd hn (by decide)

lemma newline_notMem_escape (cs : List Char) : '\n' ∉ escape cs := by
  intro h
  obtain ⟨c, -, hc⟩ := List.mem_flatMap.mp h
  exact newline_notMem_escaped (escaped_escapeChar c) hc

end SqlTriggers.Json
