import Mathlib.Data.List.Basic
import Mathlib.Tactic.Common
import SqlTriggers.Proofs.Text.Blank
import SqlTriggers.Text.Word

/-! Reading the words at the front of a text. -/

namespace SqlTriggers.Text

lemma sameLetter_self (c : Char) : sameLetter c c = true := by
  simp [sameLetter]

lemma afterKeyword_append (k rest : List Char) : afterKeyword k (k ++ rest) = some rest := by
  induction k with
  | nil => rfl
  | cons c k ih => rw [List.cons_append, afterKeyword, if_pos (sameLetter_self c), ih]

lemma afterGap_cons (rest : List Char) {c : Char} (hc : isBlank c = false) :
    afterGap (' ' :: c :: rest) = some (c :: rest) := by
  have hb : isBlank ' ' = true := by decide
  have ht : trimStart (' ' :: c :: rest) = c :: rest := by
    rw [trimStart, List.dropWhile_cons_of_pos hb]
    exact trimStart_cons rest hc
  rw [afterGap, if_pos hb]
  exact congrArg some (trimStart_cons rest hc)

lemma takeRun_append {p : Char → Bool} {run : List Char} {c : Char} (rest : List Char)
    (hn : run ≠ []) (hr : ∀ d ∈ run, p d = true) (hc : p c = false) :
    takeRun p (run ++ c :: rest) = some (run, c :: rest) := by
  have ht : (run ++ c :: rest).takeWhile p = run := by
    rw [List.takeWhile_append_of_pos hr, List.takeWhile_cons_of_neg (by simp [hc]), List.append_nil]
  have hd : (run ++ c :: rest).dropWhile p = c :: rest := by
    rw [List.dropWhile_append_of_pos hr, List.dropWhile_cons_of_neg (by simp [hc])]
  rw [takeRun, ht, hd]
  cases run with
  | nil => exact absurd rfl hn
  | cons d run => rfl

end SqlTriggers.Text
