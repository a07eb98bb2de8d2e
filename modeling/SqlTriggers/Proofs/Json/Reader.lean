import Mathlib.Data.List.DropRight
import SqlTriggers.Json.Reader
import SqlTriggers.Proofs.Json.Spaced
import SqlTriggers.Proofs.Text.Digits

/-! Every text that writes a value is read as that value, up to what follows it. -/

namespace SqlTriggers.Json

open Text

def Stops (cs : List Char) : Prop :=
  ∀ c ∈ cs.head?, isGap c = true ∨ c = ',' ∨ c = ']' ∨ c = '}'

lemma stops_cons {c : Char} (cs : List Char) (h : c = ',' ∨ c = ']' ∨ c = '}') :
    Stops (c :: cs) := by
  intro d hd
  obtain rfl : c = d := by simpa using hd
  exact .inr h

lemma stops_gap_append {g cs : List Char} (hg : Gap g) (h : Stops cs) : Stops (g ++ cs) := by
  cases g with
  | nil => exact h
  | cons c g =>
    intro d hd
    obtain rfl : c = d := by simpa using hd
    exact .inl (hg c List.mem_cons_self)

lemma skipGap_append {g : List Char} (hg : Gap g) (cs : List Char) :
    skipGap (g ++ cs) = skipGap cs := by
  rw [skipGap, List.dropWhile_append_of_pos hg]
  rfl

lemma skipGap_cons {c : Char} (h : isGap c = false) (cs : List Char) :
    skipGap (c :: cs) = c :: cs := by
  rw [skipGap, List.dropWhile_cons_of_neg (by simp [h])]

lemma skipGap_skipGap (cs : List Char) : skipGap (skipGap cs) = skipGap cs :=
  List.dropWhile_idempotent isGap cs

lemma readValue_skipGap (fuel : Nat) (cs : List Char) :
    readValue fuel (skipGap cs) = readValue fuel cs := by
  cases fuel with
  | zero => rfl
  | succ fuel => rw [readValue, readValue, skipGap_skipGap]

lemma readItems_skipGap (fuel : Nat) (cs : List Char) :
    readItems fuel (skipGap cs) = readItems fuel cs := by
  cases fuel with
  | zero => rfl
  | succ fuel => rw [readItems, readItems, readValue_skipGap]

lemma readMembers_skipGap (fuel : Nat) (cs : List Char) :
    readMembers fuel (skipGap cs) = readMembers fuel cs := by
  cases fuel with
  | zero => rfl
  | succ fuel => rw [readMembers, readMembers, skipGap_skipGap]

lemma readDigits_append {ds rest : List Char} (hn : ds ≠ []) (hd : ∀ c ∈ ds, c.isDigit = true)
    (hr : ∀ c ∈ rest.head?, c.isDigit = false) : readDigits (ds ++ rest) = some (ds, rest) := by
  have ht : rest.takeWhile Char.isDigit = [] ∧ rest.dropWhile Char.isDigit = rest := by
    cases rest with
    | nil => exact ⟨rfl, rfl⟩
    | cons c rest => simp [hr c rfl]
  rw [readDigits, List.takeWhile_append_of_pos hd, List.dropWhile_append_of_pos hd, ht.1, ht.2,
    List.append_nil]
  cases ds with
  | nil => exact absurd rfl hn
  | cons d ds => rfl

lemma not_number_of_stops {c : Char} (h : isGap c = true ∨ c = ',' ∨ c = ']' ∨ c = '}') :
    c.isDigit = false ∧ c ≠ '.' ∧ isExponentMark c = false := by
  have hg : isGap c = true → c = ' ' ∨ c = '\t' ∨ c = '\n' ∨ c = '\r' := by
    simp [isGap, or_assoc]
  rcases h with h | rfl | rfl | rfl
  · rcases hg h with rfl | rfl | rfl | rfl <;> decide
  · decide
  · decide
  · decide

lemma readFraction_of_stops {rest : List Char} (h : Stops rest) :
    readFraction rest = some ([], rest) := by
  cases rest with
  | nil => rfl
  | cons c rest =>
    have hc := (not_number_of_stops (h c rfl)).2.1
    rw [readFraction]
    rintro _ ⟨⟩
    exact hc rfl

lemma readExponent_of_stops {rest : List Char} (h : Stops rest) :
    readExponent rest = some ([], rest) := by
  cases rest with
  | nil => rfl
  | cons c rest =>
    have hc := (not_number_of_stops (h c rfl)).2.2
    simp [readExponent, hc]

lemma readWhole_toDigits (n : Nat) {rest : List Char} (h : Stops rest) :
    readWhole (Nat.toDigits 10 n ++ rest) = some (Nat.toDigits 10 n, rest) := by
  by_cases hz : n = 0
  · subst hz
    rfl
  · have hhead := head?_toDigits hz
    have hread : readDigits (Nat.toDigits 10 n ++ rest) = some (Nat.toDigits 10 n, rest) :=
      readDigits_append Nat.toDigits_ne_nil
        (fun _ hc => isDigit_of_mem_toDigits hc)
        fun c hc => (not_number_of_stops (h c hc)).1
    obtain ⟨d, ds, hd, -⟩ := toDigits_eq_cons n
    rw [← hread, hd, List.cons_append, readWhole]
    rintro _ ⟨⟩
    exact hhead (by rw [hd]; rfl)

lemma readNumber_toDigits (n : Nat) {rest : List Char} (h : Stops rest) :
    readNumber (Nat.toDigits 10 n ++ rest) = some (Nat.toDigits 10 n, rest) := by
  have hsign : readSign (Nat.toDigits 10 n ++ rest) = ([], Nat.toDigits 10 n ++ rest) := by
    obtain ⟨d, ds, hd, hdigit⟩ := toDigits_eq_cons n
    rw [hd, List.cons_append, readSign]
    rintro _ ⟨⟩
    exact ne_of_isDigit hdigit (by decide) rfl
  simp [readNumber, hsign, readWhole_toDigits n h, readFraction_of_stops h, readExponent_of_stops h]

lemma readValue_number (fuel n : Nat) {rest : List Char} (h : Stops rest) :
    readValue (fuel + 1) (Nat.toDigits 10 n ++ rest) =
      some (.number (Nat.toDigits 10 n), rest) := by
  have hread := readNumber_toDigits n h
  obtain ⟨d, ds, hd, hdigit⟩ := toDigits_eq_cons n
  have hne : ∀ c : Char, c.isDigit = false → d ≠ c := fun c hc => ne_of_isDigit hdigit hc
  have hgap : isGap d = false := by simp [isGap, hne]
  rw [hd, List.cons_append] at hread ⊢
  rw [readValue, skipGap_cons hgap]
  simp [readScalar, hread, hne]

lemma readValue_string (fuel : Nat) (cs rest : List Char) :
    readValue (fuel + 1) (quoted (escape cs) ++ rest) = some (.string (escape cs), rest) := by
  rw [quoted, List.cons_append, List.cons_append, List.append_assoc, readValue,
    skipGap_cons (by decide), List.singleton_append]
  simp only [readLiteral_escape, Option.map_some]

lemma readValue_array (fuel : Nat) {cs : List Char} (h : (skipGap cs).head? ≠ some ']') :
    readValue (fuel + 1) ('[' :: cs) = (readItems fuel cs).map fun (js, r) => (.array js, r) := by
  rw [readValue, skipGap_cons (by decide), ← readItems_skipGap fuel cs]
  cases hc : skipGap cs with
  | nil => simp [hc]
  | cons c rest =>
    have hne : c ≠ ']' := by
      rintro rfl
      exact h (by rw [hc]; rfl)
    simp [hc, hne]

lemma readValue_object (fuel : Nat) {cs : List Char} (h : (skipGap cs).head? ≠ some '}') :
    readValue (fuel + 1) ('{' :: cs) =
      (readMembers fuel cs).map fun (ms, r) => (.object ms, r) := by
  rw [readValue, skipGap_cons (by decide), ← readMembers_skipGap fuel cs]
  cases hc : skipGap cs with
  | nil => simp [hc]
  | cons c rest =>
    have hne : c ≠ '}' := by
      rintro rfl
      exact h (by rw [hc]; rfl)
    simp [hc, hne]

lemma skipGap_gap_cons {g : List Char} (hg : Gap g) {c : Char} (hc : isGap c = false)
    (cs : List Char) : skipGap (g ++ c :: cs) = c :: cs := by
  rw [skipGap_append hg, skipGap_cons hc]

lemma readItems_cons {fuel : Nat} {cs ds : List Char} {j : Json}
    (h : readValue fuel cs = some (j, ds)) {rest : List Char} (hd : skipGap ds = ',' :: rest) :
    readItems (fuel + 1) cs = (readItems fuel rest).map fun (js, r) => (j :: js, r) := by
  simp [readItems, h, hd]

lemma readItems_last {fuel : Nat} {cs ds : List Char} {j : Json}
    (h : readValue fuel cs = some (j, ds)) {rest : List Char} (hd : skipGap ds = ']' :: rest) :
    readItems (fuel + 1) cs = some ([j], rest) := by
  simp [readItems, h, hd]

lemma skipGap_quoted {g : List Char} (hg : Gap g) (k rest : List Char) :
    skipGap (g ++ quoted k ++ rest) = '"' :: (k ++ '"' :: rest) := by
  have hs : g ++ quoted k ++ rest = g ++ '"' :: (k ++ '"' :: rest) := by simp [quoted]
  rw [hs, skipGap_gap_cons hg (by decide)]

lemma readMembers_cons {fuel : Nat} {g g' k cs ds : List Char} {j : Json} (hg : Gap g)
    (hg' : Gap g') (h : readValue fuel cs = some (j, ds)) {rest : List Char}
    (hd : skipGap ds = ',' :: rest) :
    readMembers (fuel + 1) (g ++ quoted (escape k) ++ (g' ++ ':' :: cs)) =
      (readMembers fuel rest).map fun (ms, r) => ((escape k, j) :: ms, r) := by
  rw [readMembers, skipGap_quoted hg]
  simp [readLiteral_escape, skipGap_gap_cons hg', isGap, h, hd]

lemma readMembers_last {fuel : Nat} {g g' k cs ds : List Char} {j : Json} (hg : Gap g)
    (hg' : Gap g') (h : readValue fuel cs = some (j, ds)) {rest : List Char}
    (hd : skipGap ds = '}' :: rest) :
    readMembers (fuel + 1) (g ++ quoted (escape k) ++ (g' ++ ':' :: cs)) =
      some ([(escape k, j)], rest) := by
  rw [readMembers, skipGap_quoted hg]
  simp [readLiteral_escape, skipGap_gap_cons hg', isGap, h, hd]

lemma readValue_gap {g : List Char} (hg : Gap g) (fuel : Nat) (cs : List Char) :
    readValue fuel (g ++ cs) = readValue fuel cs := by
  rw [← readValue_skipGap, skipGap_append hg, readValue_skipGap]

lemma head_spaced {j : Json} {cs : List Char} (hs : Spaced j cs) (hw : Written j) :
    ∃ c rest, cs = c :: rest ∧ isGap c = false ∧ c ≠ ']' := by
  cases hs with
  | null => exact ⟨'n', "ull".toList, rfl, by decide, by decide⟩
  | bool b =>
    cases b with
    | false => exact ⟨'f', "alse".toList, rfl, by decide, by decide⟩
    | true => exact ⟨'t', "rue".toList, rfl, by decide, by decide⟩
  | number literal =>
    cases hw with
    | number n =>
      rw [Nat.toString_eq_repr, Nat.toList_repr]
      obtain ⟨d, ds, hd, hdigit⟩ := toDigits_eq_cons n
      exact ⟨d, ds, hd, by simp [isGap, ne_of_isDigit hdigit], ne_of_isDigit hdigit (by decide)⟩
  | string literal => exact ⟨'"', literal ++ ['"'], rfl, by decide, by decide⟩
  | noItems _ => exact ⟨'[', _, rfl, by decide, by decide⟩
  | items _ => exact ⟨'[', _, rfl, by decide, by decide⟩
  | noMembers _ => exact ⟨'{', _, rfl, by decide, by decide⟩
  | members _ => exact ⟨'{', _, rfl, by decide, by decide⟩

lemma skipGap_items {js : List Json} {cs : List Char} (hs : SpacedItems js cs)
    (hw : ∀ j ∈ js, Written j) (rest : List Char) : (skipGap (cs ++ rest)).head? ≠ some ']' := by
  have hfirst : ∀ {j : Json} {g ds : List Char} (tail : List Char), Gap g → Spaced j ds →
      Written j → (skipGap (g ++ ds ++ tail)).head? ≠ some ']' := by
    intro j g ds tail hg hd hj
    obtain ⟨c, r, rfl, hc, hne⟩ := head_spaced hd hj
    rw [List.append_assoc, List.cons_append, skipGap_gap_cons hg hc]
    simpa using hne
  cases hs with
  | last hg hd _ =>
    have hj := hw _ List.mem_cons_self
    rw [List.append_assoc]
    exact hfirst _ hg hd hj
  | cons hg hd _ _ =>
    have hj := hw _ List.mem_cons_self
    rw [List.append_assoc, List.append_assoc]
    exact hfirst _ hg hd hj

lemma skipGap_members {ms : List (List Char × Json)} {cs : List Char} (hs : SpacedMembers ms cs)
    (rest : List Char) : (skipGap (cs ++ rest)).head? ≠ some '}' := by
  cases hs with
  | last hg _ _ _ _ =>
    rw [List.append_assoc, List.append_assoc, skipGap_quoted hg]
    simp
  | cons hg _ _ _ _ _ =>
    rw [List.append_assoc, List.append_assoc, skipGap_quoted hg]
    simp

mutual

theorem readValue_spaced {j : Json} {cs : List Char} (hs : Spaced j cs) (hw : Written j)
    (fuel : Nat) (hf : 2 * cs.length ≤ fuel) (rest : List Char) (hr : Stops rest) :
    readValue fuel (cs ++ rest) = some (j, rest) := by
  obtain ⟨c, t, hc, -⟩ := head_spaced hs hw
  obtain ⟨fuel, rfl⟩ : ∃ n, fuel = n + 1 := ⟨fuel - 1, by simp [hc] at hf; omega⟩
  clear hc
  cases hs with
  | null => rfl
  | bool b => cases b <;> rfl
  | number literal =>
    cases hw with
    | number n =>
      rw [Nat.toString_eq_repr, Nat.toList_repr]
      exact readValue_number fuel n hr
  | string literal =>
    cases hw with
    | string s => exact readValue_string fuel s.toList rest
  | noItems hg =>
    rw [List.cons_append, List.cons_append, List.append_assoc, readValue, skipGap_cons (by decide)]
    simp [skipGap_gap_cons hg, isGap]
  | noMembers hg =>
    rw [List.cons_append, List.cons_append, List.append_assoc, readValue, skipGap_cons (by decide)]
    simp [skipGap_gap_cons hg, isGap]
  | items hi =>
    cases hw with
    | array hall =>
      have hread := readItems_spaced hi hall fuel (by simp at hf; omega) rest
      rw [List.cons_append, List.cons_append, List.append_assoc, List.singleton_append,
        readValue_array fuel (skipGap_items hi hall _), hread]
      rfl
  | members hm =>
    cases hw with
    | object hkeys hall =>
      have hread := readMembers_spaced hm hkeys hall fuel (by simp at hf; omega) rest
      rw [List.cons_append, List.cons_append, List.append_assoc, List.singleton_append,
        readValue_object fuel (skipGap_members hm _), hread]
      rfl

theorem readItems_spaced {js : List Json} {cs : List Char} (hs : SpacedItems js cs)
    (hw : ∀ j ∈ js, Written j) (fuel : Nat) (hf : 2 * cs.length + 1 ≤ fuel) (rest : List Char) :
    readItems fuel (cs ++ ']' :: rest) = some (js, rest) := by
  obtain ⟨fuel, rfl⟩ : ∃ n, fuel = n + 1 := ⟨fuel - 1, by omega⟩
  cases hs with
  | last hg hj hg' =>
    rename_i j ds g g'
    have hstop : Stops (g' ++ ']' :: rest) := stops_gap_append hg' (stops_cons rest (by decide))
    have hread := readValue_spaced hj (hw _ List.mem_cons_self) fuel (by simp at hf; omega) _ hstop
    rw [List.append_assoc, List.append_assoc]
    exact readItems_last ((readValue_gap hg _ _).trans hread) (skipGap_gap_cons hg' (by decide) _)
  | cons hg hj hg' hrest =>
    rename_i j js ds es g g'
    have hstop : Stops (g' ++ ',' :: (es ++ ']' :: rest)) :=
      stops_gap_append hg' (stops_cons _ (by decide))
    have hread := readValue_spaced hj (hw _ List.mem_cons_self) fuel (by simp at hf; omega) _ hstop
    have hmore := readItems_spaced hrest (fun i hi => hw i (List.mem_cons_of_mem _ hi)) fuel
      (by simp at hf; omega) rest
    rw [List.append_assoc, List.append_assoc, List.append_assoc, List.cons_append,
      readItems_cons ((readValue_gap hg _ _).trans hread) (skipGap_gap_cons hg' (by decide) _),
      hmore]
    rfl

theorem readMembers_spaced {ms : List (List Char × Json)} {cs : List Char}
    (hs : SpacedMembers ms cs) (hk : ∀ m ∈ ms, ∃ k, m.1 = escape k) (hw : ∀ m ∈ ms, Written m.2)
    (fuel : Nat) (hf : 2 * cs.length + 1 ≤ fuel) (rest : List Char) :
    readMembers fuel (cs ++ '}' :: rest) = some (ms, rest) := by
  obtain ⟨fuel, rfl⟩ : ∃ n, fuel = n + 1 := ⟨fuel - 1, by omega⟩
  cases hs with
  | last hg₀ hg₁ hg₂ hj hg₃ =>
    rename_i k ds g₀ g₁ g₂ g₃ j
    obtain ⟨k, rfl⟩ := hk _ List.mem_cons_self
    have hstop : Stops (g₃ ++ '}' :: rest) := stops_gap_append hg₃ (stops_cons rest (by decide))
    have hread := readValue_spaced hj (hw _ List.mem_cons_self) fuel (by simp at hf; omega) _ hstop
    have hsplit : g₀ ++ quoted (escape k) ++ g₁ ++ ':' :: (g₂ ++ ds ++ g₃) ++ '}' :: rest =
        g₀ ++ quoted (escape k) ++ (g₁ ++ ':' :: (g₂ ++ (ds ++ (g₃ ++ '}' :: rest)))) := by
      simp only [List.append_assoc, List.cons_append]
    rw [hsplit]
    exact readMembers_last hg₀ hg₁ ((readValue_gap hg₂ _ _).trans hread)
      (skipGap_gap_cons hg₃ (by decide) _)
  | cons hg₀ hg₁ hg₂ hj hg₃ hrest =>
    rename_i k ds es g₀ g₁ g₂ g₃ j ms
    obtain ⟨k, rfl⟩ := hk _ List.mem_cons_self
    have hstop : Stops (g₃ ++ ',' :: (es ++ '}' :: rest)) :=
      stops_gap_append hg₃ (stops_cons _ (by decide))
    have hread := readValue_spaced hj (hw _ List.mem_cons_self) fuel (by simp at hf; omega) _ hstop
    have hmore := readMembers_spaced hrest (fun i hi => hk i (List.mem_cons_of_mem _ hi))
      (fun i hi => hw i (List.mem_cons_of_mem _ hi)) fuel (by simp at hf; omega) rest
    have hsplit : g₀ ++ quoted (escape k) ++ g₁ ++ ':' :: (g₂ ++ ds ++ g₃ ++ ',' :: es) ++
          '}' :: rest =
        g₀ ++ quoted (escape k) ++
          (g₁ ++ ':' :: (g₂ ++ (ds ++ (g₃ ++ ',' :: (es ++ '}' :: rest))))) := by
      simp only [List.append_assoc, List.cons_append]
    rw [hsplit, readMembers_cons hg₀ hg₁ ((readValue_gap hg₂ _ _).trans hread)
      (skipGap_gap_cons hg₃ (by decide) _), hmore]
    rfl

end

theorem read?_spaced {j : Json} {cs : List Char} (hs : Spaced j cs) (hw : Written j) :
    read? (String.ofList cs) = some j := by
  have hread := readValue_spaced hs hw (2 * cs.length + 2) (by omega) [] (by simp [Stops])
  rw [List.append_nil] at hread
  simp [read?, hread, skipGap]

theorem read?_compactText {j : Json} (hw : Written j) : read? j.compactText = some j :=
  read?_spaced (spaced_compact j) hw

theorem read?_prettyText {j : Json} (hw : Written j) : read? j.prettyText = some j :=
  read?_spaced (spaced_pretty 0 j) hw

end SqlTriggers.Json
