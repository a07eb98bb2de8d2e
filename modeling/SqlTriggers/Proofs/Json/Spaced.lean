import Mathlib.Tactic.Common
import SqlTriggers.Json.Printer
import SqlTriggers.Proofs.Json.Text
import SqlTriggers.Proofs.Text.Digits
import SqlTriggers.Proofs.Text.Lines

/-! Texts that write a value, with any white space between its parts. Such a text is read as the
value. -/

namespace SqlTriggers.Json

open Text

def Gap (g : List Char) : Prop := ∀ c ∈ g, isGap c = true

mutual

inductive Spaced : Json → List Char → Prop
  | null : Spaced .null "null".toList
  | bool (b : Bool) : Spaced (.bool b) (boolText b)
  | number (literal : List Char) : Spaced (.number literal) literal
  | string (literal : List Char) : Spaced (.string literal) (quoted literal)
  | noItems {g : List Char} : Gap g → Spaced (.array []) ('[' :: g ++ [']'])
  | items {js : List Json} {cs : List Char} : SpacedItems js cs →
      Spaced (.array js) ('[' :: cs ++ [']'])
  | noMembers {g : List Char} : Gap g → Spaced (.object []) ('{' :: g ++ ['}'])
  | members {ms : List (List Char × Json)} {cs : List Char} : SpacedMembers ms cs →
      Spaced (.object ms) ('{' :: cs ++ ['}'])

inductive SpacedItems : List Json → List Char → Prop
  | last {j : Json} {cs g g' : List Char} : Gap g → Spaced j cs → Gap g' →
      SpacedItems [j] (g ++ cs ++ g')
  | cons {j : Json} {js : List Json} {cs ds g g' : List Char} : Gap g → Spaced j cs → Gap g' →
      SpacedItems js ds → SpacedItems (j :: js) (g ++ cs ++ g' ++ ',' :: ds)

inductive SpacedMembers : List (List Char × Json) → List Char → Prop
  | last {k cs g₀ g₁ g₂ g₃ : List Char} {j : Json} : Gap g₀ → Gap g₁ → Gap g₂ → Spaced j cs →
      Gap g₃ → SpacedMembers [(k, j)] (g₀ ++ quoted k ++ g₁ ++ ':' :: (g₂ ++ cs ++ g₃))
  | cons {k cs ds g₀ g₁ g₂ g₃ : List Char} {j : Json} {ms : List (List Char × Json)} : Gap g₀ →
      Gap g₁ → Gap g₂ → Spaced j cs → Gap g₃ → SpacedMembers ms ds →
      SpacedMembers ((k, j) :: ms)
        (g₀ ++ quoted k ++ g₁ ++ ':' :: (g₂ ++ cs ++ g₃ ++ ',' :: ds))

end

lemma gap_nil : Gap [] := fun _ h => absurd h List.not_mem_nil

mutual

lemma spaced_compact (j : Json) : Spaced j j.compact := by
  match j with
  | .null => exact .null
  | .bool b => exact .bool b
  | .number literal => exact .number literal
  | .string literal => exact .string literal
  | .array [] => exact .noItems gap_nil
  | .array (j :: js) => exact .items (spacedItems_compact (j :: js) (List.cons_ne_nil j js))
  | .object [] => exact .noMembers gap_nil
  | .object (m :: ms) => exact .members (spacedMembers_compact (m :: ms) (List.cons_ne_nil m ms))

lemma spacedItems_compact (js : List Json) (hn : js ≠ []) : SpacedItems js (compactItems js) := by
  match js with
  | [] => exact absurd rfl hn
  | [j] =>
    have h := SpacedItems.last gap_nil (spaced_compact j) gap_nil
    simpa [compactItems] using h
  | j :: i :: js =>
    have hrest := spacedItems_compact (i :: js) (List.cons_ne_nil i js)
    have h := SpacedItems.cons gap_nil (spaced_compact j) gap_nil hrest
    simpa [compactItems] using h

lemma spacedMembers_compact (ms : List (List Char × Json)) (hn : ms ≠ []) :
    SpacedMembers ms (compactMembers ms) := by
  match ms with
  | [] => exact absurd rfl hn
  | [(k, j)] =>
    have h := SpacedMembers.last (k := k) gap_nil gap_nil gap_nil (spaced_compact j) gap_nil
    simpa [compactMembers] using h
  | (k, j) :: m :: ms =>
    have hrest := spacedMembers_compact (m :: ms) (List.cons_ne_nil m ms)
    have h := SpacedMembers.cons (k := k) gap_nil gap_nil gap_nil (spaced_compact j) gap_nil hrest
    simpa [compactMembers] using h

end

lemma gap_newline (depth : Nat) : Gap (newline depth) := by
  intro c hc
  rcases List.mem_cons.mp hc with rfl | hc
  · rfl
  · rw [List.eq_of_mem_replicate hc]
    rfl

mutual

lemma spaced_pretty (depth : Nat) (j : Json) : Spaced j (j.pretty depth) := by
  match j with
  | .null => exact .null
  | .bool b => exact .bool b
  | .number literal => exact .number literal
  | .string literal => exact .string literal
  | .array [] => exact .noItems gap_nil
  | .array (j :: js) =>
    have h := Spaced.items (spacedItems_pretty (depth + 1) j js (gap_newline depth))
    simpa [pretty] using h
  | .object [] => exact .noMembers gap_nil
  | .object ((k, j) :: ms) =>
    have h := Spaced.members (spacedMembers_pretty (depth + 1) k j ms (gap_newline depth))
    simpa [pretty] using h
termination_by sizeOf j

lemma spacedItems_pretty (depth : Nat) (j : Json) (js : List Json) {g : List Char} (hg : Gap g) :
    SpacedItems (j :: js) (newline depth ++ j.pretty depth ++ prettyItems depth js ++ g) := by
  match js with
  | [] =>
    have h := SpacedItems.last (gap_newline depth) (spaced_pretty depth j) hg
    simpa [prettyItems] using h
  | i :: js =>
    have hrest := spacedItems_pretty depth i js hg
    have h := SpacedItems.cons (gap_newline depth) (spaced_pretty depth j) gap_nil hrest
    simpa [prettyItems] using h
termination_by sizeOf (j :: js)

lemma spacedMembers_pretty (depth : Nat) (k : List Char) (j : Json) (ms : List (List Char × Json))
    {g : List Char} (hg : Gap g) :
    SpacedMembers ((k, j) :: ms) (newline depth ++ quoted k ++ ':' :: ' ' :: j.pretty depth ++
      prettyMembers depth ms ++ g) := by
  have hspace : Gap [' '] := List.forall_mem_singleton.mpr rfl
  match ms with
  | [] =>
    have h := SpacedMembers.last (k := k) (gap_newline depth) gap_nil hspace
      (spaced_pretty depth j) hg
    simpa [prettyMembers] using h
  | (l, i) :: ms =>
    have hrest := spacedMembers_pretty depth l i ms hg
    have h := SpacedMembers.cons (k := k) (gap_newline depth) gap_nil hspace
      (spaced_pretty depth j) gap_nil hrest
    simpa [prettyMembers] using h
termination_by sizeOf ((k, j) :: ms)

end

inductive Written : Json → Prop
  | null : Written .null
  | bool (b : Bool) : Written (.bool b)
  | number (n : Nat) : Written (.ofNat n)
  | string (s : String) : Written (.ofString s)
  | array {js : List Json} : (∀ j ∈ js, Written j) → Written (.array js)
  | object {ms : List (List Char × Json)} : (∀ m ∈ ms, ∃ cs, m.1 = escape cs) →
      (∀ m ∈ ms, Written m.2) → Written (.object ms)

lemma written_ofList {α : Type} {f : α → Json} {xs : List α} (h : ∀ x ∈ xs, Written (f x)) :
    Written (ofList f xs) := by
  refine .array fun j hj => ?_
  obtain ⟨x, hx, rfl⟩ := List.mem_map.mp hj
  exact h x hx

lemma written_ofMembers {ms : List (String × Json)}
    (hk : ∀ m ∈ ms, escape m.1.toList = m.1.toList) (h : ∀ m ∈ ms, Written m.2) :
    Written (ofMembers ms) := by
  refine .object (fun m hm => ?_) fun m hm => ?_
  · obtain ⟨n, hn, rfl⟩ := List.mem_map.mp hm
    exact ⟨n.1.toList, (hk n hn).symm⟩
  · obtain ⟨n, hn, rfl⟩ := List.mem_map.mp hm
    exact h n hn

lemma compactItems_eq (js : List Json) :
    compactItems js = [','].intercalate (js.map compact) := by
  induction js with
  | nil => rfl
  | cons j js ih =>
    cases js with
    | nil => simp [compactItems]
    | cons i js => simpa [compactItems] using ih

lemma compactMembers_eq (ms : List (List Char × Json)) :
    compactMembers ms =
      [','].intercalate (ms.map fun m => quoted m.1 ++ ':' :: m.2.compact) := by
  induction ms with
  | nil => rfl
  | cons m ms ih =>
    obtain ⟨k, j⟩ := m
    cases ms with
    | nil => simp [compactMembers]
    | cons n ms => simpa [compactMembers] using ih

lemma newline_notMem_quoted {k : List Char} (h : '\n' ∉ k) : '\n' ∉ quoted k := by
  simpa [quoted] using h

lemma newline_notMem_separated {ls : List (List Char)} (h : ∀ l ∈ ls, '\n' ∉ l) :
    '\n' ∉ [','].intercalate ls := by
  intro hn
  rcases Text.mem_intercalate hn with hc | ⟨l, hl, hn⟩
  · exact absurd hc (by decide)
  · exact h l hl hn

lemma newline_notMem_compact {j : Json} (hw : Written j) : '\n' ∉ j.compact := by
  induction hw with
  | null => decide
  | bool b => cases b <;> decide
  | number n =>
    rw [ofNat, compact, Nat.toString_eq_repr, Nat.toList_repr]
    exact Text.newline_notMem_toDigits n
  | string s => exact newline_notMem_quoted (newline_notMem_escape s.toList)
  | @array js _ ih =>
    have hitems : ∀ l ∈ js.map compact, '\n' ∉ l := by
      intro l hl
      obtain ⟨j, hj, rfl⟩ := List.mem_map.mp hl
      exact ih j hj
    simpa [compact, compactItems_eq] using newline_notMem_separated hitems
  | @object ms hk _ ih =>
    have hmembers : ∀ l ∈ ms.map fun m => quoted m.1 ++ ':' :: m.2.compact, '\n' ∉ l := by
      intro l hl
      obtain ⟨m, hm, rfl⟩ := List.mem_map.mp hl
      obtain ⟨k, hk⟩ := hk m hm
      have hkey := newline_notMem_quoted (newline_notMem_escape k)
      have hvalue := ih m hm
      simp [hk, hkey, hvalue]
    simpa [compact, compactMembers_eq] using newline_notMem_separated hmembers

end SqlTriggers.Json
