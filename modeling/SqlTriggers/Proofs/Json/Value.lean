import Mathlib.Data.List.Nodup
import SqlTriggers.Json.Value
import SqlTriggers.Proofs.Json.Text
import SqlTriggers.Proofs.Text.Digits

/-! What was written as a value is found in it again. -/

namespace SqlTriggers.Json

@[simp] lemma text?_ofString (s : String) : (ofString s).text? = some s := by
  rw [ofString, text?, unescape?_escape, Option.map_some, String.ofList_toList]

@[simp] lemma word?_ofString (s : String) : (ofString s).word? = some s := by
  rw [ofString, word?]
  · exact text?_ofString s
  · intro k h
    exact Json.noConfusion h

lemma digitsValue?_toDigits (n : Nat) : digitsValue? (Nat.toDigits 10 n) = some n := by
  have hd : (Nat.toDigits 10 n).all Char.isDigit = true :=
    List.all_eq_true.mpr fun _ h => Text.isDigit_of_mem_toDigits h
  rw [digitsValue?, if_pos hd, Text.foldl_toDigits]
  exact Nat.toDigits_ne_nil

@[simp] lemma nat?_ofNat (n : Nat) : (ofNat n).nat? = some n := by
  rw [ofNat, nat?, Nat.toString_eq_repr, Nat.toList_repr, digitsValue?_toDigits]

@[simp] lemma uint32?_ofNat (n : UInt32) : (ofNat n.toNat).uint32? = some n := by
  simp [uint32?, n.toNat_lt]

@[simp] lemma uint64?_ofNat (n : UInt64) : (ofNat n.toNat).uint64? = some n := by
  simp [uint64?, n.toNat_lt]

lemma list?_ofList {α : Type} {f : α → Json} {g : Json → Option α} (xs : List α)
    (h : ∀ x ∈ xs, g (f x) = some x) : (ofList f xs).list? g = some xs := by
  rw [ofList, list?]
  induction xs with
  | nil => rfl
  | cons x xs ih =>
    have hx := h x List.mem_cons_self
    have hxs := ih fun y hy => h y (List.mem_cons_of_mem x hy)
    rw [List.map_cons, List.mapM_cons, hx, hxs]
    rfl

@[simp] lemma list?_texts (xs : List String) : (ofList ofString xs).list? text? = some xs :=
  list?_ofList xs fun x _ => text?_ofString x

lemma members?_ofMembers {ms : List (String × Json)}
    (h : ∀ m ∈ ms, unescape? m.1.toList = some m.1.toList) :
    (ofMembers ms).members? = some ms := by
  rw [ofMembers, members?]
  induction ms with
  | nil => rfl
  | cons m ms ih =>
    have hm := h m List.mem_cons_self
    have hms := ih fun n hn => h n (List.mem_cons_of_mem m hn)
    rw [List.map_cons, List.mapM_cons, hms]
    simp [hm]

lemma fields?_ofMembers {names : List String} (closed : Bool) {ms : List (String × Json)}
    (hp : ∀ k ∈ names, escape k.toList = k.toList) (hn : names.Nodup)
    (hs : (ms.map (·.1)).Sublist names) : (ofMembers ms).fields? names closed = some ms := by
  have hmem : ∀ m ∈ ms, m.1 ∈ names := fun m hm => hs.subset (List.mem_map_of_mem hm)
  have hmembers : (ofMembers ms).members? = some ms :=
    members?_ofMembers fun m hm => unescape?_plain (hp m.1 (hmem m hm))
  have hall : ms.all (fun m => names.contains m.1) = true :=
    List.all_eq_true.mpr fun m hm => List.contains_iff_mem.mpr (hmem m hm)
  have hfilter : ms.filter (fun m => names.contains m.1) = ms :=
    List.filter_eq_self.mpr (List.all_eq_true.mp hall)
  have hnodup : (ms.map (·.1)).Nodup := hn.sublist hs
  rw [fields?]
  · simp only [hmembers, hall, hfilter, hnodup, Option.bind_eq_bind, Option.bind_some,
      Bool.not_true, Bool.and_false, Bool.false_eq_true, if_true, if_false]
  · rintro items ⟨⟩

lemma lookup_of_mem {ms : List (String × Json)} (hn : (ms.map (·.1)).Nodup) {k : String}
    {j : Json} (h : (k, j) ∈ ms) : ms.lookup k = some j := by
  obtain ⟨front, behind, rfl⟩ := List.append_of_mem h
  refine List.lookup_eq_some_iff.mpr ⟨front, behind, rfl, fun m hm => ?_⟩
  rw [List.map_append, List.map_cons] at hn
  have hne := List.disjoint_of_nodup_append hn (List.mem_map_of_mem hm)
  rw [bne_iff_ne]
  rintro rfl
  exact hne List.mem_cons_self

lemma field?_of_mem {α : Type} {ms : List (String × Json)} (hn : (ms.map (·.1)).Nodup) {k : String}
    {j : Json} (f : Json → Option α) (h : (k, j) ∈ ms) : field? ms k f = f j := by
  rw [field?, lookup_of_mem hn h, Option.bind_some]

lemma fieldOr?_of_mem {α : Type} {ms : List (String × Json)} (hn : (ms.map (·.1)).Nodup)
    {k : String} {j : Json} (f : Json → Option α) (a : α) (h : (k, j) ∈ ms) :
    fieldOr? ms k f a = f j := by
  rw [fieldOr?, lookup_of_mem hn h]

end SqlTriggers.Json
