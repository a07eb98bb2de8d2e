import Mathlib.Data.List.Sort
import Mathlib.Tactic.Common
import SqlTriggers.OrderedMap

/-! Maps through their lookups. -/

namespace SqlTriggers.OrderedMap

variable {κ ν μ : Type} [Ord κ]

lemma ext_entries {m n : OrderedMap κ ν} (h : m.entries = n.entries) : m = n := by
  cases m
  cases n
  cases h
  rfl

section Lookup

variable [DecidableEq κ]

@[simp] lemma get?_empty (k : κ) : (empty : OrderedMap κ ν).get? k = none := rfl

lemma contains_iff {m : OrderedMap κ ν} {k : κ} : m.contains k = true ↔ ∃ v, m.get? k = some v := by
  simp [contains, Option.isSome_iff_exists]

lemma get?_erase (m : OrderedMap κ ν) (k k' : κ) :
    (m.erase k).get? k' = if k = k' then none else m.get? k' := by
  rw [get?, erase, List.find?_filter]
  split
  · rename_i h
    subst h
    simp
  · rename_i h
    rw [get?]
    congr 2
    funext e
    by_cases he : e.1 = k' <;> simp [he, Ne.symm h]

lemma get?_mapValues (f : ν → μ) (m : OrderedMap κ ν) (k : κ) :
    (m.mapValues f).get? k = (m.get? k).map f := by
  simp [get?, mapValues, List.find?_map, Function.comp_def]

end Lookup

variable [Std.LawfulEqOrd κ]

lemma keys_nodup (m : OrderedMap κ ν) : (m.entries.map (·.1)).Nodup := by
  rw [List.Nodup, List.pairwise_map]
  refine m.sorted.imp fun {a b} hlt hk => ?_
  rw [hk, Std.ReflOrd.compare_self] at hlt
  exact Ordering.noConfusion hlt

variable [DecidableEq κ]

omit [Ord κ] [Std.LawfulEqOrd κ] in
lemma find?_key_eq_some_iff {l : List (κ × ν)} (hn : (l.map (·.1)).Nodup) {k : κ} {v : ν} :
    (l.find? fun e => e.1 = k).map (·.2) = some v ↔ (k, v) ∈ l := by
  simp only [Option.map_eq_some_iff, Prod.exists, exists_eq_right]
  constructor
  · rintro ⟨k', h⟩
    have hk : k' = k := by simpa using List.find?_some h
    exact hk ▸ List.mem_of_find?_eq_some h
  · intro h
    cases hf : l.find? fun e => e.1 = k with
    | none => simpa using List.find?_eq_none.mp hf (k, v) h
    | some e =>
      have hk : e.1 = k := by simpa using List.find?_some hf
      have he := List.inj_on_of_nodup_map hn (List.mem_of_find?_eq_some hf) h hk
      exact ⟨k, by rw [he]⟩

lemma get?_eq_some_iff {m : OrderedMap κ ν} {k : κ} {v : ν} :
    m.get? k = some v ↔ (k, v) ∈ m.entries :=
  find?_key_eq_some_iff m.keys_nodup

lemma mem_values_iff {m : OrderedMap κ ν} {v : ν} : v ∈ m.values ↔ ∃ k, m.get? k = some v := by
  simp [values, get?_eq_some_iff]

lemma find?_insertEntry (k k' : κ) (v : ν) (l : List (κ × ν)) :
    (insertEntry k v l).find? (fun e => e.1 = k') =
      if k = k' then some (k, v) else l.find? fun e => e.1 = k' := by
  induction l with
  | nil => by_cases h : k = k' <;> simp [insertEntry, h]
  | cons e l ih =>
    obtain ⟨j, w⟩ := e
    unfold insertEntry
    split
    · by_cases h : k = k' <;> simp [h]
    · rename_i heq
      obtain rfl := Std.LawfulEqOrd.eq_of_compare heq
      by_cases h : k = k' <;> simp [h]
    · rename_i hgt
      have hne : j ≠ k := by
        rintro rfl
        simp at hgt
      rw [List.find?_cons, ih, List.find?_cons]
      by_cases hj : j = k'
      · have hk : k ≠ k' := fun h => hne (hj.trans h.symm)
        simp [hj, hk]
      · simp [hj]

variable [Std.TransOrd κ]

lemma get?_insert (m : OrderedMap κ ν) (k k' : κ) (v : ν) :
    (m.insert k v).get? k' = if k = k' then some v else m.get? k' := by
  rw [get?, insert, find?_insertEntry]
  split <;> rfl

omit [DecidableEq κ] in
lemma entries_eq_of_mem_iff {m : OrderedMap κ ν} {l : List (κ × ν)}
    (hl : l.Pairwise fun a b => compare a.1 b.1 = .lt) (h : ∀ e, e ∈ m.entries ↔ e ∈ l) :
    m.entries = l := by
  have hirrefl : Std.Irrefl fun a b : κ × ν => compare a.1 b.1 = .lt :=
    ⟨fun a => by simp [Std.ReflOrd.compare_self]⟩
  have hantisymm : Std.Antisymm fun a b : κ × ν => compare a.1 b.1 = .lt := by
    refine ⟨fun a b hab hba => ?_⟩
    rw [Std.OrientedCmp.gt_of_lt hab] at hba
    exact Ordering.noConfusion hba
  exact m.sorted.eq_of_mem_iff hl h

lemma ext_get? {m n : OrderedMap κ ν} (h : ∀ k, m.get? k = n.get? k) : m = n := by
  refine ext_entries (entries_eq_of_mem_iff n.sorted fun ⟨k, v⟩ => ?_)
  rw [← get?_eq_some_iff, ← get?_eq_some_iff, h]

lemma get?_foldl_insert {l : List (κ × ν)} (hn : (l.map (·.1)).Nodup) (m : OrderedMap κ ν)
    (k : κ) : (l.foldl (fun m e => m.insert e.1 e.2) m).get? k =
      ((l.find? fun e => e.1 = k).map (·.2)).or (m.get? k) := by
  induction l generalizing m with
  | nil => rfl
  | cons e l ih =>
    obtain ⟨hnew, hl⟩ := List.nodup_cons.mp hn
    rw [List.foldl_cons, ih hl, get?_insert, List.find?_cons]
    by_cases hk : e.1 = k
    · have hnone : (l.find? fun e => e.1 = k) = none := by
        refine List.find?_eq_none.mpr fun a ha hak => hnew ?_
        exact List.mem_map.mpr ⟨a, ha, (of_decide_eq_true hak).trans hk.symm⟩
      simp [hk, hnone]
    · simp [hk]

lemma ofList_of_perm {m : OrderedMap κ ν} {l : List (κ × ν)} (h : l.Perm m.entries) :
    ofList l = m := by
  have hn : (l.map (·.1)).Nodup := (h.map (·.1)).nodup_iff.mpr m.keys_nodup
  refine ext_get? fun k => Option.ext fun v => ?_
  rw [ofList, get?_foldl_insert hn, get?_empty, Option.or_none, find?_key_eq_some_iff hn,
    get?_eq_some_iff, h.mem_iff]

end SqlTriggers.OrderedMap
