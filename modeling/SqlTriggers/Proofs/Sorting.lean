import Mathlib.Data.List.Perm.Basic
import Mathlib.Tactic.Common
import SqlTriggers.Sorting

namespace SqlTriggers

variable {α κ : Type} [Ord κ]

lemma insertOn_perm (key : α → κ) (x : α) (ys : List α) : (insertOn key x ys).Perm (x :: ys) := by
  induction ys with
  | nil => exact .refl _
  | cons y ys ih =>
    unfold insertOn
    split
    · exact (ih.cons y).trans (.swap x y ys)
    · exact .refl _

lemma sortOn_perm (key : α → κ) (xs : List α) : (sortOn key xs).Perm xs := by
  induction xs with
  | nil => exact .refl _
  | cons x xs ih => exact (insertOn_perm key x _).trans (ih.cons x)

@[simp] lemma mem_sortOn {key : α → κ} {x : α} {xs : List α} : x ∈ sortOn key xs ↔ x ∈ xs :=
  (sortOn_perm key xs).mem_iff

lemma insertOn_sorted [Std.TransOrd κ] (key : α → κ) (x : α) {ys : List α}
    (h : ys.Pairwise fun a b => (compare (key a) (key b)).isLE) :
    (insertOn key x ys).Pairwise fun a b => (compare (key a) (key b)).isLE := by
  induction ys with
  | nil => simp [insertOn]
  | cons y ys ih =>
    obtain ⟨hy, hs⟩ := List.pairwise_cons.mp h
    unfold insertOn
    split
    · rename_i hgt
      refine List.pairwise_cons.mpr ⟨fun z hz => ?_, ih hs⟩
      rcases List.mem_cons.mp ((insertOn_perm key x ys).mem_iff.mp hz) with rfl | hz
      · exact Ordering.isLE_of_eq_lt (Std.OrientedCmp.lt_of_gt hgt)
      · exact hy z hz
    · rename_i hle
      have hx : (compare (key x) (key y)).isLE := Ordering.isLE_iff_ne_gt.mpr hle
      refine List.pairwise_cons.mpr ⟨fun z hz => ?_, h⟩
      rcases List.mem_cons.mp hz with rfl | hz
      · exact hx
      · exact Std.TransCmp.isLE_trans hx (hy z hz)

lemma sortOn_sorted [Std.TransOrd κ] (key : α → κ) (xs : List α) :
    (sortOn key xs).Pairwise fun a b => (compare (key a) (key b)).isLE := by
  induction xs with
  | nil => exact .nil
  | cons x xs ih => exact insertOn_sorted key x ih

lemma sortOn_strictly_sorted [Std.TransOrd κ] [Std.LawfulEqOrd κ] (key : α → κ) {xs : List α}
    (h : (xs.map key).Nodup) :
    (sortOn key xs).Pairwise fun a b => compare (key a) (key b) = .lt := by
  have hn : ((sortOn key xs).map key).Nodup := ((sortOn_perm key xs).map key).nodup_iff.mpr h
  rw [List.Nodup, List.pairwise_map] at hn
  refine ((sortOn_sorted key xs).and hn).imp fun {a b} hh => ?_
  cases hc : compare (key a) (key b) with
  | lt => rfl
  | eq => exact absurd (Std.LawfulEqCmp.eq_of_compare hc) hh.2
  | gt => simp [hc] at hh

lemma sortOn_eq_of_perm [Std.TransOrd κ] [Std.LawfulEqOrd κ] (key : α → κ) {xs ys : List α}
    (hn : (xs.map key).Nodup) (h : xs.Perm ys) : sortOn key xs = sortOn key ys := by
  have hm : (ys.map key).Nodup := (h.map key).nodup_iff.mp hn
  have hp : (sortOn key xs).Perm (sortOn key ys) :=
    (sortOn_perm key xs).trans (h.trans (sortOn_perm key ys).symm)
  refine hp.eq_of_pairwise (fun a b _ _ hab hba => ?_) (sortOn_strictly_sorted key hn)
    (sortOn_strictly_sorted key hm)
  rw [Std.OrientedCmp.gt_of_lt hab] at hba
  exact Ordering.noConfusion hba

end SqlTriggers
