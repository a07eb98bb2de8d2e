import Mathlib.Data.List.Nodup
import Mathlib.Data.List.Pairwise
import Mathlib.Data.List.Perm.Basic
import SqlTriggers.Declaration.Freeze
import SqlTriggers.Proofs.OrderedMap

/-! The last setting of an attribute counts, and no other one leaves a trace. Settings of different
attributes may come in any order; only branches are told apart by theirs. -/

namespace SqlTriggers

inductive Target where
  | name
  | table
  | timing
  | events
  | columns
  | granularity
  | condition
  | security
  | declarations
  | binding (key : String)
  | body
  | generated
  | compatibility
  deriving DecidableEq

namespace Setting

def targets : Setting → List Target
  | .name _ => [.name]
  | .on _ => [.table]
  | .forEach _ => [.granularity]
  | .timing _ => [.timing]
  | .events _ => [.events]
  | .before _ => [.timing, .events]
  | .after _ => [.timing, .events]
  | .when _ => [.condition]
  | .all => [.condition]
  | .of _ => [.columns]
  | .security _ => [.security]
  | .declare _ => [.declarations]
  | .bind key _ => [.binding key]
  | .generated _ => [.generated]
  | .compatibility _ => [.compatibility]
  | .body _ => [.body]
  | .branch _ => []

def isBranch : Setting → Bool
  | .branch _ => true
  | _ => false

def allTargets (ss : List Setting) : List Target :=
  ss.flatMap targets

def lastOnly : List Setting → List Setting
  | [] => []
  | s :: ss =>
    if s.targets ≠ [] ∧ s.targets ⊆ allTargets ss then lastOnly ss else s :: lastOnly ss

mutual

def parts : Setting → List Setting
  | .before es => [.timing (.ok .before), .events es]
  | .after es => [.timing (.ok .after), .events es]
  | .branch ss => [.branch (lastOnly (partsAll ss))]
  | s => [s]

def partsAll : List Setting → List Setting
  | [] => []
  | s :: ss => parts s ++ partsAll ss

end

/-- The last setting of every target, and all branches. -/
def reduced (ss : List Setting) : List Setting :=
  lastOnly (partsAll ss)

/-- In another order, in which the branches keep theirs. The settings of a branch may have another
order as well, and timing and events may be set at once. -/
inductive Reordered : List Setting → List Setting → Prop
  | order {ss ts : List Setting} (perm : ss.Perm ts)
      (branches : ss.filter isBranch = ts.filter isBranch) : Reordered ss ts
  | atOnce (front behind : List Setting) {s : Setting} (h : isBranch s = false) :
      Reordered (front ++ (parts s ++ behind)) (front ++ s :: behind)
  | inside {bs cs : List Setting} (front behind : List Setting) (h : Reordered bs cs) :
      Reordered (front ++ .branch bs :: behind) (front ++ .branch cs :: behind)
  | trans {ss ts us : List Setting} (h : Reordered ss ts) (h' : Reordered ts us) : Reordered ss us

inductive Settled : List Setting → Prop
  | intro {ss : List Setting} (once : (allTargets ss).Nodup)
      (inside : ∀ bs, .branch bs ∈ ss → Settled bs) : Settled ss

end Setting

namespace Attributes

open Setting (targets allTargets lastOnly)

def AgreeAt (a b : Attributes) : Target → Prop
  | .name => a.name = b.name
  | .table => a.table = b.table
  | .timing => a.timing = b.timing
  | .events => a.events = b.events
  | .columns => a.columns = b.columns
  | .granularity => a.granularity = b.granularity
  | .condition => a.condition = b.condition
  | .security => a.security = b.security
  | .declarations => a.declarations = b.declarations
  | .binding key => a.bindings.get? key = b.bindings.get? key
  | .body => a.body = b.body
  | .generated => a.generated = b.generated
  | .compatibility => a.compatibility = b.compatibility

variable {a b c : Attributes} {k : Target} {s t : Setting} {ss : List Setting}

lemma AgreeAt.refl (a : Attributes) (k : Target) : AgreeAt a a k := by
  cases k <;> rfl

lemma AgreeAt.symm (h : AgreeAt a b k) : AgreeAt b a k := by
  cases k <;> exact Eq.symm h

lemma AgreeAt.trans (h : AgreeAt a b k) (h' : AgreeAt b c k) : AgreeAt a c k := by
  cases k <;> exact Eq.trans h h'

lemma eq_of_agreeAt (h : ∀ k, AgreeAt a b k) : a = b := by
  cases a
  cases b
  simp only [Attributes.mk.injEq]
  exact ⟨h .name, h .table, h .timing, h .events, h .columns, h .granularity, h .condition,
    h .security, h .declarations, OrderedMap.ext_get? fun key => h (.binding key), h .body,
    h .generated, h .compatibility⟩

lemma agreeAt_set_of_notMem (h : k ∉ s.targets) : AgreeAt (a.set s) a k := by
  cases s with
  | bind key value =>
    cases k with
    | binding key' =>
      have hne : key ≠ key' := fun he => h (by simp [targets, he])
      simp [AgreeAt, set, OrderedMap.get?_insert, hne]
    | _ => rfl
  | _ => cases k <;> first | rfl | exact absurd (by simp [targets]) h

lemma agreeAt_set_of_mem (h : k ∈ s.targets) : AgreeAt (a.set s) (b.set s) k := by
  cases s with
  | bind key value =>
    obtain rfl := List.mem_singleton.mp h
    simp [AgreeAt, set, OrderedMap.get?_insert]
  | before es | after es =>
    simp only [targets, List.mem_cons, List.not_mem_nil, or_false] at h
    rcases h with rfl | rfl <;> rfl
  | branch ss => exact absurd h List.not_mem_nil
  | _ =>
    obtain rfl := List.mem_singleton.mp h
    rfl

lemma agreeAt_foldl_of_notMem (h : k ∉ allTargets ss) : AgreeAt (ss.foldl set a) a k := by
  induction ss generalizing a with
  | nil => exact .refl a k
  | cons s ss ih =>
    rw [allTargets, List.flatMap_cons, List.mem_append, not_or] at h
    exact (ih h.2).trans (agreeAt_set_of_notMem h.1)

lemma agreeAt_foldl_of_mem (h : k ∈ allTargets ss) :
    AgreeAt (ss.foldl set a) (ss.foldl set b) k := by
  induction ss generalizing a b with
  | nil => exact absurd h List.not_mem_nil
  | cons s ss ih =>
    by_cases hs : k ∈ allTargets ss
    · exact ih hs
    · rw [allTargets, List.flatMap_cons, List.mem_append] at h
      have hset : AgreeAt (a.set s) (b.set s) k := agreeAt_set_of_mem (h.resolve_right hs)
      exact (agreeAt_foldl_of_notMem hs).trans (hset.trans (agreeAt_foldl_of_notMem hs).symm)

lemma foldl_set_of_subset (h : s.targets ⊆ allTargets ss) :
    ss.foldl set (a.set s) = ss.foldl set a := by
  refine eq_of_agreeAt fun k => ?_
  by_cases hk : k ∈ allTargets ss
  · exact agreeAt_foldl_of_mem hk
  · have hset : AgreeAt (a.set s) a k := agreeAt_set_of_notMem fun hs => hk (h hs)
    exact (agreeAt_foldl_of_notMem hk).trans (hset.trans (agreeAt_foldl_of_notMem hk).symm)

lemma foldl_set_lastOnly (a : Attributes) (ss : List Setting) :
    (lastOnly ss).foldl set a = ss.foldl set a := by
  induction ss generalizing a with
  | nil => rfl
  | cons s ss ih =>
    rw [lastOnly]
    split
    · rename_i h
      rw [ih, List.foldl_cons, foldl_set_of_subset h.2]
    · exact ih (a.set s)

lemma set_comm (h : s.targets.Disjoint t.targets) : (a.set s).set t = (a.set t).set s := by
  refine eq_of_agreeAt fun k => ?_
  by_cases ht : k ∈ t.targets
  · have hs : k ∉ s.targets := fun hs => h hs ht
    exact (agreeAt_set_of_mem ht).trans (agreeAt_set_of_notMem hs).symm
  · by_cases hs : k ∈ s.targets
    · exact (agreeAt_set_of_notMem ht).trans (agreeAt_set_of_mem hs)
    · exact ((agreeAt_set_of_notMem ht).trans (agreeAt_set_of_notMem hs)).trans
        ((agreeAt_set_of_notMem hs).trans (agreeAt_set_of_notMem ht)).symm

end Attributes

namespace Draft

open Setting

variable {ss ts : List Setting} {s : Setting}

def branchDrafts (ss : List Setting) : List Draft :=
  ss.filterMap fun
    | .branch bs => some (ofSettings bs)
    | _ => none

lemma applyAll_eq (d : Draft) (ss : List Setting) :
    applyAll d ss = mk (ss.foldl Attributes.set d.own) (d.branches ++ branchDrafts ss) := by
  induction ss generalizing d with
  | nil => cases d; simp [applyAll, Draft.own, branches, branchDrafts]
  | cons s ss ih =>
    rw [applyAll, ih]
    cases s <;>
      simp [apply, set, addBranch, own, branches, branchDrafts, ofSettings, Attributes.set]

lemma applyAll_append (d : Draft) (ss ts : List Setting) :
    applyAll d (ss ++ ts) = applyAll (applyAll d ss) ts := by
  induction ss generalizing d with
  | nil => rfl
  | cons s ss ih => exact ih (apply d s)

lemma branchDrafts_eq_of_filter (h : ss.filter isBranch = ts.filter isBranch) :
    branchDrafts ss = branchDrafts ts := by
  have hfilter : ∀ us : List Setting, branchDrafts us = branchDrafts (us.filter isBranch) := by
    intro us
    rw [branchDrafts, branchDrafts, List.filterMap_filter]
    refine List.filterMap_congr fun s _ => ?_
    cases s <;> rfl
  rw [hfilter ss, h, ← hfilter ts]

lemma filter_isBranch_lastOnly (ss : List Setting) :
    (lastOnly ss).filter isBranch = ss.filter isBranch := by
  induction ss with
  | nil => rfl
  | cons s ss ih =>
    rw [lastOnly]
    split
    · rename_i h
      have hs : isBranch s = false := by
        cases s with
        | branch bs => exact absurd rfl h.1
        | _ => rfl
      rw [ih, List.filter_cons, hs, if_neg Bool.noConfusion]
    · rw [List.filter_cons, List.filter_cons, ih]

lemma applyAll_lastOnly (d : Draft) (ss : List Setting) :
    applyAll d (lastOnly ss) = applyAll d ss := by
  rw [applyAll_eq, applyAll_eq, Attributes.foldl_set_lastOnly,
    branchDrafts_eq_of_filter (filter_isBranch_lastOnly ss)]

mutual

lemma applyAll_parts (d : Draft) (s : Setting) : applyAll d (parts s) = apply d s := by
  cases s with
  | branch ss =>
    have hbranch : ofSettings (lastOnly (partsAll ss)) = ofSettings ss :=
      (applyAll_lastOnly empty _).trans (applyAll_partsAll empty ss)
    exact congrArg d.addBranch hbranch
  | _ => rfl

lemma applyAll_partsAll (d : Draft) (ss : List Setting) :
    applyAll d (partsAll ss) = applyAll d ss := by
  cases ss with
  | nil => rfl
  | cons s ss =>
    rw [partsAll, applyAll_append, applyAll_parts d s, applyAll_partsAll _ ss, applyAll]

end

lemma ofSettings_reduced (ss : List Setting) : ofSettings (reduced ss) = ofSettings ss :=
  (applyAll_lastOnly empty _).trans (applyAll_partsAll empty ss)

end Draft

namespace Setting

variable {ss ts : List Setting}

lemma lastOnly_sublist (ss : List Setting) : (lastOnly ss).Sublist ss := by
  induction ss with
  | nil => exact .slnil
  | cons s ss ih =>
    rw [lastOnly]
    split
    · exact ih.cons s
    · exact ih.cons_cons s

lemma allTargets_subset_of_sublist (h : ss.Sublist ts) : allTargets ss ⊆ allTargets ts := by
  intro k hk
  obtain ⟨s, hs, hks⟩ := List.mem_flatMap.mp hk
  exact List.mem_flatMap.mpr ⟨s, h.subset hs, hks⟩

lemma nodup_lastOnly (h : ∀ s ∈ ss, s.targets.length ≤ 1) : (allTargets (lastOnly ss)).Nodup := by
  induction ss with
  | nil => exact .nil
  | cons s ss ih =>
    obtain ⟨hs, hss⟩ := List.forall_mem_cons.mp h
    have hlater := ih hss
    rw [lastOnly]
    split
    · exact hlater
    · rename_i hkept
      rw [allTargets, List.flatMap_cons]
      cases hk : s.targets with
      | nil => exact hlater
      | cons k ks =>
        obtain rfl : ks = [] := by simpa [hk] using hs
        have hnew : k ∉ allTargets ss := by simpa [hk] using hkept
        exact List.nodup_cons.mpr
          ⟨fun hm => hnew (allTargets_subset_of_sublist (lastOnly_sublist ss) hm), hlater⟩

lemma flatMap_targets_parts (s : Setting) : (parts s).flatMap targets = s.targets := by
  cases s <;> rfl

lemma length_targets_of_mem_parts {s t : Setting} (h : t ∈ parts s) : t.targets.length ≤ 1 := by
  cases s with
  | before es | after es =>
    simp only [parts, List.mem_cons, List.not_mem_nil, or_false] at h
    rcases h with rfl | rfl <;> exact Nat.le_refl 1
  | branch bs =>
    obtain rfl := List.mem_singleton.mp h
    exact Nat.zero_le 1
  | _ =>
    obtain rfl := List.mem_singleton.mp h
    exact Nat.le_refl 1

lemma length_targets_of_mem_partsAll {t : Setting} (h : t ∈ partsAll ss) :
    t.targets.length ≤ 1 := by
  induction ss with
  | nil => exact absurd h List.not_mem_nil
  | cons s ss ih =>
    rw [partsAll] at h
    rcases List.mem_append.mp h with h | h
    · exact length_targets_of_mem_parts h
    · exact ih h

lemma settled_reduced_of_inside (h : ∀ bs, .branch bs ∈ partsAll ss → Settled bs) :
    Settled (reduced ss) :=
  .intro (nodup_lastOnly fun _ hs => length_targets_of_mem_partsAll hs)
    fun bs hbs => h bs ((lastOnly_sublist _).subset hbs)

mutual

lemma settled_of_mem_parts {s : Setting} {bs : List Setting} (h : .branch bs ∈ parts s) :
    Settled bs := by
  cases s with
  | branch ss =>
    simp only [parts, List.mem_singleton, branch.injEq] at h
    rw [h]
    exact settled_reduced_of_inside fun cs hcs => settled_of_mem_partsAll hcs
  | _ => simp [parts] at h

lemma settled_of_mem_partsAll {ss bs : List Setting} (h : .branch bs ∈ partsAll ss) :
    Settled bs := by
  cases ss with
  | nil => exact absurd h List.not_mem_nil
  | cons s ss =>
    rw [partsAll] at h
    rcases List.mem_append.mp h with h | h
    · exact settled_of_mem_parts h
    · exact settled_of_mem_partsAll h

end

lemma settled_reduced (ss : List Setting) : Settled (reduced ss) :=
  settled_reduced_of_inside fun _ => settled_of_mem_partsAll

lemma foldl_set_perm (hn : (allTargets ss).Nodup) (hp : ss.Perm ts) (a : Attributes) :
    ss.foldl Attributes.set a = ts.foldl Attributes.set a := by
  have hdisjoint : ss.Pairwise fun s t => s.targets.Disjoint t.targets :=
    (List.nodup_flatMap.mp hn).2
  have hsymm : Std.Symm fun s t : Setting => s.targets.Disjoint t.targets :=
    ⟨fun s t h k hk hs => h hs hk⟩
  refine hp.foldl_eq' (fun s hs t ht b => ?_) a
  by_cases he : s = t
  · rw [he]
  · exact Attributes.set_comm (hdisjoint.forall hs ht he)

lemma Reordered.settled_and_ofSettings (h : Reordered ss ts) (hs : Settled ss) :
    Settled ts ∧ Draft.ofSettings ts = Draft.ofSettings ss := by
  induction h with
  | @order ss ts hp hb =>
    obtain ⟨once, inside⟩ := hs
    refine ⟨.intro ((hp.flatMap_right targets).nodup_iff.mp once) fun bs hbs =>
      inside bs (hp.mem_iff.mpr hbs), ?_⟩
    rw [Draft.ofSettings, Draft.ofSettings, Draft.applyAll_eq, Draft.applyAll_eq,
      foldl_set_perm once hp, Draft.branchDrafts_eq_of_filter hb]
  | @atOnce front behind s h =>
    obtain ⟨once, inside⟩ := hs
    refine ⟨.intro ?_ fun bs hbs => inside bs ?_, ?_⟩
    · simpa [allTargets, flatMap_targets_parts] using once
    · rcases List.mem_append.mp hbs with hm | hm
      · exact List.mem_append_left _ hm
      · rcases List.mem_cons.mp hm with rfl | hm
        · exact Bool.noConfusion h
        · exact List.mem_append_right _ (List.mem_append_right _ hm)
    · rw [Draft.ofSettings, Draft.ofSettings, Draft.applyAll_append, Draft.applyAll_append,
        Draft.applyAll_append, Draft.applyAll_parts, Draft.applyAll]
  | @inside bs cs front behind _ ih =>
    obtain ⟨once, inside⟩ := hs
    obtain ⟨hcs, hdraft⟩ := ih (inside bs (by simp))
    constructor
    · refine .intro ?_ fun es hes => ?_
      · simpa [allTargets, targets] using once
      · rcases List.mem_append.mp hes with hm | hm
        · exact inside es (List.mem_append_left _ hm)
        · rcases List.mem_cons.mp hm with he | hm
          · exact branch.inj he ▸ hcs
          · exact inside es (List.mem_append_right _ (List.mem_cons_of_mem _ hm))
    · rw [Draft.ofSettings, Draft.ofSettings, Draft.applyAll_append, Draft.applyAll_append,
        Draft.applyAll, Draft.applyAll, Draft.apply, Draft.apply]
      exact congrArg (fun d => Draft.applyAll (Draft.addBranch _ d) behind) hdraft
  | trans _ _ ih ih' =>
    obtain ⟨hts, hdraft⟩ := ih hs
    obtain ⟨hus, hdraft'⟩ := ih' hts
    exact ⟨hus, hdraft'.trans hdraft⟩

/-- The settings that are left, in any order that keeps the branches in theirs, are frozen as all of
them are, with the same fault if there is one. -/
theorem freeze_of_reordered (full : List Setting) : Settled (reduced full) ∧
    ∀ short, Reordered (reduced full) short →
      (Draft.ofSettings short).freeze = (Draft.ofSettings full).freeze := by
  have hsettled := settled_reduced full
  refine ⟨hsettled, fun short h => ?_⟩
  have hdraft : Draft.ofSettings short = Draft.ofSettings full :=
    (h.settled_and_ofSettings hsettled).2.trans (Draft.ofSettings_reduced full)
  rw [hdraft]

theorem freeze_of_reordered_faulty :
    let full : List Setting :=
      [.on "users", .timing (.error (.invalidTiming "sideways")),
        .before [.error (.invalidEvent "upsert")], .timing (.ok .after), .events [.ok .insert],
        .bind "x" "1",
        .branch [.forEach (.error (.invalidGranularity "cell")), .name "bob_tr",
          .when "NEW.id = \x7bx\x7d", .forEach (.ok .row), .body ["SELECT 1"]],
        .bind "x" "2", .branch [.when "\x7by\x7d", .name "eve_tr", .all, .body ["SELECT 2"]]]
    let short : List Setting :=
      [.branch [.body ["SELECT 1"], .forEach (.ok .row), .when "NEW.id = \x7bx\x7d", .name "bob_tr"],
        .bind "x" "2", .branch [.name "eve_tr", .all, .body ["SELECT 2"]],
        .on "users", .after [.ok .insert]]
    Reordered (reduced full) short ∧
      (Draft.ofSettings short).freeze = (Draft.ofSettings full).freeze ∧
      (Draft.ofSettings full).freeze.isOk = true := by
  intro full short
  let own : List Setting := [.on "users", .timing (.ok .after), .events [.ok .insert]]
  let bob : List Setting :=
    [.name "bob_tr", .when "NEW.id = \x7bx\x7d", .forEach (.ok .row), .body ["SELECT 1"]]
  let rest : List Setting := [.bind "x" "2", .branch [.name "eve_tr", .all, .body ["SELECT 2"]]]
  have hreduced : reduced full = own ++ .branch bob :: rest := by rfl
  have hbob : Reordered (own ++ .branch bob :: rest) (own ++ .branch bob.reverse :: rest) :=
    .inside own rest (.order (List.reverse_perm bob).symm rfl)
  have hown : Reordered (own ++ .branch bob.reverse :: rest) (.branch bob.reverse :: rest ++ own) :=
    .order List.perm_append_comm rfl
  have hafter : Reordered (.branch bob.reverse :: rest ++ own) short :=
    .atOnce (.branch bob.reverse :: rest ++ [.on "users"]) [] (s := .after [.ok .insert]) rfl
  have horder : Reordered (reduced full) short := hreduced ▸ (hbob.trans hown).trans hafter
  exact ⟨horder, (freeze_of_reordered full).2 short horder, by decide +kernel⟩

end Setting

end SqlTriggers
