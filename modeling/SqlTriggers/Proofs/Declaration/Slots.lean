import Mathlib.Data.List.Nodup
import Mathlib.Data.List.Pairwise
import SqlTriggers.Declaration.Expansion
import SqlTriggers.Proofs.Result
import SqlTriggers.Proofs.Sorting

/-! The triggers that an engine with one trigger per slot has for declarations share no slot. -/

namespace SqlTriggers

def OnePerSlot (ts : List Trigger) : Prop :=
  ts.Pairwise fun t u => ∀ s ∈ t.slots, s ∉ u.slots

instance (ts : List Trigger) : Decidable (OnePerSlot ts) :=
  inferInstanceAs (Decidable (ts.Pairwise _))

lemma Trigger.slots_nodup (t : Trigger) : t.slots.Nodup := by
  have hevents : t.events.toList.Nodup := List.Nodup.filter _ (by decide)
  refine hevents.map fun e f h => ?_
  exact (Slot.mk.inj h).2.2

section OnePerSlot

variable {ts us : List Trigger}

lemma onePerSlot_iff_nodup : OnePerSlot ts ↔ (ts.flatMap Trigger.slots).Nodup := by
  rw [List.nodup_flatMap, and_iff_right fun t _ => t.slots_nodup]
  rfl

lemma OnePerSlot.perm (h : OnePerSlot ts) (hp : ts.Perm us) : OnePerSlot us := by
  rw [onePerSlot_iff_nodup] at h ⊢
  exact (hp.flatMap_right Trigger.slots).nodup_iff.mp h

lemma onePerSlot_iff_of_nodup (hn : (ts.map Trigger.key).Nodup) :
    OnePerSlot ts ↔ ∀ t ∈ ts, ∀ u ∈ ts, ∀ s ∈ t.slots, s ∈ u.slots → t.key = u.key := by
  constructor
  · intro h t ht u hu s hst hsu
    have : Std.Symm fun t u : Trigger => ∀ s ∈ t.slots, s ∉ u.slots :=
      ⟨fun t u h s hsu hst => h s hst hsu⟩
    by_contra hk
    exact h.forall ht hu (fun he => hk (congrArg Trigger.key he)) s hst hsu
  · intro h
    rw [List.Nodup, List.pairwise_map] at hn
    exact hn.imp_of_mem fun ht hu hk s hst hsu => hk (h _ ht _ hu s hst hsu)

lemma OnePerSlot.of_slots (h : OnePerSlot ts) (hn : (ts.map Trigger.key).Nodup)
    (hm : (us.map Trigger.key).Nodup)
    (hs : ∀ u ∈ us, ∃ t ∈ ts, t.key = u.key ∧ t.slots = u.slots) : OnePerSlot us := by
  rw [onePerSlot_iff_of_nodup hn] at h
  rw [onePerSlot_iff_of_nodup hm]
  intro u hu v hv s hsu hsv
  obtain ⟨t, ht, htk, hts⟩ := hs u hu
  obtain ⟨r, hr, hrk, hrs⟩ := hs v hv
  rw [← htk, ← hrk]
  exact h t ht r hr s (hts ▸ hsu) (hrs ▸ hsv)

end OnePerSlot

def takenSlots (ts : List Trigger) : List (Slot × String) :=
  ts.flatMap fun t => t.slots.map fun s => (s, t.name)

lemma map_takenSlots (ts : List Trigger) :
    (takenSlots ts).map (·.1) = ts.flatMap Trigger.slots := by
  simp [takenSlots, List.map_flatMap, Function.comp_def]

lemma length_holders (ts : List Trigger) (s : Slot) :
    (((takenSlots ts).filter fun e => e.1 = s).map (·.2)).length =
      (ts.flatMap Trigger.slots).count s := by
  rw [List.length_map, ← map_takenSlots, List.count, List.countP_map, List.countP_eq_length_filter]
  congr 2

namespace Engine

variable {engine : Engine} {ts : List Trigger}

lemma slotConflict?_eq_none_iff : slotConflict? ts = none ↔ OnePerSlot ts := by
  have hnone : slotConflict? ts = none ↔
      ∀ e ∈ takenSlots ts, (ts.flatMap Trigger.slots).count e.1 ≤ 1 := by
    simp [slotConflict?, List.findSome?_eq_none_iff, ← length_holders, takenSlots]
  rw [hnone, onePerSlot_iff_nodup, List.nodup_iff_count_le_one]
  constructor
  · intro h s
    by_cases hs : s ∈ ts.flatMap Trigger.slots
    · rw [← map_takenSlots] at hs
      obtain ⟨e, he, rfl⟩ := List.mem_map.mp hs
      exact h e he
    · rw [List.count_eq_zero_of_not_mem hs]
      exact Nat.zero_le 1
  · exact fun h e _ => h e.1

lemma requireFreeSlots_eq_ok_iff (he : engine.manyPerSlot = false) {u : Unit} :
    engine.requireFreeSlots ts = .ok u ↔ OnePerSlot ts := by
  rw [requireFreeSlots, he, ← slotConflict?_eq_none_iff]
  cases slotConflict? ts <;> simp

end Engine

lemma expansion_onePerSlot {engine : Engine} (he : engine.manyPerSlot = false)
    {ds : List Declaration} {ts : List Trigger} (h : expansion engine ds = .ok ts) :
    OnePerSlot ts := by
  simp only [expansion, bind_eq_ok_iff, pure_eq_ok_iff] at h
  obtain ⟨us, -, -, -, u, hfree, rfl⟩ := h
  exact ((Engine.requireFreeSlots_eq_ok_iff he).mp hfree).perm (sortOn_perm Trigger.key us).symm

end SqlTriggers
