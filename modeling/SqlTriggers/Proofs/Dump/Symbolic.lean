import SqlTriggers.Proofs.Dump.Contents
import SqlTriggers.Proofs.Migration.Diff

/-! Dumps of triggers that are all recognised. What the database knows of a trigger beyond its
declaration does not show in them. -/

namespace SqlTriggers.Dumper

variable (d : Dumper) {cs ts : List Trigger} {t : Trigger} {snapshot : Snapshot}

lemma recognise_of_first (ht : triggerAt t.key cs = some t)
    (hk : ∀ u ∈ cs, u.name = t.name → u.key = t.key) :
    d.recognise cs t.name (d.engine.rendering t) = some t := by
  obtain ⟨-, front, back, hcs, hfront⟩ := List.find?_eq_some_iff_append.mp ht
  refine List.find?_eq_some_iff_append.mpr ⟨by simp, front, back, hcs, fun u hu => ?_⟩
  have hname : u.name ≠ t.name := fun hname => by
    simpa [hk u (hcs ▸ List.mem_append_left _ hu) hname] using hfront u hu
  simp [hname]

lemma recognise_candidates (previous : Option Dump) {name ddl : String}
    (h : d.recognise d.trusted name ddl = some t) :
    d.recognise (d.candidates previous) name ddl = some t := by
  rw [candidates_eq, recognise_append, h, Option.some_or]

section Shows

variable (hn : (ts.map Trigger.name).Nodup) (hs : ∀ name ddl, (name, ddl) ∈ snapshot.entries ↔
  ∃ t ∈ ts, t.name = name ∧ d.engine.rendering t = ddl)

include hn hs

lemma entries_of_shows :
    snapshot.entries = (sortOn Trigger.name ts).map fun t => (t.name, d.engine.rendering t) := by
  refine OrderedMap.entries_eq_of_mem_iff ?_ fun ⟨name, ddl⟩ => ?_
  · rw [List.pairwise_map]
    exact sortOn_strictly_sorted Trigger.name hn
  · simp [hs]

variable {previous : Option Dump} (hr : ∀ t ∈ ts,
  d.recognise (d.candidates previous) t.name (d.engine.rendering t) = some t)

include hr

lemma render_of_shows : d.render snapshot previous = declaring (d.version previous) ts := by
  have hentry : ∀ t ∈ sortOn Trigger.name ts,
      "\n" ++ d.entry (d.candidates previous) t.name (d.engine.rendering t) ++ "\n" =
        "\n" ++ declarationEntry t ++ "\n" := by
    intro t ht
    rw [entry, hr t (mem_sortOn.mp ht)]
  rw [render, d.entries_of_shows hn hs, List.map_map, declaring, ← List.map_congr_left hentry]
  rfl

lemma dump_of_shows {text : Option String} (hp : text.mapM Dump.read = .ok previous) :
    d.dump snapshot text = .ok (declaring (d.version previous) ts) := by
  rw [d.dump_eq snapshot hp, d.render_of_shows hn hs hr]

end Shows

end SqlTriggers.Dumper
