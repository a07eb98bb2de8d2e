import SqlTriggers.Proofs.Dump.RoundTrip
import SqlTriggers.Proofs.Engine.Rendering
import SqlTriggers.Proofs.Text.Words
import SqlTriggers.Proofs.Trigger.Checked

/-! What a dump takes from the dump before. Behind all that the history records, that dump can only
make a trigger symbolic that would be raw without it. -/

namespace SqlTriggers

open Text

/-- The trigger has this name, and the text is its statements but for white space and
terminators. -/
def Engine.Reads (engine : Engine) (t : Trigger) (name ddl : String) : Prop :=
  t.name = name ∧ normalizeStatement (engine.rendering t) = normalizeStatement ddl

lemma Engine.reads_of_words {t : Trigger} {body : List String} {generated : Bool}
    (h : body.flatMap (fun s => words s.toList) = t.body.flatMap fun s => words s.toList) :
    Engine.lightweight.Reads { t with body := body, generated := generated } t.name
      (Engine.lightweight.rendering t) := by
  have hwords : words
      (Trigger.lightweightText { t with body := body, generated := generated }).toList =
        words t.lightweightText.toList := by
    simp only [Trigger.toList_lightweightText, words_stack, List.flatMap_cons, List.flatMap_append,
      List.flatMap_map, words_indent, h]
    rfl
  refine ⟨rfl, ?_⟩
  simp only [normalizeStatement, normalForm, Engine.rendering, Engine.createStatements,
    stacked_singleton, hwords]

lemma counter_reads (name : String) (generated : Bool) :
    Engine.lightweight.Reads (counter name "SELECT  1;" true) name
      (Engine.lightweight.rendering (counter name "SELECT 1;" generated)) := by
  have hwords : ["SELECT  1;"].flatMap (fun s => words s.toList) =
      ["SELECT 1;"].flatMap fun s => words s.toList := by decide
  exact Engine.reads_of_words (t := counter name "SELECT 1;" generated) hwords

namespace Dumper

variable (d : Dumper)

lemma recognise_eq_none_iff {cs : List Trigger} {name ddl : String} :
    d.recognise cs name ddl = none ↔ ∀ t ∈ cs, ¬ d.engine.Reads t name ddl := by
  simp [recognise, Engine.Reads]

lemma mem_of_mem_recognised {cs : List Trigger} {es : List (String × String)} {t : Trigger}
    (ht : t ∈ d.recognised cs es) : t ∈ cs := by
  obtain ⟨e, -, hr⟩ := List.mem_filterMap.mp ht
  exact (d.recognise_eq_some cs hr).1

lemma render_of_untrusted {h : History} (hh : d.history = some h) {snapshot : Snapshot} {p : Dump}
    (hp : ∀ e ∈ snapshot.entries, d.recognise d.trusted e.1 e.2 = none →
      d.recognise (untrusted (some p)) e.1 e.2 = none) :
    d.render snapshot (some p) = d.render snapshot none := by
  have hversion : d.version (some p) = d.version none := by simp [version, hh]
  have hentry : ∀ e ∈ snapshot.entries, "\n" ++ d.entry (d.candidates (some p)) e.1 e.2 ++ "\n" =
      "\n" ++ d.entry (d.candidates none) e.1 e.2 ++ "\n" := by
    intro e he
    have hr : d.recognise (d.candidates (some p)) e.1 e.2 =
        d.recognise (d.candidates none) e.1 e.2 := by
      rw [candidates_eq, candidates_eq, recognise_append, recognise_append]
      cases hfirst : d.recognise d.trusted e.1 e.2 with
      | some t => rfl
      | none => rw [hp e he hfirst]; rfl
    rw [entry, hr, entry]
  rw [render, render, hversion, List.map_congr_left hentry]

lemma render_ne_of_untrusted {snapshot : Snapshot} {p : Dump}
    (hn : ∀ name ∈ snapshot.keys, '\n' ∉ name.toList) {e : String × String}
    (he : e ∈ snapshot.entries) (hfirst : d.recognise d.trusted e.1 e.2 = none) {t : Trigger}
    (ht : d.recognise (untrusted (some p)) e.1 e.2 = some t) :
    d.render snapshot (some p) ≠ d.render snapshot none := by
  intro h
  -- Equal texts are read alike, and `t` is found in one of them only.
  have hread := d.read_render snapshot (some p) hn
  rw [h, d.read_render snapshot none hn] at hread
  have hsame := congrArg Dump.triggers (Except.ok.inj hread)
  have hsome : d.recognise (d.candidates (some p)) e.1 e.2 = some t := by
    rw [candidates_eq, recognise_append, hfirst, ht]
    rfl
  have hmem : t ∈ d.recognised (d.candidates none) snapshot.entries := by
    have hm : t ∈ (d.reading snapshot (some p)).triggers := List.mem_filterMap.mpr ⟨e, he, hsome⟩
    rwa [← hsame] at hm
  have hname := (d.recognise_eq_some _ hsome).2.1
  have hagain := (d.mem_recognised_iff _ snapshot.keys_nodup he).mp ⟨hmem, hname⟩
  rw [candidates_eq, recognise_append, hfirst] at hagain
  exact nomatch hagain

lemma render_eq_render_none_iff {h : History} (hh : d.history = some h) {snapshot : Snapshot}
    {p : Dump} (hn : ∀ name ∈ snapshot.keys, '\n' ∉ name.toList) :
    d.render snapshot (some p) = d.render snapshot none ↔ ∀ e ∈ snapshot.entries,
      d.recognise d.trusted e.1 e.2 = none → d.recognise (untrusted (some p)) e.1 e.2 = none := by
  constructor
  · intro heq e he hfirst
    by_contra hsome
    obtain ⟨t, ht⟩ := Option.ne_none_iff_exists'.mp hsome
    exact d.render_ne_of_untrusted hn he hfirst ht heq
  · exact d.render_of_untrusted hh

section Detour

def ofHistory (engine : Engine) (h : History) : Dumper := ⟨engine, some h, []⟩

variable {engine : Engine} {h h' : History} {added : List Trigger} {snapshot snapshot' : Snapshot}
  {t : Trigger}

lemma mem_trusted_iff :
    t ∈ (ofHistory engine h).trusted ↔ t ∈ h.recorded ∧ t.generated = true := by
  simp [trusted, ofHistory]

lemma mem_recorded_of_mem_reading
    (ht : t ∈ untrusted (some ((ofHistory engine h).reading snapshot none))) : t ∈ h.recorded := by
  have hm := mem_of_mem_recognised _ (List.mem_filter.mp ht).1
  rw [candidates_eq] at hm
  rcases List.mem_append.mp hm with hm | hm
  · exact (mem_trusted_iff.mp hm).1
  · exact absurd hm List.not_mem_nil

lemma untrusted_detour (hrecorded : ∀ t, t ∈ h'.recorded ↔ t ∈ added ∨ t ∈ h.recorded)
    (hlive : ∀ t ∈ added, (t.name, engine.rendering t) ∈ snapshot'.entries) {name ddl : String}
    (hfirst : ∀ r ∈ h.recorded, r.generated = true → ¬ engine.Reads r name ddl) :
    (ofHistory engine h).recognise (untrusted (some ((ofHistory engine h').reading snapshot'
        (some ((ofHistory engine h).reading snapshot none))))) name ddl = none ↔
      ∀ t ∈ added, t.generated = true → ¬ engine.Reads t name ddl := by
  rw [recognise_eq_none_iff]
  constructor
  · rintro hnone t ht hg ⟨hname, hddl⟩
    -- The grown history may have made the entry of `t` symbolic by another trigger that reads alike.
    have htrusted : t ∈ (ofHistory engine h').trusted :=
      mem_trusted_iff.mpr ⟨(hrecorded t).mpr (.inl ht), hg⟩
    have hsome : (ofHistory engine h').recognise ((ofHistory engine h').candidates
        (some ((ofHistory engine h).reading snapshot none))) t.name (engine.rendering t) ≠ none := by
      rw [Ne, recognise_eq_none_iff, candidates_eq]
      exact fun hall => hall t (List.mem_append_left _ htrusted) ⟨rfl, rfl⟩
    obtain ⟨v, hv⟩ := Option.ne_none_iff_exists'.mp hsome
    obtain ⟨hmem, hvname, hvddl⟩ := recognise_eq_some _ _ hv
    refine hnone v (List.mem_filter.mpr ⟨?_, (List.mem_filter.mp hmem).2⟩)
      ⟨hvname.trans hname, hvddl.trans hddl⟩
    exact List.mem_filterMap.mpr ⟨_, hlive t ht, hv⟩
  · intro hnone v hv
    obtain ⟨hv, hg⟩ := List.mem_filter.mp hv
    have hmem := mem_of_mem_recognised _ hv
    rw [candidates_eq] at hmem
    rcases List.mem_append.mp hmem with hmem | hmem
    · rcases (hrecorded v).mp (mem_trusted_iff.mp hmem).1 with ht | hr
      · exact hnone v ht hg
      · exact hfirst v hr hg
    · exact hfirst v (mem_recorded_of_mem_reading hmem) hg

lemma recognise_trusted_eq_none_iff {name ddl : String} :
    (ofHistory engine h).recognise (ofHistory engine h).trusted name ddl = none ↔
      ∀ r ∈ h.recorded, r.generated = true → ¬ engine.Reads r name ddl := by
  simp only [recognise_eq_none_iff, mem_trusted_iff, and_imp]
  rfl

/-- Taking the way back leads to the first dump just when no trigger that was added reads like one
that the first dump took for raw text. -/
lemma render_detour_iff (hn : ∀ name ∈ snapshot.keys, '\n' ∉ name.toList)
    (hrecorded : ∀ t, t ∈ h'.recorded ↔ t ∈ added ∨ t ∈ h.recorded)
    (hlive : ∀ t ∈ added, (t.name, engine.rendering t) ∈ snapshot'.entries) :
    (ofHistory engine h).render snapshot (some ((ofHistory engine h').reading snapshot'
        (some ((ofHistory engine h).reading snapshot none)))) =
      (ofHistory engine h).render snapshot none ↔
    ∀ e ∈ snapshot.entries, (∀ r ∈ h.recorded, r.generated = true → ¬ engine.Reads r e.1 e.2) →
      ∀ t ∈ added, t.generated = true → ¬ engine.Reads t e.1 e.2 := by
  rw [render_eq_render_none_iff _ rfl hn]
  refine forall₂_congr fun e _ => ?_
  rw [recognise_trusted_eq_none_iff]
  exact forall_congr' fun hfirst => untrusted_detour hrecorded hlive hfirst

lemma raw_then_symbolic_iff (ht : ∀ name ∈ snapshot.keys, trimmed name = name)
    (hrecorded : ∀ t, t ∈ h'.recorded ↔ t ∈ added ∨ t ∈ h.recorded)
    (hlive : ∀ t ∈ added, (t.name, engine.rendering t) ∈ snapshot'.entries) {e : String × String}
    (he : e ∈ snapshot.entries) :
    e.1 ∈ ((ofHistory engine h).reading snapshot none).raw ∧
      (∃ t ∈ ((ofHistory engine h).reading snapshot (some ((ofHistory engine h').reading snapshot'
        (some ((ofHistory engine h).reading snapshot none))))).triggers, t.name = e.1) ↔
    (∀ r ∈ h.recorded, r.generated = true → ¬ engine.Reads r e.1 e.2) ∧
      ∃ t ∈ added, t.generated = true ∧ engine.Reads t e.1 e.2 := by
  have hraw : e.1 ∈ ((ofHistory engine h).reading snapshot none).raw ↔
      ∀ r ∈ h.recorded, r.generated = true → ¬ engine.Reads r e.1 e.2 := by
    rw [raw_reading _ _ _ ht, mem_unrecognised_iff _ _ snapshot.keys_nodup he, candidates_eq,
      recognise_append, Option.or_eq_none_iff, recognise_trusted_eq_none_iff]
    exact and_iff_left rfl
  rw [hraw]
  refine and_congr_right fun hfirst => ?_
  have htrusted := recognise_trusted_eq_none_iff.mpr hfirst
  rw [exists_mem_triggers_iff _ _ _ he, candidates_eq, recognise_append, htrusted, Option.none_or,
    Ne, untrusted_detour hrecorded hlive hfirst]
  push Not
  rfl

end Detour

end Dumper

end SqlTriggers
