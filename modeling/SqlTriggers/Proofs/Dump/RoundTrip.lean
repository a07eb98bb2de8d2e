import SqlTriggers.Dump.Writer
import SqlTriggers.Proofs.Dump.Reader
import SqlTriggers.Proofs.OrderedMap
import SqlTriggers.Proofs.Result
import SqlTriggers.Proofs.Trigger.Checked

/-! A dump is read back as what was recognised in the snapshot, and dumping the same snapshot again
with it behind recognises the same. -/

namespace SqlTriggers.Dumper

open Text

variable (d : Dumper) (cs : List Trigger)

def recognised (es : List (String × String)) : List Trigger :=
  es.filterMap fun e => d.recognise cs e.1 e.2

def unrecognised (es : List (String × String)) : List String :=
  (es.filter fun e => (d.recognise cs e.1 e.2).isNone).map (·.1)

def entryLines (name ddl : String) : List (List Char) :=
  match d.recognise cs name ddl with
  | some t => [(declarationEntry t).toList]
  | none =>
    (rawPrefix ++ " " ++ name).toList ::
      if blockLines ddl.toList = [] then [[]] else blockLines ddl.toList

def headerLines (version : UInt64) : List (List Char) :=
  [dumpHeader.toList, (versionMark ++ " " ++ toString version).toList]

def bodyLines (es : List (String × String)) : List (List Char) :=
  es.flatMap fun e => [] :: d.entryLines cs e.1 e.2

lemma toList_entry (name ddl : String) :
    (d.entry cs name ddl).toList ++ ['\n'] = terminated (d.entryLines cs name ddl) := by
  cases hr : d.recognise cs name ddl with
  | some t => simp [entry, entryLines, hr]
  | none =>
    have hs : (rawText ddl).toList ++ ['\n'] =
        terminated (if blockLines ddl.toList = [] then [[]] else blockLines ddl.toList) := by
      split
      · rename_i h
        simp [rawText, h]
      · rename_i h
        rw [terminated_stack h, rawText, String.toList_ofList]
    simp only [entry, entryLines, hr, rawEntry, String.toList_append, List.append_assoc, hs]
    simp

lemma toList_header (version : UInt64) :
    (header version).toList = terminated (headerLines version) := by
  simp [header, headerLines]

lemma toList_render (snapshot : Snapshot) (previous : Option Dump) :
    (d.render snapshot previous).toList = terminated (headerLines (d.version previous) ++
      d.bodyLines (d.candidates previous) snapshot.entries) := by
  have hentry : ∀ e : String × String,
      ("\n" ++ d.entry (d.candidates previous) e.1 e.2 ++ "\n").toList =
        terminated ([] :: d.entryLines (d.candidates previous) e.1 e.2) := by
    intro e
    rw [terminated_cons, ← toList_entry]
    simp
  rw [render, String.toList_append, toList_header, terminated_append, bodyLines,
    terminated_flatMap, String.toList_join, List.flatMap_map]
  simp only [hentry]

lemma newline_notMem_header (version : UInt64) : ∀ l ∈ headerLines version, '\n' ∉ l := by
  have hdigits : '\n' ∉ (toString version).toList := by
    rw [toList_toString]
    exact newline_notMem_toDigits version.toNat
  intro l hl
  rcases List.mem_pair.mp hl with rfl | rfl
  · decide
  · simpa [versionMark] using hdigits

lemma newline_notMem_declaration (t : Trigger) : '\n' ∉ (declarationEntry t).toList := by
  have h := Json.newline_notMem_compact t.written_toJson
  simpa [declarationEntry, declarationPrefix, Json.compactText] using h

lemma newline_notMem_entry {name : String} (h : '\n' ∉ name.toList) (ddl : String) :
    ∀ l ∈ d.entryLines cs name ddl, '\n' ∉ l := by
  intro l hl
  cases hr : d.recognise cs name ddl with
  | some t =>
    simp only [entryLines, hr, List.mem_singleton] at hl
    rw [hl]
    exact newline_notMem_declaration t
  | none =>
    simp only [entryLines, hr, List.mem_cons] at hl
    rcases hl with rfl | hl
    · simpa [rawPrefix] using h
    · split at hl
      · obtain rfl := List.mem_singleton.mp hl
        exact List.not_mem_nil
      · exact (of_mem_blockLines hl).2.1

lemma newline_notMem_body {es : List (String × String)} (h : ∀ e ∈ es, '\n' ∉ e.1.toList) :
    ∀ l ∈ d.bodyLines cs es, '\n' ∉ l := by
  intro l hl
  obtain ⟨e, he, hl⟩ := List.mem_flatMap.mp hl
  rcases List.mem_cons.mp hl with rfl | hl
  · exact List.not_mem_nil
  · exact d.newline_notMem_entry cs (h e he) e.2 l hl

lemma readLines_entry (name ddl : String) (n : Nat) (p : Dump) (ls : List (List Char)) :
    ∃ m inBlock, Dump.readLines n false p (d.entryLines cs name ddl ++ ls) =
      Dump.readLines m inBlock
        (match d.recognise cs name ddl with
          | some t => { p with triggers := p.triggers ++ [t] }
          | none => { p with raw := p.raw ++ [trimmed name] }) ls := by
  cases hr : d.recognise cs name ddl with
  | some t =>
    refine ⟨n + 1, false, ?_⟩
    simp only [entryLines, hr, List.singleton_append, declarationEntry]
    exact Dump.readLines_declaration n p ls t
  | none =>
    simp only [entryLines, hr, List.cons_append, Dump.readLines_raw]
    split
    · exact ⟨n + 1 + 1, false, Dump.readLines_blank (n + 1) _ ls true⟩
    · refine ⟨_, true, Dump.readLines_block (n + 1) _ ls fun l hl => ?_⟩
      obtain ⟨hne, -, ht⟩ := of_mem_blockLines hl
      rwa [ht]

lemma readLines_body (es : List (String × String)) (n : Nat) (inBlock : Bool) (p : Dump) :
    Dump.readLines n inBlock p (d.bodyLines cs es) = .ok
      { p with
        triggers := p.triggers ++ d.recognised cs es
        raw := p.raw ++ (d.unrecognised cs es).map trimmed } := by
  induction es generalizing n inBlock p with
  | nil => simp [bodyLines, recognised, unrecognised, Dump.readLines]
  | cons e es ih =>
    obtain ⟨m, inBlock', hentry⟩ := d.readLines_entry cs e.1 e.2 (n + 1) p (d.bodyLines cs es)
    have hlines : d.bodyLines cs (e :: es) =
        [] :: (d.entryLines cs e.1 e.2 ++ d.bodyLines cs es) := by simp [bodyLines]
    rw [hlines, Dump.readLines_blank, hentry, ih]
    cases hr : d.recognise cs e.1 e.2 with
    | some t => simp [recognised, unrecognised, hr]
    | none => simp [recognised, unrecognised, hr]

lemma readLines_headerLines (version : UInt64) (ls : List (List Char)) :
    Dump.readLines 1 false .empty (headerLines version ++ ls) =
      Dump.readLines 3 false { Dump.empty with version := some version } ls :=
  Dump.readLines_version 2 .empty ls version

def reading (snapshot : Snapshot) (previous : Option Dump) : Dump where
  version := some (d.version previous)
  triggers := d.recognised (d.candidates previous) snapshot.entries
  raw := (d.unrecognised (d.candidates previous) snapshot.entries).map trimmed

theorem read_render (snapshot : Snapshot) (previous : Option Dump)
    (h : ∀ name ∈ snapshot.keys, '\n' ∉ name.toList) :
    Dump.read (d.render snapshot previous) = .ok (d.reading snapshot previous) := by
  have hentries : ∀ e ∈ snapshot.entries, '\n' ∉ e.1.toList :=
    fun e he => h e.1 (List.mem_map_of_mem he)
  have hlines := lines_terminated (List.forall_mem_append.mpr
    ⟨newline_notMem_header (d.version previous),
      d.newline_notMem_body (d.candidates previous) hentries⟩)
  rw [Dump.read, toList_render, ← Dump.readLines_trimEnd, hlines, Dump.readLines_trimEnd,
    readLines_headerLines, readLines_body]
  simp [reading, Dump.empty]

lemma raw_reading (snapshot : Snapshot) (previous : Option Dump)
    (ht : ∀ name ∈ snapshot.keys, trimmed name = name) :
    (d.reading snapshot previous).raw =
      d.unrecognised (d.candidates previous) snapshot.entries := by
  have hself : ∀ name ∈ d.unrecognised (d.candidates previous) snapshot.entries,
      trimmed name = name := by
    intro name hname
    obtain ⟨e, he, rfl⟩ := List.mem_map.mp hname
    exact ht e.1 (List.mem_map_of_mem (List.mem_of_mem_filter he))
  rw [reading, List.map_congr_left hself, List.map_id']

section Declaring

def declaring (version : UInt64) (ts : List Trigger) : String :=
  header version ++
    String.join ((sortOn Trigger.name ts).map fun t => "\n" ++ declarationEntry t ++ "\n")

variable (ts : List Trigger)

def declarationLines : List (List Char) :=
  ts.flatMap fun t => [[], (declarationEntry t).toList]

lemma toList_declaring (version : UInt64) : (declaring version ts).toList =
    terminated (headerLines version ++ declarationLines (sortOn Trigger.name ts)) := by
  have hentry : ∀ t : Trigger, ("\n" ++ declarationEntry t ++ "\n").toList =
      terminated [[], (declarationEntry t).toList] := by simp
  rw [declaring, String.toList_append, toList_header, terminated_append, declarationLines,
    terminated_flatMap, String.toList_join, List.flatMap_map]
  simp only [hentry]

lemma newline_notMem_declarationLines : ∀ l ∈ declarationLines ts, '\n' ∉ l := by
  intro l hl
  obtain ⟨t, -, hl⟩ := List.mem_flatMap.mp hl
  rcases List.mem_pair.mp hl with hl | hl
  · rw [hl]
    exact List.not_mem_nil
  · rw [hl]
    exact newline_notMem_declaration t

lemma readLines_declarationLines (n : Nat) (p : Dump) :
    Dump.readLines n false p (declarationLines ts) =
      .ok { p with triggers := p.triggers ++ ts } := by
  induction ts generalizing n p with
  | nil => simp [declarationLines, Dump.readLines]
  | cons t ts ih =>
    have hlines : declarationLines (t :: ts) =
        [] :: (declarationEntry t).toList :: declarationLines ts := rfl
    rw [hlines, Dump.readLines_blank, declarationEntry, Dump.readLines_declaration, ih]
    simp

theorem read_declaring (version : UInt64) : Dump.read (declaring version ts) =
    .ok ⟨some version, sortOn Trigger.name ts, []⟩ := by
  have hlines := lines_terminated (List.forall_mem_append.mpr
    ⟨newline_notMem_header version, newline_notMem_declarationLines (sortOn Trigger.name ts)⟩)
  rw [Dump.read, toList_declaring, ← Dump.readLines_trimEnd, hlines, Dump.readLines_trimEnd,
    readLines_headerLines, readLines_declarationLines]
  rfl

end Declaring

lemma recognise_eq_some {name ddl : String} {t : Trigger} (h : d.recognise cs name ddl = some t) :
    t ∈ cs ∧ t.name = name ∧
      normalizeStatement (d.engine.rendering t) = normalizeStatement ddl := by
  have hp := List.find?_some h
  simp only [Bool.and_eq_true, decide_eq_true_eq] at hp
  exact ⟨List.mem_of_find?_eq_some h, hp⟩

lemma recognise_append (ds : List Trigger) (name ddl : String) :
    d.recognise (cs ++ ds) name ddl =
      (d.recognise cs name ddl).or (d.recognise ds name ddl) :=
  List.find?_append

section Nodup

variable {es : List (String × String)} (hn : (es.map (·.1)).Nodup) {e : String × String}
  (he : e ∈ es)

include hn he

lemma mem_unrecognised_iff : e.1 ∈ d.unrecognised cs es ↔ d.recognise cs e.1 e.2 = none := by
  simp only [unrecognised, List.mem_map, List.mem_filter, Option.isNone_iff_eq_none]
  constructor
  · rintro ⟨e', ⟨he', hnone⟩, hname⟩
    rwa [List.inj_on_of_nodup_map hn he' he hname] at hnone
  · exact fun hnone => ⟨e, ⟨he, hnone⟩, rfl⟩

lemma mem_recognised_iff {t : Trigger} :
    t ∈ d.recognised cs es ∧ t.name = e.1 ↔ d.recognise cs e.1 e.2 = some t := by
  simp only [recognised, List.mem_filterMap]
  constructor
  · rintro ⟨⟨e', he', hr⟩, hname⟩
    rwa [List.inj_on_of_nodup_map hn he' he ((d.recognise_eq_some cs hr).2.1.symm.trans hname)] at hr
  · exact fun hr => ⟨⟨e, he, hr⟩, (d.recognise_eq_some cs hr).2.1⟩

end Nodup

lemma exists_mem_triggers_iff (snapshot : Snapshot) (previous : Option Dump)
    {e : String × String} (he : e ∈ snapshot.entries) :
    (∃ t ∈ (d.reading snapshot previous).triggers, t.name = e.1) ↔
      d.recognise (d.candidates previous) e.1 e.2 ≠ none := by
  rw [Option.ne_none_iff_exists']
  exact exists_congr fun t => d.mem_recognised_iff _ snapshot.keys_nodup he

lemma recognise_recognised (ds : List Trigger) {es : List (String × String)}
    (hn : (es.map (·.1)).Nodup) {e : String × String} (he : e ∈ es) :
    d.recognise (cs ++ d.recognised (cs ++ ds) es) e.1 e.2 = d.recognise (cs ++ ds) e.1 e.2 := by
  -- Names occur once, so what was recognised under this one is what this entry was found to be.
  have honly : ∀ t ∈ d.recognised (cs ++ ds) es, t.name = e.1 →
      d.recognise (cs ++ ds) e.1 e.2 = some t :=
    fun t ht hname => (d.mem_recognised_iff _ hn he).mp ⟨ht, hname⟩
  cases hfirst : d.recognise cs e.1 e.2 with
  | some t => rw [recognise_append, recognise_append, hfirst, Option.some_or, Option.some_or]
  | none =>
    rw [recognise_append, hfirst, Option.none_or]
    cases hr : d.recognise (cs ++ ds) e.1 e.2 with
    | none =>
      refine List.find?_eq_none.mpr fun t ht hp => ?_
      simp only [Bool.and_eq_true, decide_eq_true_eq] at hp
      exact absurd (hr.symm.trans (honly t ht hp.1)) (Option.some_ne_none t).symm
    | some t =>
      have ht : t ∈ d.recognised (cs ++ ds) es := List.mem_filterMap.mpr ⟨e, he, hr⟩
      cases hagain : d.recognise (d.recognised (cs ++ ds) es) e.1 e.2 with
      | none =>
        have h := List.find?_eq_none.mp hagain t ht
        simp [(d.recognise_eq_some _ hr).2] at h
      | some t' =>
        obtain ⟨ht', hname, -⟩ := d.recognise_eq_some _ hagain
        rw [← honly t' ht' hname, hr]

def trusted : List Trigger :=
  ((d.history.map History.recorded).getD [] ++ d.known).filter Trigger.generated

def untrusted (previous : Option Dump) : List Trigger :=
  ((previous.map Dump.triggers).getD []).filter Trigger.generated

lemma candidates_eq (previous : Option Dump) :
    d.candidates previous = d.trusted ++ untrusted previous :=
  List.filter_append _ _

lemma candidates_reading (snapshot : Snapshot) (previous : Option Dump) :
    d.candidates (some (d.reading snapshot previous)) =
      d.trusted ++ d.recognised (d.candidates previous) snapshot.entries := by
  have hgenerated : ∀ t ∈ d.recognised (d.candidates previous) snapshot.entries,
      t.generated = true := by
    intro t ht
    obtain ⟨e, -, hr⟩ := List.mem_filterMap.mp ht
    exact (List.mem_filter.mp (d.recognise_eq_some _ hr).1).2
  rw [candidates_eq]
  exact congrArg (d.trusted ++ ·) (List.filter_eq_self.mpr hgenerated)

lemma version_reading (snapshot : Snapshot) (previous : Option Dump) :
    d.version (some (d.reading snapshot previous)) = d.version previous := by
  cases hh : d.history with
  | some h => simp [version, hh]
  | none => simp [version, hh, reading]

lemma render_reading (snapshot : Snapshot) (previous : Option Dump) :
    d.render snapshot (some (d.reading snapshot previous)) = d.render snapshot previous := by
  have hentry : ∀ e ∈ snapshot.entries,
      "\n" ++ d.entry (d.candidates (some (d.reading snapshot previous))) e.1 e.2 ++ "\n" =
        "\n" ++ d.entry (d.candidates previous) e.1 e.2 ++ "\n" := by
    intro e he
    have hr := d.recognise_recognised d.trusted (untrusted previous) snapshot.keys_nodup he
    rw [← candidates_eq, ← candidates_reading] at hr
    rw [entry, hr, entry]
  rw [render, render, version_reading, List.map_congr_left hentry]

theorem dump_again (snapshot : Snapshot) (previous : Option String) (text : String)
    (hn : ∀ name ∈ snapshot.keys, '\n' ∉ name.toList)
    (h : d.dump snapshot previous = .ok text) : d.dump snapshot (some text) = .ok text := by
  have hagain : ∀ p, d.dump snapshot (some (d.render snapshot p)) = .ok (d.render snapshot p) := by
    intro p
    rw [dump, d.read_render snapshot p hn]
    exact congrArg Except.ok (d.render_reading snapshot p)
  cases previous with
  | none =>
    obtain rfl : d.render snapshot none = text := Except.ok.inj h
    exact hagain none
  | some old =>
    obtain ⟨p, -, rfl⟩ := map_eq_ok_iff.mp h
    exact hagain (some p)

section Instance

def auditedDumper : Dumper where
  engine := .functionBacked
  history := some ⟨[.ofOperations 1 "first" .functionBacked
    [.create (counter "bob_tr" "SELECT 1;" true)]]⟩
  known := [counter "eve_tr" "SELECT 1;" true]

def auditedTexts : List (String × String) :=
  ("audit", "-- version: x\n\nCREATE TRIGGER audit") :: ["bob_tr", "eve_tr"].map fun name =>
    (name, Engine.functionBacked.rendering (counter name "SELECT 1;" true))

def auditedSnapshot : Snapshot := .ofList auditedTexts

def auditedFront : String :=
  "-- trigger schema\n-- version: 1\n\n-- manual trigger: audit\n-- version: x\n" ++
    "CREATE TRIGGER audit\n"

def auditedDump : String :=
  auditedFront ++ String.join (["bob_tr", "eve_tr"].map fun name =>
    "\n" ++ declarationEntry (counter name "SELECT 1;" true) ++ "\n")

lemma render_audited {p : Dump} (hp : p.triggers = []) :
    auditedDumper.render auditedSnapshot (some p) = auditedDump := by
  have hentries : auditedSnapshot.entries = auditedTexts := rfl
  have hversion : auditedDumper.version (some p) = 1 := rfl
  have hcandidates : auditedDumper.candidates (some p) =
      ["bob_tr", "eve_tr"].map fun name => counter name "SELECT 1;" true := by
    rw [candidates, Option.map_some, hp]
    rfl
  have hfront : header 1 ++
      ("\n" ++ rawEntry "audit" "-- version: x\n\nCREATE TRIGGER audit" ++ "\n") = auditedFront := by
    decide +kernel
  rw [render, hcandidates, hentries, hversion, auditedDump, ← hfront]
  simp [auditedTexts, entry, recognise, auditedDumper, counter, String.append_assoc]

theorem dump_again_audited :
    (∀ name ∈ auditedSnapshot.keys, '\n' ∉ name.toList) ∧
      auditedDumper.dump auditedSnapshot (some "-- version: 7") = .ok auditedDump ∧
      auditedDumper.dump auditedSnapshot (some auditedDump) = .ok auditedDump := by
  have hn : ∀ name ∈ auditedSnapshot.keys, '\n' ∉ name.toList := by decide
  have hread : Dump.read "-- version: 7" = .ok ⟨some 7, [], []⟩ := by decide +kernel
  have hd : auditedDumper.dump auditedSnapshot (some "-- version: 7") = .ok auditedDump := by
    rw [dump, hread]
    exact congrArg Except.ok (render_audited rfl)
  exact ⟨hn, hd, dump_again _ auditedSnapshot (some "-- version: 7") _ hn hd⟩

end Instance

end SqlTriggers.Dumper
