import Mathlib.Data.List.Perm.Basic
import SqlTriggers.Proofs.Dump.Provenance
import SqlTriggers.Proofs.Migration.Replay

/-! What is read back from a dump of a snapshot. Each name of the snapshot is there once, as the most
trusted generated trigger that reads like its text, or else as a name alone. -/

namespace SqlTriggers

namespace Engine

variable (engine : Engine)

def Explains (t : Trigger) (name ddl : String) : Prop :=
  t.generated = true ∧ engine.Reads t name ddl

def FirstExplains (ts : List Trigger) (t : Trigger) (name ddl : String) : Prop :=
  ∃ front back, ts = front ++ t :: back ∧ engine.Explains t name ddl ∧
    ∀ u ∈ front, ¬ engine.Explains u name ddl

/-- The last of the triggers that the migrations created, the dropped ones among them. -/
def NewestExplains (h : History) (t : Trigger) (name ddl : String) : Prop :=
  ∃ before after, h.migrations.flatMap Migration.operations = before ++ .create t :: after ∧
    engine.Explains t name ddl ∧ ∀ u, .create u ∈ after → ¬ engine.Explains u name ddl

variable {engine} {t : Trigger} {name ddl : String}

lemma not_explains_of_name_ne (h : t.name ≠ name) : ¬ engine.Explains t name ddl :=
  fun he => h he.2.1

lemma firstExplains_recorded_iff {h : History} :
    engine.FirstExplains h.recorded t name ddl ↔ engine.NewestExplains h t name ddl := by
  constructor
  · rintro ⟨front, back, hrecorded, ht, hfront⟩
    obtain ⟨before, after, hops, rfl, rfl⟩ := History.created_eq_append_cons_iff.mp hrecorded
    exact ⟨before, after, hops, ht, fun u hu => hfront u (History.mem_created_iff.mpr hu)⟩
  · rintro ⟨before, after, hops, ht, hafter⟩
    refine ⟨_, _, History.created_eq_append_cons_iff.mpr ⟨before, after, hops, rfl, rfl⟩, ht, ?_⟩
    exact fun u hu => hafter u (History.mem_created_iff.mp hu)

end Engine

namespace Dumper

variable (d : Dumper) {cs : List Trigger} {es : List (String × String)} {name ddl : String}
  {t : Trigger}

def Unrecorded (name ddl : String) : Prop :=
  ∀ h, d.history = some h → ∀ m ∈ h.migrations, ∀ t, .create t ∈ m.operations →
    ¬ d.engine.Explains t name ddl

def Unknown (name ddl : String) : Prop := ∀ t ∈ d.known, ¬ d.engine.Explains t name ddl

def Unmentioned (previous : Option Dump) (name ddl : String) : Prop :=
  ∀ p, previous = some p → ∀ t ∈ p.triggers, ¬ d.engine.Explains t name ddl

/-- The history is asked first, its newest trigger before the others, then the known triggers, and
last the dump before. -/
inductive Finds (previous : Option Dump) (name ddl : String) (t : Trigger) : Prop
  | recorded {h : History} : d.history = some h → d.engine.NewestExplains h t name ddl →
      Finds previous name ddl t
  | known : d.Unrecorded name ddl → d.engine.FirstExplains d.known t name ddl →
      Finds previous name ddl t
  | mentioned {p : Dump} : d.Unrecorded name ddl → d.Unknown name ddl → previous = some p →
      d.engine.FirstExplains p.triggers t name ddl → Finds previous name ddl t

section Finds

lemma recognise_generated_eq_some_iff {ts : List Trigger} :
    d.recognise (ts.filter Trigger.generated) name ddl = some t ↔
      d.engine.FirstExplains ts t name ddl := by
  simp only [recognise, List.find?_filter, List.find?_eq_some_iff_append, Engine.FirstExplains,
    Engine.Explains, Engine.Reads, Bool.and_eq_true, decide_eq_true_eq, Bool.not_eq_true',
    decide_eq_false_iff_not]
  constructor
  · rintro ⟨ht, front, back, hts, hfront⟩
    exact ⟨front, back, hts, ht, hfront⟩
  · rintro ⟨front, back, hts, ht, hfront⟩
    exact ⟨ht, front, back, hts, hfront⟩

lemma recognise_generated_eq_none_iff {ts : List Trigger} :
    d.recognise (ts.filter Trigger.generated) name ddl = none ↔
      ∀ t ∈ ts, ¬ d.engine.Explains t name ddl := by
  simp only [recognise_eq_none_iff, List.mem_filter, and_imp, Engine.Explains, not_and]

lemma candidates_eq_append (previous : Option Dump) : d.candidates previous =
    (((d.history.map History.recorded).getD []).filter Trigger.generated ++
      d.known.filter Trigger.generated) ++
        ((previous.map Dump.triggers).getD []).filter Trigger.generated := by
  rw [candidates, List.filter_append, List.filter_append]

lemma recognise_history_eq_some_iff :
    d.recognise (((d.history.map History.recorded).getD []).filter Trigger.generated) name ddl =
      some t ↔ ∃ h, d.history = some h ∧ d.engine.NewestExplains h t name ddl := by
  cases hh : d.history with
  | none => simp [recognise]
  | some h =>
    simp only [Option.map_some, Option.getD_some, recognise_generated_eq_some_iff,
      Engine.firstExplains_recorded_iff, Option.some.injEq, exists_eq_left']

lemma recognise_history_eq_none_iff :
    d.recognise (((d.history.map History.recorded).getD []).filter Trigger.generated) name ddl =
      none ↔ d.Unrecorded name ddl := by
  rw [Unrecorded]
  cases hh : d.history with
  | none => simp [recognise]
  | some h =>
    simp only [Option.map_some, Option.getD_some, recognise_generated_eq_none_iff,
      History.mem_recorded_iff, History.operations, List.mem_flatMap, Option.some.injEq,
      forall_eq', forall_exists_index, and_imp]
    exact ⟨fun h m hm t ht => h t m hm ht, fun h t m hm ht => h m hm t ht⟩

lemma recognise_previous_eq_none_iff {previous : Option Dump} :
    d.recognise (((previous.map Dump.triggers).getD []).filter Trigger.generated) name ddl =
      none ↔ d.Unmentioned previous name ddl := by
  rw [recognise_generated_eq_none_iff, Unmentioned]
  cases previous with
  | none => simp
  | some p => simp

lemma finds_iff {previous : Option Dump} : d.recognise (d.candidates previous) name ddl = some t ↔
    d.Finds previous name ddl t := by
  simp only [candidates_eq_append, recognise_append, Option.or_eq_some_iff, Option.or_eq_none_iff,
    recognise_history_eq_some_iff, recognise_history_eq_none_iff]
  constructor
  · rintro ((⟨h, hh, hnewest⟩ | ⟨hh, hfirst⟩) | ⟨⟨hh, hknown⟩, hlast⟩)
    · exact .recorded hh hnewest
    · exact .known hh (d.recognise_generated_eq_some_iff.mp hfirst)
    · cases previous with
      | none => exact nomatch hlast
      | some p =>
        exact .mentioned hh (d.recognise_generated_eq_none_iff.mp hknown) rfl
          (d.recognise_generated_eq_some_iff.mp hlast)
  · rintro (⟨hh, hnewest⟩ | ⟨hh, hfirst⟩ | ⟨hh, hknown, rfl, hlast⟩)
    · exact .inl (.inl ⟨_, hh, hnewest⟩)
    · exact .inl (.inr ⟨hh, d.recognise_generated_eq_some_iff.mpr hfirst⟩)
    · exact .inr ⟨⟨hh, d.recognise_generated_eq_none_iff.mpr hknown⟩,
        d.recognise_generated_eq_some_iff.mpr hlast⟩

lemma finds_none_iff {previous : Option Dump} :
    d.recognise (d.candidates previous) name ddl = none ↔
      d.Unrecorded name ddl ∧ d.Unknown name ddl ∧ d.Unmentioned previous name ddl := by
  rw [candidates_eq_append, recognise_append, recognise_append, Option.or_eq_none_iff,
    Option.or_eq_none_iff, recognise_history_eq_none_iff, recognise_generated_eq_none_iff,
    recognise_previous_eq_none_iff, and_assoc]
  rfl

end Finds

lemma map_name_recognised : (d.recognised cs es).map Trigger.name =
    (es.filter fun e => (d.recognise cs e.1 e.2).isSome).map (·.1) := by
  induction es with
  | nil => rfl
  | cons e es ih =>
    cases hr : d.recognise cs e.1 e.2 with
    | none => simpa [recognised, hr] using ih
    | some t =>
      have hname := (d.recognise_eq_some cs hr).2.1
      simpa [recognised, hr, hname] using ih

lemma names_perm : ((d.recognised cs es).map Trigger.name ++ d.unrecognised cs es).Perm
    (es.map (·.1)) := by
  rw [map_name_recognised, unrecognised, ← List.map_append]
  have hfilter : (fun e => (d.recognise cs e.1 e.2).isNone) =
      fun e : String × String => !(d.recognise cs e.1 e.2).isSome := by simp
  rw [hfilter]
  exact (List.filter_append_perm _ es).map _

/-- What `p` tells about the snapshot, where `previous` is the dump before. -/
structure Tells (snapshot : Snapshot) (previous : Option Dump) (p : Dump) : Prop where
  versionOfHistory : ∀ h, d.history = some h → p.version = some (h.lastVersion.getD 0)
  versionOfPrevious : d.history = none → p.version = some ((previous.bind Dump.version).getD 0)
  names : (p.triggers.map Trigger.name ++ p.raw).Perm snapshot.keys
  triggersSorted : p.triggers.Pairwise fun t u => compare t.name u.name = .lt
  rawSorted : p.raw.Pairwise fun m n => compare m n = .lt
  triggers : ∀ t, t ∈ p.triggers ↔
    ∃ name ddl, (name, ddl) ∈ snapshot.entries ∧ d.Finds previous name ddl t
  raw : ∀ name, name ∈ p.raw ↔ ∃ ddl, (name, ddl) ∈ snapshot.entries ∧
    d.Unrecorded name ddl ∧ d.Unknown name ddl ∧ d.Unmentioned previous name ddl

section Reading

variable (snapshot : Snapshot) (previous : Option Dump)

lemma recognised_sorted : (d.recognised cs snapshot.entries).Pairwise
    fun t u => compare t.name u.name = .lt := by
  have hnames : ((d.recognised cs snapshot.entries).map Trigger.name).Pairwise
      fun m n => compare m n = .lt := by
    rw [map_name_recognised, List.pairwise_map]
    exact snapshot.sorted.filter _
  exact List.pairwise_map.mp hnames

lemma unrecognised_sorted : (d.unrecognised cs snapshot.entries).Pairwise
    fun m n => compare m n = .lt := by
  rw [unrecognised, List.pairwise_map]
  exact snapshot.sorted.filter _

lemma tells_reading (ht : ∀ name ∈ snapshot.keys, trimmed name = name) :
    d.Tells snapshot previous (d.reading snapshot previous) where
  versionOfHistory h hh := by simp [reading, version, hh]
  versionOfPrevious hh := by simp [reading, version, hh]
  names := by
    rw [d.raw_reading snapshot previous ht]
    exact d.names_perm
  triggersSorted := d.recognised_sorted snapshot
  rawSorted := by
    rw [d.raw_reading snapshot previous ht]
    exact d.unrecognised_sorted snapshot
  triggers t := by
    simp only [reading, recognised, List.mem_filterMap, Prod.exists, finds_iff]
  raw name := by
    rw [d.raw_reading snapshot previous ht]
    simp only [unrecognised, List.mem_map, List.mem_filter, Option.isNone_iff_eq_none,
      finds_none_iff, Prod.exists, exists_and_right, exists_eq_right]

end Reading

lemma dump_eq {previous : Option String} {parsed : Option Dump} (snapshot : Snapshot)
    (hp : previous.mapM Dump.read = .ok parsed) :
    d.dump snapshot previous = .ok (d.render snapshot parsed) := by
  cases previous with
  | none =>
    obtain rfl := Except.ok.inj hp
    rfl
  | some text =>
    have hmap : (Dump.read text).map some = .ok parsed := hp
    obtain ⟨p, hread, rfl⟩ := map_eq_ok_iff.mp hmap
    rw [dump, hread]
    rfl

theorem dump_tells {snapshot : Snapshot} {previous : Option String} {parsed : Option Dump}
    (hn : ∀ name ∈ snapshot.keys, '\n' ∉ name.toList ∧ trimmed name = name)
    (hp : previous.mapM Dump.read = .ok parsed) :
    ∃ text p, d.dump snapshot previous = .ok text ∧ Dump.read text = .ok p ∧
      d.Tells snapshot parsed p :=
  ⟨_, _, d.dump_eq snapshot hp, d.read_render snapshot parsed fun name hm => (hn name hm).1,
    d.tells_reading snapshot parsed fun name hm => (hn name hm).2⟩

section Instance

def bobTwice : History :=
  ⟨[.ofOperations 1 "first" .lightweight [.create (counter "bob_tr" "SELECT 1;" true)],
    .ofOperations 2 "second" .lightweight [.drop (counter "bob_tr" "SELECT 1;" true),
      .create (counter "bob_tr" "SELECT  1;" true)]]⟩

def bobKnown : Dumper where
  engine := .lightweight
  history := some bobTwice
  known := [counter "bob_tr" "SELECT 1;" true, counter "eve_tr" "SELECT  1;" true,
    counter "eve_tr" "SELECT 2;" true, counter "zoe_tr" "SELECT 1;" false]

def bobMentioned : Dump :=
  ⟨some 7, [counter "eve_tr" "SELECT 1;" true, counter "zoe_tr" "SELECT 1;" true], []⟩

def bobTexts : List (String × String) :=
  ("audit", "-- version: 9\n\nCREATE TRIGGER audit") ::
    ["bob_tr", "eve_tr", "zoe_tr"].map fun name =>
      (name, Engine.lightweight.rendering (counter name "SELECT 1;" true))

def bobAudited : Snapshot := .ofList bobTexts

lemma bobAudited_entries : bobAudited.entries = bobTexts := rfl

lemma bobTwice_unrecorded {name ddl : String} (h : name ≠ "bob_tr") :
    bobKnown.Unrecorded name ddl := by
  rintro _ ⟨⟩ m hm t ht ⟨-, hname, -⟩
  have hbob : ∀ m ∈ bobTwice.migrations, ∀ op ∈ m.operations, op.trigger.name = "bob_tr" := by
    decide
  exact h (hname.symm.trans (hbob m hm _ ht))

/-- The newer of the recorded triggers, a known one where nothing is recorded, and one of the dump
before where the known one is not generated, are written as declarations. -/
theorem dump_tells_bob :
    (∀ name ∈ bobAudited.keys, '\n' ∉ name.toList ∧ trimmed name = name) ∧
      (some (declaring 7 bobMentioned.triggers)).mapM Dump.read = .ok (some bobMentioned) ∧
      ∃ text p, bobKnown.dump bobAudited (some (declaring 7 bobMentioned.triggers)) = .ok text ∧
        Dump.read text = .ok p ∧ bobKnown.Tells bobAudited (some bobMentioned) p ∧
        p.version = some 2 ∧ counter "bob_tr" "SELECT  1;" true ∈ p.triggers ∧
        counter "eve_tr" "SELECT  1;" true ∈ p.triggers ∧
        counter "zoe_tr" "SELECT 1;" true ∈ p.triggers ∧ "audit" ∈ p.raw := by
  have hn : ∀ name ∈ bobAudited.keys, '\n' ∉ name.toList ∧ trimmed name = name := by
    decide +kernel
  have hp : (some (declaring 7 bobMentioned.triggers)).mapM Dump.read =
      .ok (some bobMentioned) := by
    rw [Option.mapM_some, read_declaring]
    rfl
  obtain ⟨text, p, hdump, hread, htells⟩ := dump_tells bobKnown hn hp
  have hlive : ∀ name ∈ ["bob_tr", "eve_tr", "zoe_tr"],
      (name, Engine.lightweight.rendering (counter name "SELECT 1;" true)) ∈ bobAudited.entries := by
    intro name hname
    rw [bobAudited_entries]
    exact List.mem_cons_of_mem _ (List.mem_map.mpr ⟨name, hname, rfl⟩)
  refine ⟨hn, hp, text, p, hdump, hread, htells, htells.versionOfHistory _ rfl, ?_, ?_, ?_, ?_⟩
  · refine (htells.triggers _).mpr ⟨_, _, hlive "bob_tr" (by simp), .recorded rfl ?_⟩
    exact ⟨[_, _], [], rfl, ⟨rfl, counter_reads _ true⟩, by simp⟩
  · refine (htells.triggers _).mpr ⟨_, _, hlive "eve_tr" (by simp), .known ?_ ?_⟩
    · exact bobTwice_unrecorded (by decide)
    · refine ⟨[_], _, rfl, ⟨rfl, counter_reads _ true⟩, ?_⟩
      simpa using Engine.not_explains_of_name_ne (by decide)
  · have hknown : ∀ t ∈ bobKnown.known, t.name ≠ "zoe_tr" ∨ t.generated = false := by decide
    refine (htells.triggers _).mpr ⟨_, _, hlive "zoe_tr" (by simp), .mentioned ?_ ?_ rfl ?_⟩
    · exact bobTwice_unrecorded (by decide)
    · intro t ht he
      rcases hknown t ht with hname | hgenerated
      · exact Engine.not_explains_of_name_ne hname he
      · simp [he.1] at hgenerated
    · refine ⟨[_], _, rfl, ⟨rfl, rfl, rfl⟩, ?_⟩
      simpa using Engine.not_explains_of_name_ne (by decide)
  · have hknown : ∀ t ∈ bobKnown.known, t.name ≠ "audit" := by decide
    have hmentioned : ∀ t ∈ bobMentioned.triggers, t.name ≠ "audit" := by decide
    have haudit : ("audit", "-- version: 9\n\nCREATE TRIGGER audit") ∈ bobAudited.entries := by
      rw [bobAudited_entries]
      exact List.mem_cons_self
    refine (htells.raw _).mpr ⟨_, haudit, bobTwice_unrecorded (by decide), ?_, ?_⟩
    · exact fun t ht => Engine.not_explains_of_name_ne (hknown t ht)
    · rintro _ ⟨⟩ t ht
      exact Engine.not_explains_of_name_ne (hmentioned t ht)

end Instance

end Dumper

end SqlTriggers
