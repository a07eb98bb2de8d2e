import SqlTriggers.Proofs.Migration.Ledger
import SqlTriggers.Proofs.Trigger.Json

/-! Operations, migrations and histories are read back from their JSON. -/

namespace SqlTriggers

lemma Engine.ofKey?_key (e : Engine) : Engine.ofKey? e.key = some e := by
  cases e <;> decide

namespace Operation

lemma ofKey?_key (op : Operation) : ofKey? op.key op.trigger = some op := by
  cases op with
  | create t => rfl
  | drop t => rfl

def members (op : Operation) : List (String × Json) :=
  [("op", .ofString op.key), ("trigger", op.trigger.toJson)]

lemma names_plain : ∀ k ∈ ["op", "trigger"], Json.escape k.toList = k.toList := by decide

lemma ofJson?_toJson (op : Operation) : ofJson? op.toJson = some op := by
  have hfields : op.toJson.fields? ["op", "trigger"] false = some op.members :=
    Json.fields?_ofMembers false names_plain (by decide) (.refl _)
  have hkey : Json.field? op.members "op" Json.word? = some op.key := Json.word?_ofString op.key
  have hcontent : op.members.lookup "trigger" = some op.trigger.toJson := rfl
  have hfirst : (op.members.head?.map (·.1)) ≠ some "trigger" := by simp [members]
  simp [ofJson?, hfields, hkey, hcontent, hfirst, Trigger.ofJson?_toJson, ofKey?_key]

lemma written_toJson (op : Operation) : op.toJson.Written := by
  refine Json.written_ofMembers (fun m hm => ?_) fun m hm => ?_
  · exact names_plain m.1 (List.mem_map_of_mem hm)
  · rcases List.mem_pair.mp hm with rfl | rfl
    · exact .string op.key
    · exact op.trigger.written_toJson

end Operation

namespace Migration

def fieldNames : List String := ["version", "name", "engine", "operations", "up", "down"]

lemma fieldNames_plain : ∀ k ∈ fieldNames, Json.escape k.toList = k.toList := by decide

def members (m : Migration) : List (String × Json) :=
  [("version", .ofNat m.version.toNat), ("name", .ofString m.name),
    ("engine", .ofString m.engine.key), ("operations", .ofList Operation.toJson m.operations),
    ("up", .ofList .ofString m.up), ("down", .ofList .ofString m.down)]

lemma toJson_eq (m : Migration) : m.toJson = .ofMembers m.members := rfl

lemma members_nodup (m : Migration) : (m.members.map (·.1)).Nodup := by
  have hn : fieldNames.Nodup := by decide
  exact hn

lemma fields?_toJson (m : Migration) : m.toJson.fields? fieldNames false = some m.members :=
  Json.fields?_ofMembers false fieldNames_plain m.members_nodup (.refl _)

lemma field?_members {α : Type} (m : Migration) {name : String} {j : Json} (f : Json → Option α)
    (h : (name, j) ∈ m.members) : Json.field? m.members name f = f j :=
  Json.field?_of_mem m.members_nodup f h

lemma ofJson?_toJson (m : Migration) : ofJson? m.toJson = some m := by
  have hversion : Json.field? m.members "version" Json.uint64? = some m.version :=
    (m.field?_members _ (by simp [members])).trans (Json.uint64?_ofNat m.version)
  have hname : Json.field? m.members "name" Json.text? = some m.name :=
    (m.field?_members _ (by simp [members])).trans (Json.text?_ofString m.name)
  have hengine : Json.field? m.members "engine" (fun j => j.word?.bind Engine.ofKey?) =
      some m.engine :=
    (m.field?_members (j := .ofString m.engine.key) _ (by simp [members])).trans
      (by simp [Engine.ofKey?_key])
  have hoperations : Json.fieldOr? m.members "operations" (Json.list? Operation.ofJson?) [] =
      some m.operations :=
    (Json.fieldOr?_of_mem m.members_nodup (j := .ofList Operation.toJson m.operations) _ _
      (by simp [members])).trans (Json.list?_ofList _ fun op _ => op.ofJson?_toJson)
  have hup : Json.field? m.members "up" (Json.list? Json.text?) = some m.up :=
    (m.field?_members _ (by simp [members])).trans (Json.list?_texts m.up)
  have hdown : Json.field? m.members "down" (Json.list? Json.text?) = some m.down :=
    (m.field?_members _ (by simp [members])).trans (Json.list?_texts m.down)
  refine Option.bind_eq_some_iff.mpr ⟨_, m.fields?_toJson, ?_⟩
  refine Option.bind_eq_some_iff.mpr ⟨_, hversion, ?_⟩
  refine Option.bind_eq_some_iff.mpr ⟨_, hname, ?_⟩
  refine Option.bind_eq_some_iff.mpr ⟨_, hengine, ?_⟩
  refine Option.bind_eq_some_iff.mpr ⟨_, hoperations, ?_⟩
  refine Option.bind_eq_some_iff.mpr ⟨_, hup, ?_⟩
  refine Option.bind_eq_some_iff.mpr ⟨_, hdown, ?_⟩
  rfl

lemma written_members (m : Migration) : ∀ p ∈ m.members, p.2.Written := by
  intro p hp
  simp only [members, List.mem_cons, List.not_mem_nil, or_false] at hp
  rcases hp with rfl | rfl | rfl | rfl | rfl | rfl
  · exact .number m.version.toNat
  · exact .string m.name
  · exact .string m.engine.key
  · exact Json.written_ofList fun op _ => op.written_toJson
  · exact Trigger.written_texts m.up
  · exact Trigger.written_texts m.down

lemma written_toJson (m : Migration) : m.toJson.Written := by
  rw [toJson_eq]
  refine Json.written_ofMembers (fun p hp => ?_) m.written_members
  exact fieldNames_plain p.1 (List.mem_map_of_mem hp)

end Migration

namespace History

variable {h : History}

lemma migrations_plain : ∀ k ∈ ["migrations"], Json.escape k.toList = k.toList := by decide

lemma ofJson?_toJson (h : History) : ofJson? h.toJson = some h.migrations := by
  have hfields : h.toJson.fields? ["migrations"] false =
      some [("migrations", .ofList Migration.toJson h.migrations)] :=
    Json.fields?_ofMembers false migrations_plain (List.nodup_singleton _) (.refl _)
  have hlist : (Json.ofList Migration.toJson h.migrations).list? Migration.ofJson? =
      some h.migrations :=
    Json.list?_ofList _ fun m _ => m.ofJson?_toJson
  exact Option.bind_eq_some_iff.mpr ⟨_, hfields, hlist⟩

lemma written_toJson (h : History) : h.toJson.Written := by
  refine Json.written_ofMembers (fun p hp => ?_) fun p hp => ?_
  · exact migrations_plain p.1 (List.mem_map_of_mem hp)
  · rw [List.mem_singleton.mp hp]
    exact Json.written_ofList fun m _ => m.written_toJson

theorem read_write_eq (h : History) : read h.write = ofMigrations h.migrations := by
  have hread : (Json.read? h.write).bind ofJson? = some h.migrations := by
    rw [write, Json.read?_prettyText h.written_toJson, Option.bind_some, ofJson?_toJson]
  simp only [read, hread]

theorem read_write_iff : read h.write = .ok h ↔ h.Ordered := by
  rw [read_write_eq, ofMigrations_eq_ok_iff]
  exact and_iff_left rfl

end History

namespace Ledger

variable {σ : Type} {l : Ledger σ}

theorem Reached.read_write (hl : Reached .empty l) :
    History.read l.history.write = .ok l.history ∧
      (History.read l.history.write).map History.write = .ok l.history.write := by
  have hread : History.read l.history.write = .ok l.history :=
    History.read_write_iff.mpr (hl.ordered History.ordered_empty)
  rw [hread]
  exact ⟨rfl, rfl⟩

section Instance

def scribbled : Migration :=
  .ofStatements 18446744073709551615 "say \"hi\"\\n" .inline ["SELECT '\x01\t😀'"] ["\n\r\x7f"]

def bobRenamed : Trigger :=
  { bobCounter "SELECT '\x0b\u2028😀';" 0 true with
    timing := .before
    events := ⟨false, true, false, false⟩
    columns := ["name", "group_id"]
    condition := some "NEW.name <> '\\\"'"
    security := some (.principal "app@localhost")
    declarations := ["total integer;"] }

def renamed : Migration :=
  .ofOperations 7 "rename" .inline [.drop (bobCounter "SELECT 1;" 1 false), .create bobRenamed]

def afterScribbled : Ledger Unit :=
  [Call.record renamed, Call.record scribbled].foldl (fun l c => (call refusesDrop l c).1)
    (call refusesDrop ⟨.empty, (), []⟩ (.apply opening)).1

theorem read_write_afterScribbled :
    afterScribbled.history.migrations = [opening, renamed, scribbled] ∧
    History.read afterScribbled.history.write = .ok afterScribbled.history ∧
      (History.read afterScribbled.history.write).map History.write =
        .ok afterScribbled.history.write := by
  have hreached : Reached .empty afterScribbled :=
    .call refusesDrop (.record scribbled) (.call refusesDrop (.record renamed)
      (.call refusesDrop (.apply opening) (.start ())))
  exact ⟨by rfl, hreached.read_write⟩

end Instance

end Ledger

end SqlTriggers
