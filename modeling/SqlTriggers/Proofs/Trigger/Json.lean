import SqlTriggers.Proofs.Json.Reader
import SqlTriggers.Proofs.Json.Value
import SqlTriggers.Trigger.Json

/-! A trigger is read back from its JSON. -/

namespace SqlTriggers

lemma Timing.ofKey?_key (t : Timing) : Timing.ofKey? t.key = some t := by
  cases t <;> decide

lemma Event.ofKey?_key (e : Event) : Event.ofKey? e.key = some e := by
  cases e <;> decide

lemma Granularity.ofKey?_key (g : Granularity) : Granularity.ofKey? g.key = some g := by
  cases g <;> decide

lemma Security.ofJson?_toJson (s : Security) : Security.ofJson? s.toJson = some s := by
  cases s with
  | invoker => simp [toJson, ofJson?, ofWord?]
  | definer => simp [toJson, ofJson?, ofWord?]
  | principal account =>
    have hk : Json.unescape? "principal".toList = some "principal".toList := by decide
    have hmembers : (toJson (.principal account)).members? =
        some [("principal", .ofString account)] :=
      Json.members?_ofMembers (by simpa using hk)
    have hword : (toJson (.principal account)).word? = none := rfl
    simp [ofJson?, hword, hmembers]

namespace Trigger

lemma fieldNames_plain : ∀ k ∈ fieldNames, Json.escape k.toList = k.toList := by decide

lemma fieldNames_nodup : fieldNames.Nodup := by decide

lemma lookup_listField (k name : String) (xs : List String) :
    (listField name xs).lookup k =
      if k = name ∧ xs ≠ [] then some (.ofList .ofString xs) else none := by
  cases xs with
  | nil => simp [listField]
  | cons x xs =>
    by_cases h : k = name
    · simp [listField, h]
    · have hb : (k == name) = false := beq_eq_false_iff_ne.mpr h
      simp [listField, List.lookup_cons, hb, h]

lemma lookup_optional {α : Type} (k name : String) (f : α → Json) (o : Option α) :
    (o.toList.map fun x => (name, f x)).lookup k = if k = name then o.map f else none := by
  cases o with
  | none => simp
  | some x =>
    by_cases h : k = name
    · simp [h]
    · have hb : (k == name) = false := beq_eq_false_iff_ne.mpr h
      simp [List.lookup_cons, hb, h]

def members (t : Trigger) : List (String × Json) :=
  let whole : List (String × Json) := [("name", .ofString t.name), ("table", .ofString t.table),
    ("timing", .ofString t.timing.key),
    ("events", .ofList (fun e => .ofString e.key) t.events.toList)]
  let granularity : List (String × Json) := [("granularity", .ofString t.granularity.key)]
  let condition : List (String × Json) :=
    t.condition.toList.map fun c => ("condition", .ofString c)
  let security : List (String × Json) := t.security.toList.map fun s => ("security", s.toJson)
  let body : List (String × Json) := [("body", .ofList .ofString t.body),
    ("compatibility", .ofNat t.compatibility.toNat), ("generated", .bool t.generated)]
  whole ++ listField "columns" t.columns ++ granularity ++ condition ++ security ++
    listField "declarations" t.declarations ++ body

lemma toJson_eq (t : Trigger) : t.toJson = .ofMembers t.members := rfl

lemma listField_names (name : String) (xs : List String) :
    ((listField name xs).map (·.1)).Sublist [name] := by
  cases xs with
  | nil => simp [listField]
  | cons x xs => simp [listField]

lemma optional_names {α : Type} (name : String) (f : α → Json) (o : Option α) :
    ((o.toList.map fun x => (name, f x)).map (·.1)).Sublist [name] := by
  cases o with
  | none => simp
  | some x => simp

lemma members_names (t : Trigger) : (t.members.map (·.1)).Sublist fieldNames := by
  have hnames : fieldNames = ["name", "table", "timing", "events"] ++ ["columns"] ++
    ["granularity"] ++ ["condition"] ++ ["security"] ++ ["declarations"] ++
    ["body", "compatibility", "generated"] := rfl
  rw [hnames, members]
  simp only [List.map_append, List.map_cons, List.map_nil]
  refine .append (.append (.append (.append (.append (.append (.refl _) ?_) (.refl _)) ?_) ?_) ?_)
    (.refl _)
  · exact listField_names "columns" t.columns
  · exact optional_names "condition" _ t.condition
  · exact optional_names "security" _ t.security
  · exact listField_names "declarations" t.declarations

lemma fields?_toJson (t : Trigger) : t.toJson.fields? fieldNames false = some t.members := by
  rw [toJson_eq]
  exact Json.fields?_ofMembers false fieldNames_plain fieldNames_nodup t.members_names

lemma fieldOr?_texts {fs : List (String × Json)} {name : String} {xs : List String}
    (h : fs.lookup name = if xs = [] then none else some (.ofList .ofString xs)) :
    Json.fieldOr? fs name (Json.list? Json.text?) [] = some xs := by
  cases xs with
  | nil => simp [Json.fieldOr?, h]
  | cons x xs => simp [Json.fieldOr?, h]

lemma fieldOr?_nullable {α : Type} {fs : List (String × Json)} {name : String} {f : α → Json}
    {g : Json → Option α} (o : Option α) (hg : ∀ x, g (f x) = some x) (hf : ∀ x, f x ≠ .null)
    (h : fs.lookup name = o.map f) : Json.fieldOr? fs name (Json.nullable? g) none = some o := by
  cases o with
  | none => simp [Json.fieldOr?, h]
  | some x =>
    have hx : Json.nullable? g (f x) = some (some x) := by
      rw [Json.nullable?, hg]
      · rfl
      · exact hf x
    simp [Json.fieldOr?, h, hx]

lemma field?_members {α : Type} (t : Trigger) {name : String} {j : Json} (f : Json → Option α)
    (h : (name, j) ∈ t.members) : Json.field? t.members name f = f j :=
  Json.field?_of_mem (fieldNames_nodup.sublist t.members_names) f h

lemma fieldOr?_members {α : Type} (t : Trigger) {name : String} {j : Json} (f : Json → Option α)
    (a : α) (h : (name, j) ∈ t.members) : Json.fieldOr? t.members name f a = f j :=
  Json.fieldOr?_of_mem (fieldNames_nodup.sublist t.members_names) f a h

theorem ofJson?_toJson (t : Trigger) : ofJson? t.toJson = some t := by
  have hname : Json.field? t.members "name" Json.text? = some t.name :=
    (t.field?_members (j := .ofString t.name) _ (by simp [members])).trans
      (Json.text?_ofString t.name)
  have htable : Json.field? t.members "table" Json.text? = some t.table :=
    (t.field?_members (j := .ofString t.table) _ (by simp [members])).trans
      (Json.text?_ofString t.table)
  have htiming : Json.field? t.members "timing" (fun j => j.word?.bind Timing.ofKey?) =
      some t.timing :=
    (t.field?_members (j := .ofString t.timing.key) _ (by simp [members])).trans
      (by simp [Timing.ofKey?_key])
  have hevents : Json.field? t.members "events" (Json.list? fun j => j.word?.bind Event.ofKey?) =
      some t.events.toList :=
    (t.field?_members (j := .ofList (fun e => .ofString e.key) t.events.toList) _
      (by simp [members])).trans (Json.list?_ofList _ fun e _ => by simp [Event.ofKey?_key])
  have hcolumns : Json.fieldOr? t.members "columns" (Json.list? Json.text?) [] = some t.columns :=
    fieldOr?_texts
      (by simp [members, List.lookup_append, lookup_listField, lookup_optional, List.lookup_cons])
  have hgranularity : Json.fieldOr? t.members "granularity"
      (fun j => j.word?.bind Granularity.ofKey?) .row = some t.granularity :=
    (t.fieldOr?_members (j := .ofString t.granularity.key) _ _ (by simp [members])).trans
      (by simp [Granularity.ofKey?_key])
  have hcondition : Json.fieldOr? t.members "condition" (Json.nullable? Json.text?) none =
      some t.condition :=
    fieldOr?_nullable t.condition Json.text?_ofString (fun _ => Json.noConfusion)
      (by simp [members, List.lookup_append, lookup_listField, lookup_optional, List.lookup_cons])
  have hsecurity : Json.fieldOr? t.members "security" (Json.nullable? Security.ofJson?) none =
      some t.security :=
    fieldOr?_nullable t.security Security.ofJson?_toJson
      (fun s => by cases s <;> exact Json.noConfusion)
      (by simp [members, List.lookup_append, lookup_listField, lookup_optional, List.lookup_cons])
  have hdeclarations : Json.fieldOr? t.members "declarations" (Json.list? Json.text?) [] =
      some t.declarations :=
    fieldOr?_texts
      (by simp [members, List.lookup_append, lookup_listField, lookup_optional, List.lookup_cons])
  have hbody : Json.field? t.members "body" (Json.list? Json.text?) = some t.body :=
    (t.field?_members (j := .ofList .ofString t.body) _ (by simp [members])).trans
      (Json.list?_texts t.body)
  have hcompatibility : Json.field? t.members "compatibility" Json.uint32? =
      some t.compatibility :=
    (t.field?_members (j := .ofNat t.compatibility.toNat) _ (by simp [members])).trans
      (Json.uint32?_ofNat t.compatibility)
  have hgenerated : Json.field? t.members "generated" Json.bool? = some t.generated :=
    t.field?_members (j := .bool t.generated) _ (by simp [members])
  refine Option.bind_eq_some_iff.mpr ⟨_, t.fields?_toJson, ?_⟩
  refine Option.bind_eq_some_iff.mpr ⟨_, hname, ?_⟩
  refine Option.bind_eq_some_iff.mpr ⟨_, htable, ?_⟩
  refine Option.bind_eq_some_iff.mpr ⟨_, htiming, ?_⟩
  refine Option.bind_eq_some_iff.mpr ⟨_, hevents, ?_⟩
  refine Option.bind_eq_some_iff.mpr ⟨_, hcolumns, ?_⟩
  refine Option.bind_eq_some_iff.mpr ⟨_, hgranularity, ?_⟩
  refine Option.bind_eq_some_iff.mpr ⟨_, hcondition, ?_⟩
  refine Option.bind_eq_some_iff.mpr ⟨_, hsecurity, ?_⟩
  refine Option.bind_eq_some_iff.mpr ⟨_, hdeclarations, ?_⟩
  refine Option.bind_eq_some_iff.mpr ⟨_, hbody, ?_⟩
  refine Option.bind_eq_some_iff.mpr ⟨_, hcompatibility, ?_⟩
  refine Option.bind_eq_some_iff.mpr ⟨_, hgenerated, ?_⟩
  rw [EventSet.ofList_toList]
  rfl

lemma written_security (s : Security) : s.toJson.Written := by
  cases s with
  | invoker => exact .string _
  | definer => exact .string _
  | principal account =>
    have hkey : Json.escape "principal".toList = "principal".toList := by decide
    refine Json.written_ofMembers (fun m hm => ?_) fun m hm => ?_
    · obtain rfl := List.mem_singleton.mp hm
      exact hkey
    · obtain rfl := List.mem_singleton.mp hm
      exact .string account

lemma written_texts (xs : List String) : (Json.ofList Json.ofString xs).Written :=
  Json.written_ofList fun x _ => .string x

lemma written_listField (name : String) (xs : List String) :
    ∀ m ∈ listField name xs, m.2.Written := by
  intro m hm
  cases xs with
  | nil => exact absurd hm List.not_mem_nil
  | cons x xs =>
    obtain rfl := List.mem_singleton.mp hm
    exact written_texts (x :: xs)

lemma written_optional {α : Type} (name : String) {f : α → Json} (hf : ∀ x, (f x).Written)
    (o : Option α) : ∀ m ∈ o.toList.map fun x => (name, f x), m.2.Written := by
  intro m hm
  obtain ⟨x, -, rfl⟩ := List.mem_map.mp hm
  exact hf x

lemma written_members (t : Trigger) : ∀ m ∈ t.members, m.2.Written := by
  have hevents : (Json.ofList (fun e => .ofString e.key) t.events.toList).Written :=
    Json.written_ofList fun e _ => .string e.key
  intro m hm
  simp only [members, List.mem_append, List.mem_cons, List.not_mem_nil, or_false] at hm
  rcases hm with ((((((rfl | rfl | rfl | rfl) | hm) | rfl) | hm) | hm) | hm) | rfl | rfl | rfl
  · exact .string t.name
  · exact .string t.table
  · exact .string t.timing.key
  · exact hevents
  · exact written_listField "columns" t.columns m hm
  · exact .string t.granularity.key
  · exact written_optional "condition" .string t.condition m hm
  · exact written_optional "security" written_security t.security m hm
  · exact written_listField "declarations" t.declarations m hm
  · exact written_texts t.body
  · exact .number t.compatibility.toNat
  · exact .bool t.generated

lemma written_toJson (t : Trigger) : t.toJson.Written := by
  rw [toJson_eq]
  refine Json.written_ofMembers (fun m hm => ?_) t.written_members
  exact fieldNames_plain m.1 (t.members_names.subset (List.mem_map_of_mem hm))

theorem read?_compactText (t : Trigger) : read? t.toJson.compactText = some t := by
  rw [read?, Json.read?_compactText t.written_toJson, Option.bind_some, ofJson?_toJson]

end Trigger

end SqlTriggers
