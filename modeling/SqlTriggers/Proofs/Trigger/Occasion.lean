import SqlTriggers.Proofs.Text.Lines
import SqlTriggers.Proofs.Trigger.DefaultName

/-! A default name tells, within its table, the occasion that it was made for. What it tells of a
condition, or of a stem that was cut, is a hash, and so two occasions have one name only where two
texts have one hash. -/

namespace SqlTriggers

open Text

structure Occasion where
  timing : Timing
  events : EventSet
  granularity : Granularity
  condition : Option String
  deriving DecidableEq

namespace Occasion

def stem (table : String) (o : Occasion) : String :=
  nameStem table o.timing o.events o.granularity o.condition

def name (table : String) (o : Occasion) : String :=
  defaultName table o.timing o.events o.granularity o.condition

def isCut (table : String) (o : Occasion) : Bool :=
  identifierLimit < (o.stem table).utf8ByteSize + 3

def cutAt : String.Pos.Raw :=
  ⟨identifierLimit - hashDigits - 4⟩

def hashed (table : String) (o : Occasion) : List String :=
  o.condition.toList ++ if o.isCut table then [o.stem table] else []

section Phrase

variable {es fs : List Event} {g k : Granularity} {xs ys : List Char}

def eventWords (es : List Event) : List Char :=
  "_or_".toList.intercalate (es.map fun e => e.key.toList)

def phrase (o : Occasion) : List Char :=
  '_' :: o.timing.key.toList ++ '_' :: eventWords o.events.toList ++ '_' :: o.granularity.key.toList

def conditionHash (o : Occasion) : List Char :=
  match o.condition with
  | none => []
  | some c => '_' :: (nameHash c).toList

def tableWord (table : String) : List Char :=
  table.toList.map fun c => if c = '.' then '_' else c

lemma toList_stem (table : String) (o : Occasion) :
    (o.stem table).toList = tableWord table ++ (o.phrase ++ o.conditionHash) := by
  obtain ⟨timing, events, granularity, condition⟩ := o
  cases condition <;>
    simp [stem, nameStem, tableWord, phrase, eventWords, conditionHash, String.toList_intercalate,
      List.map_map, Function.comp_def]

lemma eventKey_unique {e f : Event} (h : e.key.toList ++ xs = f.key.toList ++ ys) :
    e = f ∧ xs = ys := by
  cases e <;> cases f <;> simp_all [Event.key]

lemma granularityKey_unique (h : g.key.toList ++ xs = k.key.toList ++ ys) : g = k ∧ xs = ys := by
  cases g <;> cases k <;> simp_all [Granularity.key]

lemma laterEvents_unique
    (h : es.flatMap (fun e => "_or_".toList ++ e.key.toList) ++ '_' :: (g.key.toList ++ xs) =
      fs.flatMap (fun e => "_or_".toList ++ e.key.toList) ++ '_' :: (k.key.toList ++ ys)) :
    es = fs ∧ g = k ∧ xs = ys := by
  induction es generalizing fs with
  | nil =>
    cases fs with
    | nil => exact ⟨rfl, granularityKey_unique (by simpa using h)⟩
    | cons f fs => cases g <;> simp [Granularity.key] at h
  | cons e es ih =>
    cases fs with
    | nil => cases k <;> simp [Granularity.key] at h
    | cons f fs =>
      simp only [List.flatMap_cons, List.append_assoc, List.append_cancel_left_eq] at h
      obtain ⟨rfl, hlater⟩ := eventKey_unique h
      obtain ⟨rfl, hrest⟩ := ih hlater
      exact ⟨rfl, hrest⟩

lemma eventWords_unique (h : eventWords es ++ '_' :: (g.key.toList ++ xs) =
    eventWords fs ++ '_' :: (k.key.toList ++ ys)) : es = fs ∧ g = k ∧ xs = ys := by
  rw [eventWords, eventWords] at h
  cases es with
  | nil =>
    cases fs with
    | nil => exact ⟨rfl, granularityKey_unique (by simpa using h)⟩
    | cons f fs =>
      rw [List.map_cons, intercalate_cons_eq_append] at h
      cases f <;> simp [Event.key] at h
  | cons e es =>
    rw [List.map_cons, intercalate_cons_eq_append] at h
    cases fs with
    | nil => cases e <;> simp [Event.key] at h
    | cons f fs =>
      simp only [List.map_cons, intercalate_cons_eq_append, List.flatMap_map,
        List.append_assoc] at h
      obtain ⟨rfl, hlater⟩ := eventKey_unique h
      obtain ⟨rfl, hrest⟩ := laterEvents_unique hlater
      exact ⟨rfl, hrest⟩

lemma phrase_unique {o p : Occasion} (h : o.phrase ++ xs = p.phrase ++ ys) :
    o.timing = p.timing ∧ o.events = p.events ∧ o.granularity = p.granularity ∧ xs = ys := by
  have htiming : o.timing = p.timing := by
    cases ho : o.timing <;> cases hp : p.timing <;> simp [phrase, ho, hp, Timing.key] at h ⊢
  simp only [phrase, htiming, List.cons_append, List.append_assoc, List.cons.injEq, true_and,
    List.append_cancel_left_eq] at h
  obtain ⟨hevents, hrest⟩ := eventWords_unique h
  refine ⟨htiming, ?_, hrest⟩
  rw [← EventSet.ofList_toList o.events, hevents, EventSet.ofList_toList]

end Phrase

section Name

variable {table : String} {o p : Occasion}

def front (table : String) (o : Occasion) : List Char :=
  if o.isCut table then
    (o.stem table).toList.take cutAt.byteIdx ++ '_' :: (nameHash (o.stem table)).toList
  else (o.stem table).toList

lemma underscore_notMem_nameHash (s : String) : '_' ∉ (nameHash s).toList := by
  have hdigit : ∀ n < 16, '_' ≠ hexDigit n := by decide
  intro h
  obtain ⟨n, hn, hu⟩ := exists_hexDigit_of_mem_nameHash h
  exact hdigit n hn hu

lemma length_conditionHash_le (o : Occasion) : o.conditionHash.length ≤ hashDigits + 1 := by
  unfold conditionHash
  split
  · exact Nat.zero_le _
  · rw [List.length_cons, length_nameHash]

lemma stem_tells (h : o.stem table = p.stem table) :
    o = p ∨ ∃ c ∈ o.condition, ∃ d ∈ p.condition, c ≠ d ∧ nameHash c = nameHash d := by
  have hstem := congrArg String.toList h
  rw [toList_stem, toList_stem, List.append_cancel_left_eq] at hstem
  obtain ⟨htiming, hevents, hgranularity, hhash⟩ := phrase_unique hstem
  have heq : o.condition = p.condition → o = p := by
    intro hc
    cases o
    cases p
    simp_all
  unfold conditionHash at hhash
  cases ho : o.condition with
  | none =>
    cases hp : p.condition with
    | none => exact .inl (heq (ho.trans hp.symm))
    | some d => simp [ho, hp] at hhash
  | some c =>
    cases hp : p.condition with
    | none => simp [ho, hp] at hhash
    | some d =>
      rw [ho, hp] at hhash
      have hcd : nameHash c = nameHash d := String.toList_inj.mp (List.cons.inj hhash).2
      by_cases hne : c = d
      · exact .inl (heq (by rw [ho, hp, hne]))
      · exact .inr ⟨c, rfl, d, rfl, hne, hcd⟩

section Table

variable (ht : IsTableName table.toList)

include ht

lemma isIdentChar_of_mem_stem : ∀ c ∈ (o.stem table).toList, isIdentChar c = true :=
  fun _ hc => isIdentChar_of_mem_nameStem o.timing o.events o.granularity o.condition ht hc

lemma utf8ByteSize_stem : (o.stem table).utf8ByteSize = (o.stem table).toList.length := by
  have h := utf8ByteSize_of_isIdentChar (isIdentChar_of_mem_stem (o := o) ht)
  rwa [String.ofList_toList] at h

lemma toList_name : (o.name table).toList = o.front table ++ "_tr".toList := by
  have hshort : (o.stem table).length + 3 ≤ identifierLimit ↔ o.isCut table = false := by
    rw [isCut, decide_eq_false_iff_not, Nat.not_lt, utf8ByteSize_stem ht, String.length_toList]
  have hname : o.name table =
      if (o.stem table).length + 3 ≤ identifierLimit then o.stem table ++ "_tr"
      else String.ofList ((o.stem table).toList.take cutAt.byteIdx) ++ "_" ++
        nameHash (o.stem table) ++ "_tr" := rfl
  rw [hname, front]
  cases hc : o.isCut table with
  | false => simp [hshort.mpr hc]
  | true =>
    have hlong : ¬ (o.stem table).length + 3 ≤ identifierLimit := by
      rw [hshort, hc]
      exact Bool.noConfusion
    simp [hlong]

lemma front_ne_of_isCut (ho : o.isCut table = true) (hp : p.isCut table = false) :
    o.front table ≠ p.front table := by
  intro h
  have hlong : identifierLimit < (o.stem table).toList.length + 3 := by
    rw [← utf8ByteSize_stem ht]
    exact of_decide_eq_true ho
  rw [front, front, if_pos ho, hp, if_neg Bool.noConfusion, toList_stem table p, conditionHash] at h
  split at h
  · have hends : p.phrase = ('_' :: p.timing.key.toList ++ '_' :: eventWords p.events.toList) ++
        '_' :: p.granularity.key.toList := rfl
    have hg : '_' ∉ p.granularity.key.toList := by cases p.granularity <;> decide
    -- The hash of a cut stem would have to be the word that says the granularity.
    rw [List.append_nil, hends, ← List.append_assoc] at h
    have hword := (cut_unique_last (underscore_notMem_nameHash _) hg h).2
    have hlen := length_nameHash (o.stem table)
    rw [hword] at hlen
    revert hlen
    cases p.granularity <;> decide
  · rename_i c _
    -- The hash is that of a condition, and less than its length would have been cut off the stem.
    rw [← List.append_assoc] at h
    have hc := underscore_notMem_nameHash c
    have hkept := (cut_unique_last (underscore_notMem_nameHash _) hc h).1
    have hwhole := List.take_append_drop cutAt.byteIdx (o.stem table).toList
    rw [hkept, toList_stem table o, List.append_assoc, List.append_cancel_left_eq] at hwhole
    have hcut := (phrase_unique hwhole).2.2.2
    rw [← toList_stem] at hcut
    have hlen := length_conditionHash_le o
    rw [← hcut, List.length_drop] at hlen
    simp only [identifierLimit, hashDigits, cutAt] at hlong hlen
    omega

lemma isCut_eq_of_name_eq (h : o.name table = p.name table) : o.isCut table = p.isCut table := by
  have hfront : o.front table = p.front table := by
    have hname := congrArg String.toList h
    rwa [toList_name ht, toList_name ht, List.append_cancel_right_eq] at hname
  cases ho : o.isCut table <;> cases hp : p.isCut table
  · rfl
  · exact absurd hfront.symm (front_ne_of_isCut ht hp ho)
  · exact absurd hfront (front_ne_of_isCut ht ho hp)
  · rfl

lemma stem_or_hash_eq_of_name_eq (h : o.name table = p.name table) :
    o.stem table = p.stem table ∨ o.isCut table = true ∧ p.isCut table = true ∧
      nameHash (o.stem table) = nameHash (p.stem table) := by
  have hcut := isCut_eq_of_name_eq ht h
  have hfront := congrArg String.toList h
  rw [toList_name ht, toList_name ht, List.append_cancel_right_eq, front, front, ← hcut] at hfront
  cases ho : o.isCut table with
  | false =>
    rw [ho] at hfront
    exact .inl (String.toList_inj.mp (by simpa using hfront))
  | true =>
    rw [ho, if_pos rfl, if_pos rfl] at hfront
    have hp := underscore_notMem_nameHash (p.stem table)
    have hhash := (cut_unique_last (underscore_notMem_nameHash _) hp hfront).2
    exact .inr ⟨rfl, hcut ▸ ho, String.toList_inj.mp hhash⟩

lemma isValid_cutAt (h : o.isCut table = true) : cutAt.IsValid (o.stem table) := by
  have hlong : identifierLimit < (o.stem table).toList.length + 3 := by
    rw [← utf8ByteSize_stem ht]
    exact of_decide_eq_true h
  have hchars : ∀ c ∈ (o.stem table).toList.take cutAt.byteIdx, isIdentChar c = true :=
    fun c hc => isIdentChar_of_mem_stem ht c (List.mem_of_mem_take hc)
  refine String.Pos.Raw.isValid_iff_exists_take_toList.mpr ⟨cutAt.byteIdx, ?_⟩
  rw [utf8ByteSize_of_isIdentChar hchars, List.length_take]
  simp only [identifierLimit, hashDigits, cutAt] at hlong ⊢
  omega

end Table

end Name

theorem name_legal_and_tells {table : String} (ht : checkTableName table = .ok ()) :
    (∀ o : Occasion, (∀ parameter, checkIdentifier parameter (o.name table) = .ok ()) ∧
        (o.name table).utf8ByteSize ≤ identifierLimit ∧
        (o.isCut table = true → cutAt.IsValid (o.stem table)) ∧
        ∀ s ∈ o.hashed table, (nameHash s).utf8ByteSize = hashDigits) ∧
      ∀ o p : Occasion, o.name table = p.name table →
        o = p ∨ ∃ s ∈ o.hashed table, ∃ u ∈ p.hashed table, s ≠ u ∧ nameHash s = nameHash u := by
  have htable := (checkTableName_eq_ok_iff table).mp ht
  constructor
  · intro o
    have hname : IsIdentifier (o.name table).toList :=
      defaultName_isIdentifier o.timing o.events o.granularity o.condition htable
    refine ⟨fun parameter => (checkIdentifier_eq_ok_iff parameter _).mpr hname, ?_,
      isValid_cutAt htable, fun s _ => ?_⟩
    · have hbytes := utf8ByteSize_of_isIdentChar hname.chars
      rw [String.ofList_toList] at hbytes
      exact hbytes ▸ hname.short
    · have hbytes := utf8ByteSize_of_isIdentChar fun c (hc : c ∈ (nameHash s).toList) =>
        isIdentChar_of_mem_nameHash hc
      rw [String.ofList_toList] at hbytes
      rw [hbytes, length_nameHash]
  · intro o p h
    have hcondition : ∀ q : Occasion, ∀ c ∈ q.condition, c ∈ q.hashed table :=
      fun q c hc => List.mem_append_left _ (Option.mem_toList.mpr hc)
    have hstem : ∀ q : Occasion, q.isCut table = true → q.stem table ∈ q.hashed table :=
      fun q hq => List.mem_append_right _ (by simp [hq])
    by_cases hs : o.stem table = p.stem table
    · rcases stem_tells hs with heq | ⟨c, hc, d, hd, hne, hhash⟩
      · exact .inl heq
      · exact .inr ⟨c, hcondition o c hc, d, hcondition p d hd, hne, hhash⟩
    · obtain ⟨ho, hp, hhash⟩ := (stem_or_hash_eq_of_name_eq htable h).resolve_left hs
      exact .inr ⟨_, hstem o ho, _, hstem p hp, hs, hhash⟩

theorem name_legal_and_tells_users :
    let o : Occasion := ⟨.after, ⟨true, true, false, false⟩, .row, some "NEW.id = 125532"⟩
    let p : Occasion := { o with condition := some "NEW.id = 151810" }
    checkTableName "users" = .ok () ∧ o.name "users" = p.name "users" ∧
      checkIdentifier "trigger name" (o.name "users") = .ok () ∧
      ∃ s ∈ o.hashed "users", ∃ u ∈ p.hashed "users", s ≠ u ∧ nameHash s = nameHash u := by
  intro o p
  have ht : checkTableName "users" = .ok () := by decide
  have hname : o.name "users" = p.name "users" := by decide +kernel
  obtain ⟨hlegal, htells⟩ := name_legal_and_tells ht
  exact ⟨ht, hname, (hlegal o).1 _, (htells o p hname).resolve_left (by decide)⟩

end Occasion

end SqlTriggers
