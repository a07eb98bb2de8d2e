import SqlTriggers.Proofs.Identifier
import SqlTriggers.Trigger.DefaultName

/-! The name that a trigger gets where it was given none is an identifier. -/

namespace SqlTriggers

open Text

section Hash

variable {s : String} {c : Char}

lemma isIdentChar_hexDigit {n : Nat} (h : n < 16) : isIdentChar (hexDigit n) = true := by
  revert n
  decide

lemma exists_hexDigit_of_mem_hex {bytes : List UInt8} (h : c ∈ Sha256.hex bytes) :
    ∃ n < 16, c = hexDigit n := by
  obtain ⟨b, _, hc⟩ := List.mem_flatMap.mp h
  have hb := b.toNat_lt
  simp only [List.mem_cons, List.not_mem_nil, or_false] at hc
  rcases hc with rfl | rfl
  · exact ⟨_, by omega, rfl⟩
  · exact ⟨_, by omega, rfl⟩

lemma exists_hexDigit_of_mem_nameHash (h : c ∈ (nameHash s).toList) :
    ∃ n < 16, c = hexDigit n := by
  rw [nameHash, String.toList_ofList] at h
  exact exists_hexDigit_of_mem_hex (List.mem_of_mem_take h)

lemma isIdentChar_of_mem_nameHash (h : c ∈ (nameHash s).toList) : isIdentChar c = true := by
  obtain ⟨n, hn, rfl⟩ := exists_hexDigit_of_mem_nameHash h
  exact isIdentChar_hexDigit hn

lemma length_hex (bytes : List UInt8) : (Sha256.hex bytes).length = 2 * bytes.length := by
  induction bytes with
  | nil => rfl
  | cons b bytes ih =>
    have hcons : Sha256.hex (b :: bytes) =
        [hexDigit (b.toNat / 16), hexDigit (b.toNat % 16)] ++ Sha256.hex bytes := rfl
    rw [hcons, List.length_append, ih]
    simp only [List.length_cons, List.length_nil]
    omega

lemma length_nameHash (s : String) : (nameHash s).toList.length = hashDigits := by
  have hdigest : (Sha256.digest s.toUTF8.data.toList).length = 32 := rfl
  rw [nameHash, String.toList_ofList, List.length_take, Sha256.hexDigest, length_hex, hdigest]
  rfl

end Hash

section Stem

variable {table : String} (timing : Timing) (events : EventSet) (granularity : Granularity)
  (condition : Option String)

lemma isIdentChar_of_mem_eventKeys {c : Char}
    (h : c ∈ ("_or_".intercalate (events.toList.map Event.key)).toList) :
    isIdentChar c = true := by
  have hall : ∀ events : EventSet, ("_or_".intercalate (events.toList.map Event.key)).toList.all
      isIdentChar = true := by
    rintro ⟨_ | _, _ | _, _ | _, _ | _⟩ <;> decide
  exact List.all_eq_true.mp (hall events) c h

lemma isIdentChar_of_mem_nameStem (ht : IsTableName table.toList) {c : Char}
    (h : c ∈ (nameStem table timing events granularity condition).toList) :
    isIdentChar c = true := by
  have hslug : ∀ c ∈ (nameStem table timing events granularity none).toList,
      isIdentChar c = true := by
    intro c h
    have htk : timing.key.toList.all isIdentChar = true := by cases timing <;> decide
    have hgk : granularity.key.toList.all isIdentChar = true := by cases granularity <;> decide
    have hu : "_".toList.all isIdentChar = true := by decide
    simp only [nameStem, String.toList_append, List.mem_append] at h
    rcases h with (((((h | h) | h) | h) | h) | h) | h
    · rw [String.toList_ofList] at h
      obtain ⟨d, hd, rfl⟩ := List.mem_map.mp h
      split_ifs with hdot
      · decide
      · have hd := ht.chars d hd
        simpa [isTableChar, hdot] using hd
    · exact List.all_eq_true.mp hu c h
    · exact List.all_eq_true.mp htk c h
    · exact List.all_eq_true.mp hu c h
    · exact isIdentChar_of_mem_eventKeys events h
    · exact List.all_eq_true.mp hu c h
    · exact List.all_eq_true.mp hgk c h
  cases condition with
  | none => exact hslug c h
  | some s =>
    have hs : nameStem table timing events granularity (some s) =
        nameStem table timing events granularity none ++ "_" ++ nameHash s := rfl
    rw [hs, String.toList_append, String.toList_append] at h
    rcases List.mem_append.mp h with h | h
    · rcases List.mem_append.mp h with h | h
      · exact hslug c h
      · exact List.all_eq_true.mp (by decide) c h
    · exact isIdentChar_of_mem_nameHash h

lemma exists_nameStem_eq_cons (ht : IsTableName table.toList) :
    ∃ c rest, (nameStem table timing events granularity condition).toList = c :: rest ∧
      c.isDigit = false := by
  obtain ⟨c, rest, hc, hi, hd⟩ := ht.exists_cons
  have hdot : c ≠ '.' := ne_of_isIdentChar hi (by decide)
  cases condition <;> simp [nameStem, hc, hdot, hd]

lemma defaultName_isIdentifier (ht : IsTableName table.toList) :
    IsIdentifier (defaultName table timing events granularity condition).toList := by
  obtain ⟨c, rest, hc, hd⟩ := exists_nameStem_eq_cons timing events granularity condition ht
  have hs : ∀ d ∈ c :: rest, isIdentChar d = true := fun d hm =>
    isIdentChar_of_mem_nameStem timing events granularity condition ht (hc ▸ hm)
  have hsuffix : ∀ d ∈ "_tr".toList, isIdentChar d = true :=
    List.all_eq_true.mp (by decide)
  simp only [defaultName]
  split
  · rename_i hshort
    rw [← String.length_toList, hc] at hshort
    rw [String.toList_append, hc]
    refine ⟨by simp, ?_, by simpa using hd, ?_⟩
    · intro d hm
      rcases List.mem_append.mp hm with hm | hm
      · exact hs d hm
      · exact hsuffix d hm
    · rw [List.length_append]
      exact hshort
  · have hlen := length_nameHash (nameStem table timing events granularity condition)
    simp only [String.toList_append, String.toList_ofList, hc, identifierLimit, hashDigits]
    refine ⟨by simp, ?_, by simpa using hd, ?_⟩
    · intro d hm
      rcases List.mem_append.mp hm with hm | hm
      · rcases List.mem_append.mp hm with hm | hm
        · rcases List.mem_append.mp hm with hm | hm
          · exact hs d (List.mem_of_mem_take hm)
          · exact List.all_eq_true.mp (by decide) d hm
        · exact isIdentChar_of_mem_nameHash hm
      · exact hsuffix d hm
    · have htake : ((c :: rest).take (63 - 8 - 4)).length ≤ 51 := by
        rw [List.length_take]
        exact Nat.min_le_left _ _
      simp only [hashDigits] at hlen
      simp only [List.length_append, identifierLimit]
      have h1 : "_".toList.length = 1 := rfl
      have h3 : "_tr".toList.length = 3 := rfl
      omega

end Stem

end SqlTriggers
