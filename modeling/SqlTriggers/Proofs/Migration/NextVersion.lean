import SqlTriggers.Migration.Clock
import SqlTriggers.Proofs.Migration.Ledger

/-! The version that is suggested for the next migration. It is newer than all recorded ones, as long as
there is a newer one. -/

namespace SqlTriggers

def ClockReading.number (c : ClockReading) : Nat :=
  c.year.natAbs * 10000000000 + c.month * 100000000 + c.day * 1000000 + c.hour * 10000 +
    c.minute * 100 + c.second

namespace ClockReading

variable (c : ClockReading)

lemma number_lt : c.number < UInt64.size := by
  obtain ⟨year, month, day, hour, minute, second, hyear, hmonth, hday, hhour, hminute, hsecond⟩ := c
  simp only [number, UInt64.size]
  omega

lemma toNat_stamp : c.stamp.toNat = c.number := by
  have h := c.number_lt
  simp only [stamp, UInt64.toNat_add, UInt64.toNat_mul, UInt64.toNat_ofNat', UInt64.reduceToNat]
  simp only [number, UInt64.size] at h ⊢
  -- No step of the computation leaves the words.
  omega

end ClockReading

def largestVersion : UInt64 := 18446744073709551615

lemma toNat_lt_largestVersion {v : UInt64} (h : v ≠ largestVersion) : v.toNat + 1 < UInt64.size := by
  have hv := v.toNat_lt_size
  have hne : v.toNat ≠ largestVersion.toNat := fun he => h (UInt64.toNat_inj.mp he)
  have hlargest : largestVersion.toNat + 1 = UInt64.size := rfl
  omega

namespace History

def IsFull (h : History) : Prop := h.lastVersion = some largestVersion

def nextNumber (h : History) (c : ClockReading) : Nat :=
  max c.number (h.lastVersion.elim 0 fun latest => latest.toNat + 1)

variable {h : History} {m : Migration} {latest : UInt64}

lemma stamp_le_or_lt (latest : UInt64) (c : ClockReading) :
    latest < c.stamp ∧ latest.toNat + 1 ≤ c.number ∨
      ¬ latest < c.stamp ∧ c.number ≤ latest.toNat := by
  rw [UInt64.lt_iff_toNat_lt, c.toNat_stamp]
  omega

lemma toNat_nextVersion (hf : ¬ h.IsFull) (c : ClockReading) :
    (h.nextVersion c).toNat = h.nextNumber c := by
  rw [nextVersion, versionAfter, nextNumber]
  cases hl : h.lastVersion with
  | none => simp [c.toNat_stamp]
  | some latest =>
    have hsize := toNat_lt_largestVersion fun he => hf (hl.trans (congrArg some he))
    have hnext : (latest + 1).toNat = latest.toNat + 1 := by
      rw [UInt64.toNat_add]
      exact Nat.mod_eq_of_lt hsize
    rcases stamp_le_or_lt latest c with ⟨hnew, hle⟩ | ⟨hold, hle⟩
    · simp only [hnew, if_true, c.toNat_stamp, Option.elim_some, Nat.max_eq_left hle]
    · simp only [hold, if_false, hnext, Option.elim_some, Nat.max_eq_right (Nat.le_succ_of_le hle)]

lemma lastVersion_lt_nextVersion (hf : ¬ h.IsFull) (hl : h.lastVersion = some latest)
    (c : ClockReading) : latest < h.nextVersion c := by
  rw [UInt64.lt_iff_toNat_lt, toNat_nextVersion hf, nextNumber, hl]
  exact Nat.le_max_right _ _

lemma Ordered.version_lt_nextVersion (ho : h.Ordered) (hf : ¬ h.IsFull) (hm : m ∈ h.migrations)
    (c : ClockReading) : m.version < h.nextVersion c := by
  obtain ⟨latest, hl, hle⟩ := ho.version_le_last hm
  exact UInt64.lt_of_le_of_lt hle (lastVersion_lt_nextVersion hf hl c)

lemma record_nextVersion (hf : ¬ h.IsFull) {c : ClockReading}
    (hv : m.version = h.nextVersion c) : h.record m = .ok (h.push m) := by
  refine record_eq_ok fun latest hl => ?_
  rw [hv]
  exact lastVersion_lt_nextVersion hf hl c

lemma IsFull.record_eq_error (hf : h.IsFull) (m : Migration) :
    h.record m = .error (.outOfOrderMigration m.version largestVersion) := by
  have hle : m.version ≤ largestVersion := by
    rw [UInt64.le_iff_toNat_le]
    exact Nat.le_of_lt_succ m.version.toNat_lt_size
  exact History.record_eq_error (requireNewer_eq_error hf hle)

lemma IsFull.size_le_nextNumber (hf : h.IsFull) (c : ClockReading) :
    UInt64.size ≤ h.nextNumber c := by
  rw [nextNumber, hf]
  exact Nat.le_max_right _ _

lemma IsFull.nextVersion_eq (hf : h.IsFull) (c : ClockReading) : h.nextVersion c = 0 := by
  have hold : ¬ largestVersion < c.stamp := by
    rw [UInt64.lt_iff_toNat_lt, Nat.not_lt]
    exact Nat.le_of_lt_succ c.stamp.toNat_lt_size
  rw [nextVersion, versionAfter, hf]
  simp only [hold, if_false]
  rfl

lemma ordered_of_origin (ho : h = .empty ∨ ∃ text, read text = .ok h) : h.Ordered := by
  rcases ho with rfl | ⟨text, hread⟩
  · exact ordered_empty
  · exact ordered_of_read hread

end History

namespace Ledger

variable {σ : Type} {l : Ledger σ} {start : History}

/-- The next version is what it is as a number, larger than all that are recorded, and taken up, in
every history but one that has come to the largest version. There no version is left. -/
theorem Reached.nextVersion_usable
    (hstart : start = .empty ∨ ∃ text, History.read text = .ok start) (hl : Reached start l)
    (c : ClockReading) :
    (¬ l.history.IsFull →
      (l.history.nextVersion c).toNat = l.history.nextNumber c ∧
      (∀ m ∈ l.history.migrations, m.version < l.history.nextVersion c) ∧
      ∀ m, m.version = l.history.nextVersion c →
        l.history.record m = .ok (l.history.push m)) ∧
    (l.history.IsFull →
      UInt64.size ≤ l.history.nextNumber c ∧
      ∀ m, l.history.record m = .error (.outOfOrderMigration m.version largestVersion)) := by
  have ho := hl.ordered (History.ordered_of_origin hstart)
  constructor
  · intro hf
    exact ⟨History.toNat_nextVersion hf c, fun m hm => ho.version_lt_nextVersion hf hm c,
      fun m hv => History.record_nextVersion hf hv⟩
  · exact fun hf => ⟨hf.size_le_nextNumber c, hf.record_eq_error⟩

section Instance

def newYear : ClockReading where
  year := 2026
  month := 1
  day := 1
  hour := 0
  minute := 0
  second := 0
  year_le := by decide
  month_le := by decide
  day_le := by decide
  hour_le := by decide
  minute_le := by decide
  second_le := by decide

def single (version : UInt64) : Ledger Unit :=
  (call refusesDrop ⟨.empty, (), []⟩ (.record (.ofStatements version "only" .lightweight [] []))).1

lemma single_reached (version : UInt64) : Reached .empty (single version) :=
  .call refusesDrop _ (.start ())

lemma single_not_isFull {version : UInt64} (h : version ≠ largestVersion) :
    ¬ (single version).history.IsFull := by
  have hlast : (single version).history.lastVersion = some version := rfl
  exact fun hf => h (Option.some.inj (hlast.symm.trans hf))

theorem nextVersion_usable_newYear :
    ¬ (single 20251231235959).history.IsFull ∧ ¬ (single 99999999999999).history.IsFull ∧
      ((single 20251231235959).history.nextVersion newYear).toNat = 20260101000000 ∧
      ((single 99999999999999).history.nextVersion newYear).toNat = 100000000000000 := by
  have hpast : ¬ (single 20251231235959).history.IsFull := single_not_isFull (by decide)
  have hahead : ¬ (single 99999999999999).history.IsFull := single_not_isFull (by decide)
  have hclock := ((single_reached 20251231235959).nextVersion_usable (.inl rfl) newYear).1 hpast
  have hbump := ((single_reached 99999999999999).nextVersion_usable (.inl rfl) newYear).1 hahead
  exact ⟨hpast, hahead, hclock.1.trans (by decide +kernel), hbump.1.trans (by decide +kernel)⟩

/-- The largest version is taken up, and what is suggested behind it is the smallest. -/
theorem nextVersion_wraps :
    Reached .empty (single largestVersion) ∧
    (single largestVersion).history.migrations.map Migration.version = [largestVersion] ∧
    ∀ c m, (single largestVersion).history.nextVersion c = 0 ∧
      (m.version = 0 → (single largestVersion).history.record m =
        .error (.outOfOrderMigration 0 largestVersion)) := by
  have hf : (single largestVersion).history.IsFull := rfl
  refine ⟨single_reached _, rfl, fun c m => ⟨hf.nextVersion_eq c, fun hv => ?_⟩⟩
  rw [hf.record_eq_error, hv]

end Instance

end Ledger

end SqlTriggers
