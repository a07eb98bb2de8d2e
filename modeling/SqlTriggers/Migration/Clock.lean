import SqlTriggers.Migration.History

/-! The version that a history suggests for its next migration, by the clock. -/

namespace SqlTriggers

structure ClockReading where
  year : Int
  month : Nat
  day : Nat
  hour : Nat
  minute : Nat
  second : Nat
  year_le : year.natAbs ≤ 262144
  month_le : month ≤ 12
  day_le : day ≤ 31
  hour_le : hour ≤ 23
  minute_le : minute ≤ 59
  second_le : second ≤ 59

def ClockReading.stamp (c : ClockReading) : UInt64 :=
  .ofNat c.year.natAbs * 10000000000 + .ofNat c.month * 100000000 + .ofNat c.day * 1000000 +
    .ofNat c.hour * 10000 + .ofNat c.minute * 100 + .ofNat c.second

def History.nextVersion (h : History) (c : ClockReading) : UInt64 :=
  h.versionAfter c.stamp

end SqlTriggers
