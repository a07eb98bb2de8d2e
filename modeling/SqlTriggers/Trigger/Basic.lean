import SqlTriggers.Trigger.Events

/-! One trigger as a value. What an engine is told about a trigger is a function of these fields. -/

namespace SqlTriggers

inductive Security where
  | invoker
  | definer
  | principal (account : String)
  deriving DecidableEq, Repr

def Security.ofText (s : String) : Security :=
  if folded s = "invoker" then .invoker
  else if folded s = "definer" then .definer
  else .principal (trimmed s)

structure Trigger where
  name : String
  table : String
  timing : Timing
  events : EventSet
  columns : List String
  granularity : Granularity
  condition : Option String
  security : Option Security
  declarations : List String
  body : List String
  compatibility : UInt32
  /-- Declared by a model, and so removed when the declaration disappears. -/
  generated : Bool
  deriving DecidableEq, Repr

def newestCompatibility : UInt32 := 1

/-- The rules before conditions were parenthesised and `EXECUTE FUNCTION` was written. -/
def oldestCompatibility : UInt32 := 0

structure TriggerKey where
  table : String
  name : String
  deriving DecidableEq, Repr

namespace TriggerKey

instance : Ord TriggerKey := ⟨compareLex (compareOn TriggerKey.table) (compareOn TriggerKey.name)⟩

instance : Std.TransOrd TriggerKey :=
  inferInstanceAs (Std.TransCmp (compareLex (compareOn table) (compareOn name)))

instance : Std.LawfulEqOrd TriggerKey where
  eq_of_compare {a b} h := by
    have h' : compareLex (compareOn TriggerKey.table) (compareOn TriggerKey.name) a b = .eq := h
    simp only [compareLex, compareOn, Ordering.then_eq_eq] at h'
    obtain ⟨ht, hn⟩ := h'
    cases a; cases b
    simp_all

end TriggerKey

structure Slot where
  table : String
  timing : Timing
  event : Event
  deriving DecidableEq, Repr

namespace Slot

instance : Ord Slot :=
  ⟨compareLex (compareOn Slot.table) (compareLex (compareOn Slot.timing) (compareOn Slot.event))⟩

def label (s : Slot) : String :=
  s.table ++ " " ++ s.timing.sql ++ " " ++ s.event.sql

end Slot

structure Identity where
  table : String
  name : String
  timing : Timing
  events : EventSet
  deriving DecidableEq, Repr

namespace Identity

instance : Ord Identity :=
  ⟨compareLex (compareOn Identity.table) (compareLex (compareOn Identity.name)
    (compareLex (compareOn Identity.timing) (compareOn fun i => i.events.toList)))⟩

end Identity

namespace Trigger

def key (t : Trigger) : TriggerKey := ⟨t.table, t.name⟩

def identity (t : Trigger) : Identity := ⟨t.table, t.name, t.timing, t.events⟩

def firesOn (t : Trigger) (e : Event) : Bool := t.events.contains e

def slots (t : Trigger) : List Slot :=
  t.events.toList.map fun e => ⟨t.table, t.timing, e⟩

def withCompatibility (t : Trigger) (c : UInt32) : Trigger :=
  { t with compatibility := c }

end Trigger

end SqlTriggers
