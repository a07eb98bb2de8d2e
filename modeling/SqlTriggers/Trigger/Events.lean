import SqlTriggers.Text.Blank

/-! When a trigger fires: its timing, the row changes it reacts to, and its granularity. -/

namespace SqlTriggers

inductive Timing where
  | before
  | after
  deriving DecidableEq, Repr

inductive Event where
  | insert
  | update
  | delete
  | truncate
  deriving DecidableEq, Repr

inductive Granularity where
  | row
  | statement
  deriving DecidableEq, Repr

def folded (s : String) : String :=
  String.ofList ((Text.trim s.toList).map Char.toLower)

namespace Timing

def all : List Timing := [.before, .after]

def sql : Timing → String
  | .before => "BEFORE"
  | .after => "AFTER"

def key : Timing → String
  | .before => "before"
  | .after => "after"

def ofKey? (s : String) : Option Timing :=
  all.find? fun t => t.key = s

instance : Ord Timing := ⟨compareOn Timing.ctorIdx⟩

end Timing

namespace Event

def all : List Event := [.insert, .update, .delete, .truncate]

def sql : Event → String
  | .insert => "INSERT"
  | .update => "UPDATE"
  | .delete => "DELETE"
  | .truncate => "TRUNCATE"

def key : Event → String
  | .insert => "insert"
  | .update => "update"
  | .delete => "delete"
  | .truncate => "truncate"

def ofKey? (s : String) : Option Event :=
  all.find? fun e => e.key = s

instance : Ord Event := ⟨compareOn Event.ctorIdx⟩

end Event

namespace Granularity

def all : List Granularity := [.row, .statement]

def sql : Granularity → String
  | .row => "ROW"
  | .statement => "STATEMENT"

def key : Granularity → String
  | .row => "row"
  | .statement => "statement"

def ofKey? (s : String) : Option Granularity :=
  all.find? fun g => g.key = s

end Granularity

structure EventSet where
  onInsert : Bool
  onUpdate : Bool
  onDelete : Bool
  onTruncate : Bool
  deriving DecidableEq, Repr

namespace EventSet

def contains (s : EventSet) : Event → Bool
  | .insert => s.onInsert
  | .update => s.onUpdate
  | .delete => s.onDelete
  | .truncate => s.onTruncate

def ofList (es : List Event) : EventSet :=
  ⟨es.contains .insert, es.contains .update, es.contains .delete, es.contains .truncate⟩

def toList (s : EventSet) : List Event :=
  Event.all.filter s.contains

theorem ofList_toList (s : EventSet) : ofList s.toList = s := by
  obtain ⟨i, u, d, t⟩ := s
  revert i u d t
  decide

def size (s : EventSet) : Nat :=
  s.toList.length

def isEmpty (s : EventSet) : Bool :=
  s.toList.isEmpty

end EventSet

end SqlTriggers
