import SqlTriggers.Declaration.Group

/-! Declarations: one trigger, or a group of them. -/

namespace SqlTriggers

inductive Declaration where
  | trigger (t : Trigger)
  | group (g : Group)

namespace Declaration

def name : Declaration → String
  | trigger t => t.name
  | group g => g.displayName

def table : Declaration → String
  | trigger t => t.table
  | group g => g.table

def generated : Declaration → Bool
  | trigger t => t.generated
  | group g => g.generated

end Declaration

end SqlTriggers
