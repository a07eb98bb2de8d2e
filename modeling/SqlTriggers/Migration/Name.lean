import SqlTriggers.Migration.Diff
import SqlTriggers.Text.Blank

/-! The name that a migration is suggested, after what it does. -/

namespace SqlTriggers

def migrationNameLimit : Nat := 120

namespace Diff

def nameLists (d : Diff) : List (String × List String) :=
  let updated := d.replaced.map fun p => p.1.name
  let others (ts : List Trigger) := (ts.map Trigger.name).filter fun n => !updated.contains n
  [("update", updated), ("create", others d.added), ("drop", others d.removed)]

def nameClause (verb : String) (names : List String) : String :=
  verb ++ (if names.length = 1 then "_trigger_" else "_triggers_") ++ "_and_".intercalate names

def fullName (d : Diff) : String :=
  "_and_".intercalate
    ((d.nameLists.filter fun p => !p.2.isEmpty).map fun p => nameClause p.1 p.2)

def cutBytes? : Nat → List Char → Option (List Char)
  | _, [] => some []
  | n, c :: cs =>
    if n = 0 then some []
    else if c.utf8Size ≤ n then (cutBytes? (n - c.utf8Size) cs).map (c :: ·)
    else none

/-- The name cut to its limit, without underscores at its end. There is none if the limit falls
inside a character. -/
def migrationName (d : Diff) : Option String :=
  if d.nameLists.all fun p => p.2.isEmpty then some "noop"
  else (cutBytes? migrationNameLimit d.fullName.toList).map fun cs =>
    String.ofList (Text.dropEndWhile (· = '_') cs)

end Diff

end SqlTriggers
