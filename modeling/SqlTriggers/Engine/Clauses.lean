import SqlTriggers.Text.Lines
import SqlTriggers.Trigger.Basic

/-! The clauses that the engines' statements are made of. -/

namespace SqlTriggers

namespace Trigger

def eventText (t : Trigger) : Event → String
  | .update => if t.columns.isEmpty then "UPDATE" else "UPDATE OF " ++ ", ".intercalate t.columns
  | e => e.sql

def eventList (t : Trigger) : String :=
  " OR ".intercalate (t.events.toList.map t.eventText)

def headline (t : Trigger) : String :=
  t.name ++ " " ++ t.timing.sql ++ " " ++ t.eventList ++ " ON " ++ t.table

def forEach (t : Trigger) : String :=
  "FOR EACH " ++ t.granularity.sql

def guardText (t : Trigger) (condition : String) : String :=
  if t.compatibility = oldestCompatibility then condition else "(" ++ condition ++ ")"

def returnLines (t : Trigger) : List String :=
  if t.timing ≠ .before || t.granularity ≠ .row then ["RETURN NULL;"]
  else if !t.firesOn .delete then ["RETURN NEW;"]
  else if t.events.size = 1 then ["RETURN OLD;"]
  else ["IF TG_OP = 'DELETE' THEN", "    RETURN OLD;", "END IF;", "RETURN NEW;"]

end Trigger

end SqlTriggers
