import SqlTriggers.Identifier
import SqlTriggers.Sha256

/-! The name of a trigger that was given none of its own. -/

namespace SqlTriggers

def hashDigits : Nat := 8

def nameHash (s : String) : String :=
  String.ofList ((Sha256.hexDigest s).take hashDigits)

def nameStem (table : String) (timing : Timing) (events : EventSet) (granularity : Granularity)
    (condition : Option String) : String :=
  let slug := String.ofList (table.toList.map fun c => if c = '.' then '_' else c) ++ "_" ++
    timing.key ++ "_" ++ "_or_".intercalate (events.toList.map Event.key) ++ "_" ++ granularity.key
  match condition with
  | none => slug
  | some c => slug ++ "_" ++ nameHash c

/-- The stem and a suffix. A name that would be too long keeps the front of the stem, and a hash of
the whole stem tells it from others. -/
def defaultName (table : String) (timing : Timing) (events : EventSet) (granularity : Granularity)
    (condition : Option String) : String :=
  let stem := nameStem table timing events granularity condition
  if stem.length + 3 ≤ identifierLimit then stem ++ "_tr"
  else
    let kept := stem.toList.take (identifierLimit - hashDigits - 4)
    String.ofList kept ++ "_" ++ nameHash stem ++ "_tr"

end SqlTriggers
