import SqlTriggers.Text.Lines

/-! The one form in which a body statement or a declaration is kept. -/

namespace SqlTriggers.Statement

open Text

def bare (cs : List Char) : List Char :=
  trimEnd (dropEndWhile (· = ';') (trim (stack ((lines cs).map trimEnd))))

/-- A statement with exactly one terminator; nothing if it holds only white space and semicolons. -/
def canonical? (s : String) : Option String :=
  match bare s.toList with
  | [] => none
  | cs => some (String.ofList (cs ++ [';']))

def canonicalList (statements : List String) : List String :=
  statements.filterMap canonical?

end SqlTriggers.Statement
