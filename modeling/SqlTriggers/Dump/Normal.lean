import SqlTriggers.Text.Lines

/-! The forms in which statement texts are compared and kept. -/

namespace SqlTriggers

open Text

def normalForm (cs : List Char) : List Char :=
  trimEnd (dropEndWhile (· = ';') ([' '].intercalate (words cs)))

def normalizeStatement (s : String) : String :=
  String.ofList (normalForm s.toList)

def blockLines (cs : List Char) : List (List Char) :=
  ((lines cs).map trimEnd).filter fun l => !l.isEmpty

def rawText (s : String) : String :=
  String.ofList (stack (blockLines s.toList))

end SqlTriggers
