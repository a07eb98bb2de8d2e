import SqlTriggers.Text.Blank

/-! Texts as lines and as words. -/

namespace SqlTriggers.Text

/-- Lines end at a line feed, which takes one carriage return before it along.
A text that ends in a line feed has no further empty line. -/
def lines : List Char → List (List Char)
  | [] => []
  | '\n' :: cs => [] :: lines cs
  | '\r' :: '\n' :: cs => [] :: lines cs
  | c :: cs =>
    match lines cs with
    | [] => [[c]]
    | l :: ls => (c :: l) :: ls

def words : List Char → List (List Char)
  | [] => []
  | c :: cs =>
    if isBlank c then words cs
    else match cs with
      | [] => [[c]]
      | d :: _ =>
        if isBlank d then [c] :: words cs
        else match words cs with
          | [] => [[c]]
          | w :: ws => (c :: w) :: ws

def stack (ls : List (List Char)) : List Char :=
  ['\n'].intercalate ls

def occurs (needle : List Char) : List Char → Bool
  | [] => needle.isEmpty
  | c :: cs => needle.isPrefixOf (c :: cs) || occurs needle cs

end SqlTriggers.Text

namespace SqlTriggers

def linesOf (s : String) : List String :=
  (Text.lines s.toList).map String.ofList

def stacked (ls : List String) : String :=
  "\n".intercalate ls

def indent (s : String) : String :=
  stacked ((linesOf s).map fun l => if l.isEmpty then "" else "    " ++ l)

end SqlTriggers
