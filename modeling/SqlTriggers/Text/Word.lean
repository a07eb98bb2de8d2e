import SqlTriggers.Text.Blank
import SqlTriggers.Text.WordTable

/-! Words of SQL text: word characters and keywords in any letter case. -/

namespace SqlTriggers.Text

def isIdentStart (c : Char) : Bool :=
  c.isAlpha || c = '_'

def isIdentChar (c : Char) : Bool :=
  c.isAlphanum || c = '_'

def isWordChar (c : Char) : Bool :=
  if c.toNat < 128 then isIdentChar c
  else wordRanges.any fun (lo, hi) => lo ≤ c.toNat && c.toNat ≤ hi

/-- Letters that fold to the same letter. Beyond ASCII the long s folds to `S` and the Kelvin
sign to `K`. -/
def sameLetter (k c : Char) : Bool :=
  c.toLower = k.toLower || (k.toLower = 's' && c = 'ſ') || (k.toLower = 'k' && c = '\u212a')

def afterKeyword : List Char → List Char → Option (List Char)
  | [], cs => some cs
  | _ :: _, [] => none
  | k :: ks, c :: cs => if sameLetter k c then afterKeyword ks cs else none

def afterGap : List Char → Option (List Char)
  | [] => none
  | c :: cs => if isBlank c then some (trimStart cs) else none

def afterChar (k : Char) : List Char → Option (List Char)
  | [] => none
  | c :: cs => if c = k then some cs else none

def takeRun (p : Char → Bool) (cs : List Char) : Option (List Char × List Char) :=
  match cs.takeWhile p with
  | [] => none
  | run => some (run, cs.dropWhile p)

end SqlTriggers.Text
